/-
Overriding. A draft has a value for each setting, and overriding it puts
others in their place: the last one that is given for a setting counts, and
one under an identifier of no setting does not. Settings are updated by
checking the draft they come to, so an update is decided by all values
together, the old ones that stay among them. Either they are valid and all
of them are taken, or none is.

* `Draft.get_override`: the values of a draft that has been overridden.
* `Settings.update_eq_ok_iff`, `Settings.update_eq_error_iff`: when an update
  succeeds, and what it is refused for.
* `Settings.update_whole`: an update is taken as a whole or not at all.
-/
import CronSchedule.Proofs.SessionRun
import CronSchedule.Proofs.ValidSettings

namespace CronSchedule

/-! ## The values that are given -/

namespace Setting

theorem ofKey?_eq_some_iff {key : Text} {setting : Setting} : ofKey? key = some setting ↔ setting.key = key := by
  refine ⟨fun h => ?_, fun h => ?_⟩
  · simpa using List.find?_some h
  · subst h
    cases setting <;> decide

theorem ofKey?_eq_none {key : Text} (h : ∀ setting : Setting, setting.key ≠ key) : ofKey? key = none :=
  Option.eq_none_iff_forall_ne_some.mpr fun setting hs => h setting (ofKey?_eq_some_iff.mp hs)

end Setting

namespace Overrides

variable {overrides : Overrides} {setting : Setting}

/-- The value given for a setting, the last one under its identifier. -/
def value? (overrides : Overrides) (setting : Setting) : Option Value := overrides.reverse.lookup setting.key

theorem lookup_filterMap_known (entries : Overrides) (setting : Setting) :
    (known entries).lookup setting = entries.lookup setting.key := by
  induction entries with
  | nil => rfl
  | cons entry rest ih =>
    obtain ⟨key, v⟩ := entry
    rw [List.lookup_cons]
    cases hkey : Setting.ofKey? key with
    | none =>
      have hne : (setting.key == key) = false := by
        rw [beq_eq_false_iff_ne]
        intro he
        rw [Setting.ofKey?_eq_some_iff.mpr he] at hkey
        cases hkey
      have hknown : known ((key, v) :: rest) = known rest := by simp [known, hkey]
      rw [hne, hknown, ih]
    | some other =>
      have hknown : known ((key, v) :: rest) = (other, v) :: known rest := by simp [known, hkey]
      obtain rfl := Setting.ofKey?_eq_some_iff.mp hkey
      rw [hknown, List.lookup_cons, ih]
      cases setting <;> cases other <;> rfl

theorem lookup_known : (known overrides).reverse.lookup setting = value? overrides setting := by
  rw [value?, ← lookup_filterMap_known, known, known, List.filterMap_reverse]

theorem mem_of_value? {v : Value} (h : value? overrides setting = some v) : (setting.key, v) ∈ overrides := by
  obtain ⟨before, after, hsplit, _⟩ := List.lookup_eq_some_iff.mp h
  exact List.mem_reverse.mp (by simp [hsplit])

/-- Every value that is given can be shown. -/
def Showable (overrides : Overrides) : Prop := ∀ entry ∈ overrides, entry.2.showable = true

end Overrides

/-! ## Drafts -/

namespace Draft

variable {d old : Draft} {overrides : Overrides}

theorem get_set (d : Draft) (s t : Setting) (v : Value) : (d.set s v).get t = if t = s then v else d.get t := by
  cases s <;> cases t <;> rfl

theorem ext_get {d d' : Draft} (h : ∀ setting, d.get setting = d'.get setting) : d = d' := by
  obtain ⟨n, m, k, level⟩ := d
  obtain ⟨n', m', k', level'⟩ := d'
  rw [Draft.mk.injEq]
  exact ⟨h .defaultRunCount, h .maxRunCount, h .scanLimit, h .logLevel⟩

/-- **The values of a draft that has been overridden**: the last one given for a setting, or else its old one. -/
theorem get_override (d : Draft) (values : List (Setting × Value)) (setting : Setting) :
    (d.override values).get setting = (values.reverse.lookup setting).getD (d.get setting) := by
  induction values generalizing d with
  | nil => rfl
  | cons entry rest ih =>
    obtain ⟨s, v⟩ := entry
    show ((d.set s v).override rest).get setting = _
    rw [ih, List.reverse_cons, List.lookup_append, get_set]
    cases rest.reverse.lookup setting with
    | some w => rfl
    | none => by_cases h : setting = s <;> simp [List.lookup_cons, beq_eq_false_iff_ne.mpr, h]

/-- The draft has the values that are given, and the old ones of the settings for which none is. -/
def Replaces (d old : Draft) (overrides : Overrides) : Prop :=
  ∀ setting, d.get setting = (Overrides.value? overrides setting).getD (old.get setting)

theorem replaces_iff : d.Replaces old overrides ↔ d = old.override (Overrides.known overrides) := by
  have hget : ∀ setting, (old.override (Overrides.known overrides)).get setting =
      (Overrides.value? overrides setting).getD (old.get setting) := fun setting => by
    rw [get_override, Overrides.lookup_known]
  refine ⟨fun h => ext_get fun setting => ?_, fun h setting => ?_⟩
  · rw [h setting, hget]
  · rw [h, hget]

theorem Replaces.showable (hd : d.Replaces old overrides) (hold : old.Showable) (hgiven : overrides.Showable) :
    d.Showable := by
  intro setting
  rw [hd setting]
  cases hvalue : Overrides.value? overrides setting with
  | none => exact hold setting
  | some v => exact hgiven _ (Overrides.mem_of_value? hvalue)

end Draft

/-! ## Updates -/

namespace Settings

variable {old new : Settings} {overrides : Overrides} {e : SettingsError}

theorem update_of_own (h : Call.updateSettings.ownKey ∈ overrides.map (·.1)) :
    old.update overrides = .error (.unknownSetting ⟨.updateSettings, Call.updateSettings.ownKey⟩) := by
  rw [update, Call.take_of_mem h]
  rfl

theorem update_of_not_own (h : Call.updateSettings.ownKey ∉ overrides.map (·.1)) :
    old.update overrides = (old.toDraft.override (Overrides.known overrides)).check := by
  rw [update, Call.take_of_not_mem h]
  rfl

theorem update_eq_ok_iff (h : Call.updateSettings.ownKey ∉ overrides.map (·.1)) :
    old.update overrides = .ok new ↔ new.Valid ∧ new.toDraft.Replaces old.toDraft overrides := by
  rw [update_of_not_own h, Draft.check_eq_ok_iff, Draft.replaces_iff, and_comm]
  exact and_congr_right fun _ => eq_comm

theorem update_eq_error_iff (h : Call.updateSettings.ownKey ∉ overrides.map (·.1)) :
    old.update overrides = .error e ↔
      ∃ d cause, Draft.Replaces d old.toDraft overrides ∧ d.FirstFails cause ∧ e = cause.raised := by
  rw [update_of_not_own h, Draft.check_eq_error_iff]
  simp only [Draft.replaces_iff, exists_and_left, exists_eq_left]

theorem update_eq_error_iff_of_showable (h : Call.updateSettings.ownKey ∉ overrides.map (·.1))
    (hold : old.toDraft.Showable) (hgiven : overrides.Showable) :
    old.update overrides = .error e ↔ ∃ d : Draft, d.Replaces old.toDraft overrides ∧ d.FirstFails e := by
  have hd := (Draft.replaces_iff.mpr rfl : Draft.Replaces _ old.toDraft overrides).showable hold hgiven
  rw [update_of_not_own h, Draft.check_eq_error_iff_of_showable hd]
  simp only [Draft.replaces_iff, exists_eq_left]

/-- What is given under an identifier of no setting is ignored, if it is not that of the update itself. -/
theorem update_ignores {before after : Overrides} {key : Text} {v : Value} (h : ∀ setting : Setting, setting.key ≠ key)
    (hown : key ≠ Call.updateSettings.ownKey) :
    old.update (before ++ (key, v) :: after) = old.update (before ++ after) := by
  have hknown : Overrides.known (before ++ (key, v) :: after) = Overrides.known (before ++ after) := by
    simp [Overrides.known, Setting.ofKey?_eq_none h]
  have hmem : Call.updateSettings.ownKey ∈ (before ++ (key, v) :: after).map (·.1) ↔
      Call.updateSettings.ownKey ∈ (before ++ after).map (·.1) := by
    simp [hown.symm]
  rw [update, hknown, Call.take, update, Call.take]
  simp only [hmem]

end Settings

/-! ## Updates in a session -/

namespace Session

variable {s : Session} {id : Text} {old : Settings} {overrides : Overrides}

theorem step_updateSettings (hold : s.settings.lookup id = some old) :
    s.step (.updateSettings id overrides) =
      s.storing (old.update overrides) fun new => { s with settings := (id, new) :: s.settings } := by
  simp only [step, withId, hold]

theorem step_updateEngine (hold : s.engines.lookup id = some old) :
    s.step (.updateEngine id overrides) =
      s.storing (old.update overrides) fun new => { s with engines := (id, new) :: s.engines } := by
  simp only [step, withId, hold]

/-- **An update is taken as a whole or not at all.** It succeeds just if the old settings, with the values that are
given in place of theirs, are valid as a whole, and these are the settings that come of it. Otherwise it is refused for
the first check that this combination fails, or because it cannot be shown what for; it can if every integer in the old
settings and in what is given can be shown. What is given under an identifier of no setting makes no difference. All
this holds if nothing is given under `self`: with that there is no update, whatever else is given. And an update that is
refused leaves the session, with the settings in it, what it was before. -/
theorem update_whole (old : Settings) (overrides : Overrides) :
    ("self".toList ∉ overrides.map (·.1) →
      (∀ new, old.update overrides = .ok new ↔ new.Valid ∧ new.toDraft.Replaces old.toDraft overrides) ∧
      (∀ e, old.update overrides = .error e ↔
        ∃ d cause, Draft.Replaces d old.toDraft overrides ∧ d.FirstFails cause ∧ e = cause.raised) ∧
      (old.toDraft.Showable → overrides.Showable → ∀ e, old.update overrides = .error e ↔
        ∃ d : Draft, d.Replaces old.toDraft overrides ∧ d.FirstFails e) ∧
      ∀ before key v after, overrides = before ++ (key, v) :: after → (∀ setting : Setting, setting.key ≠ key) →
        old.update overrides = old.update (before ++ after)) ∧
      ("self".toList ∈ overrides.map (·.1) →
        old.update overrides = .error (.unknownSetting ⟨.updateSettings, "self".toList⟩)) ∧
      ∀ (s : Session) (id : Text),
        (s.settings.lookup id = some old →
          (∀ new, old.update overrides = .ok new → s.step (.updateSettings id overrides) =
            ({ s with settings := (id, new) :: s.settings }, ⟨.ok (.settings new), []⟩)) ∧
          ∀ e, old.update overrides = .error e →
            s.step (.updateSettings id overrides) = (s, ⟨.error (.settings e), []⟩)) ∧
        (s.engines.lookup id = some old →
          (∀ new, old.update overrides = .ok new → s.step (.updateEngine id overrides) =
            ({ s with engines := (id, new) :: s.engines }, ⟨.ok (.settings new), []⟩)) ∧
          ∀ e, old.update overrides = .error e →
            s.step (.updateEngine id overrides) = (s, ⟨.error (.settings e), []⟩)) := by
  refine ⟨fun hown => ⟨fun new => Settings.update_eq_ok_iff hown, fun e => Settings.update_eq_error_iff hown, ?_, ?_⟩,
    Settings.update_of_own, fun s id => ⟨?_, ?_⟩⟩
  · exact fun hold hgiven e => Settings.update_eq_error_iff_of_showable hown hold hgiven
  · intro before key v after hsplit hkey
    have hne : key ≠ "self".toList := by
      rintro rfl
      exact hown (by simp [hsplit])
    rw [hsplit, Settings.update_ignores hkey hne]
  · intro hold
    rw [step_updateSettings hold]
    exact ⟨fun new h => by rw [h]; rfl, fun e h => by rw [h]; rfl⟩
  · intro hold
    rw [step_updateEngine hold]
    exact ⟨fun new h => by rw [h]; rfl, fun e h => by rw [h]; rfl⟩

/-- A usual count above the greatest one is refused by itself and taken together with a greater one. -/
theorem update_whole_together :
    let old : Settings := ⟨5, 20, 60, "INFO".toList⟩
    let session : Session := { engines := [(['e'], old)], root := ⟨10, []⟩ }
    let raised : Overrides := [("default_run_count".toList, .int 30)]
    let both : Overrides := raised ++ [("colour".toList, .null), ("max_run_count".toList, .int 40)]
    session.step (.updateEngine ['e'] raised) = (session, ⟨.error (.settings (.defaultAboveMax 30 20)), []⟩) ∧
      old.update both = old.update (raised ++ [("max_run_count".toList, .int 40)]) ∧
      (session.step (.updateEngine ['e'] both)).1.engines.lookup ['e'] = some ⟨30, 40, 60, "INFO".toList⟩ := by
  intro old session raised both
  obtain ⟨hraised, _, hrefused⟩ := update_whole old raised
  obtain ⟨hboth, _, htaken⟩ := update_whole old both
  refine ⟨((hrefused session ['e']).2 rfl).2 _ ?_, ?_, ?_⟩
  · have hold : old.toDraft.Showable := fun setting => by cases setting <;> decide
    have hgiven : raised.Showable := List.forall_mem_cons.mpr ⟨by decide, by simp⟩
    refine ((hraised (by decide)).2.2.1 hold hgiven _).mpr ⟨old.toDraft.override (Overrides.known raised), ?_, ?_⟩
    · exact Draft.replaces_iff.mpr rfl
    · refine ⟨[.positive .defaultRunCount, .positive .maxRunCount, .positive .scanLimit], .withinMax, _, rfl, ?_, ?_⟩
      · simp only [List.forall_mem_cons]
        exact ⟨⟨30, rfl, by decide⟩, ⟨20, rfl, by decide⟩, ⟨60, rfl, by decide⟩, by simp⟩
      · exact .aboveMax rfl rfl (by decide)
  · have hcolour : ∀ setting : Setting, setting.key ≠ "colour".toList := fun setting => by cases setting <;> decide
    exact (hboth (by decide)).2.2.2 raised _ .null [("max_run_count".toList, .int 40)] rfl hcolour
  · have htogether : old.update both = .ok ⟨30, 40, 60, "INFO".toList⟩ := by rfl
    rw [((htaken session ['e']).2 rfl).1 _ htogether]
    rfl

/-- What is given under `self` is for no setting, but it is not ignored. -/
theorem update_own_refused :
    let old : Settings := ⟨5, 20, 60, "INFO".toList⟩
    (old.Valid ∧ ∀ setting : Setting, setting.key ≠ "self".toList) ∧ old.update [] = .ok old ∧
      old.update [("self".toList, .int 1)] = .error (.unknownSetting ⟨.updateSettings, "self".toList⟩) := by
  intro old
  refine ⟨⟨⟨by decide, by decide, by decide, by decide, 20, rfl⟩, fun setting => ?_⟩, rfl, rfl⟩
  cases setting <;> decide

end Session
end CronSchedule
