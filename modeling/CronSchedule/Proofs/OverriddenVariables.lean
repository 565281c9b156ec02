/-
Variables of settings that are overridden. Their values have no part in
what is loaded, but they are read before anything is overridden, and where
one of them is no integer the load is refused for it. So environments that
agree on the other variables load the same exactly if the first variable
that is not readable, with its text, is the same in both, or there is none
in either.

* `load_of_firstUnreadable`: a variable that is not readable decides,
  overridden or not.
* `load_same_iff`: when an overridden variable makes no difference.
-/
import CronSchedule.Proofs.LoadedSettings

namespace CronSchedule

namespace Environment

variable {env env' : Environment} {setting : Setting} {text : Text}

theorem FirstUnreadable.congr (h : ∀ setting text, env.Unreadable setting text → env'.Unreadable setting text)
    (h' : ∀ setting text, env'.Unreadable setting text → env.Unreadable setting text)
    (hfirst : env.FirstUnreadable setting text) : env'.FirstUnreadable setting text := by
  obtain ⟨before, after, hsplit, hbefore, hbad⟩ := hfirst
  exact ⟨before, after, hsplit, fun earlier hmem t ht => hbefore earlier hmem t (h' earlier t ht), h setting text hbad⟩

theorem Unreadable.of_lookup (h : env.Unreadable setting text)
    (hlookup : env.lookup setting.variableName = env'.lookup setting.variableName) : env'.Unreadable setting text :=
  ⟨h.integer, hlookup.symm.trans h.isSet, h.notInteger⟩

end Environment

namespace Settings

variable {env env' : Environment} {overrides : Overrides} {setting : Setting} {text : Text}

theorem load_of_firstUnreadable (hknown : Overrides.AllKnown overrides) (h : env.FirstUnreadable setting text) :
    load env overrides = .error (.badVariable setting text) := by
  rw [load, hknown.take, Environment.values_eq_error_iff.mpr ⟨setting, text, h, rfl⟩]
  rfl

theorem firstUnreadable_of_load (hknown : Overrides.AllKnown overrides)
    (h : load env overrides = .error (.badVariable setting text)) : env.FirstUnreadable setting text := by
  cases hread : env.values with
  | error e =>
    obtain ⟨first, t, hfirst, rfl⟩ := Environment.values_eq_error_iff.mp hread
    rw [load_of_firstUnreadable hknown hfirst] at h
    cases h
    exact hfirst
  | ok values =>
    rw [load_eq_check hread hknown] at h
    rcases Draft.fails_or_toShow_of_check h with ⟨_, hfail⟩ | he
    · cases hfail
    · cases he

/-- The two environments have the same variables of settings that are not overridden. -/
def AgreeOutside (overrides : Overrides) (env env' : Environment) : Prop :=
  ∀ setting, Overrides.value? overrides setting = none →
    env.lookup setting.variableName = env'.lookup setting.variableName

/-- A variable of a setting that is overridden is left to differ. -/
theorem agreeOutside_cons {name : Text} (hname : setting.variableName = name)
    (hgiven : Overrides.value? overrides setting ≠ none) : AgreeOutside overrides ((name, text) :: env) env := by
  intro other hnone
  subst hname
  have hne : other ≠ setting := by
    rintro rfl
    exact hgiven hnone
  have hother : (other.variableName == setting.variableName) = false :=
    beq_eq_false_iff_ne.mpr (Setting.variableName_injective.ne hne)
  rw [List.lookup_cons, hother]

theorem resolved_eq (h : AgreeOutside overrides env env') :
    Draft.resolved env overrides = Draft.resolved env' overrides := by
  refine Draft.ext_get fun setting => ?_
  cases hgiven : Overrides.value? overrides setting with
  | some v => rw [Draft.get_resolved_of_given hgiven, Draft.get_resolved_of_given hgiven]
  | none =>
    rw [Draft.get_resolved_of_none hgiven, Draft.get_resolved_of_none hgiven, Environment.value?, h setting hgiven,
      Environment.value?]

theorem load_eq_of_firstUnreadable_iff (hknown : Overrides.AllKnown overrides)
    (hagree : AgreeOutside overrides env env')
    (h : ∀ setting text, env.FirstUnreadable setting text ↔ env'.FirstUnreadable setting text) :
    load env overrides = load env' overrides := by
  cases hread : env.values with
  | error e =>
    obtain ⟨setting, text, hfirst, _⟩ := Environment.values_eq_error_iff.mp hread
    rw [load_of_firstUnreadable hknown hfirst, load_of_firstUnreadable hknown ((h setting text).mp hfirst)]
  | ok values =>
    cases hread' : env'.values with
    | error e =>
      obtain ⟨setting, text, hfirst, _⟩ := Environment.values_eq_error_iff.mp hread'
      rw [Environment.values_eq_error_iff.mpr ⟨setting, text, (h setting text).mpr hfirst, rfl⟩] at hread
      cases hread
    | ok values' => rw [load_eq_check hread hknown, load_eq_check hread' hknown, resolved_eq hagree]

/-- **When an overridden variable has no influence.** Two environments that agree on the variables of the settings that
are not overridden load the same, errors included, exactly if the first variable that is not readable is the same
with the same text in both, or neither has one: with such a variable the load is refused for it, overridden or not. So
they load the same if no variable of an overridden setting is unreadable in either. -/
theorem load_same_iff (hknown : Overrides.AllKnown overrides) (hagree : AgreeOutside overrides env env') :
    (load env overrides = load env' overrides ↔
        ∀ setting text, env.FirstUnreadable setting text ↔ env'.FirstUnreadable setting text) ∧
      (∀ setting text, load env overrides = .error (.badVariable setting text) ↔ env.FirstUnreadable setting text) ∧
      ((∀ setting text, Overrides.value? overrides setting ≠ none →
          ¬ env.Unreadable setting text ∧ ¬ env'.Unreadable setting text) →
        load env overrides = load env' overrides) := by
  refine ⟨⟨fun hload setting text => ⟨fun h => ?_, fun h => ?_⟩, ?_⟩, fun setting text => ⟨?_, ?_⟩, fun h => ?_⟩
  · exact firstUnreadable_of_load hknown (hload.symm.trans (load_of_firstUnreadable hknown h))
  · exact firstUnreadable_of_load hknown (hload.trans (load_of_firstUnreadable hknown h))
  · exact load_eq_of_firstUnreadable_iff hknown hagree
  · exact firstUnreadable_of_load hknown
  · exact load_of_firstUnreadable hknown
  · have hto : ∀ setting text, env.Unreadable setting text → env'.Unreadable setting text := fun setting text hbad => by
      have hgiven := Decidable.by_contra fun hgiven => (h setting text hgiven).1 hbad
      exact hbad.of_lookup (hagree setting hgiven)
    have hfrom : ∀ setting text, env'.Unreadable setting text → env.Unreadable setting text := by
      intro setting text hbad
      have hgiven := Decidable.by_contra fun hgiven => (h setting text hgiven).2 hbad
      exact hbad.of_lookup (hagree setting hgiven).symm
    exact load_eq_of_firstUnreadable_iff hknown hagree fun setting text => ⟨.congr hto hfrom, .congr hfrom hto⟩

/-- A greatest count below the usual one is in a variable, but another one is given. -/
theorem load_same_iff_lowMax :
    let overrides : Overrides := [("max_run_count".toList, .int 9)]
    let env : Environment := [("CRONSIGHT_LOG_LEVEL".toList, "info".toList)]
    let low : Environment := ("CRONSIGHT_MAX_RUN_COUNT".toList, "3".toList) :: env
    load low overrides = load env overrides ∧ load env overrides = .ok ⟨5, 9, leapYearMinutes, "INFO".toList⟩ ∧
      load low [] = .error (.defaultAboveMax 5 3) := by
  intro overrides env low
  have hknown : Overrides.AllKnown overrides := List.forall_mem_cons.mpr ⟨⟨.maxRunCount, rfl⟩, by simp⟩
  have hname : Setting.maxRunCount.variableName = "CRONSIGHT_MAX_RUN_COUNT".toList := by decide +kernel
  have hagree : AgreeOutside overrides low env := agreeOutside_cons hname (by decide)
  have hread : ∀ setting text, Overrides.value? overrides setting ≠ none →
      ¬ low.Unreadable setting text ∧ ¬ env.Unreadable setting text := fun setting text hgiven => by
    cases setting with
    | maxRunCount =>
      refine ⟨fun hbad => ?_, fun hbad => nomatch hbad.isSet⟩
      obtain rfl : "3".toList = text := Option.some.inj hbad.isSet
      cases hbad.notInteger
    | _ => exact absurd rfl hgiven
  exact ⟨(load_same_iff hknown hagree).2.2 hread, by rfl, by rfl⟩

/-- A variable that is no integer stands in the way of a load that overrides its setting. -/
theorem load_differs_unread :
    let overrides : Overrides := [("max_run_count".toList, .int 9)]
    let env : Environment := [("CRONSIGHT_MAX_RUN_COUNT".toList, "many".toList)]
    Overrides.AllKnown overrides ∧ AgreeOutside overrides env [] ∧
      load [] overrides = .ok ⟨5, 9, leapYearMinutes, "WARNING".toList⟩ ∧
      load env overrides = .error (.badVariable .maxRunCount "many".toList) := by
  intro overrides env
  have hname : Setting.maxRunCount.variableName = "CRONSIGHT_MAX_RUN_COUNT".toList := by decide +kernel
  have hagree : AgreeOutside overrides env [] := agreeOutside_cons hname (by decide)
  exact ⟨List.forall_mem_cons.mpr ⟨⟨.maxRunCount, rfl⟩, by simp⟩, hagree, by rfl, by rfl⟩

end Settings
end CronSchedule
