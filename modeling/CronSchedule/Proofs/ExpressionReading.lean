/-
How reading an expression fails. The fields are read in order, so the
first that is not read decides, and a numeral that is too long decides for
the expression if it decides for that field.

* `Fields.schedule_eq_error_iff`: the first field that fails decides.
* `read_eq_tooLong_iff`: the expressions that fail with a numeral that is
  too long.
-/
import CronSchedule.Proofs.FaultyField
import CronSchedule.Proofs.ReadValues

namespace CronSchedule
open FieldSpec

/-- **The first field that fails decides.** -/
theorem Fields.schedule_eq_error_iff {f : Fields} {e : FieldError} :
    f.schedule = .error e ↔
      ∃ before name after, FieldName.all = before ++ name :: after ∧
        (∀ earlier ∈ before, ∃ vs, earlier.spec.values (f.get earlier) = .ok vs) ∧
        name.spec.values (f.get name) = .error e := by
  rw [← mapM_eq_error_iff (f := fun name : FieldName => name.spec.values (f.get name))]
  simp only [schedule, FieldName.all, List.mapM_cons, List.mapM_nil, bind_eq_error_iff, FieldName.spec, get]
  simp [pure, Except.pure]

/-- An expression in which a numeral of this many digits, more than the limit, is read before anything is wrong: it has
five fields, and those before the one the numeral stands in are well formed. -/
def OverlongExpression (t : Text) (digits : Nat) : Prop :=
  ∃ fields, Expression.split t = .ok fields ∧ ∃ before name after, FieldName.all = before ++ name :: after ∧
    (∀ earlier ∈ before, FieldForm earlier.spec (fields.get earlier)) ∧
    OverlongField name.spec (fields.get name) digits

namespace Expression

theorem split_ne_field {t : Text} {e : FieldError} : split t ≠ .error (.field e) := by
  unfold split
  split <;> exact fun h => (nomatch h)

theorem read_eq_field_iff {t : Text} {e : FieldError} :
    read t = .error (.field e) ↔ ∃ fields, split t = .ok fields ∧ fields.schedule = .error e := by
  unfold read
  rw [bind_eq_error_iff]
  refine ⟨fun h => ?_, fun h => ?_⟩
  · rcases h with h | ⟨fields, hsplit, h⟩
    · exact absurd h split_ne_field
    · split at h
      next => cases h
      next hs => cases h; exact ⟨fields, hsplit, hs⟩
  · obtain ⟨fields, hsplit, hs⟩ := h
    exact .inr ⟨fields, hsplit, by rw [hs]⟩

/-- **An expression fails with a numeral that is too long** just if it is one in which such a numeral is read first. -/
theorem read_eq_tooLong_iff {t : Text} {digits : Nat} :
    read t = .error (.field (.tooLong (.toRead digits))) ↔ OverlongExpression t digits := by
  simp only [read_eq_field_iff, Fields.schedule_eq_error_iff, values_eq_tooLong_iff, exists_values_iff,
    OverlongExpression]

/-- The bounds of the five fields can be shown, so what is too long in an expression is a numeral. -/
theorem toRead_of_read {t : Text} {numeral : Numeral.TooLong} (h : read t = .error (.field (.tooLong numeral))) :
    ∃ digits, numeral = .toRead digits := by
  cases numeral with
  | toRead digits => exact ⟨digits, rfl⟩
  | toShow =>
    obtain ⟨fields, _, hs⟩ := read_eq_field_iff.mp h
    obtain ⟨_, name, _, _, _, hfield⟩ := Fields.schedule_eq_error_iff.mp hs
    exact absurd name.spec_showable (values_eq_toShow_iff.mp hfield).not_showable

/-- A numeral over the limit in the place of the minute is one that is read first, whatever the other fields are. -/
theorem overlong_of_minute {t rest : Text} {digits : Nat} (h : Overlong t digits)
    (hrest : (Text.words rest).length = 4) : OverlongExpression (t ++ ' ' :: rest) digits := by
  obtain ⟨hour, dayOfMonth, month, dayOfWeek, hwords⟩ :
      ∃ hour dayOfMonth month dayOfWeek, Text.words rest = [hour, dayOfMonth, month, dayOfWeek] := by
    match Text.words rest, hrest with
    | [hour, dayOfMonth, month, dayOfWeek], _ => exact ⟨_, _, _, _, rfl⟩
  have hsplit : split (t ++ ' ' :: rest) = .ok ⟨t, hour, dayOfMonth, month, dayOfWeek⟩ := by
    have hdigits : ∀ c ∈ t, Text.isBlank c = false := fun c hc =>
      Text.isBlank_of_isDigit ((Numeral.isPlain_iff.mp h.1).2 c hc)
    unfold split
    rw [Text.words_append h.ne_nil hdigits (by decide), hwords]
    rfl
  exact ⟨_, hsplit, [], .minute, _, rfl, fun _ hmem => (nomatch hmem), h.field⟩

end Expression
end CronSchedule
