/-
What is read can be put into words. The words are made from the texts of
the fields and not from their values, so each text that is read again on
the way, an atom for its name or a numeral for the clock, has to be one
that reads.

* `FieldForm.phrase`: the phrase of a field.
* `wording_of_schedule`: the sentence and the phrases of an expression.
-/
import CronSchedule.Engine
import CronSchedule.Proofs.NamedValues
import CronSchedule.Proofs.Overlong

namespace CronSchedule
open FieldSpec

/-! ## Phrases -/

namespace FieldSpec

theorem FieldForm.phrase {name : FieldName} {raw : Text} (h : FieldForm name.spec raw) :
    ∃ t, name.spec.phrase raw = .ok t := by
  have hnames : ∃ named, Phrase.inNames? name.spec raw = .ok named := by
    cases name with
    | minute => exact ⟨_, rfl⟩
    | hour => exact ⟨_, rfl⟩
    | dayOfMonth => exact ⟨_, rfl⟩
    | month =>
      obtain ⟨named, hnamed⟩ := Phrase.exists_named? h Phrase.nameTable_month
      exact ⟨_, by simp only [Phrase.inNames?, hnamed]; rfl⟩
    | dayOfWeek =>
      obtain ⟨named, hnamed⟩ := Phrase.exists_named? h Phrase.nameTable_dayOfWeek
      exact ⟨_, by simp only [Phrase.inNames?, hnamed]; rfl⟩
  obtain ⟨named, hnamed⟩ := hnames
  unfold FieldSpec.phrase
  split
  next => exact ⟨_, rfl⟩
  next =>
    split
    next => exact ⟨_, rfl⟩
    next =>
      rw [hnamed]
      cases named <;> exact ⟨_, rfl⟩

theorem FieldForm.length_le {spec : FieldSpec} {raw : Text} (h : FieldForm spec raw)
    (hp : Numeral.isPlain raw = true) : raw.length ≤ Numeral.digitLimit := by
  refine Decidable.byContradiction fun hmore => ?_
  have hlong : Overlong raw raw.length := ⟨hp, by omega, rfl⟩
  obtain ⟨vs, hvs, _⟩ := h.values
  rw [values_eq_tooLong_iff.mpr hlong.field] at hvs
  cases hvs

end FieldSpec

/-! ## The sentence -/

namespace Phrase

theorem exists_timeClause {minute hour : Text} (hm : FieldForm .minute minute) (hh : FieldForm .hour hour) :
    ∃ t, timeClause minute hour = .ok t := by
  unfold timeClause
  split
  next => exact ⟨_, rfl⟩
  next =>
    split
    next => exact ⟨_, rfl⟩
    next =>
      split
      next => exact ⟨_, rfl⟩
      next =>
        split
        next hplain =>
          rw [number_of_le (hh.length_le hplain.2), number_of_le (hm.length_le hplain.1)]
          exact ⟨_, rfl⟩
        next => exact ⟨_, rfl⟩

theorem exists_dayClause {dayOfMonth dayOfWeek : Text} (h : FieldForm .dayOfWeek dayOfWeek) :
    ∃ days, dayClause dayOfMonth dayOfWeek = .ok days := by
  obtain ⟨named, hnamed⟩ := exists_named? h nameTable_dayOfWeek
  unfold dayClause
  rw [hnamed]
  split
  next => exact ⟨_, rfl⟩
  next => split <;> exact ⟨_, rfl⟩

theorem exists_monthClause {month : Text} (h : FieldForm .month month) : ∃ months, monthClause month = .ok months := by
  obtain ⟨named, hnamed⟩ := exists_named? h nameTable_month
  unfold monthClause
  rw [hnamed]
  split <;> exact ⟨_, rfl⟩

end Phrase

theorem exists_sentence {f : Fields} (h : ∀ name : FieldName, FieldForm name.spec (f.get name)) :
    ∃ t, f.sentence = .ok t := by
  refine exists_bind_eq_ok (Phrase.exists_timeClause (h .minute) (h .hour)) fun time => ?_
  refine exists_bind_eq_ok (Phrase.exists_dayClause (h .dayOfWeek)) fun days => ?_
  exact exists_bind_eq_ok (Phrase.exists_monthClause (h .month)) fun months => ⟨_, rfl⟩

theorem exists_fieldPhrases {f : Fields} (h : ∀ name : FieldName, FieldForm name.spec (f.get name)) :
    ∃ phrases, Engine.fieldPhrases f = .ok phrases := by
  exact exists_mapM_eq_ok fun name _ => exists_bind_eq_ok (h name).phrase fun t => ⟨(name.key, t), rfl⟩

/-- **What is read can be put into words.** -/
theorem wording_of_schedule {f : Fields} {s : Schedule} (h : f.schedule = .ok s) :
    ∃ words, Engine.wording f = .ok words := by
  have hform := Fields.fieldForm_of_schedule h
  refine exists_bind_eq_ok (exists_sentence hform) fun sentence => ?_
  exact exists_bind_eq_ok (exists_fieldPhrases hform) fun phrases => ⟨(sentence, phrases), rfl⟩

end CronSchedule
