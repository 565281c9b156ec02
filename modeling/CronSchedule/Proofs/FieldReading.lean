/-
Reading a field, from every side: which texts are accepted and for what,
which fail with a numeral that is too long, and which are faults of the
field. The spec may be any spec, with any bounds and any names. A fault is
told with the bounds, so bounds that are too long to be shown take its
place.

* `values_characterized`: reading a field, outcome by outcome.
* `values_unshown_step`: a fault that is not reported.
-/
import CronSchedule.Proofs.FaultyField

namespace CronSchedule
namespace FieldSpec

variable {spec : FieldSpec}

/-- A name stands for the place where its upper case is first among the names, counted from the least value. -/
theorem lookup?_eq_some_iff {name : Text} {value : Int} :
    spec.lookup? name = some value ↔
      ∃ i : Nat, spec.names[i]? = some (Text.upper name) ∧
        (∀ j < i, spec.names[j]? ≠ some (Text.upper name)) ∧ value = spec.low + i := by
  have hmap : spec.lookup? name = (spec.names.idxOf? (Text.upper name)).map fun i : Nat => spec.low + (i : Int) := by
    unfold lookup?
    cases spec.names.idxOf? (Text.upper name) <;> rfl
  simp only [hmap, Option.map_eq_some_iff, List.idxOf?_eq_some_iff]
  refine ⟨fun h => ?_, fun h => ?_⟩
  · obtain ⟨i, ⟨hi, hname, hfirst⟩, rfl⟩ := h
    refine ⟨i, ?_, ?_, rfl⟩
    · rw [List.getElem?_eq_getElem hi, hname]
    · intro j hj
      rw [List.getElem?_eq_getElem (Nat.lt_trans hj hi), ne_eq, Option.some.injEq]
      exact hfirst j hj
  · obtain ⟨i, hname, hfirst, rfl⟩ := h
    obtain ⟨hi, hname⟩ := List.getElem?_eq_some_iff.mp hname
    refine ⟨i, ⟨hi, hname, ?_⟩, rfl⟩
    intro j hj hj'
    refine hfirst j hj ?_
    rw [List.getElem?_eq_getElem (Nat.lt_trans hj hi), hj']

/-- **Reading a field.** A text is accepted exactly if it is a field, and then for the ascending list of what it stands
for; it fails with a numeral that is too long exactly if such a numeral is read before anything is wrong; and any other
text is a fault, reported with the name, the label and the whole text of the field, unless an integer in the wording of
the fault is too long to be shown. This can only be a bound of the field or its greatest step. A name in a field is
found in its upper case, at its first place. -/
theorem values_characterized (spec : FieldSpec) (raw : Text) :
    ((∃ vs, spec.values raw = .ok vs) ↔ FieldForm spec raw) ∧
      (∀ vs, spec.values raw = .ok vs ↔
        FieldForm spec raw ∧ Ascending vs ∧ ∀ a, a ∈ vs ↔ FieldDenotes spec raw a) ∧
      (∀ digits, spec.values raw = .error (.tooLong (.toRead digits)) ↔ OverlongField spec raw digits) ∧
      ((∃ fault, spec.values raw = .error (.malformed spec.name spec.label raw fault)) ↔
        ¬ FieldForm spec raw ∧ (¬ ∃ digits, OverlongField spec raw digits) ∧ ¬ UnshownField spec raw) ∧
      (spec.values raw = .error (.tooLong .toShow) ↔ UnshownField spec raw) ∧
      (Showable spec → ¬ UnshownField spec raw) ∧
      ∀ name value, spec.lookup? name = some value ↔
        ∃ i : Nat, spec.names[i]? = some (Text.upper name) ∧
          (∀ j < i, spec.names[j]? ≠ some (Text.upper name)) ∧ value = spec.low + i := by
  refine ⟨exists_values_iff, fun vs => values_eq_ok_iff, fun digits => values_eq_tooLong_iff, ?_, values_eq_toShow_iff,
    fun hs h => h.not_showable hs, fun name value => lookup?_eq_some_iff⟩
  -- the outcomes exclude each other, so what is none of the others is the fault
  rw [← exists_values_iff, ← values_eq_toShow_iff]
  simp only [← values_eq_tooLong_iff]
  rcases values_cases spec raw with ⟨vs, h⟩ | ⟨numeral, h⟩ | ⟨fault, h⟩
  · simp [h]
  · cases numeral <;> simp [h]
  · simp [h]

/-- A step of zero in a field whose bounds can be shown, but not the greatest step between them. -/
theorem values_unshown_step :
    let far : Nat := 10 ^ Numeral.digitLimit - 1
    let spec : FieldSpec := ⟨.minute, "minute".toList, -far, far, []⟩
    (¬ FieldForm spec "*/0".toList ∧ ¬ ∃ digits, OverlongField spec "*/0".toList digits) ∧
      ¬ ∃ fault, spec.values "*/0".toList = .error (.malformed spec.name spec.label "*/0".toList fault) := by
  intro far spec
  have hstep : Numeral.showable (spec.size - 1) = false := by
    have hmany : 10 ≤ 10 ^ Numeral.digitLimit := Nat.le_self_pow (by decide) 10
    rw [Bool.eq_false_iff, ne_eq, Numeral.showable_iff]
    simp only [spec, far, size]
    omega
  have hfault : FaultyItem spec "*/0".toList (.stepOutOfRange 0 (spec.size - 1)) :=
    .step .every (by decide) (.outOfRange (t := ['0']) (by decide) (by decide) (by decide))
  have hshown : (Fault.stepOutOfRange 0 (spec.size - 1)).showable = false := by
    simp [Fault.showable, Fault.integers, hstep]
  have hseg : Text.Segments ',' "*/0".toList ["*/0".toList] := Text.segments_iff.mpr (by decide)
  have hvalues := values_eq_toShow_iff.mpr ⟨[], "*/0".toList, _, ⟨⟨[], hseg⟩, by simp, hfault⟩, hshown⟩
  rw [← exists_values_iff]
  simp only [← values_eq_tooLong_iff, hvalues]
  simp

end FieldSpec
end CronSchedule
