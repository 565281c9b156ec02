/-
What is known of the values of a schedule that was read: each field holds
values of its own range, ascending, and at least one. So a field that holds
as many values as it has holds all of them.

* `Schedule.read_wellFormed`: this holds of every schedule that is read.
* `FieldSpec.Held.length_eq_size_iff`: counting decides whether a field
  holds all its values.
-/
import CronSchedule.Expression
import CronSchedule.Proofs.FieldMeaning

namespace CronSchedule
namespace FieldSpec

/-- The values are some of those the field may hold, ascending, and at least one. -/
structure Held (spec : FieldSpec) (vs : List Int) : Prop where
  ascending : Ascending vs
  inRange : ∀ v ∈ vs, spec.low ≤ v ∧ v ≤ spec.high
  nonempty : vs ≠ []

variable {spec : FieldSpec}

theorem AtomForm.inRange {t : Text} {value : Int} (h : AtomForm spec t value) :
    spec.low ≤ value ∧ value ≤ spec.high := by
  cases h with
  | numeral _ _ hc => exact contains_iff.mp hc
  | name _ _ _ hc => exact contains_iff.mp hc

theorem BaseForm.inRange {t : Text} {base : Base} (h : BaseForm spec t base) :
    match base with
    | .every => True
    | .one value => spec.low ≤ value ∧ value ≤ spec.high
    | .span first last => spec.low ≤ first ∧ first ≤ last ∧ last ≤ spec.high := by
  cases h with
  | every => trivial
  | one ha => exact ha.inRange
  | span ha hb hab => exact ⟨ha.inRange.1, hab, hb.inRange.2⟩

theorem ItemForm.base {t : Text} {item : Item} (h : ItemForm spec t item) : ∃ u, BaseForm spec u item.base := by
  cases h with
  | plain hb => exact ⟨_, hb⟩
  | stepped hb => exact ⟨_, hb⟩

theorem ItemForm.inRange {t : Text} {item : Item} (h : ItemForm spec t item) {value : Int}
    (hv : item.Denotes spec value) : spec.low ≤ value ∧ value ≤ spec.high := by
  obtain ⟨u, hb⟩ := h.base
  have hb := hb.inRange
  obtain ⟨base, step⟩ := item
  cases step with
  | none =>
    cases base with
    | every => exact hv
    | one v => exact hv ▸ hb
    | span first last => exact ⟨Int.le_trans hb.1 hv.1, Int.le_trans hv.2 hb.2.2⟩
  | some step =>
    cases base with
    | every => exact Reaches.between hv
    | one v =>
      have hv := Reaches.between hv
      exact ⟨Int.le_trans hb.1 hv.1, hv.2⟩
    | span first last =>
      have hv := Reaches.between hv
      exact ⟨Int.le_trans hb.1 hv.1, Int.le_trans hv.2 hb.2.2⟩

theorem ItemForm.exists_denotes {t : Text} {item : Item} (h : ItemForm spec t item) (hs : spec.low ≤ spec.high) :
    ∃ value, item.Denotes spec value := by
  obtain ⟨u, hb⟩ := h.base
  have hb := hb.inRange
  obtain ⟨base, step⟩ := item
  cases step with
  | none =>
    cases base with
    | every => exact ⟨spec.low, Int.le_refl _, hs⟩
    | one v => exact ⟨v, rfl⟩
    | span first last => exact ⟨first, Int.le_refl _, hb.2.1⟩
  | some step =>
    cases base with
    | every => exact ⟨spec.low, Reaches.start hs⟩
    | one v => exact ⟨v, Reaches.start hb.2⟩
    | span first last => exact ⟨first, Reaches.start hb.2.1⟩

/-- **What is read is held by the field.** -/
theorem held_of_values {raw : Text} {vs : List Int} (hs : spec.low ≤ spec.high) (h : spec.values raw = .ok vs) :
    spec.Held vs := by
  obtain ⟨⟨_, segments, hseg, hitems⟩, hasc, hmem⟩ := values_eq_ok_iff.mp h
  refine ⟨hasc, ?_, ?_⟩
  · intro v hv
    obtain ⟨_, _, t, _, item, hitem, hden⟩ := (hmem v).mp hv
    exact hitem.inRange hden
  · obtain ⟨t, ht⟩ := List.exists_mem_of_ne_nil segments hseg.nonempty
    obtain ⟨item, hitem⟩ := hitems t ht
    obtain ⟨v, hv⟩ := hitem.exists_denotes hs
    exact List.ne_nil_of_mem ((hmem v).mpr ⟨segments, hseg, t, ht, item, hitem, hv⟩)

theorem length_progression (first last : Int) : (Item.progression first last 1).length = (last - first + 1).toNat := by
  simp [Item.progression]

theorem Held.length_eq_size_iff {vs : List Int} (h : spec.Held vs) :
    (vs.length : Int) = spec.size ↔ ∀ v, spec.low ≤ v → v ≤ spec.high → v ∈ vs := by
  have hsub : vs ⊆ Item.progression spec.low spec.high 1 := fun v hv => Item.mem_progression_one.mpr (h.inRange v hv)
  have hlen := length_progression spec.low spec.high
  unfold size
  refine ⟨fun hsize v h1 h2 => ?_, fun hall => ?_⟩
  · refine Decidable.byContradiction fun hv => ?_
    -- a value left out makes room for one more than the range has
    have hnodup : (v :: vs).Nodup := List.nodup_cons.mpr ⟨hv, h.ascending.nodup⟩
    have hle := hnodup.length_le_of_subset (List.cons_subset.mpr ⟨Item.mem_progression_one.mpr ⟨h1, h2⟩, hsub⟩)
    rw [List.length_cons, hlen] at hle
    omega
  · have hle := h.ascending.nodup.length_le_of_subset hsub
    have hsup : Item.progression spec.low spec.high 1 ⊆ vs := fun v hv =>
      hall v (Item.mem_progression_one.mp hv).1 (Item.mem_progression_one.mp hv).2
    have hge := (Item.progression_ascending Nat.one_pos).nodup.length_le_of_subset hsup
    obtain ⟨v, hv⟩ := List.exists_mem_of_ne_nil vs h.nonempty
    have := h.inRange v hv
    rw [hlen] at hle hge
    omega

end FieldSpec

/-! ## Schedules -/

theorem FieldName.low_le_high (name : FieldName) : name.spec.low ≤ name.spec.high := by cases name <;> decide

namespace Fields

theorem schedule_eq_ok_iff {f : Fields} {s : Schedule} :
    f.schedule = .ok s ↔ ∀ name : FieldName, name.spec.values (f.get name) = .ok (s.values name) := by
  simp only [schedule, bind_eq_ok_iff]
  refine ⟨fun h => ?_, fun h => ?_⟩
  · obtain ⟨minutes, h1, hours, h2, daysOfMonth, h3, months, h4, daysOfWeek, h5, hs⟩ := h
    cases hs
    intro name
    cases name <;> assumption
  · exact ⟨_, h .minute, _, h .hour, _, h .dayOfMonth, _, h .month, _, h .dayOfWeek, rfl⟩

theorem fieldForm_of_schedule {f : Fields} {s : Schedule} (h : f.schedule = .ok s) (name : FieldName) :
    FieldSpec.FieldForm name.spec (f.get name) :=
  FieldSpec.fieldForm_of_values (schedule_eq_ok_iff.mp h name)

end Fields

namespace Schedule

/-- Every field of the schedule holds values of its range, ascending, and at least one. -/
def WellFormed (s : Schedule) : Prop := ∀ name : FieldName, name.spec.Held (s.values name)

theorem wellFormed_of_schedule {f : Fields} {s : Schedule} (h : f.schedule = .ok s) : s.WellFormed := fun name =>
  FieldSpec.held_of_values name.low_le_high (Fields.schedule_eq_ok_iff.mp h name)

end Schedule

namespace Expression

theorem read_eq_ok {t : Text} {e : Expression} (h : read t = .ok e) :
    split t = .ok e.fields ∧ e.fields.schedule = .ok e.schedule := by
  obtain ⟨fields, hsplit, h⟩ := bind_eq_ok_iff.mp h
  split at h
  next schedule hs => cases h; exact ⟨hsplit, hs⟩
  next => cases h

/-- **Every schedule that is read is well formed.** -/
theorem read_wellFormed {t : Text} {e : Expression} (h : read t = .ok e) : e.schedule.WellFormed :=
  Schedule.wellFormed_of_schedule (read_eq_ok h).2

end Expression
end CronSchedule
