/-
What a field text means, said without reading it: which texts are fields,
and which values a field stands for. The grammar of the items is that of
`Field.Grammar`; a field is segments between commas, each of them an item.

* `mem_values_iff`: the values of an item are those it stands for.
* `values_eq_ok_iff`: a text is read exactly if it is a field, and then as
  the ascending list of what it stands for.
-/
import CronSchedule.Field.Grammar
import CronSchedule.Field.Values
import CronSchedule.Proofs.Segments
import CronSchedule.Proofs.Traverse

namespace CronSchedule

/-! ## Ascending lists -/

theorem Ascending.nodup {xs : List Int} (h : Ascending xs) : xs.Nodup := h.imp Int.ne_of_lt

theorem Ascending.eq_of_mem_iff {xs ys : List Int} (hx : Ascending xs) (hy : Ascending ys)
    (h : ∀ a, a ∈ xs ↔ a ∈ ys) : xs = ys := by
  have hp : xs.Perm ys := (List.perm_ext_iff_of_nodup hx.nodup hy.nodup).mpr h
  refine List.Perm.eq_of_pairwise ?_ hx hy hp
  intro a b _ _ hab hba
  omega

theorem foldr_union_ascending {α : Type} {f : α → List Int} {xs : List α} (h : ∀ x ∈ xs, Ascending (f x)) :
    Ascending (xs.foldr (fun x vs => union (f x) vs) []) := by
  induction xs with
  | nil => exact List.Pairwise.nil
  | cons x xs ih =>
    rw [List.foldr_cons]
    exact union_ascending (h x List.mem_cons_self) (ih fun y hy => h y (List.mem_cons_of_mem x hy))

theorem mem_foldr_union {α : Type} {f : α → List Int} {xs : List α} (h : ∀ x ∈ xs, Ascending (f x)) {a : Int} :
    a ∈ xs.foldr (fun x vs => union (f x) vs) [] ↔ ∃ x ∈ xs, a ∈ f x := by
  induction xs with
  | nil => simp
  | cons x xs ih =>
    have hxs : ∀ y ∈ xs, Ascending (f y) := fun y hy => h y (List.mem_cons_of_mem x hy)
    rw [List.foldr_cons, mem_union (foldr_union_ascending hxs), ih hxs]
    simp

/-! ## Items -/

/-- The value is `first`, `first + step`, and so on, and not above `last`. -/
def Reaches (first last : Int) (step : Nat) (value : Int) : Prop := value ≤ last ∧ ∃ k : Nat, value = first + k * step

theorem Reaches.between {first last value : Int} {step : Nat} (h : Reaches first last step value) :
    first ≤ value ∧ value ≤ last := by
  obtain ⟨hl, k, rfl⟩ := h
  have := Int.mul_nonneg (Int.natCast_nonneg k) (Int.natCast_nonneg step)
  exact ⟨by omega, hl⟩

theorem Reaches.start {first last : Int} {step : Nat} (h : first ≤ last) : Reaches first last step first :=
  ⟨h, 0, by omega⟩

/-- What an item stands for: all values, one value or a span of values, and with a step every so many of them. A
single value with a step runs on to the greatest one. -/
def Item.Denotes (spec : FieldSpec) (value : Int) : Item → Prop
  | ⟨.every, none⟩ => spec.low ≤ value ∧ value ≤ spec.high
  | ⟨.one v, none⟩ => value = v
  | ⟨.span first last, none⟩ => first ≤ value ∧ value ≤ last
  | ⟨.every, some step⟩ => Reaches spec.low spec.high step value
  | ⟨.one v, some step⟩ => Reaches v spec.high step value
  | ⟨.span first last, some step⟩ => Reaches first last step value

namespace Item

theorem progression_ascending {first last : Int} {step : Nat} (hs : 0 < step) :
    Ascending (progression first last step) := by
  refine List.Pairwise.map _ ?_ List.pairwise_lt_range
  intro j k hjk
  have : (j : Int) < k := by omega
  have := Int.mul_lt_mul_of_pos_left this (show (0 : Int) < step by omega)
  omega

theorem mem_progression_iff_reaches {first last value : Int} {step : Nat} (hs : 0 < step) :
    value ∈ progression first last step ↔ Reaches first last step value := by
  rw [mem_progression hs, Reaches]
  refine ⟨fun h => ?_, fun h => ?_⟩
  · obtain ⟨h1, h2, k, hk⟩ := h
    have hk0 : 0 ≤ k := by
      refine Decidable.byContradiction fun hneg => ?_
      have := Int.mul_neg_of_pos_of_neg (show (0 : Int) < step by omega) (show k < 0 by omega)
      omega
    refine ⟨h2, k.toNat, ?_⟩
    rw [Int.toNat_of_nonneg hk0, Int.mul_comm k]
    omega
  · obtain ⟨h2, k, rfl⟩ := h
    have := Int.mul_nonneg (Int.natCast_nonneg k) (Int.natCast_nonneg step)
    refine ⟨by omega, h2, (k : Int), ?_⟩
    rw [Int.mul_comm (step : Int)]
    omega

theorem mem_progression_one {first last value : Int} :
    value ∈ progression first last 1 ↔ first ≤ value ∧ value ≤ last := by
  rw [mem_progression Nat.one_pos]
  simp

/-- The step of an item, where it has one, is positive. -/
def StepPositive (item : Item) : Prop := ∀ step, item.step = some step → 0 < step

theorem values_ascending {spec : FieldSpec} {item : Item} (h : item.StepPositive) : Ascending (item.values spec) := by
  have hstep : 0 < item.step.getD 1 := by
    cases hs : item.step with
    | none => exact Nat.one_pos
    | some step => exact h step hs
  obtain ⟨base, step⟩ := item
  cases base with
  | every => exact progression_ascending hstep
  | span first last => exact progression_ascending hstep
  | one value =>
    cases step with
    | none => exact List.pairwise_singleton ..
    | some step => exact progression_ascending hstep

/-- **The values of an item are those it stands for.** -/
theorem mem_values_iff {spec : FieldSpec} {item : Item} (h : item.StepPositive) {value : Int} :
    value ∈ item.values spec ↔ item.Denotes spec value := by
  obtain ⟨base, step⟩ := item
  cases step with
  | none =>
    cases base with
    | every => exact mem_progression_one
    | one v => exact List.mem_singleton
    | span first last => exact mem_progression_one
  | some step =>
    have hs : 0 < step := h step rfl
    cases base with
    | every => exact mem_progression_iff_reaches hs
    | one v => exact mem_progression_iff_reaches hs
    | span first last => exact mem_progression_iff_reaches hs

end Item

/-! ## Fields -/

namespace FieldSpec

/-- The text is a field: something stands in it, and each of its segments is an item. -/
def FieldForm (spec : FieldSpec) (raw : Text) : Prop :=
  raw ≠ [] ∧ ∃ segments, Text.Segments ',' raw segments ∧ ∀ t ∈ segments, ∃ item, ItemForm spec t item

/-- The value is one that the field text stands for. -/
def FieldDenotes (spec : FieldSpec) (raw : Text) (value : Int) : Prop :=
  ∃ segments, Text.Segments ',' raw segments ∧ ∃ t ∈ segments, ∃ item, ItemForm spec t item ∧ item.Denotes spec value

variable {spec : FieldSpec}

theorem ItemForm.stepPositive {t : Text} {item : Item} (h : ItemForm spec t item) : item.StepPositive := by
  intro step hs
  cases h with
  | plain => cases hs
  | stepped _ _ _ h1 => cases hs; exact h1

theorem fieldForm_iff {raw : Text} :
    FieldForm spec raw ↔ raw ≠ [] ∧ ∀ t ∈ List.splitOn ',' raw, ∃ item, spec.readItem t = .ok item := by
  simp only [FieldForm, Text.segments_iff, readItem_eq_ok_iff]
  simp

theorem fieldDenotes_iff {raw : Text} {value : Int} :
    FieldDenotes spec raw value ↔
      ∃ t ∈ List.splitOn ',' raw, ∃ item, spec.readItem t = .ok item ∧ item.Denotes spec value := by
  simp only [FieldDenotes, Text.segments_iff, readItem_eq_ok_iff]
  simp

theorem FieldForm.values {raw : Text} (h : FieldForm spec raw) :
    ∃ vs, spec.values raw = .ok vs ∧ Ascending vs ∧ ∀ a, a ∈ vs ↔ FieldDenotes spec raw a := by
  obtain ⟨hne, hread⟩ := fieldForm_iff.mp h
  obtain ⟨items, hitems⟩ := exists_mapM_eq_ok hread
  obtain ⟨hfrom, hto⟩ := mapM_eq_ok hitems
  have hpos : ∀ item ∈ items, item.StepPositive := fun item hi => by
    obtain ⟨t, _, ht⟩ := hto item hi
    exact (readItem_eq_ok_iff.mp ht).stepPositive
  have hasc : ∀ item ∈ items, Ascending (item.values spec) := fun item hi => Item.values_ascending (hpos item hi)
  have hemp : raw.isEmpty = false := by simpa using hne
  refine ⟨_, by simp only [FieldSpec.values, hemp, hitems]; rfl, foldr_union_ascending hasc, ?_⟩
  intro a
  rw [mem_foldr_union hasc, fieldDenotes_iff]
  refine ⟨fun h => ?_, fun h => ?_⟩
  · obtain ⟨item, hi, ha⟩ := h
    obtain ⟨t, ht, hr⟩ := hto item hi
    exact ⟨t, ht, item, hr, (Item.mem_values_iff (hpos item hi)).mp ha⟩
  · obtain ⟨t, ht, item, hr, ha⟩ := h
    obtain ⟨item', hi, hr'⟩ := hfrom t ht
    obtain rfl : item = item' := Except.ok.inj (hr.symm.trans hr')
    exact ⟨item, hi, (Item.mem_values_iff (hpos item hi)).mpr ha⟩

theorem fieldForm_of_values {raw : Text} {vs : List Int} (h : spec.values raw = .ok vs) : FieldForm spec raw := by
  simp only [FieldSpec.values] at h
  split at h
  next => cases h
  next hne =>
    split at h
    next items hitems =>
      refine fieldForm_iff.mpr ⟨by simpa using hne, fun t ht => ?_⟩
      obtain ⟨item, _, hr⟩ := (mapM_eq_ok hitems).1 t ht
      exact ⟨item, hr⟩
    next => cases h

theorem exists_values_iff {raw : Text} : (∃ vs, spec.values raw = .ok vs) ↔ FieldForm spec raw := by
  refine ⟨fun h => ?_, fun h => ?_⟩
  · obtain ⟨vs, hvs⟩ := h
    exact fieldForm_of_values hvs
  · obtain ⟨vs, hvs, _⟩ := h.values
    exact ⟨vs, hvs⟩

/-- **A text is read exactly if it is a field**, and as the ascending list of what it stands for. -/
theorem values_eq_ok_iff {raw : Text} {vs : List Int} :
    spec.values raw = .ok vs ↔ FieldForm spec raw ∧ Ascending vs ∧ ∀ a, a ∈ vs ↔ FieldDenotes spec raw a := by
  refine ⟨fun h => ?_, fun h => ?_⟩
  · have hform := fieldForm_of_values h
    obtain ⟨us, hus, hasc, hmem⟩ := hform.values
    obtain rfl : us = vs := Except.ok.inj (hus.symm.trans h)
    exact ⟨hform, hasc, hmem⟩
  · obtain ⟨hform, hasc, hmem⟩ := h
    obtain ⟨us, hus, hasc', hmem'⟩ := hform.values
    rw [hus, hasc'.eq_of_mem_iff hasc fun a => (hmem' a).trans (hmem a).symm]

end FieldSpec
end CronSchedule
