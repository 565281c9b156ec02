/-
The values of a field: the items between its commas, read in order, and
the ascending union of what they stand for.

* `mem_union`: a union holds what either list holds.
* `union_ascending`: a union of ascending lists is ascending, so no value
  stands in it twice.
-/
import CronSchedule.Field.Item

namespace CronSchedule

/-- Every value is below those after it. -/
def Ascending (xs : List Int) : Prop := xs.Pairwise (· < ·)

/-- The union of two ascending lists, ascending. -/
def union : List Int → List Int → List Int
  | [], ys => ys
  | x :: xs, ys => ys.takeWhile (· < x) ++ x :: union xs (ys.dropWhile (· ≤ x))

theorem mem_takeWhile_lt {a x : Int} {ys : List Int} (hy : Ascending ys) :
    a ∈ ys.takeWhile (· < x) ↔ a ∈ ys ∧ a < x := by
  induction ys with
  | nil => simp
  | cons y ys ih =>
    obtain ⟨hlt, hys⟩ := List.pairwise_cons.mp hy
    by_cases h : y < x
    · simp only [List.takeWhile_cons, h, decide_true, if_true, List.mem_cons, ih hys]
      grind
    · simp only [List.takeWhile_cons, h, decide_false, List.mem_cons]
      grind

theorem mem_dropWhile_le {a x : Int} {ys : List Int} (hy : Ascending ys) :
    a ∈ ys.dropWhile (· ≤ x) ↔ a ∈ ys ∧ x < a := by
  induction ys with
  | nil => simp
  | cons y ys ih =>
    obtain ⟨hlt, hys⟩ := List.pairwise_cons.mp hy
    by_cases h : y ≤ x
    · simp only [List.dropWhile_cons, h, decide_true, if_true, List.mem_cons, ih hys]
      grind
    · simp only [List.dropWhile_cons, h, decide_false, List.mem_cons]
      grind

theorem mem_union {a : Int} {xs ys : List Int} (hy : Ascending ys) : a ∈ union xs ys ↔ a ∈ xs ∨ a ∈ ys := by
  induction xs generalizing ys with
  | nil => simp [union]
  | cons x xs ih =>
    have hd : Ascending (ys.dropWhile (· ≤ x)) := hy.sublist (List.dropWhile_sublist _)
    simp only [union, List.mem_append, List.mem_cons, ih hd, mem_takeWhile_lt hy, mem_dropWhile_le hy]
    grind

theorem union_ascending {xs ys : List Int} (hx : Ascending xs) (hy : Ascending ys) : Ascending (union xs ys) := by
  induction xs generalizing ys with
  | nil => exact hy
  | cons x xs ih =>
    obtain ⟨hlt, hxs⟩ := List.pairwise_cons.mp hx
    have hd : Ascending (ys.dropWhile (· ≤ x)) := hy.sublist (List.dropWhile_sublist _)
    have ht : Ascending (ys.takeWhile (· < x)) := hy.sublist (List.takeWhile_sublist _)
    have hr : ∀ a ∈ union xs (ys.dropWhile (· ≤ x)), x < a := fun a ha => by
      rcases (mem_union hd).mp ha with h | h
      · exact hlt a h
      · exact ((mem_dropWhile_le hy).mp h).2
    refine List.pairwise_append.mpr ⟨ht, List.pairwise_cons.mpr ⟨hr, ih hxs hd⟩, ?_⟩
    intro a ha b hb
    have := ((mem_takeWhile_lt hy).mp ha).2
    rcases List.mem_cons.mp hb with rfl | h
    · exact this
    · exact Int.lt_trans this (hr b h)

namespace FieldSpec

/-- The values the field text stands for, ascending. -/
def values (spec : FieldSpec) (raw : Text) : Except FieldError (List Int) :=
  if raw.isEmpty then .error (.malformed spec.name spec.label raw .emptyField)
  else
    match (List.splitOn ',' raw).mapM spec.readItem with
    | .ok items => .ok (items.foldr (fun item vs => union (item.values spec) vs) [])
    | .error e => .error (e.inField spec raw)

end FieldSpec
end CronSchedule
