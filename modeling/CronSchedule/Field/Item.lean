/-
Items: what stands between the commas of a field. An item is a base, all
values, one value or a span of values, with an optional step after a
slash. Reading goes from left to right, and the first fault is reported.

* `Item.mem_progression`: a progression holds the values between its ends
  that lie a whole number of steps above the first.
-/
import CronSchedule.Field.Fault
import CronSchedule.Text.Letter

namespace CronSchedule

/-- The part of an item before its step. -/
inductive Base where
  | every
  | one (value : Int)
  | span (first last : Int)
deriving DecidableEq, Repr

/-- A base and the step after it, if any. -/
structure Item where
  base : Base
  step : Option Nat := none
deriving DecidableEq, Repr

namespace Item

/-- `first`, `first + step`, and so on, as far as `last`. -/
def progression (first last : Int) (step : Nat) : List Int :=
  (List.range ((last - first) / step + 1).toNat).map fun k : Nat => first + step * k

theorem mem_progression {a first last : Int} {step : Nat} (hs : 0 < step) :
    a ∈ progression first last step ↔ first ≤ a ∧ a ≤ last ∧ (step : Int) ∣ a - first := by
  simp only [progression, List.mem_map, List.mem_range]
  constructor
  · rintro ⟨k, hk, rfl⟩
    have h0 : (0:Int) < step := by omega
    have hk' : (k : Int) ≤ (last - first) / step := by omega
    have := (Int.le_ediv_iff_mul_le h0).mp hk'
    refine ⟨?_, ?_, ?_⟩
    · have : (0:Int) ≤ step * k := Int.mul_nonneg (by omega) (by omega)
      omega
    · rw [Int.mul_comm] at this; omega
    · exact ⟨k, by omega⟩
  · rintro ⟨h1, h2, q, hq⟩
    have h0 : (0:Int) < step := by omega
    have hq0 : 0 ≤ q := by
      refine Decidable.byContradiction fun hneg => ?_
      have : (step : Int) * q < 0 := Int.mul_neg_of_pos_of_neg h0 (by omega)
      omega
    refine ⟨q.toNat, ?_, ?_⟩
    · have : q ≤ (last - first) / step := (Int.le_ediv_iff_mul_le h0).mpr (by rw [Int.mul_comm]; omega)
      omega
    · rw [Int.toNat_of_nonneg hq0]; omega

/-- The values an item stands for, ascending. A single value with a step runs on to the greatest one. -/
def values (spec : FieldSpec) : Item → List Int
  | ⟨.every, step⟩ => progression spec.low spec.high (step.getD 1)
  | ⟨.one value, none⟩ => [value]
  | ⟨.one value, some step⟩ => progression value spec.high step
  | ⟨.span first last, step⟩ => progression first last (step.getD 1)

end Item

namespace FieldSpec

/-- The value an atom names: a plain numeral, or a name in letters. -/
def atomValue (spec : FieldSpec) (atom : Text) : Except ItemError Int :=
  if Numeral.isPlain atom then
    match Numeral.read atom with
    | .ok n => .ok n
    | .error e => .error (.tooLong e)
  else
    match if atom.all Text.isLetter then spec.lookup? atom else none with
    | some value => .ok value
    | none => .error (.fault (.notAValue atom))

/-- Reads a single value. -/
def readAtom (spec : FieldSpec) (atom : Text) : Except ItemError Int :=
  if atom.isEmpty then .error (.fault .missingValue)
  else do
    let value ← spec.atomValue atom
    if spec.contains value then .ok value else .error (Fault.outOfRange atom spec.low spec.high).raised

/-- Reads a base: a star, a value, or two values with a hyphen between. -/
def readBase (spec : FieldSpec) (base : Text) : Except ItemError Base :=
  if base = ['*'] then .ok .every
  else
    match Text.cut? '-' base with
    | none => return .one (← spec.readAtom base)
    | some (first, last) =>
      if first.isEmpty || last.contains '-' then .error (.fault (.notARange base))
      else do
        let a ← spec.readAtom first
        let b ← spec.readAtom last
        if a ≤ b then .ok (.span a b) else .error (.fault (.reversedRange base))

/-- Reads a step: a plain numeral from 1 to below the size of the field. -/
def readStep (spec : FieldSpec) (step : Text) : Except ItemError Nat :=
  if Numeral.isPlain step then
    match Numeral.read step with
    | .ok n => if 1 ≤ n ∧ n < spec.size then .ok n else .error (Fault.stepOutOfRange n (spec.size - 1)).raised
    | .error e => .error (.tooLong e)
  else .error (.fault (.stepNotANumber step))

/-- Reads an item. -/
def readItem (spec : FieldSpec) (item : Text) : Except ItemError Item :=
  if item.isEmpty then .error (.fault .emptyItem)
  else
    match Text.cut? '/' item with
    | none => return ⟨← spec.readBase item, none⟩
    | some (base, step) =>
      if step.contains '/' then .error (.fault (.manySteps item))
      else do
        let b ← spec.readBase base
        let s ← spec.readStep step
        .ok ⟨b, some s⟩

end FieldSpec
end CronSchedule
