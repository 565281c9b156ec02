/-
What numerals tell. A number is read back from its digits, with zeros in
front or without, so no two numbers have the same numeral. A numeral that is
filled up to a width has just that width as long as the number has a place in
it, and then it is told apart from whatever follows.

* `value_padded`: a numeral that is filled up is read back.
* `padded_append_inj`: a numeral of a fixed width is told, and so is the rest.
* `ofInt_injective`: an integer is told by its numeral.
-/
import CronSchedule.Text.Numeral
import Mathlib.Algebra.Group.Nat.Defs

namespace CronSchedule.Numeral

variable {width n m : Nat} {t u : Text}

/-! ## Digits -/

theorem not_mem_ofNat {c : Char} (hc : c.isDigit = false) (n : Nat) : c ∉ ofNat n := fun hm => by
  rw [Nat.isDigit_of_mem_toDigits (by decide) (by decide) hm] at hc
  cases hc

theorem not_mem_padded {c : Char} (hc : c.isDigit = false) (width n : Nat) : c ∉ padded width n := by
  intro hm
  rcases List.mem_append.mp hm with hm | hm
  · rw [List.eq_of_mem_replicate hm] at hc
    exact absurd hc (by decide)
  · exact not_mem_ofNat hc n hm

theorem not_mem_ofInt {c : Char} (hc : c.isDigit = false) (hminus : c ≠ '-') (i : Int) : c ∉ ofInt i := by
  cases i with
  | ofNat n => exact not_mem_ofNat hc n
  | negSucc n => exact List.not_mem_cons_of_ne_of_not_mem hminus (not_mem_ofNat hc (n + 1))

theorem ofNat_injective : Function.Injective ofNat := fun n m h => by
  have hvalue := congrArg (Nat.ofDigitChars 10 · 0) h
  simpa [ofNat] using hvalue

/-- **An integer is told by its numeral**: a minus sign is no digit. -/
theorem ofInt_injective : Function.Injective ofInt := by
  have hminus : ∀ n, '-' ∉ ofNat n := not_mem_ofNat (by decide)
  intro i j h
  cases i with
  | ofNat n =>
    cases j with
    | ofNat m => rw [ofNat_injective h]
    | negSucc m =>
      have hsign : ofNat n = '-' :: ofNat (m + 1) := h
      exact absurd (hsign ▸ List.mem_cons_self) (hminus n)
  | negSucc n =>
    cases j with
    | ofNat m =>
      have hsign : ofNat m = '-' :: ofNat (n + 1) := h.symm
      exact absurd (hsign ▸ List.mem_cons_self) (hminus m)
    | negSucc m => rw [Nat.succ.inj (ofNat_injective (List.cons.inj h).2)]

/-! ## Numerals of a fixed width -/

theorem length_padded (hw : 0 < width) (hn : n < 10 ^ width) : (padded width n).length = width := by
  have hle : (ofNat n).length ≤ width := (Nat.length_toDigits_le_iff (by decide) hw).mpr hn
  rw [padded, List.length_leftpad]
  exact Nat.max_eq_left hle

theorem value_padded (width n : Nat) : value (padded width n) = n := by
  rw [value, padded, List.leftpad, Nat.ofDigitChars_append, Nat.ofDigitChars_replicate_zero, Nat.mul_zero, ofNat,
    Nat.ofDigitChars_ten_toDigits]

theorem padded_append_inj (hw : 0 < width) (hn : n < 10 ^ width) (hm : m < 10 ^ width)
    (h : padded width n ++ t = padded width m ++ u) : n = m ∧ t = u := by
  have hlength : (padded width n).length = (padded width m).length := by
    rw [length_padded hw hn, length_padded hw hm]
  obtain ⟨hsame, hrest⟩ := List.append_inj h hlength
  refine ⟨?_, hrest⟩
  rw [← value_padded width n, hsame, value_padded]

/-- So is one that stands after a mark and is left out for zero, if the mark does not stand there otherwise. -/
theorem marked_append_inj {mark : Char} (hw : 0 < width) (hn : n < 10 ^ width) (hm : m < 10 ^ width)
    (ht : t.head? ≠ some mark) (hu : u.head? ≠ some mark)
    (h : (if n = 0 then [] else mark :: padded width n) ++ t = (if m = 0 then [] else mark :: padded width m) ++ u) :
    n = m ∧ t = u := by
  split at h
  next hzero =>
    split at h
    next hzero' => exact ⟨hzero.trans hzero'.symm, h⟩
    next =>
      rw [List.nil_append] at h
      exact absurd (h ▸ rfl) ht
  next =>
    split at h
    next =>
      rw [List.nil_append] at h
      exact absurd (h ▸ rfl) hu
    next => exact padded_append_inj hw hn hm (List.cons.inj h).2

end CronSchedule.Numeral
