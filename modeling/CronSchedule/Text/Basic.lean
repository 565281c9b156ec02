/-
Texts and how they are cut. A text is its list of characters; strings are
converted at the border of the program. Sets of characters are given by
ranges of code points, the blanks that part words among them.
-/
namespace CronSchedule

/-- A text, as its list of characters. -/
abbrev Text := List Char

namespace Text

/-- What stands before and after the first `mark`; none when it does not occur. -/
def cut? (mark : Char) : Text → Option (Text × Text)
  | [] => none
  | c :: t => if c = mark then some ([], t) else (cut? mark t).map fun (before, after) => (c :: before, after)

theorem cut?_eq_none_iff {mark : Char} {t : Text} : cut? mark t = none ↔ mark ∉ t := by
  induction t with
  | nil => simp [cut?]
  | cons c t ih =>
    by_cases h : c = mark
    · simp [cut?, h]
    · simp [cut?, h, ih, Ne.symm h]

/-- A cut falls at the first mark: none stands before it, and nothing is lost. -/
theorem cut?_eq_some_iff {mark : Char} {t before after : Text} :
    cut? mark t = some (before, after) ↔ t = before ++ mark :: after ∧ mark ∉ before := by
  induction t generalizing before with
  | nil => simp [cut?]
  | cons c t ih =>
    by_cases h : c = mark
    · subst h
      cases before with
      | nil => simp [cut?, eq_comm]
      | cons d before => simp [cut?]; intro hd; simp [hd]
    · cases before with
      | nil => simp [cut?, h]
      | cons d before =>
        simp only [cut?, h, if_false, Option.map_eq_some_iff, Prod.mk.injEq, Prod.exists, List.cons_append,
          List.cons.injEq, List.mem_cons, not_or]
        constructor
        · rintro ⟨b, a, hc, ⟨rfl, rfl⟩, rfl⟩
          obtain ⟨rfl, hm⟩ := ih.mp hc
          exact ⟨⟨rfl, rfl⟩, Ne.symm h, hm⟩
        · rintro ⟨⟨rfl, rfl⟩, _, hm⟩
          exact ⟨before, after, ih.mpr ⟨rfl, hm⟩, ⟨rfl, rfl⟩, rfl⟩

/-! ## Ranges of characters -/

/-- The code points from `first` to `last`, both included. -/
structure CodeRange where
  first : Nat
  last : Nat
deriving DecidableEq, Repr

/-- The character lies in the range. -/
def CodeRange.has (r : CodeRange) (c : Char) : Bool := r.first ≤ c.toNat && c.toNat ≤ r.last

/-! ## Blanks -/

/-- The code points of the blanks: white space, and the four information separators. -/
def blankRanges : List CodeRange := [
  ⟨0x9, 0xD⟩, ⟨0x1C, 0x20⟩, ⟨0x85, 0x85⟩, ⟨0xA0, 0xA0⟩, ⟨0x1680, 0x1680⟩, ⟨0x2000, 0x200A⟩, ⟨0x2028, 0x2029⟩,
  ⟨0x202F, 0x202F⟩, ⟨0x205F, 0x205F⟩, ⟨0x3000, 0x3000⟩]

/-- A character that separates words. -/
def isBlank (c : Char) : Bool := blankRanges.any (·.has c)

/-- The longest runs of characters that are not blank, in order. -/
def words (t : Text) : List Text := (List.splitOnP isBlank t).filter fun word => !word.isEmpty

/-- The text without the blanks at its two ends. -/
def trimmed (t : Text) : Text := ((t.dropWhile isBlank).reverse.dropWhile isBlank).reverse

end Text
end CronSchedule
