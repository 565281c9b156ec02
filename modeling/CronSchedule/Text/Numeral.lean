/-
Decimal numerals. A plain numeral is a run of ASCII digits; it is read
only up to a length limit, in which leading zeros count. A signed numeral
may use the digits of any script and single underscores between digits.
Under the same limit an integer is shown: one with more digits is not.
-/
import CronSchedule.Text.Basic
import CronSchedule.Text.Number

namespace CronSchedule.Numeral

/-- The most digits a numeral may have to be read, and an integer to be shown. -/
def digitLimit : Nat := 4300

/-- More digits than the limit, in a numeral that is to be read or in an integer that is to be shown. -/
inductive TooLong where
  | toRead (digits : Nat)
  | toShow
deriving DecidableEq, Repr

/-- The digits of a natural number. -/
def ofNat (n : Nat) : Text := Nat.toDigits 10 n

/-- The digits of an integer, with a minus sign when it is negative. -/
def ofInt : Int → Text
  | .ofNat n => ofNat n
  | .negSucc n => '-' :: ofNat (n + 1)

/-- The digits of `n`, filled up with zeros in front to at least `width`. -/
def padded (width n : Nat) : Text := (ofNat n).leftpad width '0'

/-- The integer has no more digits than the limit. -/
def showable (i : Int) : Bool := (ofNat i.natAbs).length ≤ digitLimit

def TooLong.message (e : TooLong) : Text :=
  let found := match e with
    | .toRead digits => ": value has ".toList ++ ofNat digits ++ " digits".toList
    | .toShow => []
  "Exceeds the limit (".toList ++ ofNat digitLimit ++ " digits) for integer string conversion".toList ++ found ++
    "; use sys.set_int_max_str_digits() to increase the limit".toList

/-! ## Plain numerals -/

/-- A text of ASCII digits, at least one. -/
def isPlain (t : Text) : Bool := !t.isEmpty && t.all Char.isDigit

/-- The number a plain numeral denotes. -/
def value (t : Text) : Nat := Nat.ofDigitChars 10 t 0

/-- Reads a plain numeral. -/
def read (t : Text) : Except TooLong Nat :=
  if t.length ≤ digitLimit then .ok (value t) else .error (.toRead t.length)

theorem isPlain_iff {t : Text} : isPlain t = true ↔ t ≠ [] ∧ ∀ c ∈ t, c.isDigit = true := by
  simp [isPlain]

/-- Nothing but digits stands in a plain numeral. -/
theorem not_mem_of_isPlain {t : Text} {c : Char} (h : isPlain t = true) (hc : c.isDigit = false) : c ∉ t := fun hm => by
  rw [(isPlain_iff.mp h).2 c hm] at hc
  cases hc

theorem read_eq_ok_iff {t : Text} {n : Nat} : read t = .ok n ↔ t.length ≤ digitLimit ∧ value t = n := by
  simp only [read]; split <;> simp [*]

/-! ## Signed numerals -/

/-- The digit values of a run of digits, with single underscores allowed between two. -/
def digitRun? : Text → Option (List Nat)
  | [] => none
  | [c] => (Text.digitValue? c).map ([·])
  | c :: '_' :: t => do return (← Text.digitValue? c) :: (← digitRun? t)
  | c :: t => do return (← Text.digitValue? c) :: (← digitRun? t)

/-- The number a list of digit values denotes. -/
def ofDigits (ds : List Nat) : Nat := ds.foldl (fun n d => 10 * n + d) 0

/-- Reads a run of digits within the limit. -/
def unsigned? (t : Text) : Option Nat := do
  let ds ← digitRun? t
  if ds.length ≤ digitLimit then some (ofDigits ds) else none

/-- Reads a signed numeral; blanks around it do not matter. -/
def signed? (t : Text) : Option Int :=
  match Text.trimmed t with
  | '-' :: ds => (unsigned? ds).map fun n => -(n : Int)
  | '+' :: ds => (unsigned? ds).map Int.ofNat
  | ds => (unsigned? ds).map Int.ofNat

end CronSchedule.Numeral
