/-
Case mappings of single characters: runs of code points that move by a
common shift, and the few characters that become several.
-/
import CronSchedule.Text.Basic

namespace CronSchedule.Text

/-- Every `stride`-th code point from `first` to `last` moves by `shift`. -/
structure CaseRun where
  first : Nat
  last : Nat
  stride : Nat
  shift : Int
deriving DecidableEq, Repr

/-- Where the run moves a code point; none for one outside the run. -/
def CaseRun.move? (r : CaseRun) (n : Nat) : Option Nat :=
  if r.first ≤ n && n ≤ r.last && (n - r.first) % r.stride == 0 then some (n + r.shift).toNat else none

/-- What a character becomes: one other character, several, or itself. -/
def mapChar (runs : List CaseRun) (expansions : List (Nat × List Nat)) (c : Char) : Text :=
  match runs.findSome? (·.move? c.toNat) with
  | some n => [Char.ofNat n]
  | none =>
    match expansions.lookup c.toNat with
    | some codes => codes.map Char.ofNat
    | none => [c]

end CronSchedule.Text
