/-
Quoted text, as messages show it. The quotation mark is the apostrophe,
unless the text holds an apostrophe and no double quote. The mark in use
and the backslash are escaped; characters that do not print are shown by
their code in the shortest of three widths.
-/
import CronSchedule.Text.Printable

namespace CronSchedule.Text

/-- The low `width` hexadecimal digits of `n`, in lower case. -/
def hexDigits : Nat → Nat → Text
  | 0, _ => []
  | width + 1, n => hexDigits width (n / 16) ++ [Nat.digitChar (n % 16)]

/-- The code of a character, in the shortest of the three widths. -/
def codeEscape (c : Char) : Text :=
  let n := c.toNat
  if n < 0x100 then "\\x".toList ++ hexDigits 2 n
  else if n < 0x10000 then "\\u".toList ++ hexDigits 4 n
  else "\\U".toList ++ hexDigits 8 n

/-- A character inside quotation marks. -/
def escaped (mark c : Char) : Text :=
  if c = mark ∨ c = '\\' then ['\\', c]
  else if c = '\n' then "\\n".toList
  else if c = '\r' then "\\r".toList
  else if c = '\t' then "\\t".toList
  else if isPrintable c then [c]
  else codeEscape c

/-- The quotation mark for a text. -/
def quotationMark (t : Text) : Char := if '\'' ∈ t ∧ '"' ∉ t then '"' else '\''

/-- The text between quotation marks. -/
def quoted (t : Text) : Text :=
  let mark := quotationMark t
  mark :: t.flatMap (escaped mark) ++ [mark]

end CronSchedule.Text
