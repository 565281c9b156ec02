/-
Instants as ISO 8601 text: date, `T`, time of day, six places of a second
if there is a fraction, and the offset if there is one, with its seconds
if it has any.
-/
import CronSchedule.Calendar.Instant
import CronSchedule.Text.Numeral

namespace CronSchedule
open Numeral

/-- The offset as text, `+05:30` or `-00:00:01`. -/
def Offset.text (o : Offset) : Text :=
  let s := o.seconds.natAbs
  (if o.seconds < 0 then '-' else '+') :: padded 2 (s / 3600) ++ ':' :: padded 2 (s % 3600 / 60) ++
    if s % 60 = 0 then [] else ':' :: padded 2 (s % 60)

def Date.text (d : Date) : Text := padded 4 d.year ++ '-' :: padded 2 d.month ++ '-' :: padded 2 d.day

namespace Instant

/-- The time of day as text. -/
def timeText (i : Instant) : Text :=
  padded 2 i.hour ++ ':' :: padded 2 i.minute ++ ':' :: padded 2 i.second ++
    if i.microsecond.val = 0 then [] else '.' :: padded 6 i.microsecond

/-- The instant as text. -/
def text (i : Instant) : Text :=
  i.date.text ++ 'T' :: i.timeText ++
    match i.offset with
    | none => []
    | some o => o.text

end Instant
end CronSchedule
