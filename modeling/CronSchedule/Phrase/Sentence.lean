/-
A schedule in one sentence: when in the day, on which days, in which
months. What cannot be said in names is left out, but for the time, which
is always said. The five texts are taken as they stand.
-/
import CronSchedule.Phrase.Field
import CronSchedule.Expression

namespace CronSchedule
namespace Phrase

/-- The step of a text that is a star with a step and nothing else. -/
def starStep? : Text → Option Text
  | '*' :: '/' :: step => if Numeral.isPlain step then some step else none
  | _ => none

/-- The hours; none if the hour is left open. -/
def hourPhrase? (hour : Text) : Option Text :=
  if hour = ['*'] then none
  else
    match starStep? hour with
    | some step => some (every .hour step)
    | none => some ("during hour ".toList ++ hour)

/-- The time of day. -/
def timeClause (minute hour : Text) : Except PhraseError Text :=
  if minute = ['*'] ∧ hour = ['*'] then .ok "every minute".toList
  else if minute = ['0'] ∧ hour = ['*'] then .ok "every hour at minute 0".toList
  else
    match starStep? minute with
    | some step => .ok (List.intercalate [' '] (every .minute step :: (hourPhrase? hour).toList))
    | none =>
      if Numeral.isPlain minute ∧ Numeral.isPlain hour then do
        let h ← number hour
        let m ← number minute
        .ok ("at ".toList ++ Numeral.padded 2 h ++ ':' :: Numeral.padded 2 m)
      else
        let minutes := if minute = ['*'] then [] else ["at minute ".toList ++ minute]
        .ok (List.intercalate [' '] (minutes ++ (hourPhrase? hour).toList))

/-- The days, if just one of the two day fields is not left open. -/
def dayClause (dayOfMonth dayOfWeek : Text) : Except PhraseError (Option Text) :=
  if dayOfMonth ≠ ['*'] ∧ dayOfWeek = ['*'] then
    .ok (some ("on day ".toList ++ dayOfMonth ++ " of the month".toList))
  else if dayOfMonth = ['*'] ∧ dayOfWeek ≠ ['*'] then
    return (← named? .dayOfWeek weekdayNames dayOfWeek).map ("on ".toList ++ listed ·)
  else .ok none

/-- The months, if they are not left open. -/
def monthClause (month : Text) : Except PhraseError (Option Text) :=
  if month = ['*'] then .ok none
  else return (← named? .month monthNames month).map ("in ".toList ++ listed ·)

end Phrase

open Phrase in
/-- The schedule of the five texts in one sentence. -/
def Fields.sentence (f : Fields) : Except PhraseError Text := do
  let time ← timeClause f.minute f.hour
  let days ← dayClause f.dayOfMonth f.dayOfWeek
  let months ← monthClause f.month
  .ok (List.intercalate [' '] ("Runs".toList :: time :: days.toList ++ months.toList))

end CronSchedule
