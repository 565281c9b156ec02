/-
Engines: a bad expression is reported, not raised. An engine reads the
expression, puts it into words, looks for its runs and keeps log records
of what it found. Its settings bound the number of runs and the minutes
scanned for them, and together with the root logger decide which records
are kept.
-/
import CronSchedule.Report
import CronSchedule.Runs.Cursor
import CronSchedule.Phrase.Sentence
import CronSchedule.Settings.Environment

namespace CronSchedule

/-- What an engine does not report but raise. -/
inductive EngineError where
  | tooLong (numeral : Numeral.TooLong)
  | calendarEnd (error : CalendarEnd)
  | phrase (error : PhraseError)
deriving DecidableEq, Repr

def EngineError.message : EngineError → Text
  | .tooLong e => e.message
  | .calendarEnd e => e.message
  | .phrase e => e.message

/-- What an engine is asked: an expression, the instant after which runs are looked for, and how many. -/
structure Question where
  expression : Text
  now : Instant
  count : Option Int := none
deriving DecidableEq, Repr

/-- What comes of a question: a report or an error, and log records in order. -/
structure Outcome where
  result : Except EngineError Report
  records : List Log.Record

namespace Settings

/-- How many runs are looked for: at least one and at most the greatest count. -/
def wanted (s : Settings) : Option Int → Nat
  | none => s.defaultRunCount
  | some count => (max 1 (min count s.maxRunCount)).toNat

/-- A record of this severity is kept: it reaches the level of the settings and that of the root logger. Settings
whose level is no level keep none. -/
def keeps (s : Settings) (rootLevel : Int) (severity : Log.Severity) : Bool :=
  match s.threshold? with
  | some threshold => threshold ≤ severity.number && rootLevel ≤ severity.number
  | none => false

end Settings

namespace Engine

/-- The settings of an engine that is built from overrides and the environment. -/
def build (env : Environment) (overrides : Overrides) : Except SettingsError Settings := do
  Call.buildEngine.take overrides
  Settings.load env overrides

theorem build_nil (env : Environment) : build env [] = Settings.load env [] := rfl

def rejectedRecord (expression : Text) (e : ExpressionError) : Log.Record :=
  ⟨.debug, "Rejected cron expression ".toList ++ Text.quoted expression ++ ": ".toList ++ e.message⟩

def parsedRecord (expression description : Text) : Log.Record :=
  ⟨.debug, "Parsed cron expression ".toList ++ Text.quoted expression ++ ": ".toList ++ description⟩

def shortRecord (expression : Text) (found wanted limit : Nat) : Log.Record :=
  ⟨.info, "Found ".toList ++ Numeral.ofNat found ++ " of ".toList ++ Numeral.ofNat wanted ++ " runs for ".toList ++
    Text.quoted expression ++ " within ".toList ++ Numeral.ofNat limit ++ " minutes".toList⟩

/-- The phrase of each field, under its identifier. -/
def fieldPhrases (fields : Fields) : Except PhraseError (List (Text × Text)) :=
  FieldName.all.mapM fun name => return (name.key, ← name.spec.phrase (fields.get name))

/-- The sentence and the phrases of an expression. -/
def wording (fields : Fields) : Except PhraseError (Text × List (Text × Text)) := do
  let sentence ← fields.sentence
  let phrases ← fieldPhrases fields
  .ok (sentence, phrases)

/-- The answer to a question, with all records. -/
def answer (s : Settings) (q : Question) : Outcome :=
  match Expression.read q.expression with
  | .error (.field (.tooLong e)) => ⟨.error (.tooLong e), []⟩
  | .error e =>
    ⟨.ok { expression := q.expression, isValid := false, error := some e.message }, [rejectedRecord q.expression e]⟩
  | .ok parsed =>
    let wanted := s.wanted q.count
    match parsed.schedule.nextRuns q.now wanted s.scanLimit with
    | .error e => ⟨.error (.calendarEnd e), []⟩
    | .ok runs =>
      let short := if runs.length < wanted then [shortRecord q.expression runs.length wanted s.scanLimit] else []
      match wording parsed.fields with
      | .error e => ⟨.error (.phrase e), short⟩
      | .ok (sentence, phrases) =>
        ⟨.ok {
            expression := q.expression
            isValid := true
            fields := some parsed.fields
            description := some sentence
            fieldPhrases := phrases
            runs := runs },
          short ++ [parsedRecord q.expression sentence]⟩

/-- The answer to a question, with the records that are kept. -/
def ask (s : Settings) (rootLevel : Int) (q : Question) : Outcome :=
  let outcome := answer s q
  { outcome with records := outcome.records.filter fun r => s.keeps rootLevel r.severity }

end Engine
end CronSchedule
