/-
Sessions: a sequence of steps over named engines, settings and cursors, an
environment, a root logger and one engine that is built when it is first
needed and kept from then on. A step that fails leaves what it would have
replaced.
-/
import CronSchedule.Engine
import CronSchedule.Log.Root

namespace CronSchedule

/-- Where a schedule comes from: an expression that is read, or values given as they stand. -/
inductive ScheduleSource where
  | expression (text : Text)
  | values (schedule : Schedule)
deriving DecidableEq, Repr

def ScheduleSource.schedule : ScheduleSource → Except ExpressionError Schedule
  | .expression text => return (← Expression.read text).schedule
  | .values schedule => .ok schedule

/-- Things by name, the last one put under a name first. -/
abbrev Register (α : Type) := List (Text × α)

/-- What a session holds. -/
structure Session where
  environment : Environment := []
  settings : Register Settings := []
  engines : Register Settings := []
  cursors : Register Cursor := []
  usualEngine : Option Settings := none
  root : Log.RootLogger

/-- A step of a session. -/
inductive Step where
  | setVariable (name value : Text)
  | unsetVariable (name : Text)
  | usualSettings
  | environmentSettings
  | loadSettings (id : Text) (overrides : Overrides)
  | updateSettings (id : Text) (overrides : Overrides)
  | settings (id : Text)
  | buildEngine (id : Text) (overrides : Overrides)
  | updateEngine (id : Text) (overrides : Overrides)
  | engineSettings (id : Text)
  | askEngine (id : Text) (question : Question)
  | ask (question : Question)
  | configureLogging (level : Log.LevelChoice) (format : Text)
  | loggingState
  | openCursor (id : Text) (source : ScheduleSource) (start : Instant) (limit : Int)
  | pull (id : Text)

/-- What a step answers. -/
inductive Answer where
  | done
  | values (values : List (Setting × Value))
  | settings (settings : Settings)
  | report (report : Report)
  | logging (root : Log.RootLogger)
  | run (run : Option Instant)

/-- Why a step fails. -/
inductive StepError where
  | unknownId (id : Text)
  | settings (error : SettingsError)
  | engine (error : EngineError)
  | logging (error : Log.ConfigurationError)
  | expression (error : ExpressionError)
  | calendarEnd (error : CalendarEnd)

def StepError.message : StepError → Text
  | .unknownId id => id
  | .settings e => e.message
  | .engine e => e.message
  | .logging e => e.message
  | .expression e => e.message
  | .calendarEnd e => e.message

/-- The answer to a step and the records kept in it. -/
structure Reply where
  result : Except StepError Answer
  records : List Log.Record := []

namespace Session

/-- The start of a session: a root logger that keeps every record, with this many handlers that have no format. -/
def start (handlers : Nat) : Session := { root := ⟨10, List.replicate handlers none⟩ }

/-- Settings that were built or not, stored by `keep` if they were. -/
def storing (s : Session) (built : Except SettingsError Settings) (keep : Settings → Session) : Session × Reply :=
  match built with
  | .ok settings => (keep settings, ⟨.ok (.settings settings), []⟩)
  | .error e => (s, ⟨.error (.settings e), []⟩)

/-- The answer of an engine with these settings. -/
def asking (s : Session) (settings : Settings) (q : Question) : Reply :=
  let outcome := Engine.ask settings s.root.level q
  ⟨(outcome.result.map Answer.report).mapError StepError.engine, outcome.records⟩

/-- Applies `f` to what is registered under a name. -/
def withId {α : Type} (s : Session) (register : Register α) (id : Text)
    (f : α → Session × Reply) : Session × Reply :=
  match register.lookup id with
  | some x => f x
  | none => (s, ⟨.error (.unknownId id), []⟩)

/-- The settings of the engine that is kept for the session, built now if it has not been yet. -/
def engineForAsking (s : Session) : Except SettingsError Settings :=
  match s.usualEngine with
  | some settings => .ok settings
  | none => Engine.build s.environment []

/-- Takes a step. -/
def step (s : Session) : Step → Session × Reply
  | .setVariable name value => ({ s with environment := s.environment.set name value }, ⟨.ok .done, []⟩)
  | .unsetVariable name => ({ s with environment := s.environment.unset name }, ⟨.ok .done, []⟩)
  | .usualSettings => (s, ⟨.ok (.values (Setting.all.map fun x => (x, Draft.usual.get x))), []⟩)
  | .environmentSettings => (s, ⟨(s.environment.values.map Answer.values).mapError StepError.settings, []⟩)
  | .loadSettings id overrides =>
    s.storing (Settings.load s.environment overrides) fun x => { s with settings := (id, x) :: s.settings }
  | .updateSettings id overrides =>
    s.withId s.settings id fun old =>
      s.storing (old.update overrides) fun x => { s with settings := (id, x) :: s.settings }
  | .settings id => s.withId s.settings id fun x => (s, ⟨.ok (.settings x), []⟩)
  | .buildEngine id overrides =>
    s.storing (Engine.build s.environment overrides) fun x => { s with engines := (id, x) :: s.engines }
  | .updateEngine id overrides =>
    s.withId s.engines id fun old =>
      s.storing (old.update overrides) fun x => { s with engines := (id, x) :: s.engines }
  | .engineSettings id => s.withId s.engines id fun x => (s, ⟨.ok (.settings x), []⟩)
  | .askEngine id q => s.withId s.engines id fun x => (s, s.asking x q)
  | .ask q =>
    match s.engineForAsking with
    | .ok x => ({ s with usualEngine := some x }, s.asking x q)
    | .error e => (s, ⟨.error (.settings e), []⟩)
  | .configureLogging level format =>
    let (result, root) := s.root.configure level format
    ({ s with root := root }, ⟨(result.map fun _ => Answer.done).mapError StepError.logging, []⟩)
  | .loggingState => (s, ⟨.ok (.logging s.root), []⟩)
  | .openCursor id source start limit =>
    match source.schedule with
    | .ok schedule => ({ s with cursors := (id, .fresh schedule start limit) :: s.cursors }, ⟨.ok .done, []⟩)
    | .error e => (s, ⟨.error (.expression e), []⟩)
  | .pull id =>
    s.withId s.cursors id fun c =>
      let (result, rest) := c.pull
      ({ s with cursors := (id, rest) :: s.cursors },
        ⟨(result.map Answer.run).mapError StepError.calendarEnd, []⟩)

/-- Takes the steps in order: the session after them and the reply to each. -/
def run (s : Session) : List Step → Session × List Reply
  | [] => (s, [])
  | x :: rest =>
    let (s, reply) := s.step x
    let (s, replies) := s.run rest
    (s, reply :: replies)

end Session
end CronSchedule
