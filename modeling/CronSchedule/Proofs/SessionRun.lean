/-
Runs of a session. A step changes at most one part of the session and
leaves the others as they are. So what each step keeps is kept by a run,
and a step in the middle of a run is answered by the session that the
steps before it led to.

* `step_leads`: all that a step can make of a session.
* `run_keeps`: what each step keeps is kept by a run.
* `reply_at`: the reply to a step in the middle of a run.
-/
import CronSchedule.Session

namespace CronSchedule

/-- The environment after a step. Only a step that sets or removes a variable changes it. -/
def Environment.afterStep (env : Environment) : Step → Environment
  | .setVariable name value => env.set name value
  | .unsetVariable name => env.unset name
  | _ => env

/-- The environment after these steps. -/
def Environment.after (env : Environment) (steps : List Step) : Environment := steps.foldl afterStep env

namespace Session

variable {s s' : Session} {x : Step} {settings : Settings}

/-! ## Steps -/

theorem engineForAsking_eq_ok_iff :
    s.engineForAsking = .ok settings ↔
      s.usualEngine = some settings ∨ s.usualEngine = none ∧ Settings.load s.environment [] = .ok settings := by
  unfold engineForAsking
  cases s.usualEngine <;> simp [Engine.build_nil]

theorem step_ask {q : Question} (h : s.engineForAsking = .ok settings) :
    s.step (.ask q) = ({ s with usualEngine := some settings }, s.asking settings q) := by
  simp only [step, h]

theorem step_ask_error {q : Question} {e : SettingsError} (h : s.engineForAsking = .error e) :
    s.step (.ask q) = (s, ⟨.error (.settings e), []⟩) := by
  simp only [step, h]

/-- What a step can make of a session. A step that fails or only shows something is one of `environment`. -/
inductive Leads (s : Session) : Step → Session → Prop
  | environment (x : Step) : Leads s x { s with environment := s.environment.afterStep x }
  | loaded {id : Text} {overrides : Overrides} {settings : Settings} :
      Settings.load s.environment overrides = .ok settings →
      Leads s (.loadSettings id overrides) { s with settings := (id, settings) :: s.settings }
  | updated {id : Text} {overrides : Overrides} {old settings : Settings} :
      s.settings.lookup id = some old → old.update overrides = .ok settings →
      Leads s (.updateSettings id overrides) { s with settings := (id, settings) :: s.settings }
  | built {id : Text} {overrides : Overrides} {settings : Settings} :
      Engine.build s.environment overrides = .ok settings →
      Leads s (.buildEngine id overrides) { s with engines := (id, settings) :: s.engines }
  | engineUpdated {id : Text} {overrides : Overrides} {old settings : Settings} :
      s.engines.lookup id = some old → old.update overrides = .ok settings →
      Leads s (.updateEngine id overrides) { s with engines := (id, settings) :: s.engines }
  | asked {q : Question} {settings : Settings} : s.engineForAsking = .ok settings →
      Leads s (.ask q) { s with usualEngine := some settings }
  | configured {level : Log.LevelChoice} {format : Text} :
      Leads s (.configureLogging level format) { s with root := (s.root.configure level format).2 }
  | opened {id : Text} {source : ScheduleSource} {start : Instant} {limit : Int} {schedule : Schedule} :
      source.schedule = .ok schedule →
      Leads s (.openCursor id source start limit)
        { s with cursors := (id, .fresh schedule start limit) :: s.cursors }
  | pulled {id : Text} {c : Cursor} : s.cursors.lookup id = some c →
      Leads s (.pull id) { s with cursors := (id, c.pull.2) :: s.cursors }

theorem storing_leads {built : Except SettingsError Settings} {keep : Settings → Session} (hsame : s.Leads x s)
    (h : ∀ settings, built = .ok settings → s.Leads x (keep settings)) : s.Leads x (s.storing built keep).1 := by
  cases hbuilt : built with
  | ok settings => exact h settings hbuilt
  | error e => exact hsame

theorem withId_leads {α : Type} {register : Register α} {id : Text} {f : α → Session × Reply} (hsame : s.Leads x s)
    (h : ∀ a, register.lookup id = some a → s.Leads x (f a).1) : s.Leads x (s.withId register id f).1 := by
  unfold withId
  cases hfound : register.lookup id with
  | some a => exact h a hfound
  | none => exact hsame

/-- **All that a step can make of a session.** -/
theorem step_leads (s : Session) (x : Step) : s.Leads x (s.step x).1 := by
  cases x with
  | setVariable name value => exact .environment (.setVariable name value)
  | unsetVariable name => exact .environment (.unsetVariable name)
  | usualSettings => exact .environment .usualSettings
  | environmentSettings => exact .environment .environmentSettings
  | loadSettings id overrides => exact storing_leads (.environment _) fun _ h => .loaded h
  | updateSettings id overrides =>
    refine withId_leads (.environment _) fun old hold => ?_
    exact storing_leads (.environment _) fun _ h => .updated hold h
  | settings id => exact withId_leads (.environment _) fun _ _ => .environment _
  | buildEngine id overrides => exact storing_leads (.environment _) fun _ h => .built h
  | updateEngine id overrides =>
    refine withId_leads (.environment _) fun old hold => ?_
    exact storing_leads (.environment _) fun _ h => .engineUpdated hold h
  | engineSettings id => exact withId_leads (.environment _) fun _ _ => .environment _
  | askEngine id q => exact withId_leads (.environment _) fun _ _ => .environment _
  | ask q =>
    cases h : s.engineForAsking with
    | ok settings => rw [step_ask h]; exact .asked h
    | error e => rw [step_ask_error h]; exact .environment (.ask q)
  | configureLogging level format => exact .configured
  | loggingState => exact .environment .loggingState
  | openCursor id source start limit =>
    simp only [step]
    cases h : source.schedule with
    | ok schedule => exact .opened h
    | error e => exact .environment (.openCursor id source start limit)
  | pull id => exact withId_leads (.environment _) fun _ h => .pulled h

theorem run_cons (s : Session) (x : Step) (steps : List Step) :
    s.run (x :: steps) = (((s.step x).1.run steps).1, (s.step x).2 :: ((s.step x).1.run steps).2) := rfl

theorem run_append (s : Session) (steps more : List Step) :
    s.run (steps ++ more) = (((s.run steps).1.run more).1, (s.run steps).2 ++ ((s.run steps).1.run more).2) := by
  induction steps generalizing s with
  | nil => rfl
  | cons x steps ih => simp only [List.cons_append, run_cons, ih]

theorem length_replies (s : Session) (steps : List Step) : (s.run steps).2.length = steps.length := by
  induction steps generalizing s with
  | nil => rfl
  | cons x steps ih => simp only [run_cons, List.length_cons, ih]

/-- **A step in the middle of a run** is answered by the session that the steps before it led to. -/
theorem reply_at (s : Session) (before : List Step) (x : Step) (after : List Step) :
    (s.run (before ++ x :: after)).2[before.length]? = some ((s.run before).1.step x).2 := by
  rw [run_append, ← length_replies s before, List.getElem?_append_right (Nat.le_refl _), Nat.sub_self]
  rfl

/-- **What each step keeps is kept by a run.** -/
theorem run_keeps {P : Session → Prop} (hstep : ∀ s x, P s → P (s.step x).1) (steps : List Step) (h : P s) :
    P (s.run steps).1 := by
  induction steps generalizing s with
  | nil => exact h
  | cons x steps ih => exact ih (hstep s x h)

end Session
end CronSchedule
