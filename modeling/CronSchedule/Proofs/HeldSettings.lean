/-
The settings that exist in a session. They have been loaded, or come from
an update of others, and both end with the checks of a draft as a whole. So
whatever was done before, and whatever of it failed, they are valid, and an
engine that has them stays within its own bounds.

* `holds_step`: where the settings in a session come from.
* `run_valid`: what a session holds stays valid in every run.
* `held_settings_valid`: and what this means for the questions asked.
-/
import CronSchedule.Proofs.CursorPulls
import CronSchedule.Proofs.Reports
import CronSchedule.Proofs.ValidSettings

namespace CronSchedule

/-! ## Loads and updates -/

namespace Settings

variable {s old : Settings} {env : Environment} {overrides : Overrides}

theorem valid_of_load (h : load env overrides = .ok s) : s.Valid := by
  obtain ⟨_, _, h⟩ := bind_eq_ok_iff.mp h
  obtain ⟨_, _, h⟩ := bind_eq_ok_iff.mp h
  split at h
  next => cases h
  next => exact (Draft.check_eq_ok_iff.mp h).2

theorem load_of_build (h : Engine.build env overrides = .ok s) : load env overrides = .ok s := by
  obtain ⟨_, _, h⟩ := bind_eq_ok_iff.mp h
  exact h

theorem valid_of_update (h : old.update overrides = .ok s) : s.Valid := by
  obtain ⟨_, _, h⟩ := bind_eq_ok_iff.mp h
  exact (Draft.check_eq_ok_iff.mp h).2

theorem Valid.check_iff (h : s.Valid) (d : Draft) : d.check = .ok s ↔ d = s.toDraft :=
  Draft.check_eq_ok_iff.trans (and_iff_left h)

theorem Valid.wanted_bounds (h : s.Valid) (count : Option Int) :
    1 ≤ s.wanted count ∧ s.wanted count ≤ s.maxRunCount := by
  have hmax := h.max_pos
  cases count with
  | none => exact ⟨h.default_pos, h.default_le_max⟩
  | some count =>
    simp only [wanted]
    omega

/-- The level of settings with a level known decides on a record together with that of the root logger. -/
theorem keeps_of_threshold {level : Nat} (h : s.threshold? = some level) (root : Int) (severity : Log.Severity) :
    s.keeps root severity = true ↔ level ≤ severity.number ∧ root ≤ severity.number := by
  simp only [keeps, h, Bool.and_eq_true, decide_eq_true_eq]

end Settings

/-! ## What engines return -/

theorem Engine.length_runs_le {settings : Settings} {q : Question} {report : Report}
    (h : (answer settings q).result = .ok report) : report.runs.length ≤ settings.wanted q.count := by
  cases hread : Expression.read q.expression with
  | error error =>
    rw [runs_of_rejected hread h]
    exact Nat.zero_le _
  | ok e =>
    have hruns := @runs_of_read settings q e hread
    rw [h] at hruns
    cases hfound : e.schedule.nextRuns q.now (settings.wanted q.count) settings.scanLimit with
    | error ended =>
      rw [hfound] at hruns
      cases hruns
    | ok runs =>
      rw [hfound] at hruns
      obtain rfl : report.runs = runs := Except.ok.inj hruns
      exact Cursor.length_runs_le hfound

/-! ## Sessions -/

namespace Session

variable {s : Session} {x : Step} {settings : Settings}

/-- The settings exist in the session: by themselves, in an engine, or in the engine it keeps. -/
def Holds (s : Session) (settings : Settings) : Prop :=
  settings ∈ s.settings.map Prod.snd ∨ settings ∈ s.engines.map Prod.snd ∨ s.usualEngine = some settings

theorem mem_of_lookup {register : Register Settings} {id : Text} (h : register.lookup id = some settings) :
    settings ∈ register.map Prod.snd := by
  obtain ⟨before, after, rfl, _⟩ := List.lookup_eq_some_iff.mp h
  simp

theorem holds_put_settings {id : Text} {new : Settings} :
    Holds { s with settings := (id, new) :: s.settings } settings ↔ settings = new ∨ s.Holds settings := by
  simp only [Holds, List.map_cons, List.mem_cons, or_assoc]

theorem holds_put_engine {id : Text} {new : Settings} :
    Holds { s with engines := (id, new) :: s.engines } settings ↔ settings = new ∨ s.Holds settings := by
  simp only [Holds, List.map_cons, List.mem_cons, or_assoc, or_left_comm]

theorem holds_keep_engine {new : Settings} (h : Holds { s with usualEngine := some new } settings) :
    settings = new ∨ s.Holds settings := by
  rcases h with h | h | h
  · exact .inr (.inl h)
  · exact .inr (.inr (.inl h))
  · exact .inl (Option.some.inj h).symm

/-- **Where the settings in a session come from**: they were in it before, or they have been loaded, or they are an
update of settings that were in it. -/
theorem holds_step (h : (s.step x).1.Holds settings) :
    s.Holds settings ∨ (∃ overrides, Settings.load s.environment overrides = .ok settings) ∨
      ∃ old overrides, s.Holds old ∧ old.update overrides = .ok settings := by
  have hleads := step_leads s x
  generalize (s.step x).1 = s' at h hleads
  cases hleads with
  | loaded hload =>
    rcases holds_put_settings.mp h with rfl | h
    · exact .inr (.inl ⟨_, hload⟩)
    · exact .inl h
  | updated hold hupdate =>
    rcases holds_put_settings.mp h with rfl | h
    · exact .inr (.inr ⟨_, _, .inl (mem_of_lookup hold), hupdate⟩)
    · exact .inl h
  | built hbuild =>
    rcases holds_put_engine.mp h with rfl | h
    · exact .inr (.inl ⟨_, Settings.load_of_build hbuild⟩)
    · exact .inl h
  | engineUpdated hold hupdate =>
    rcases holds_put_engine.mp h with rfl | h
    · exact .inr (.inr ⟨_, _, .inr (.inl (mem_of_lookup hold)), hupdate⟩)
    · exact .inl h
  | asked hask =>
    rcases holds_keep_engine h with rfl | h
    · rcases engineForAsking_eq_ok_iff.mp hask with hkept | ⟨_, hload⟩
      · exact .inl (.inr (.inr hkept))
      · exact .inr (.inl ⟨_, hload⟩)
    · exact .inl h
  | _ => exact .inl h

/-- **What a session holds stays valid**, whatever steps are taken. -/
theorem run_valid (hs : ∀ settings, s.Holds settings → settings.Valid) (steps : List Step) :
    ∀ settings, (s.run steps).1.Holds settings → settings.Valid := by
  refine run_keeps (P := fun s => ∀ settings, s.Holds settings → settings.Valid) ?_ steps hs
  intro s x hs settings h
  rcases holds_step h with h | ⟨_, hload⟩ | ⟨_, _, _, hupdate⟩
  · exact hs settings h
  · exact Settings.valid_of_load hload
  · exact Settings.valid_of_update hupdate

theorem not_holds_start (handlers : Nat) (settings : Settings) : ¬ (start handlers).Holds settings := by
  simp [Holds, start]

/-- **All settings that exist in a session are valid**, whatever has been set, loaded, built, updated and asked before,
and whatever of it failed: nothing but three integers and a text comes to them, the integers are positive, the usual
count is not above the greatest one, and the text is the name of a level. So an engine that has them looks for one run
at least and for the greatest count at most, reports the runs that are found and no more than that, and the level of
each record is compared with a number. -/
theorem held_settings_valid (handlers : Nat) (steps : List Step) (settings : Settings)
    (h : ((start handlers).run steps).1.Holds settings) :
    settings.Valid ∧ (∀ d : Draft, d.check = .ok settings ↔ d = settings.toDraft) ∧
      (∀ (root : Int) (q : Question),
        1 ≤ settings.wanted q.count ∧ settings.wanted q.count ≤ settings.maxRunCount ∧
        (∀ e, Expression.read q.expression = .ok e →
          (Engine.ask settings root q).result.map Report.runs =
            (e.schedule.nextRuns q.now (settings.wanted q.count) settings.scanLimit).mapError EngineError.calendarEnd) ∧
        ∀ report, (Engine.ask settings root q).result = .ok report → report.runs.length ≤ settings.maxRunCount) ∧
      ∃ level, Log.levelNumber? settings.logLevel = some level ∧ ∀ (root : Int) (severity : Log.Severity),
        settings.keeps root severity = true ↔ level ≤ severity.number ∧ root ≤ severity.number := by
  have hv := run_valid (fun settings h => absurd h (not_holds_start handlers settings)) steps settings h
  obtain ⟨level, hlevel⟩ := hv.level_known
  refine ⟨hv, hv.check_iff, fun root q => ?_, level, hlevel, Settings.keeps_of_threshold hlevel⟩
  obtain ⟨hpos, hmax⟩ := hv.wanted_bounds q.count
  refine ⟨hpos, hmax, fun e he => ?_, fun report hreport => ?_⟩
  · exact Engine.runs_of_read he
  · exact Nat.le_trans (Engine.length_runs_le hreport) hmax

/-- An engine whose variable could not be read at first, and of whose updates only the last one succeeds. -/
theorem held_settings_valid_afterFailures :
    let greatest := "max_run_count".toList
    let usual := "default_run_count".toList
    let steps : List Step := [
      .setVariable "CRONSIGHT_MAX_RUN_COUNT".toList "many".toList, .buildEngine ['e'] [],
      .setVariable "CRONSIGHT_MAX_RUN_COUNT".toList " 7 ".toList,
      .buildEngine ['e'] [("log_level".toList, .text "debug".toList)],
      .updateEngine ['e'] [(greatest, .flag true)], .updateEngine ['e'] [(usual, .int 8)],
      .updateEngine ['e'] [(usual, .int 6), ("colour".toList, .null)]]
    let settings : Settings := ⟨6, 7, leapYearMinutes, "debug".toList⟩
    ((start 0).run steps).1.Holds settings ∧ settings.Valid ∧ ∀ now report,
      (Engine.ask settings 10 ⟨"* * * * *".toList, now, some 1000⟩).result = .ok report → report.runs.length ≤ 7 := by
  intro greatest usual steps settings
  have hlookup : ((start 0).run steps).1.engines.lookup ['e'] = some settings := by decide +kernel
  have hholds : ((start 0).run steps).1.Holds settings := .inr (.inl (mem_of_lookup hlookup))
  obtain ⟨hv, _, hask, _⟩ := held_settings_valid 0 steps settings hholds
  exact ⟨hholds, hv, fun now report => (hask 10 ⟨"* * * * *".toList, now, some 1000⟩).2.2.2 report⟩

end Session
end CronSchedule
