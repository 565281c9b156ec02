/-
What the level of an engine decides. It has no part in the answer: two
engines whose settings differ in nothing else make the same reports and
errors, and the same records. Only of these the one with the higher level
keeps fewer, and neither what it reports nor what it keeps depends on what
other engines do in the meantime.

* `Engine.ask_filter`: two levels, compared record by record.
* `Engine.recorded_of_answer`: all records there are of a report.
* `Session.spared_run`: what a run leaves as it is.
* `Session.level_filters`: and so what two engines of a session answer.
-/
import CronSchedule.Proofs.HeldSettings
import CronSchedule.Proofs.UsualEngine

namespace CronSchedule

/-! ## Settings up to their level -/

namespace Settings

variable {x y : Settings} {low high : Nat}

/-- The settings differ at most in their level. -/
def SameButLevel (x y : Settings) : Prop := y = { x with logLevel := y.logLevel }

/-- The higher of two levels keeps those records that the lower one keeps and that reach it. -/
theorem keeps_of_le (hlow : x.threshold? = some low) (hhigh : y.threshold? = some high) (hle : low ≤ high)
    (root : Int) (severity : Log.Severity) :
    y.keeps root severity = (decide (high ≤ severity.number) && x.keeps root severity) := by
  rw [Bool.eq_iff_iff, Bool.and_eq_true, decide_eq_true_eq, keeps_of_threshold hlow, keeps_of_threshold hhigh]
  exact ⟨fun h => ⟨h.1, Nat.le_trans hle h.1, h.2⟩, fun h => ⟨h.1, h.2.2⟩⟩

end Settings

namespace Log

theorem Severity.debug_le (severity : Severity) : Severity.debug.number ≤ severity.number := by
  cases severity <;> decide

end Log

/-! ## Answers -/

namespace Engine

variable {x y : Settings} {q : Question} {report : Report} {low high : Nat}

theorem answer_of_sameButLevel (h : x.SameButLevel y) (q : Question) : answer y q = answer x q := by
  rw [h]
  rfl

/-- **Of the same records the higher level keeps those that reach it**, in the same order. The result is the same. -/
theorem ask_filter (hsame : x.SameButLevel y) (hlow : x.threshold? = some low) (hhigh : y.threshold? = some high)
    (hle : low ≤ high) (root : Int) (q : Question) :
    (ask y root q).records = (ask x root q).records.filter fun r => high ≤ r.severity.number := by
  simp only [ask, answer_of_sameButLevel hsame, List.filter_filter]
  exact List.filter_congr fun r _ => Settings.keeps_of_le hlow hhigh hle root r.severity

theorem ask_of_low (hlow : x.threshold? = some low) (hdebug : low ≤ Log.Severity.debug.number) {root : Int}
    (hroot : root ≤ Log.Severity.debug.number) (q : Question) : (ask x root q).records = (answer x q).records := by
  refine List.filter_eq_self.mpr fun r _ => (Settings.keeps_of_threshold hlow root r.severity).mpr ⟨?_, ?_⟩
  · exact Nat.le_trans hdebug r.severity.debug_le
  · exact Int.le_trans hroot (Int.ofNat_le.mpr r.severity.debug_le)

/-! ## All records of a report -/

/-- All records that are made of a report: of what was rejected the rejection, and of what was read a record of its
sentence, after one that runs are missing if fewer were found than wanted. -/
inductive Recorded (settings : Settings) (q : Question) (report : Report) : List Log.Record → Prop where
  | rejected {e : ExpressionError} : Expression.read q.expression = .error e → report.isValid = false →
      Recorded settings q report [rejectedRecord q.expression e]
  | short {sentence : Text} : report.isValid = true → report.description = some sentence →
      report.runs.length < settings.wanted q.count →
      Recorded settings q report
        [shortRecord q.expression report.runs.length (settings.wanted q.count) settings.scanLimit,
          parsedRecord q.expression sentence]
  | full {sentence : Text} : report.isValid = true → report.description = some sentence →
      settings.wanted q.count ≤ report.runs.length →
      Recorded settings q report [parsedRecord q.expression sentence]

theorem Recorded.severities {records : List Log.Record} (h : Recorded x q report records) :
    records.map Log.Record.severity =
      if report.isValid = true ∧ report.runs.length < x.wanted q.count then [.info, .debug] else [.debug] := by
  cases h with
  | rejected _ hinvalid =>
    rw [if_neg fun h => Bool.false_ne_true (hinvalid.symm.trans h.1)]
    rfl
  | short hvalid _ hfew =>
    rw [if_pos ⟨hvalid, hfew⟩]
    rfl
  | full _ _ hall =>
    rw [if_neg fun h => Nat.not_lt.mpr hall h.2]
    rfl

theorem recorded_of_answer (h : (answer x q).result = .ok report) : Recorded x q report (answer x q).records := by
  unfold answer at h ⊢
  split at h
  next => cases h
  next e hlong hread =>
    cases h
    exact .rejected hread rfl
  next e hread =>
    dsimp only at h ⊢
    cases hruns : e.schedule.nextRuns q.now (x.wanted q.count) x.scanLimit with
    | error ended =>
      rw [hruns] at h
      cases h
    | ok runs =>
      rw [hruns] at h
      cases hwords : wording e.fields with
      | error e =>
        rw [hwords] at h
        cases h
      | ok words =>
        rw [hwords] at h
        cases h
        by_cases hfew : runs.length < x.wanted q.count
        · simp only [if_pos hfew]
          exact .short rfl rfl hfew
        · simp only [if_neg hfew]
          exact .full rfl rfl (Nat.not_lt.mp hfew)

end Engine

/-! ## Steps between -/

/-- The step builds no engine under this name, updates none under it and does not configure the logging. -/
def Step.Spares (id : Text) : Step → Prop
  | .buildEngine other _ => other ≠ id
  | .updateEngine other _ => other ≠ id
  | .configureLogging _ _ => False
  | _ => True

namespace Session

variable {s : Session} {id a b : Text} {x y : Settings} {steps before between : List Step} {q : Question}

theorem spared_step {step : Step} (h : step.Spares id) :
    (s.step step).1.engines.lookup id = s.engines.lookup id ∧ (s.step step).1.root = s.root := by
  have hother : ∀ {other : Text} {new : Settings}, other ≠ id →
      List.lookup id ((other, new) :: s.engines) = s.engines.lookup id := by
    intro other new hne
    rw [List.lookup_cons, beq_false_of_ne hne.symm]
  have hleads := step_leads s step
  generalize (s.step step).1 = s' at hleads ⊢
  cases hleads with
  | built => exact ⟨hother h, rfl⟩
  | engineUpdated => exact ⟨hother h, rfl⟩
  | configured => exact h.elim
  | _ => exact ⟨rfl, rfl⟩

/-- **A run that spares an engine** leaves its settings and the root logger as they are. -/
theorem spared_run (h : ∀ step ∈ steps, step.Spares id) :
    (s.run steps).1.engines.lookup id = s.engines.lookup id ∧ (s.run steps).1.root = s.root := by
  induction steps generalizing s with
  | nil => exact ⟨rfl, rfl⟩
  | cons step steps ih =>
    obtain ⟨hengine, hroot⟩ := spared_step (s := s) (h step List.mem_cons_self)
    obtain ⟨hengine', hroot'⟩ := ih (s := (s.step step).1) fun y hy => h y (List.mem_cons_of_mem step hy)
    exact ⟨hengine'.trans hengine, hroot'.trans hroot⟩

theorem reply_of_spared (hid : s.engines.lookup id = some x) (h : ∀ step ∈ steps, step.Spares id) :
    ((s.run steps).1.step (.askEngine id q)).2 = s.asking x q := by
  obtain ⟨hengine, hroot⟩ := spared_run (s := s) h
  exact reply_askEngine (hengine.trans hid) (congrArg Log.RootLogger.level hroot)

theorem asking_eq_report_iff {report : Report} :
    (s.asking x q).result = .ok (.report report) ↔ (Engine.answer x q).result = .ok report := by
  change ((Engine.answer x q).result.map Answer.report).mapError StepError.engine = _ ↔ _
  cases (Engine.answer x q).result with
  | error e => exact ⟨fun h => (nomatch h), fun h => (nomatch h)⟩
  | ok found => exact ⟨fun h => by cases h; rfl, fun h => by cases h; rfl⟩

/-- **The level of an engine filters its records and does nothing else.** Two engines of a session have valid settings
that differ at most in their levels, and each is asked the same question after any steps in which other engines may be
built, updated and asked, as long as neither the one asked takes other settings nor the logging is configured. Then one
result is the other, be it a report or an error. The records of the engine with the higher level are those of the other
that reach the higher level, in the same order, at every level of the root logger. And if the level and that of the root
logger let all records pass, then those of a rejected expression are its rejection, and those of one that was read are a
record of its sentence, after one of information if and only if fewer runs were found than wanted. -/
theorem level_filters (ha : s.engines.lookup a = some x) (hb : s.engines.lookup b = some y) (hx : x.Valid)
    (hy : y.Valid) (hsame : x.SameButLevel y) (hbefore : ∀ step ∈ before, step.Spares a)
    (hbetween : ∀ step ∈ between, step.Spares b) (q : Question) :
    let reply := ((s.run before).1.step (.askEngine a q)).2
    let other := ((s.run between).1.step (.askEngine b q)).2
    other.result = reply.result ∧
      ∃ low high, x.threshold? = some low ∧ y.threshold? = some high ∧
        (low ≤ high → other.records = reply.records.filter fun r => high ≤ r.severity.number) ∧
        (low ≤ Log.Severity.debug.number → s.root.level ≤ Log.Severity.debug.number → ∀ report,
          reply.result = .ok (.report report) → Engine.Recorded x q report reply.records ∧
            reply.records.map Log.Record.severity =
              if report.isValid = true ∧ report.runs.length < x.wanted q.count then [.info, .debug] else [.debug]) := by
  intro reply other
  have hreply : reply = s.asking x q := reply_of_spared ha hbefore
  have hother : other = s.asking y q := reply_of_spared hb hbetween
  obtain ⟨low, hlow⟩ := hx.level_known
  obtain ⟨high, hhigh⟩ := hy.level_known
  rw [hreply, hother]
  refine ⟨?_, low, high, hlow, hhigh, fun hle => ?_, fun hdebug hroot report hreport => ?_⟩
  · simp only [asking, Engine.ask, Engine.answer_of_sameButLevel hsame]
  · exact Engine.ask_filter hsame hlow hhigh hle s.root.level q
  · have hrecorded : Engine.Recorded x q report (s.asking x q).records := by
      simp only [asking, Engine.ask_of_low hlow hdebug hroot]
      exact Engine.recorded_of_answer (asking_eq_report_iff.mp hreport)
    exact ⟨hrecorded, hrecorded.severities⟩

/-- Two minutes are scanned for a day that comes once in four years. Between the two questions a third engine is built
with the lower level, updated and asked. -/
theorem level_filters_leapDay :
    let low : Settings := ⟨5, 20, 2, "Debug".toList⟩
    let high : Settings := ⟨5, 20, 2, "info".toList⟩
    let s : Session := { engines := [(['a'], low), (['b'], high)], root := ⟨-1, []⟩ }
    let q : Question := ⟨"0 0 29 2 *".toList, ⟨⟨2023, 2, 28, by decide⟩, 12, 0, 0, 0, none⟩, some 3⟩
    let between : List Step := [.askEngine ['a'] q, .buildEngine ['c'] [("log_level".toList, .text "DEBUG".toList)],
      .updateEngine ['c'] [("log_level".toList, .text "ERROR".toList)], .askEngine ['c'] q]
    let short := Engine.shortRecord q.expression 0 3 2
    (s.step (.askEngine ['a'] q)).2.records =
        [short, Engine.parsedRecord q.expression "Runs at 00:00 on day 29 of the month in February".toList] ∧
      ((s.run between).1.step (.askEngine ['b'] q)).2.records = [short] := by
  intro low high s q between short
  obtain ⟨_, level, level', hlevel, hlevel', hfilter, hrecorded⟩ :=
    @level_filters s ['a'] ['b'] low high [] between rfl rfl
      ⟨by decide, by decide, by decide, by decide, 10, by decide +kernel⟩
      ⟨by decide, by decide, by decide, by decide, 20, by decide +kernel⟩ rfl (fun step h => nomatch h)
      (by simp [between, Step.Spares]) q
  obtain rfl : level = 10 := Option.some.inj (hlevel.symm.trans (by decide +kernel))
  obtain rfl : level' = 20 := Option.some.inj (hlevel'.symm.trans (by decide +kernel))
  obtain ⟨e, hread, hsentence, hschedule⟩ : ∃ e, Expression.read q.expression = .ok e ∧
      e.fields.sentence = .ok "Runs at 00:00 on day 29 of the month in February".toList ∧
      e.schedule = ⟨[0], [0], [29], [2], [0, 1, 2, 3, 4, 5, 6]⟩ := ⟨_, by rfl, by rfl, by rfl⟩
  have hwindow : e.schedule.runsIn none (q.now.toMinute.number + 1) 2 = [] := by
    rw [hschedule]
    decide +kernel
  have hruns : e.schedule.nextRuns q.now 3 2 = .ok [] := by
    rw [Schedule.nextRuns_eq_take (by decide) (by decide)]
    exact congrArg (fun runs => Except.ok (runs.take 3)) hwindow
  obtain ⟨_, phrase, _, hphrase⟩ := Engine.exists_words hread
  have hreport := @Engine.report_of_read low q e [] _ phrase hread hruns hsentence hphrase
  have hrecords : (s.step (.askEngine ['a'] q)).2.records =
      [short, Engine.parsedRecord q.expression "Runs at 00:00 on day 29 of the month in February".toList] := by
    obtain ⟨hrecorded, _⟩ := hrecorded (by decide) (by decide) _ (asking_eq_report_iff.mpr hreport)
    generalize hkept : Reply.records _ = records at hrecorded
    cases hrecorded with
    | rejected hrejected =>
      rw [hread] at hrejected
      cases hrejected
    | short _ hsame =>
      cases hsame
      exact hkept
    | full _ _ hall => exact absurd hall (Nat.not_succ_le_zero 2)
  refine ⟨hrecords, (hfilter (by decide)).trans ?_⟩
  change (s.step (.askEngine ['a'] q)).2.records.filter _ = _
  rw [hrecords]
  rfl

end Session
end CronSchedule
