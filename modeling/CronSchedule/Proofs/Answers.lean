/-
What an expression can make of a question that asks no more of the
calendar than it has. A bad expression has a verdict and a report like a
good one, with one exception: a numeral over the limit that is read before
anything is found wrong. It is no error of the expression, so neither the
verdict nor the engine takes it for one, and the question fails with it.

* `ask_answers`: what an engine with valid settings makes of a question.
* `answers_unless_overlong`: the same for the verdict and for the engine
  of a session.
-/
import CronSchedule.Proofs.ExpressionReading
import CronSchedule.Proofs.ValidSettings
import CronSchedule.Proofs.Window
import CronSchedule.Proofs.Wording
import CronSchedule.Session

namespace CronSchedule

/-- An answer is given just if no numeral over the limit is read in the expression, and such a numeral is the failure
otherwise. The verdict of an answer is whether the expression is read. -/
def AnswersUnlessOverlong {ε α β : Type} (t : Text) (failure : Numeral.TooLong → ε) (answer : β → α)
    (verdict : β → Bool) (result : Except ε α) : Prop :=
  (∃ digits, OverlongExpression t digits ∧ result = .error (failure (.toRead digits))) ∨
    (¬ ∃ digits, OverlongExpression t digits) ∧
      ∃ b, result = .ok (answer b) ∧ (verdict b = true ↔ ∃ e, Expression.read t = .ok e)

namespace AnswersUnlessOverlong

variable {ε α β : Type} {t : Text} {failure : Numeral.TooLong → ε} {answer : β → α} {verdict : β → Bool}
variable {result : Except ε α}

theorem of_overlong {numeral : Numeral.TooLong} (h : Expression.read t = .error (.field (.tooLong numeral)))
    (hr : result = .error (failure numeral)) : AnswersUnlessOverlong t failure answer verdict result := by
  obtain ⟨digits, rfl⟩ := Expression.toRead_of_read h
  exact .inl ⟨digits, Expression.read_eq_tooLong_iff.mp h, hr⟩

theorem of_read {e : Expression} (h : Expression.read t = .ok e) {b : β} (hr : result = .ok (answer b))
    (hv : verdict b = true) : AnswersUnlessOverlong t failure answer verdict result := by
  refine .inr ⟨fun hlong => ?_, b, hr, fun _ => ⟨e, h⟩, fun _ => hv⟩
  obtain ⟨digits, hdigits⟩ := hlong
  rw [Expression.read_eq_tooLong_iff.mpr hdigits] at h
  cases h

theorem of_rejected {error : ExpressionError} (h : Expression.read t = .error error)
    (hno : ∀ numeral, error ≠ .field (.tooLong numeral)) {b : β} (hr : result = .ok (answer b))
    (hv : verdict b = false) : AnswersUnlessOverlong t failure answer verdict result := by
  refine .inr ⟨fun hlong => ?_, b, hr, fun htrue => ?_, fun hread => ?_⟩
  · obtain ⟨digits, hdigits⟩ := hlong
    rw [Expression.read_eq_tooLong_iff.mpr hdigits] at h
    exact hno (.toRead digits) (Except.error.inj h).symm
  · rw [hv] at htrue
    cases htrue
  · obtain ⟨e, he⟩ := hread
    rw [h] at he
    cases he

theorem not_answered (h : AnswersUnlessOverlong t failure answer verdict result) {digits : Nat}
    (hlong : OverlongExpression t digits) : ¬ ∃ b, result = .ok (answer b) := by
  intro hb
  obtain ⟨b, hb⟩ := hb
  rcases h with ⟨_, _, hr⟩ | ⟨hno, _⟩
  · rw [hr] at hb
    cases hb
  · exact hno ⟨digits, hlong⟩

end AnswersUnlessOverlong

/-! ## Verdicts -/

theorem Expression.isValid_answers (t : Text) : AnswersUnlessOverlong t id id id (isValid t) := by
  unfold isValid
  split
  next e h => exact .of_read h rfl rfl
  next numeral h => exact .of_overlong h rfl
  next error hno h => exact .of_rejected h hno rfl rfl

/-! ## Engines -/

namespace Engine

variable {settings : Settings} {q : Question}

/-- An engine that may scan all its minutes reports what is read. -/
theorem answer_of_read {e : Expression} (h : Expression.read q.expression = .ok e) (hs : 1 ≤ settings.scanLimit)
    (hq : q.now.toMinute.number + settings.scanLimit < minuteCount) :
    ∃ report, (answer settings q).result = .ok report ∧ report.isValid = true := by
  have hruns := @Schedule.nextRuns_eq_take e.schedule q.now (settings.wanted q.count) settings.scanLimit (by omega)
    (by omega)
  obtain ⟨words, hwords⟩ := wording_of_schedule (Expression.read_eq_ok h).2
  unfold answer
  rw [h]
  dsimp only
  rw [hruns, hwords]
  exact ⟨_, rfl, rfl⟩

/-- **An engine with valid settings answers a question** whose minutes the calendar has, unless a numeral in the
expression is too long. -/
theorem ask_answers (hv : settings.Valid) (root : Int)
    (hq : q.now.toMinute.number + settings.scanLimit < minuteCount) :
    AnswersUnlessOverlong q.expression EngineError.tooLong id Report.isValid (ask settings root q).result := by
  show AnswersUnlessOverlong q.expression EngineError.tooLong id Report.isValid (answer settings q).result
  cases h : Expression.read q.expression with
  | ok e =>
    obtain ⟨report, hreport, hvalid⟩ := answer_of_read h hv.scan_pos hq
    exact .of_read h hreport hvalid
  | error error =>
    unfold answer
    rw [h]
    split
    next numeral he => exact .of_overlong (h.trans he) rfl
    next rejection hno he => exact .of_rejected (h.trans he) hno rfl rfl
    next he => cases he

end Engine

/-! ## Sessions -/

theorem Session.step_ask_answers {s : Session} {settings : Settings} (hv : settings.Valid)
    (hs : s.usualEngine = some settings) {q : Question}
    (hq : q.now.toMinute.number + settings.scanLimit < minuteCount) :
    AnswersUnlessOverlong q.expression (fun numeral => StepError.engine (.tooLong numeral)) Answer.report
      Report.isValid (s.step (.ask q)).2.result := by
  have hresult : (s.step (.ask q)).2.result =
      ((Engine.ask settings s.root.level q).result.map Answer.report).mapError StepError.engine := by
    simp only [step, engineForAsking, hs]
    rfl
  rw [hresult]
  rcases Engine.ask_answers hv s.root.level hq with ⟨digits, hlong, h⟩ | ⟨hno, report, h, hverdict⟩
  · exact .inl ⟨digits, hlong, by rw [h]; rfl⟩
  · exact .inr ⟨hno, report, by rw [h]; rfl, hverdict⟩

/-- **A question is answered** unless a numeral over the limit is read in its expression, and with that numeral it
fails. This holds of the verdict on any text, of every engine whose settings passed the checks, and of the engine a
session keeps, as long as the calendar has the minutes that are scanned. What cannot be read is answered by saying so.
Whether a record is kept is decided too, since the level of such settings has a number. -/
theorem answers_unless_overlong {d : Draft} {settings : Settings} (hd : d.check = .ok settings) {s : Session}
    (hs : s.usualEngine = some settings) (root : Int) {q : Question}
    (hq : q.now.toMinute.number + settings.scanLimit < minuteCount) :
    (∀ t, AnswersUnlessOverlong t id id id (Expression.isValid t)) ∧
      AnswersUnlessOverlong q.expression EngineError.tooLong id Report.isValid (Engine.ask settings root q).result ∧
      AnswersUnlessOverlong q.expression (fun numeral => StepError.engine (.tooLong numeral)) Answer.report
        Report.isValid (s.step (.ask q)).2.result ∧
      ∃ level, settings.threshold? = some level := by
  have hv := (Draft.check_eq_ok_iff.mp hd).2
  exact ⟨Expression.isValid_answers, Engine.ask_answers hv root hq, Session.step_ask_answers hv hs hq, hv.level_known⟩

/-- The usual settings answer for every weekday at nine. -/
theorem answers_every_weekday :
    ∃ report, (Engine.ask ⟨usualRunCount, greatestRunCount, leapYearMinutes, "WARNING".toList⟩ 30
      ⟨"0 9 * * 1-5".toList, ⟨⟨2024, 2, 29, by decide⟩, 9, 0, 0, 0, none⟩, none⟩).result = .ok report ∧
        report.isValid = true := by
  let settings : Settings := ⟨usualRunCount, greatestRunCount, leapYearMinutes, "WARNING".toList⟩
  let session : Session := { usualEngine := some settings, root := ⟨30, []⟩ }
  have hcheck : Draft.usual.check = .ok settings := by rfl
  have hread : ∃ e, Expression.read "0 9 * * 1-5".toList = .ok e := ⟨_, by rfl⟩
  obtain ⟨_, hask, _⟩ := @answers_unless_overlong _ _ hcheck session rfl 30
    ⟨"0 9 * * 1-5".toList, ⟨⟨2024, 2, 29, by decide⟩, 9, 0, 0, 0, none⟩, none⟩ (by decide)
  rcases hask with ⟨digits, hlong, _⟩ | ⟨_, report, hreport, hverdict⟩
  · obtain ⟨e, he⟩ := hread
    rw [Expression.read_eq_tooLong_iff.mpr hlong] at he
    cases he
  · exact ⟨report, hreport, hverdict.mpr hread⟩

/-- A numeral one digit over the limit, which is out of range besides, has no verdict and no report. -/
theorem overlong_unanswered :
    (¬ ∃ verdict, Expression.isValid (List.replicate 4301 '9' ++ ' ' :: "* * * *".toList) = .ok verdict) ∧
      ¬ ∃ report, (Engine.ask ⟨usualRunCount, greatestRunCount, leapYearMinutes, "WARNING".toList⟩ 30
        ⟨List.replicate 4301 '9' ++ ' ' :: "* * * *".toList, ⟨⟨2024, 2, 29, by decide⟩, 9, 0, 0, 0, none⟩,
          none⟩).result = .ok report := by
  have hlong : OverlongExpression (List.replicate 4301 '9' ++ ' ' :: "* * * *".toList) 4301 :=
    Expression.overlong_of_minute (FieldSpec.overlong_replicate (by decide)) (by rfl)
  have hvalid : Settings.Valid ⟨usualRunCount, greatestRunCount, leapYearMinutes, "WARNING".toList⟩ :=
    (Draft.check_eq_ok_iff (d := Draft.usual).mp (by rfl)).2
  refine ⟨(Expression.isValid_answers _).not_answered hlong, ?_⟩
  exact (Engine.ask_answers hvalid 30 (by decide)).not_answered hlong

end CronSchedule
