/-
What an engine reports of an expression, and that it agrees with reading
the expression and with the verdict on it. A report of what is rejected
holds the message of the error and nothing else; a report of what is read
holds the fields, the sentence, the phrase of each field and the runs, and
no error.

* `report_of_rejected`, `report_of_read`: the two reports.
* `runs_of_read`: and where the runs of a report come from.
* `one_verdict`: reading, the verdict and the report agree, and in what
  the diagnosis is.
-/
import CronSchedule.Proofs.Diagnosis
import CronSchedule.Proofs.Window
import CronSchedule.Proofs.Wording

namespace CronSchedule

namespace Engine

variable {settings : Settings} {q : Question}

/-! ## Phrases -/

theorem fieldPhrases_eq_ok {f : Fields} {phrase : FieldName → Text}
    (h : ∀ name : FieldName, name.spec.phrase (f.get name) = .ok (phrase name)) :
    fieldPhrases f = .ok (FieldName.all.map fun name => (name.key, phrase name)) := by
  simp only [fieldPhrases, FieldName.all, List.mapM_cons, List.mapM_nil, h]
  rfl

theorem exists_words {e : Expression} (h : Expression.read q.expression = .ok e) :
    ∃ sentence, ∃ phrase : FieldName → Text, e.fields.sentence = .ok sentence ∧
      ∀ name : FieldName, name.spec.phrase (e.fields.get name) = .ok (phrase name) := by
  have hform := Fields.fieldForm_of_schedule (Expression.read_eq_ok h).2
  obtain ⟨sentence, hsentence⟩ := exists_sentence hform
  obtain ⟨phrase, hphrase⟩ := Classical.skolem.mp fun name => (hform name).phrase
  exact ⟨sentence, phrase, hsentence, hphrase⟩

/-! ## Reports -/

theorem report_of_rejected {error : ExpressionError} (h : Expression.read q.expression = .error error)
    (hlong : ∀ numeral, error ≠ .field (.tooLong numeral)) :
    (answer settings q).result =
      .ok { expression := q.expression, isValid := false, error := some error.message } := by
  unfold answer
  rw [h]
  cases error with
  | fieldCount => rfl
  | field e =>
    cases e with
    | malformed name label raw fault => rfl
    | tooLong numeral => exact absurd rfl (hlong numeral)

theorem report_of_read {e : Expression} {runs : List Instant} {sentence : Text} {phrase : FieldName → Text}
    (h : Expression.read q.expression = .ok e)
    (hruns : e.schedule.nextRuns q.now (settings.wanted q.count) settings.scanLimit = .ok runs)
    (hsentence : e.fields.sentence = .ok sentence)
    (hphrase : ∀ name : FieldName, name.spec.phrase (e.fields.get name) = .ok (phrase name)) :
    (answer settings q).result = .ok {
      expression := q.expression
      isValid := true
      fields := some e.fields
      description := some sentence
      fieldPhrases := FieldName.all.map fun name => (name.key, phrase name)
      runs := runs } := by
  have hwording : wording e.fields = .ok (sentence, FieldName.all.map fun name => (name.key, phrase name)) := by
    unfold wording
    rw [hsentence, fieldPhrases_eq_ok hphrase]
    rfl
  unfold answer
  rw [h]
  dsimp only
  rw [hruns, hwording]

/-- The runs of a report of what is read are those that are found for the schedule, as many as are wanted, and there is
no report if looking for them fails. -/
theorem runs_of_read {e : Expression} (h : Expression.read q.expression = .ok e) :
    (answer settings q).result.map Report.runs =
      (e.schedule.nextRuns q.now (settings.wanted q.count) settings.scanLimit).mapError EngineError.calendarEnd := by
  cases hruns : e.schedule.nextRuns q.now (settings.wanted q.count) settings.scanLimit with
  | error ended =>
    unfold answer
    rw [h]
    dsimp only
    rw [hruns]
    rfl
  | ok runs =>
    obtain ⟨sentence, phrase, hsentence, hphrase⟩ := exists_words h
    rw [report_of_read h hruns hsentence hphrase]
    rfl

theorem runs_of_rejected {error : ExpressionError} (h : Expression.read q.expression = .error error) {report : Report}
    (hreport : (answer settings q).result = .ok report) : report.runs = [] := by
  have hlong : ∀ numeral, error ≠ .field (.tooLong numeral) := by
    intro numeral he
    unfold answer at hreport
    rw [h, he] at hreport
    cases hreport
  rw [report_of_rejected h hlong] at hreport
  cases hreport
  rfl

/-! ## Verdicts -/

/-- **One verdict and one diagnosis.** For an expression in which no numeral is too long, and a projection of it that
does not leave the calendar, an engine makes a report. Reading the expression, the verdict on it and the report agree on
whether it is valid. If it is rejected, the report holds the message of the error that reading it fails with, the
diagnosis of the expression, and nothing else. If it is read, the report holds its words as fields, the sentence and the
phrase of each field, and the runs that are found, as many as are wanted and within the limit of the engine. -/
theorem one_verdict (root : Int)
    (hlong : ∀ numeral, Expression.read q.expression ≠ .error (.field (.tooLong numeral)))
    (hcalendar : ∀ e, Expression.read q.expression = .ok e →
      e.schedule.nextRuns q.now (settings.wanted q.count) settings.scanLimit ≠ .error ⟨⟩) :
    ∃ report, (ask settings root q).result = .ok report ∧
      ((∃ e, Expression.read q.expression = .ok e) ↔ Expression.isValid q.expression = .ok true) ∧
      (Expression.isValid q.expression = .ok true ↔ report.isValid = true) ∧
      (∀ error, Expression.read q.expression = .error error →
        Expression.isValid q.expression = .ok false ∧ Expression.Diagnosed q.expression error ∧
        report = {
          expression := q.expression
          isValid := false
          fields := none
          description := none
          fieldPhrases := []
          runs := []
          error := some error.message }) ∧
      ∀ e, Expression.read q.expression = .ok e →
        Text.words q.expression = e.fields.toList ∧
        ∃ sentence, ∃ phrase : FieldName → Text, ∃ runs, e.fields.sentence = .ok sentence ∧
          (∀ name : FieldName, name.spec.phrase (e.fields.get name) = .ok (phrase name)) ∧
          e.schedule.nextRuns q.now (settings.wanted q.count) settings.scanLimit = .ok runs ∧
          report = {
            expression := q.expression
            isValid := true
            fields := some e.fields
            description := some sentence
            fieldPhrases := [("minute".toList, phrase .minute), ("hour".toList, phrase .hour),
              ("day_of_month".toList, phrase .dayOfMonth), ("month".toList, phrase .month),
              ("day_of_week".toList, phrase .dayOfWeek)]
            runs := runs
            error := none } := by
  have hask : (ask settings root q).result = (answer settings q).result := rfl
  cases h : Expression.read q.expression with
  | error error =>
    have hlong : ∀ numeral, error ≠ .field (.tooLong numeral) := fun numeral he => hlong numeral (he ▸ h)
    have hvalid : Expression.isValid q.expression = .ok false := by
      unfold Expression.isValid
      rw [h]
      split
      next he => cases he
      next numeral he => exact absurd (Except.error.inj he) (hlong numeral)
      next => rfl
    refine ⟨_, hask.trans (report_of_rejected h hlong), ?_, ?_, ?_, ?_⟩
    · rw [hvalid]
      simp
    · rw [hvalid]
      simp
    · intro error' he
      cases he
      exact ⟨hvalid, Expression.diagnosed_of_read h hlong, rfl⟩
    · intro e he
      cases he
  | ok e =>
    obtain ⟨sentence, phrase, hsentence, hphrase⟩ := exists_words h
    obtain ⟨runs, hruns⟩ : ∃ runs,
        e.schedule.nextRuns q.now (settings.wanted q.count) settings.scanLimit = .ok runs := by
      cases hruns : e.schedule.nextRuns q.now (settings.wanted q.count) settings.scanLimit with
      | ok runs => exact ⟨runs, rfl⟩
      | error ended => exact absurd hruns (hcalendar e h)
    have hvalid : Expression.isValid q.expression = .ok true := by
      unfold Expression.isValid
      rw [h]
    refine ⟨_, hask.trans (report_of_read h hruns hsentence hphrase), ?_, ?_, ?_, ?_⟩
    · rw [hvalid]
      simp
    · rw [hvalid]
      simp
    · intro error he
      cases he
    · intro e' he
      cases he
      have hwords := Expression.split_eq_ok_iff.mp (Expression.read_eq_ok h).1
      exact ⟨hwords, sentence, phrase, runs, hsentence, hphrase, hruns, rfl⟩

/-- A span that is reversed is wrong before the step after it is, and before the hour is; and weekdays at nine. -/
theorem one_verdict_nine :
    let usual : Settings := ⟨usualRunCount, greatestRunCount, leapYearMinutes, "WARNING".toList⟩
    let now : Instant := ⟨⟨2024, 2, 29, by decide⟩, 9, 0, 0, 0, none⟩
    (∃ report, (ask usual 10 ⟨"1,5-2/0,x 99 * * *".toList, now, none⟩).result = .ok report ∧
      report.isValid = false ∧
      report.error = some "Invalid minute field '1,5-2/0,x': range '5-2' is reversed".toList) ∧
    ∃ report, (ask usual 10 ⟨"0 9 * * 1-5".toList, now, some 0⟩).result = .ok report ∧ report.isValid = true ∧
      report.description = some "Runs at 09:00 on Monday through Friday".toList := by
  intro usual now
  refine ⟨?_, ?_⟩
  · obtain ⟨fault, hread, hmessage⟩ : ∃ fault, Expression.read "1,5-2/0,x 99 * * *".toList =
          .error (.field (.malformed .minute "minute".toList "1,5-2/0,x".toList fault)) ∧
        (FieldError.malformed .minute "minute".toList "1,5-2/0,x".toList fault).message =
          "Invalid minute field '1,5-2/0,x': range '5-2' is reversed".toList :=
      ⟨.reversedRange "5-2".toList, by rfl, by decide +kernel⟩
    obtain ⟨report, hreport, _, _, hrejected, _⟩ :=
      @one_verdict usual ⟨"1,5-2/0,x 99 * * *".toList, now, none⟩ 10
        (fun numeral h => by rw [hread] at h; cases h) (fun e h => by rw [hread] at h; cases h)
    obtain ⟨_, _, rfl⟩ := hrejected _ hread
    exact ⟨_, hreport, rfl, congrArg some hmessage⟩
  · obtain ⟨e, hread, hsentence⟩ : ∃ e, Expression.read "0 9 * * 1-5".toList = .ok e ∧
        e.fields.sentence = .ok "Runs at 09:00 on Monday through Friday".toList := ⟨_, by rfl, by rfl⟩
    obtain ⟨report, hreport, _, _, _, haccepted⟩ :=
      @one_verdict usual ⟨"0 9 * * 1-5".toList, now, some 0⟩ 10
        (fun numeral h => by rw [hread] at h; cases h) (fun e _ h => by
          rw [Schedule.nextRuns_eq_take (by decide) (by decide)] at h
          cases h)
    obtain ⟨_, sentence, _, _, hs, _, _, rfl⟩ := haccepted e hread
    rw [hsentence, Except.ok.injEq] at hs
    subst hs
    exact ⟨_, hreport, rfl, rfl⟩

end Engine
end CronSchedule
