/-
Which day field a sentence names. The rule of the runs counts the values of
a day field to find out whether it restricts anything, but the sentence is
made from the texts, and there only a star is open. So a field that
restricts on its own has a clause just if the other is written as a star:
spelled out in full, as in `0-6`, it hides the clause.

* `hasDayClause_iff`: the clause for the days is the one that is made for
  the two texts.
* `hasDayClause_of_restricting`: when the field in charge has its clause.
-/
import CronSchedule.Proofs.DayRule
import CronSchedule.Proofs.SentenceTold
import CronSchedule.Proofs.Wording

namespace CronSchedule
open FieldSpec Text Phrase

namespace Fields

/-- The sentence of the fields has this clause for the days, after that for the time and before that for the months. -/
def HasDayClause (f : Fields) (clause : Text) : Prop :=
  ∃ time months, timeClause f.minute f.hour = .ok time ∧ monthClause f.month = .ok months ∧
    f.sentence = .ok (sentenceOf time (some clause) months)

theorem sentenceOf_days_injective {time : Text} {days days' months : Option Text}
    (h : sentenceOf time days months = sentenceOf time days' months) : days = days' := by
  have hwords := congrArg (List.splitOn ' ') h
  rw [splitOn_sentenceOf, splitOn_sentenceOf, List.cons.injEq] at hwords
  exact clause_eq_of_splitOn (List.append_cancel_right (List.append_cancel_left hwords.2))

/-- **The clause of a sentence for the days is the one made for the two day fields.** -/
theorem hasDayClause_iff {f : Fields} {clause : Text} (h : ∀ name : FieldName, FieldForm name.spec (f.get name)) :
    f.HasDayClause clause ↔ dayClause f.dayOfMonth f.dayOfWeek = .ok (some clause) := by
  refine ⟨fun hc => ?_, fun hc => ?_⟩
  · obtain ⟨time, months, htime, hmonths, hs⟩ := hc
    obtain ⟨time', days, months', htime', hdays, hmonths', hsame⟩ := sentence_eq_ok_iff.mp hs
    rw [htime, Except.ok.injEq] at htime'
    rw [hmonths, Except.ok.injEq] at hmonths'
    subst htime' hmonths'
    rw [hdays, sentenceOf_days_injective hsame]
  · obtain ⟨time, htime⟩ := exists_timeClause (h .minute) (h .hour)
    obtain ⟨months, hmonths⟩ := exists_monthClause (h .month)
    exact ⟨time, months, htime, hmonths, sentence_eq_ok_iff.mpr ⟨time, some clause, months, htime, hc, hmonths, rfl⟩⟩

end Fields

namespace Expression

variable {t : Text} {e : Expression}

theorem dayOfMonth_ne_star (h : read t = .ok e) (hd : e.schedule.everyDay = false) :
    e.fields.dayOfMonth ≠ ['*'] := fun hstar => by
  have hvs : FieldSpec.dayOfMonth.values e.fields.dayOfMonth = .ok e.schedule.daysOfMonth :=
    Fields.schedule_eq_ok_iff.mp (read_eq_ok h).2 .dayOfMonth
  have hall : FieldSpec.dayOfMonth.values ['*'] = .ok ((List.range' 1 31).map Int.ofNat) := by rfl
  rw [hstar, hall, Except.ok.injEq] at hvs
  rw [Schedule.WellFormed.everyDay_iff (read_wellFormed h) |>.mpr hvs.symm] at hd
  cases hd

/-- **When the day field in charge has its clause.** Where one of the day fields restricts and the other does not, the
sentence has the clause for the one that does if the other is a star, and none for the days if it is not: for the day
of the month its text, for the day of the week the names that tell its values, if it has no step and no star. -/
theorem hasDayClause_of_restricting (h : read t = .ok e) :
    (e.schedule.everyDay = false → e.schedule.everyWeekday = true →
      (e.fields.dayOfWeek = ['*'] →
        e.fields.HasDayClause ("on day ".toList ++ e.fields.dayOfMonth ++ " of the month".toList)) ∧
      (e.fields.dayOfWeek ≠ ['*'] → ∀ clause, ¬ e.fields.HasDayClause clause)) ∧
    (e.schedule.everyDay = true → e.schedule.everyWeekday = false → '/' ∉ e.fields.dayOfWeek →
      '*' ∉ e.fields.dayOfWeek →
      (e.fields.dayOfMonth = ['*'] → ∃ items, Tells .dayOfWeek weekdayNames e.fields.dayOfWeek items ∧
        e.fields.HasDayClause ("on ".toList ++ listed items)) ∧
      (e.fields.dayOfMonth ≠ ['*'] → ∀ clause, ¬ e.fields.HasDayClause clause)) := by
  have hform := Fields.fieldForm_of_schedule (read_eq_ok h).2
  simp only [Fields.hasDayClause_iff hform]
  refine ⟨fun hd _ => ?_, fun _ _ hslash hstar => ?_⟩
  · have hopen := dayOfMonth_ne_star h hd
    refine ⟨fun hw => ?_, fun hw clause hc => ?_⟩
    · unfold dayClause
      rw [if_pos ⟨hopen, hw⟩]
    · -- a clause of names would need a star for the day of the month
      exact hopen ((dayClause_said hc (hform .dayOfWeek)).star_iff.mpr hw)
  · have hopen : e.fields.dayOfWeek ≠ ['*'] := fun e' => hstar (by rw [e']; simp)
    refine ⟨fun hd => ?_, fun hd clause hc => ?_⟩
    · have hw : FieldForm .dayOfWeek e.fields.dayOfWeek := hform .dayOfWeek
      obtain ⟨items, hitems, htells⟩ := named?_eq_some hw nameTable_dayOfWeek hslash hstar
      refine ⟨items, htells, ?_⟩
      unfold dayClause
      rw [if_neg fun hc => hc.1 hd, if_pos ⟨hd, hopen⟩, hitems]
      rfl
    · exact hd ((dayClause_said hc (hform .dayOfWeek)).star_iff.mpr hopen)

/-- A list of days, and weekdays by name. -/
theorem hasDayClause_of_restricting_star :
    (∃ e, read "0 9 1,15 * *".toList = .ok e ∧ e.fields.HasDayClause "on day 1,15 of the month".toList) ∧
      ∃ e items, read "0 9 * * mon-5,0".toList = .ok e ∧
        Tells .dayOfWeek weekdayNames "mon-5,0".toList items ∧
        e.fields.HasDayClause ("on ".toList ++ listed items) := by
  refine ⟨?_, ?_⟩
  · obtain ⟨e, hread, hd, hw, htext, hstar⟩ : ∃ e, read "0 9 1,15 * *".toList = .ok e ∧
        e.schedule.everyDay = false ∧ e.schedule.everyWeekday = true ∧ e.fields.dayOfMonth = "1,15".toList ∧
        e.fields.dayOfWeek = ['*'] := ⟨_, by rfl, by rfl, by rfl, by rfl, by rfl⟩
    have hclause := ((hasDayClause_of_restricting hread).1 hd hw).1 hstar
    rw [htext] at hclause
    exact ⟨e, hread, hclause⟩
  · obtain ⟨e, hread, hd, hw, htext, hstar⟩ : ∃ e, read "0 9 * * mon-5,0".toList = .ok e ∧
        e.schedule.everyDay = true ∧ e.schedule.everyWeekday = false ∧ e.fields.dayOfWeek = "mon-5,0".toList ∧
        e.fields.dayOfMonth = ['*'] := ⟨_, by rfl, by rfl, by rfl, by rfl, by rfl⟩
    obtain ⟨items, htells, hclause⟩ := ((hasDayClause_of_restricting hread).2 hd hw (by rw [htext]; decide)
      (by rw [htext]; decide)).1 hstar
    rw [htext] at htells
    exact ⟨e, items, hread, htells, hclause⟩

/-- Weekdays spelled out from 0 to 6 do not restrict, but the sentence leaves out the day of the month, which does. -/
theorem hasDayClause_fails_spelled_out :
    ∃ e, read "0 0 1 * 0-6".toList = .ok e ∧ e.schedule.everyDay = false ∧ e.schedule.everyWeekday = true ∧
      '/' ∉ e.fields.dayOfMonth ∧ '*' ∉ e.fields.dayOfMonth ∧ e.fields.sentence = .ok "Runs at 00:00".toList ∧
      ¬ e.fields.HasDayClause ("on day ".toList ++ e.fields.dayOfMonth ++ " of the month".toList) := by
  obtain ⟨e, hread, hd, hw, htext, hsentence, hclause⟩ : ∃ e, read "0 0 1 * 0-6".toList = .ok e ∧
      e.schedule.everyDay = false ∧ e.schedule.everyWeekday = true ∧ e.fields.dayOfMonth = ['1'] ∧
      e.fields.sentence = .ok "Runs at 00:00".toList ∧
      dayClause e.fields.dayOfMonth e.fields.dayOfWeek = .ok none :=
    ⟨_, by rfl, by rfl, by rfl, by rfl, by rfl, by rfl⟩
  refine ⟨e, hread, hd, hw, by rw [htext]; decide, by rw [htext]; decide, hsentence, fun hc => ?_⟩
  rw [Fields.hasDayClause_iff (Fields.fieldForm_of_schedule (read_eq_ok hread).2), hclause] at hc
  cases hc

end Expression
end CronSchedule
