/-
What a sentence tells. It is one text, and the texts of the fields stand in
it as they were given, but its clauses are found again: the days begin with
`on` and the months with `in`, and neither is a word of a clause before. So
where two schedules have the same sentence it says the same of both.

* `Bordered.clauses_eq`: a sentence is put together from its clauses in one way.
* `DaysSaid.values_eq`: a clause for the days tells the values of both day
  fields.
* `told_of_sentence`: what schedules with the same sentence have in common.
-/
import CronSchedule.Phrase.Sentence
import CronSchedule.Proofs.NamedValues
import CronSchedule.Proofs.TimeTold

namespace CronSchedule
open FieldSpec Text

namespace Phrase

/-! ## The words of names -/

section
variable {spec : FieldSpec} {table : List Text}

theorem mem_splitOn_text {item : NameItem} {tail w : Text} (hi : item.IsFrom table) (ht : NameTable spec table)
    (htail : ' ' ∉ tail) (hw : w ∈ List.splitOn ' ' (item.text ++ tail)) :
    w = "through".toList ∨ ∃ name ∈ table, w = name ∨ w = name ++ tail := by
  obtain ⟨first, last⟩ := item
  have hfirst := (ht.plain first hi.1).1
  cases last with
  | none =>
    have hplain : ' ' ∉ first ++ tail := by simp [hfirst, htail]
    rw [NameItem.text, List.splitOn_eq_singleton hplain, List.mem_singleton] at hw
    exact .inr ⟨first, hi.1, .inr hw⟩
  | some last =>
    have hmem := hi.2 last rfl
    have hplain : ' ' ∉ last ++ tail := by simp [(ht.plain last hmem).1, htail]
    have hparts : NameItem.text ⟨first, some last⟩ ++ tail =
        first ++ ' ' :: ("through".toList ++ ' ' :: (last ++ tail)) := by simp [NameItem.text]
    rw [hparts, List.splitOn_append_cons_self_of_not_mem hfirst, List.splitOn_append_cons_self_of_not_mem (by decide),
      List.splitOn_eq_singleton hplain] at hw
    simp only [List.mem_cons, List.not_mem_nil, or_false] at hw
    rcases hw with hw | hw | hw
    · exact .inr ⟨first, hi.1, .inl hw⟩
    · exact .inl hw
    · exact .inr ⟨last, hmem, .inr hw⟩

theorem mem_splitOn_listed {items : List NameItem} {w : Text} (hne : items ≠ [])
    (hfrom : ∀ item ∈ items, item.IsFrom table) (ht : NameTable spec table) (hw : w ∈ List.splitOn ' ' (listed items)) :
    w = "through".toList ∨ ∃ name ∈ table, w = name ∨ w = name ++ [','] := by
  induction items with
  | nil => exact absurd rfl hne
  | cons item items ih =>
    have hitem := hfrom item List.mem_cons_self
    cases items with
    | nil =>
      have hone : listed [item] = item.text ++ [] := by simp [listed]
      rw [hone] at hw
      rcases mem_splitOn_text hitem ht (by simp) hw with h | ⟨name, hname, h⟩
      · exact .inl h
      · exact .inr ⟨name, hname, .inl (by simpa using h)⟩
    | cons next items =>
      have hparts : listed (item :: next :: items) = (item.text ++ [',']) ++ ' ' :: listed (next :: items) := by
        simp [listed, List.intercalate_cons_cons]
      rw [hparts, List.splitOn_append_cons_self, List.mem_append] at hw
      rcases hw with hw | hw
      · exact mem_splitOn_text hitem ht (by decide) hw
      · exact ih (by simp) (fun i hi => hfrom i (List.mem_cons_of_mem item hi)) hw

end

/-- Neither the word that opens the months nor that of a day of the month is one of a list of weekdays. -/
theorem Tells.not_mem_splitOn {dayOfWeek : Text} {items : List NameItem}
    (h : Tells .dayOfWeek weekdayNames dayOfWeek items) :
    ∀ w ∈ ["in".toList, "day".toList], w ∉ List.splitOn ' ' (listed items) := by
  have hother : ∀ w ∈ ["in".toList, "day".toList], w ≠ "through".toList ∧
      ∀ name ∈ weekdayNames, w ≠ name ∧ w ≠ name ++ [','] := by decide
  intro w hmem hw
  obtain ⟨hthrough, hnames⟩ := hother w hmem
  rcases mem_splitOn_listed h.nonempty h.isFrom nameTable_dayOfWeek hw with h | ⟨name, hname, h | h⟩
  · exact hthrough h
  · exact (hnames name hname).1 h
  · exact (hnames name hname).2 h

/-! ## How the days and the months are said -/

/-- How the two day fields are said: by the day of the month or by the names of weekdays, if the other is a star. -/
inductive DaysSaid : Text → Text → Text → Prop
  | date {dayOfMonth : Text} : dayOfMonth ≠ ['*'] →
      DaysSaid dayOfMonth ['*'] ("on day ".toList ++ dayOfMonth ++ " of the month".toList)
  | names {dayOfWeek : Text} {items : List NameItem} : dayOfWeek ≠ ['*'] →
      Tells .dayOfWeek weekdayNames dayOfWeek items → DaysSaid ['*'] dayOfWeek ("on ".toList ++ listed items)

theorem dayClause_said {dayOfMonth dayOfWeek clause : Text} (h : dayClause dayOfMonth dayOfWeek = .ok (some clause))
    (hw : FieldForm .dayOfWeek dayOfWeek) : DaysSaid dayOfMonth dayOfWeek clause := by
  unfold dayClause at h
  split at h
  next hdate =>
    obtain ⟨hopen, rfl⟩ := hdate
    cases h
    exact .date hopen
  next =>
    split at h
    next hnames =>
      obtain ⟨rfl, hopen⟩ := hnames
      obtain ⟨named, hnamed, h⟩ := bind_eq_ok_iff.mp h
      cases named with
      | none => cases h
      | some items =>
        cases h
        exact .names hopen (tells_of_named? hw nameTable_dayOfWeek hnamed)
    next => cases h

theorem monthClause_said {month clause : Text} (h : monthClause month = .ok (some clause))
    (hm : FieldForm .month month) :
    ∃ items, Tells .month monthNames month items ∧ clause = "in ".toList ++ listed items := by
  unfold monthClause at h
  split at h
  next => cases h
  next =>
    obtain ⟨named, hnamed, h⟩ := bind_eq_ok_iff.mp h
    cases named with
    | none => cases h
    | some items =>
      cases h
      exact ⟨items, tells_of_named? hm nameTable_month hnamed, rfl⟩

theorem DaysSaid.star_iff {dayOfMonth dayOfWeek clause : Text} (h : DaysSaid dayOfMonth dayOfWeek clause) :
    dayOfMonth = ['*'] ↔ dayOfWeek ≠ ['*'] := by
  cases h with
  | date hopen => exact ⟨fun hstar => absurd hstar hopen, fun hother => absurd rfl hother⟩
  | names hopen => exact ⟨fun _ => hopen, fun _ => rfl⟩

theorem DaysSaid.words {dayOfMonth dayOfWeek clause : Text} (h : DaysSaid dayOfMonth dayOfWeek clause)
    (hd : FieldForm .dayOfMonth dayOfMonth) :
    ∃ rest, List.splitOn ' ' clause = "on".toList :: rest ∧ "in".toList ∉ rest := by
  cases h with
  | date =>
    have hspace : ' ' ∉ dayOfMonth := hd.space_not_mem
    have hin : "in".toList ≠ dayOfMonth := fun e =>
      not_fieldForm_of_opener (by decide : FieldName.dayOfMonth ∈ _) (by decide) (e ▸ hd)
    have hparts : "on day ".toList ++ dayOfMonth ++ " of the month".toList =
        "on".toList ++ ' ' :: ("day".toList ++ ' ' :: (dayOfMonth ++ ' ' :: "of the month".toList)) := by simp
    refine ⟨"day".toList :: dayOfMonth :: List.splitOn ' ' "of the month".toList, ?_, ?_⟩
    · rw [hparts, List.splitOn_append_cons_self_of_not_mem (by decide),
        List.splitOn_append_cons_self_of_not_mem (by decide), List.splitOn_append_cons_self_of_not_mem hspace]
    · rw [List.mem_cons, List.mem_cons, not_or, not_or]
      exact ⟨by decide, hin, by decide⟩
  | @names _ items _ htells =>
    have hparts : "on ".toList ++ listed items = "on".toList ++ ' ' :: listed items := by simp
    refine ⟨List.splitOn ' ' (listed items), ?_, htells.not_mem_splitOn _ (by simp)⟩
    rw [hparts, List.splitOn_append_cons_self_of_not_mem (by decide)]

/-- **The clause for the days tells the values of both day fields.** -/
theorem DaysSaid.values_eq {dayOfMonth dayOfWeek dayOfMonth' dayOfWeek' clause : Text}
    (h : DaysSaid dayOfMonth dayOfWeek clause) (h' : DaysSaid dayOfMonth' dayOfWeek' clause)
    (hw : FieldForm .dayOfWeek dayOfWeek) (hw' : FieldForm .dayOfWeek dayOfWeek') :
    FieldSpec.dayOfMonth.values dayOfMonth = FieldSpec.dayOfMonth.values dayOfMonth' ∧
      FieldSpec.dayOfWeek.values dayOfWeek = FieldSpec.dayOfWeek.values dayOfWeek' := by
  -- a list of weekdays does not go on like the clause of a day of the month
  have hmixed : ∀ {raw day : Text} {items : List NameItem}, Tells .dayOfWeek weekdayNames raw items →
      "on ".toList ++ listed items ≠ "on day ".toList ++ day ++ " of the month".toList := by
    intro raw day items htells e
    have hlisted : listed items = "day".toList ++ ' ' :: (day ++ " of the month".toList) := by
      refine List.append_cancel_left (e.trans ?_)
      simp
    refine htells.not_mem_splitOn "day".toList (by simp) ?_
    rw [hlisted, List.splitOn_append_cons_self_of_not_mem (by decide)]
    exact List.mem_cons_self
  generalize hc : clause = c at h'
  cases h with
  | date =>
    cases h' with
    | date =>
      rw [List.append_cancel_left (List.append_cancel_right hc)]
      exact ⟨rfl, rfl⟩
    | names _ htells => exact absurd hc.symm (hmixed htells)
  | names _ htells =>
    cases h' with
    | date => exact absurd hc (hmixed htells)
    | names _ htells' =>
      exact ⟨rfl, values_eq_of_listed nameTable_dayOfWeek htells htells' hw hw' (List.append_cancel_left hc)⟩

theorem month_values_eq {month month' clause : Text} (h : monthClause month = .ok (some clause))
    (h' : monthClause month' = .ok (some clause)) (hm : FieldForm .month month) (hm' : FieldForm .month month') :
    FieldSpec.month.values month = FieldSpec.month.values month' := by
  obtain ⟨items, htells, hc⟩ := monthClause_said h hm
  obtain ⟨items', htells', hc'⟩ := monthClause_said h' hm'
  exact values_eq_of_listed nameTable_month htells htells' hm hm' (List.append_cancel_left (hc.symm.trans hc'))

/-! ## The borders of the clauses -/

/-- A list is cut in one way before its first member of some kind. -/
theorem append_inj_of_border {α : Type} {border : α → Prop} {xs xs' ys ys' : List α} (hx : ∀ a ∈ xs, ¬ border a)
    (hx' : ∀ a ∈ xs', ¬ border a) (hy : ∀ a ∈ ys.head?, border a) (hy' : ∀ a ∈ ys'.head?, border a)
    (h : xs ++ ys = xs' ++ ys') : xs = xs' ∧ ys = ys' := by
  induction xs generalizing xs' with
  | nil =>
    cases xs' with
    | nil => exact ⟨rfl, h⟩
    | cons a xs' =>
      rw [List.nil_append] at h
      exact absurd (hy a (by rw [h]; rfl)) (hx' a List.mem_cons_self)
  | cons a xs ih =>
    cases xs' with
    | nil =>
      rw [List.nil_append] at h
      exact absurd (hy' a (by rw [← h]; rfl)) (hx a List.mem_cons_self)
    | cons b xs' =>
      rw [List.cons_append, List.cons_append, List.cons.injEq] at h
      obtain ⟨rfl, h⟩ := h
      obtain ⟨rfl, hys⟩ := ih (fun c hc => hx c (List.mem_cons_of_mem a hc))
        (fun c hc => hx' c (List.mem_cons_of_mem a hc)) h
      exact ⟨rfl, hys⟩

/-- The sentence of the clauses. -/
def sentenceOf (time : Text) (days months : Option Text) : Text :=
  List.intercalate [' '] ("Runs".toList :: time :: days.toList ++ months.toList)

/-- Each clause but the first begins with its word, and no clause before has that word. -/
structure Bordered (time : Text) (days months : Option Text) : Prop where
  time : ∀ w ∈ List.splitOn ' ' time, w ∉ openers
  days : ∀ clause ∈ days, ∃ rest, List.splitOn ' ' clause = "on".toList :: rest ∧ "in".toList ∉ rest
  months : ∀ clause ∈ months, ∃ rest, List.splitOn ' ' clause = "in".toList :: rest

theorem splitOn_sentenceOf (time : Text) (days months : Option Text) :
    List.splitOn ' ' (sentenceOf time days months) = "Runs".toList ::
      (List.splitOn ' ' time ++
        (days.toList.flatMap (List.splitOn ' ') ++ months.toList.flatMap (List.splitOn ' '))) := by
  have hruns : List.splitOn ' ' "Runs".toList = ["Runs".toList] := List.splitOn_eq_singleton (by decide)
  rw [sentenceOf, splitOn_intercalate_flatMap (by simp), List.cons_append, List.cons_append, List.flatMap_cons, hruns,
    List.flatMap_cons, List.flatMap_append]
  rfl

theorem clause_eq_of_splitOn {clause clause' : Option Text}
    (h : clause.toList.flatMap (List.splitOn ' ') = clause'.toList.flatMap (List.splitOn ' ')) : clause = clause' := by
  cases clause with
  | none =>
    cases clause' with
    | none => rfl
    | some t =>
      rw [Option.toList_some, List.flatMap_singleton] at h
      exact absurd h.symm (List.splitOn_ne_nil ' ' t)
  | some t =>
    cases clause' with
    | none =>
      rw [Option.toList_some, List.flatMap_singleton] at h
      exact absurd h (List.splitOn_ne_nil ' ' t)
    | some u =>
      simp only [Option.toList_some, List.flatMap_singleton] at h
      rw [splitOn_injective h]

namespace Bordered

variable {time time' : Text} {days days' months months' : Option Text}

theorem head_months (h : Bordered time days months) :
    ∀ w ∈ (months.toList.flatMap (List.splitOn ' ')).head?, w = "in".toList := by
  intro w hw
  cases months with
  | none => cases hw
  | some clause =>
    obtain ⟨rest, hrest⟩ := h.months clause rfl
    rw [Option.toList_some, List.flatMap_singleton, hrest] at hw
    exact (Option.mem_some.mp hw).symm

theorem head_after_time (h : Bordered time days months) :
    ∀ w ∈ (days.toList.flatMap (List.splitOn ' ') ++ months.toList.flatMap (List.splitOn ' ')).head?, w ∈ openers := by
  intro w hw
  cases days with
  | none =>
    rw [Option.toList_none, List.flatMap_nil, List.nil_append] at hw
    rw [h.head_months w hw]
    decide
  | some clause =>
    obtain ⟨rest, hrest, _⟩ := h.days clause rfl
    rw [Option.toList_some, List.flatMap_singleton, hrest] at hw
    rw [← Option.mem_some.mp hw]
    decide

theorem days_not_in (h : Bordered time days months) :
    ∀ w ∈ days.toList.flatMap (List.splitOn ' '), ¬ w = "in".toList := by
  intro w hw
  cases days with
  | none => cases hw
  | some clause =>
    obtain ⟨rest, hrest, hin⟩ := h.days clause rfl
    rw [Option.toList_some, List.flatMap_singleton, hrest] at hw
    rcases List.mem_cons.mp hw with rfl | hw
    · decide
    · exact fun e => hin (e ▸ hw)

/-- **A sentence is put together from its clauses in one way.** -/
theorem clauses_eq (h : Bordered time days months) (h' : Bordered time' days' months')
    (hs : sentenceOf time days months = sentenceOf time' days' months') :
    time = time' ∧ days = days' ∧ months = months' := by
  have hwords := congrArg (List.splitOn ' ') hs
  rw [splitOn_sentenceOf, splitOn_sentenceOf, List.cons.injEq] at hwords
  obtain ⟨htime, hrest⟩ := append_inj_of_border h.time h'.time h.head_after_time h'.head_after_time hwords.2
  obtain ⟨hdays, hmonths⟩ := append_inj_of_border h.days_not_in h'.days_not_in h.head_months h'.head_months hrest
  exact ⟨splitOn_injective htime, clause_eq_of_splitOn hdays, clause_eq_of_splitOn hmonths⟩

end Bordered
end Phrase

open Phrase

namespace Fields

theorem sentence_eq_ok_iff {f : Fields} {t : Text} :
    f.sentence = .ok t ↔ ∃ time days months, timeClause f.minute f.hour = .ok time ∧
      dayClause f.dayOfMonth f.dayOfWeek = .ok days ∧ monthClause f.month = .ok months ∧
      t = sentenceOf time days months := by
  unfold sentence
  simp only [bind_eq_ok_iff]
  refine ⟨fun h => ?_, fun h => ?_⟩
  · obtain ⟨time, htime, days, hdays, months, hmonths, h⟩ := h
    cases h
    exact ⟨time, days, months, htime, hdays, hmonths, rfl⟩
  · obtain ⟨time, days, months, htime, hdays, hmonths, rfl⟩ := h
    exact ⟨time, htime, days, hdays, months, hmonths, rfl⟩

theorem timeSaid {f : Fields} (h : ∀ name : FieldName, FieldForm name.spec (f.get name)) {time : Text}
    (ht : timeClause f.minute f.hour = .ok time) : TimeSaid f.minute f.hour (List.splitOn ' ' time) :=
  timeClause_said ht (h .minute).space_not_mem (h .hour).space_not_mem

theorem bordered {f : Fields} (h : ∀ name : FieldName, FieldForm name.spec (f.get name)) {time : Text}
    {days months : Option Text} (ht : timeClause f.minute f.hour = .ok time)
    (hd : dayClause f.dayOfMonth f.dayOfWeek = .ok days) (hm : monthClause f.month = .ok months) :
    Bordered time days months := by
  refine ⟨(timeSaid h ht).not_opener (h .minute) (h .hour), fun clause hc => ?_, fun clause hc => ?_⟩
  · rw [Option.mem_def.mp hc] at hd
    exact (dayClause_said hd (h .dayOfWeek)).words (h .dayOfMonth)
  · rw [Option.mem_def.mp hc] at hm
    obtain ⟨items, _, rfl⟩ := monthClause_said hm (h .month)
    have hparts : "in ".toList ++ listed items = "in".toList ++ ' ' :: listed items := by simp
    exact ⟨_, by rw [hparts, List.splitOn_append_cons_self_of_not_mem (by decide)]⟩

theorem clauses_eq_of_sentence {f g : Fields} {sentence : Text}
    (hf : ∀ name : FieldName, FieldForm name.spec (f.get name))
    (hg : ∀ name : FieldName, FieldForm name.spec (g.get name)) (hs : f.sentence = .ok sentence)
    (hs' : g.sentence = .ok sentence) :
    (∃ time, timeClause f.minute f.hour = .ok time ∧ timeClause g.minute g.hour = .ok time) ∧
      dayClause f.dayOfMonth f.dayOfWeek = dayClause g.dayOfMonth g.dayOfWeek ∧
      monthClause f.month = monthClause g.month := by
  obtain ⟨time, days, months, htime, hdays, hmonths, rfl⟩ := sentence_eq_ok_iff.mp hs
  obtain ⟨time', days', months', htime', hdays', hmonths', hsame⟩ := sentence_eq_ok_iff.mp hs'
  obtain ⟨rfl, rfl, rfl⟩ := (bordered hf htime hdays hmonths).clauses_eq (bordered hg htime' hdays' hmonths') hsame
  exact ⟨⟨time, htime, htime'⟩, hdays.trans hdays'.symm, hmonths.trans hmonths'.symm⟩

theorem time_values_eq {f g : Fields} {time : Text} (hf : ∀ name : FieldName, FieldForm name.spec (f.get name))
    (hg : ∀ name : FieldName, FieldForm name.spec (g.get name)) (h : timeClause f.minute f.hour = .ok time)
    (h' : timeClause g.minute g.hour = .ok time) :
    FieldSpec.minute.values f.minute = FieldSpec.minute.values g.minute ∧
      FieldSpec.hour.values f.hour = FieldSpec.hour.values g.hour := by
  obtain ⟨hminute, hhour⟩ := (timeSaid hf h).told (hf .minute) (hf .hour)
  obtain ⟨hminute', hhour'⟩ := (timeSaid hg h').told (hg .minute) (hg .hour)
  exact ⟨hminute.symm.trans hminute', hhour.symm.trans hhour'⟩

end Fields

namespace Expression

theorem values_eq_of_read {t u : Text} {e d : Expression} (he : read t = .ok e) (hd : read u = .ok d)
    (name : FieldName) (h : name.spec.values (e.fields.get name) = name.spec.values (d.fields.get name)) :
    e.schedule.values name = d.schedule.values name := by
  have hvs := Fields.schedule_eq_ok_iff.mp (read_eq_ok he).2 name
  rw [h, Fields.schedule_eq_ok_iff.mp (read_eq_ok hd).2 name] at hvs
  exact (Except.ok.inj hvs).symm

/-- **What schedules with the same sentence have in common**: the minutes and the hours, the months if the sentence
has a clause for them, and the dates of the day rule if it has one for the days. It has the clauses of both. -/
theorem told_of_sentence {t u sentence : Text} {e d : Expression} (he : read t = .ok e) (hd : read u = .ok d)
    (hse : e.fields.sentence = .ok sentence) (hsd : d.fields.sentence = .ok sentence) :
    e.schedule.minutes = d.schedule.minutes ∧ e.schedule.hours = d.schedule.hours ∧
      (monthClause e.fields.month = monthClause d.fields.month ∧
        ∀ clause, monthClause e.fields.month = .ok (some clause) → e.schedule.months = d.schedule.months) ∧
      (dayClause e.fields.dayOfMonth e.fields.dayOfWeek = dayClause d.fields.dayOfMonth d.fields.dayOfWeek ∧
        ∀ clause, dayClause e.fields.dayOfMonth e.fields.dayOfWeek = .ok (some clause) →
          ∀ day weekday, e.schedule.onDay day weekday = d.schedule.onDay day weekday) := by
  have hfe := Fields.fieldForm_of_schedule (read_eq_ok he).2
  have hfd := Fields.fieldForm_of_schedule (read_eq_ok hd).2
  obtain ⟨⟨time, htime, htime'⟩, hdays, hmonths⟩ := Fields.clauses_eq_of_sentence hfe hfd hse hsd
  obtain ⟨hminute, hhour⟩ := Fields.time_values_eq hfe hfd htime htime'
  refine ⟨values_eq_of_read he hd .minute hminute, values_eq_of_read he hd .hour hhour, ⟨hmonths, fun clause hc => ?_⟩,
    hdays, fun clause hc day weekday => ?_⟩
  · have hmonth := month_values_eq hc (hmonths.symm.trans hc) (hfe .month) (hfd .month)
    exact values_eq_of_read he hd .month hmonth
  · have hsaid := dayClause_said hc (hfe .dayOfWeek)
    have hsaid' := dayClause_said (hdays.symm.trans hc) (hfd .dayOfWeek)
    obtain ⟨hdate, hweekday⟩ := hsaid.values_eq hsaid' (hfe .dayOfWeek) (hfd .dayOfWeek)
    have hdates : e.schedule.daysOfMonth = d.schedule.daysOfMonth := values_eq_of_read he hd .dayOfMonth hdate
    have hweekdays : e.schedule.daysOfWeek = d.schedule.daysOfWeek := values_eq_of_read he hd .dayOfWeek hweekday
    unfold Schedule.onDay Schedule.everyDay Schedule.everyWeekday
    rw [hdates, hweekdays]

/-- Names or numerals, in capitals or with a zero before them: what is said at nine is the same. -/
theorem told_of_sentence_names :
    ∃ e d, read "5 9 * jan,Mar MON-FRI".toList = .ok e ∧ read "05 09 * 1,03 1-5".toList = .ok d ∧
      e.fields.sentence = .ok "Runs at 09:05 on Monday through Friday in January, March".toList ∧
      d.fields.sentence = e.fields.sentence ∧ e.schedule.minutes = d.schedule.minutes ∧
      e.schedule.hours = d.schedule.hours ∧ e.schedule.months = d.schedule.months ∧
      ∀ day weekday, e.schedule.onDay day weekday = d.schedule.onDay day weekday := by
  obtain ⟨e, d, he, hd, hse, hsd, hdays, hmonths⟩ :
      ∃ e d, read "5 9 * jan,Mar MON-FRI".toList = .ok e ∧ read "05 09 * 1,03 1-5".toList = .ok d ∧
        e.fields.sentence = .ok "Runs at 09:05 on Monday through Friday in January, March".toList ∧
        d.fields.sentence = .ok "Runs at 09:05 on Monday through Friday in January, March".toList ∧
        dayClause e.fields.dayOfMonth e.fields.dayOfWeek = .ok (some "on Monday through Friday".toList) ∧
        monthClause e.fields.month = .ok (some "in January, March".toList) :=
    ⟨_, _, by rfl, by rfl, by rfl, by rfl, by rfl, by rfl⟩
  obtain ⟨hminutes, hhours, ⟨_, hmonth⟩, _, hday⟩ := told_of_sentence he hd hse hsd
  exact ⟨e, d, he, hd, hse, hsd.trans hse.symm, hminutes, hhours, hmonth _ hmonths, hday _ hdays⟩

/-- Where nothing is said of the days they may differ: this one runs on the first and on Mondays, that one always. -/
example : ∃ e d, read "0 0 1 * 1".toList = .ok e ∧ read "0 0 * * *".toList = .ok d ∧
    e.fields.sentence = d.fields.sentence ∧ e.schedule.onDay 2 0 ≠ d.schedule.onDay 2 0 :=
  ⟨_, _, by rfl, by rfl, by rfl, by decide⟩

end Expression
end CronSchedule
