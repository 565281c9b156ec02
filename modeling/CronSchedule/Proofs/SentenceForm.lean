/-
The form of a sentence, for any five texts. There is always a clause for
the time and there may be one for the days and one for the months, in this
order, and each is known by the word it opens with. The one thing that gets
in the way is a numeral over the limit: in a clock, where both numerals are
read, or among names, where the atoms are read up to the first that has
none.

* `timeClause_made`: what the time is made of.
* `TimeMade.opens`, `dayClause_opens`, `monthClause_opens`: the words with
  which the clauses open.
* `exists_timeClause_error_iff`, `dayClause_eq_error_iff`,
  `monthClause_eq_error_iff`: when a clause fails.
* `sentence_or_overlong`: the sentence of any five texts.
-/
import CronSchedule.Proofs.AtomNames
import CronSchedule.Proofs.SentenceTold
import CronSchedule.Proofs.Wording

namespace CronSchedule
open FieldSpec Text

namespace Phrase

variable {minute hour : Text} {e : PhraseError}

/-! ## The parts of the time -/

/-- The minutes; none if the minute is left open. -/
def minutePhrase? (minute : Text) : Option Text :=
  if minute = ['*'] then none
  else
    match starStep? minute with
    | some step => some (every .minute step)
    | none => some ("at minute ".toList ++ minute)

/-- What the time of any two texts is made of: it is said in a word of its own, by a clock or in phrases for the minute
and for the hour, not both of them open. -/
inductive TimeMade (minute hour : Text) : Text → Prop
  | everyMinute : minute = ['*'] → hour = ['*'] → TimeMade minute hour "every minute".toList
  | everyHour : minute = ['0'] → hour = ['*'] → TimeMade minute hour "every hour at minute 0".toList
  | clock {h m : Nat} : Numeral.isPlain minute = true → Numeral.isPlain hour = true →
      TimeMade minute hour ("at ".toList ++ Numeral.padded 2 h ++ ':' :: Numeral.padded 2 m)
  | phrases : ¬ (minutePhrase? minute = none ∧ hourPhrase? hour = none) →
      TimeMade minute hour (List.intercalate [' '] ((minutePhrase? minute).toList ++ (hourPhrase? hour).toList))

theorem hourPhrase?_eq_none_iff : hourPhrase? hour = none ↔ hour = ['*'] := by
  unfold hourPhrase?
  split
  next h => simp [h]
  next h => split <;> simp [h]

theorem minutePhrase?_of_starStep {step : Text} (h : starStep? minute = some step) :
    minutePhrase? minute = some (every .minute step) := by
  have hopen : minute ≠ ['*'] := by
    rw [(starStep?_eq_some h).1]
    simp
  rw [minutePhrase?, if_neg hopen, h]

/-- **What the time is made of.** -/
theorem timeClause_made {time : Text} (h : timeClause minute hour = .ok time) : TimeMade minute hour time := by
  unfold timeClause at h
  split at h
  next hboth =>
    cases h
    exact .everyMinute hboth.1 hboth.2
  next hnot =>
    split at h
    next hboth =>
      cases h
      exact .everyHour hboth.1 hboth.2
    next =>
      split at h
      next step hstep =>
        cases h
        have hphrase := minutePhrase?_of_starStep hstep
        have hmade : TimeMade minute hour _ := .phrases fun hnone => by
          rw [hphrase] at hnone
          cases hnone.1
        rw [hphrase] at hmade
        exact hmade
      next hstep =>
        split at h
        next hplain =>
          obtain ⟨_, _, h⟩ := bind_eq_ok_iff.mp h
          obtain ⟨_, _, h⟩ := bind_eq_ok_iff.mp h
          cases h
          exact .clock hplain.1 hplain.2
        next =>
          cases h
          have hphrase : (minutePhrase? minute).toList =
              if minute = ['*'] then [] else ["at minute ".toList ++ minute] := by
            unfold minutePhrase?
            rw [hstep]
            split <;> rfl
          rw [← hphrase]
          refine .phrases fun hnone => hnot ⟨Decidable.byContradiction fun hopen => ?_, ?_⟩
          · rw [minutePhrase?, if_neg hopen, hstep] at hnone
            cases hnone.1
          · exact hourPhrase?_eq_none_iff.mp hnone.2

/-! ## The openings -/

theorem every_opens (name : FieldName) (step : Text) : "every ".toList <+: every name step := by
  unfold every
  split
  next => exact List.prefix_append _ _
  next =>
    rw [List.append_assoc, List.append_assoc]
    exact List.prefix_append _ _

/-- The words with which a time opens. -/
def timeOpenings : List Text := ["every ".toList, "at ".toList, "during ".toList]

theorem minutePhrase?_opens {phrase : Text} (h : minutePhrase? minute = some phrase) :
    ∃ word ∈ timeOpenings, word <+: phrase := by
  unfold minutePhrase? at h
  split at h
  next => cases h
  next =>
    split at h
    next step _ =>
      cases h
      exact ⟨"every ".toList, by decide, every_opens .minute step⟩
    next =>
      cases h
      exact ⟨"at ".toList, by decide, List.prefix_append "at ".toList ("minute ".toList ++ minute)⟩

theorem hourPhrase?_opens {phrase : Text} (h : hourPhrase? hour = some phrase) :
    ∃ word ∈ timeOpenings, word <+: phrase := by
  unfold hourPhrase? at h
  split at h
  next => cases h
  next =>
    split at h
    next step _ =>
      cases h
      exact ⟨"every ".toList, by decide, every_opens .hour step⟩
    next =>
      cases h
      exact ⟨"during ".toList, by decide, List.prefix_append "during ".toList ("hour ".toList ++ hour)⟩

/-- **The time opens with one of its words.** -/
theorem TimeMade.opens {time : Text} (h : TimeMade minute hour time) : ∃ word ∈ timeOpenings, word <+: time := by
  cases h with
  | everyMinute => exact ⟨"every ".toList, by decide, by decide⟩
  | everyHour => exact ⟨"every ".toList, by decide, by decide⟩
  | clock =>
    rw [List.append_assoc]
    exact ⟨"at ".toList, by decide, List.prefix_append _ _⟩
  | phrases hsome =>
    cases hminute : minutePhrase? minute with
    | some phrase =>
      obtain ⟨word, hword, hopens⟩ := minutePhrase?_opens hminute
      exact ⟨word, hword, hopens.trans (prefix_intercalate _ phrase _)⟩
    | none =>
      cases hhour : hourPhrase? hour with
      | some phrase =>
        obtain ⟨word, hword, hopens⟩ := hourPhrase?_opens hhour
        exact ⟨word, hword, hopens.trans (prefix_intercalate _ phrase [])⟩
      | none => exact absurd ⟨hminute, hhour⟩ hsome

theorem dayClause_opens {dayOfMonth dayOfWeek : Text} {days : Option Text}
    (h : dayClause dayOfMonth dayOfWeek = .ok days) : ∀ clause ∈ days, "on ".toList <+: clause := by
  intro clause hc
  unfold dayClause at h
  split at h
  next =>
    cases h
    rw [← Option.mem_some.mp hc, List.append_assoc]
    exact List.prefix_append "on ".toList ("day ".toList ++ (dayOfMonth ++ " of the month".toList))
  next =>
    split at h
    next =>
      obtain ⟨named, _, h⟩ := bind_eq_ok_iff.mp h
      cases h
      obtain ⟨items, _, rfl⟩ := Option.map_eq_some_iff.mp hc
      exact List.prefix_append _ _
    next =>
      cases h
      cases hc

theorem monthClause_opens {month : Text} {months : Option Text} (h : monthClause month = .ok months) :
    ∀ clause ∈ months, "in ".toList <+: clause := by
  intro clause hc
  unfold monthClause at h
  split at h
  next =>
    cases h
    cases hc
  next =>
    obtain ⟨named, _, h⟩ := bind_eq_ok_iff.mp h
    cases h
    obtain ⟨items, _, rfl⟩ := Option.map_eq_some_iff.mp hc
    exact List.prefix_append _ _

/-! ## Clauses that fail -/

theorem timeClause_of_plain (hm : Numeral.isPlain minute = true) (hh : Numeral.isPlain hour = true) :
    timeClause minute hour = (do
      let h ← number hour
      let m ← number minute
      .ok ("at ".toList ++ Numeral.padded 2 h ++ ':' :: Numeral.padded 2 m)) := by
  have hstar : ∀ {t : Text}, Numeral.isPlain t = true → '*' ∉ t := fun hp => Numeral.not_mem_of_isPlain hp (by decide)
  have hopen : ∀ {t : Text}, Numeral.isPlain t = true → t ≠ ['*'] := fun hp ht => hstar hp (by simp [ht])
  have hstep : starStep? minute = none := by
    cases hs : starStep? minute with
    | none => rfl
    | some step => exact absurd (by simp [(starStep?_eq_some hs).1]) (hstar hm)
  unfold timeClause
  rw [if_neg fun h => hopen hh h.2, if_neg fun h => hopen hh h.2, hstep]
  dsimp only
  rw [if_pos ⟨hm, hh⟩]

theorem plain_of_timeClause_error (h : timeClause minute hour = .error e) :
    Numeral.isPlain minute = true ∧ Numeral.isPlain hour = true := by
  unfold timeClause at h
  split at h
  next => cases h
  next =>
    split at h
    next => cases h
    next =>
      split at h
      next => cases h
      next =>
        split at h
        next hplain => exact hplain
        next => cases h

theorem timeClause_error (h : timeClause minute hour = .error e) :
    ∃ digits, Numeral.digitLimit < digits ∧ e = .tooLong (.toRead digits) := by
  obtain ⟨hm, hh⟩ := plain_of_timeClause_error h
  rw [timeClause_of_plain hm hh] at h
  rcases bind_eq_error_iff.mp h with h | ⟨_, _, h⟩
  · exact ⟨hour.length, number_eq_error_iff.mp h⟩
  · rcases bind_eq_error_iff.mp h with h | ⟨_, _, h⟩
    · exact ⟨minute.length, number_eq_error_iff.mp h⟩
    · cases h

/-- **The time fails** just if it is said by a clock and one of its numerals is over the limit. -/
theorem exists_timeClause_error_iff :
    (∃ e, timeClause minute hour = .error e) ↔ Numeral.isPlain minute = true ∧ Numeral.isPlain hour = true ∧
      (Numeral.digitLimit < minute.length ∨ Numeral.digitLimit < hour.length) := by
  refine ⟨fun ⟨e, h⟩ => ?_, fun ⟨hm, hh, hlong⟩ => ?_⟩
  · obtain ⟨hm, hh⟩ := plain_of_timeClause_error h
    refine ⟨hm, hh, Decidable.byContradiction fun hshort => ?_⟩
    rw [not_or, Nat.not_lt, Nat.not_lt] at hshort
    rw [timeClause_of_plain hm hh, number_of_le hshort.1, number_of_le hshort.2] at h
    cases h
  · rw [timeClause_of_plain hm hh]
    by_cases hhour : Numeral.digitLimit < hour.length
    · exact ⟨_, bind_eq_error_iff.mpr (.inl (number_eq_error_iff.mpr ⟨hhour, rfl⟩))⟩
    · have hminute : Numeral.digitLimit < minute.length := hlong.resolve_right hhour
      have hread := number_of_le (Nat.not_lt.mp hhour)
      refine ⟨.tooLong (.toRead minute.length), bind_eq_error_iff.mpr (.inr ⟨_, hread, ?_⟩)⟩
      exact bind_eq_error_iff.mpr (.inl (number_eq_error_iff.mpr ⟨hminute, rfl⟩))

/-- **The days fail** just with a numeral over the limit among the names of weekdays. -/
theorem dayClause_eq_error_iff {dayOfMonth dayOfWeek : Text} :
    dayClause dayOfMonth dayOfWeek = .error e ↔
      dayOfMonth = ['*'] ∧ ∃ digits, OverlongNames .dayOfWeek dayOfWeek digits ∧ e = .tooLong (.toRead digits) := by
  rw [← nameTable_dayOfWeek.named?_eq_error_iff]
  unfold dayClause
  split
  next hdate => exact ⟨fun h => (nomatch h), fun h => absurd h.1 hdate.1⟩
  next =>
    split
    next hnames =>
      rw [bind_eq_error_iff]
      refine ⟨fun h => ⟨hnames.1, ?_⟩, fun h => .inl h.2⟩
      rcases h with h | ⟨_, _, h⟩
      · exact h
      · cases h
    next hnot =>
      refine ⟨fun h => (nomatch h), fun ⟨hd, h⟩ => absurd ⟨hd, fun hw => ?_⟩ hnot⟩
      rw [hw] at h
      cases h

theorem exists_dayClause_error_iff {dayOfMonth dayOfWeek : Text} :
    (∃ e, dayClause dayOfMonth dayOfWeek = .error e) ↔
      dayOfMonth = ['*'] ∧ ∃ digits, OverlongNames .dayOfWeek dayOfWeek digits := by
  simp only [dayClause_eq_error_iff]
  refine ⟨fun h => ?_, fun h => ?_⟩
  · obtain ⟨_, hd, digits, hnames, _⟩ := h
    exact ⟨hd, digits, hnames⟩
  · obtain ⟨hd, digits, hnames⟩ := h
    exact ⟨_, hd, digits, hnames, rfl⟩

theorem monthClause_eq_error_iff {month : Text} :
    monthClause month = .error e ↔ ∃ digits, OverlongNames .month month digits ∧ e = .tooLong (.toRead digits) := by
  rw [← nameTable_month.named?_eq_error_iff]
  unfold monthClause
  split
  next hstar =>
    refine ⟨fun h => (nomatch h), fun h => ?_⟩
    rw [hstar] at h
    cases h
  next =>
    rw [bind_eq_error_iff]
    refine ⟨fun h => ?_, .inl⟩
    rcases h with h | ⟨_, _, h⟩
    · exact h
    · cases h

theorem exists_monthClause_error_iff {month : Text} :
    (∃ e, monthClause month = .error e) ↔ ∃ digits, OverlongNames .month month digits := by
  simp only [monthClause_eq_error_iff]
  refine ⟨fun h => ?_, fun h => ?_⟩
  · obtain ⟨_, digits, hnames, _⟩ := h
    exact ⟨digits, hnames⟩
  · obtain ⟨digits, hnames⟩ := h
    exact ⟨_, digits, hnames, rfl⟩

end Phrase

open Phrase

namespace Fields

/-! ## The sentence -/

/-- The clauses made for the fields, of which each opens with its word and that for the time with one of three. -/
structure Clauses (f : Fields) (time : Text) (days months : Option Text) : Prop where
  time_eq : timeClause f.minute f.hour = .ok time
  days_eq : dayClause f.dayOfMonth f.dayOfWeek = .ok days
  months_eq : monthClause f.month = .ok months
  time_opens : ∃ word ∈ timeOpenings, word <+: time
  days_open : ∀ clause ∈ days, "on ".toList <+: clause
  months_open : ∀ clause ∈ months, "in ".toList <+: clause

variable {f : Fields} {time : Text} {days months : Option Text} {e : PhraseError}

theorem Clauses.ne_nil (h : f.Clauses time days months) :
    ∀ clause ∈ time :: days.toList ++ months.toList, clause ≠ [] := by
  have hopened : ∀ {word clause : Text}, word ≠ [] → word <+: clause → clause ≠ [] := by
    rintro word clause hword ⟨rest, rfl⟩ hnil
    exact hword (List.append_eq_nil_iff.mp hnil).1
  intro clause hc
  rw [List.cons_append, List.mem_cons, List.mem_append, Option.mem_toList, Option.mem_toList] at hc
  rcases hc with rfl | hc | hc
  · obtain ⟨word, hword, hopens⟩ := h.time_opens
    have hwords : ∀ word ∈ timeOpenings, word ≠ [] := by decide
    exact hopened (hwords word hword) hopens
  · exact hopened (by decide) (h.days_open clause hc)
  · exact hopened (by decide) (h.months_open clause hc)

theorem sentence_eq_ok_iff_clauses {sentence : Text} :
    f.sentence = .ok sentence ↔
      ∃ time days months, f.Clauses time days months ∧ sentence = sentenceOf time days months := by
  rw [sentence_eq_ok_iff]
  refine ⟨fun h => ?_, fun h => ?_⟩
  · obtain ⟨time, days, months, htime, hdays, hmonths, hs⟩ := h
    refine ⟨time, days, months, ⟨htime, hdays, hmonths, ?_, ?_, ?_⟩, hs⟩
    · exact (timeClause_made htime).opens
    · exact dayClause_opens hdays
    · exact monthClause_opens hmonths
  · obtain ⟨time, days, months, hc, hs⟩ := h
    exact ⟨time, days, months, hc.time_eq, hc.days_eq, hc.months_eq, hs⟩

theorem exists_sentence_error_iff :
    (∃ e, f.sentence = .error e) ↔ (∃ e, timeClause f.minute f.hour = .error e) ∨
      (∃ e, dayClause f.dayOfMonth f.dayOfWeek = .error e) ∨ ∃ e, monthClause f.month = .error e := by
  unfold sentence
  cases timeClause f.minute f.hour with
  | error e => simp [bind, Except.bind]
  | ok time =>
    cases dayClause f.dayOfMonth f.dayOfWeek with
    | error e => simp [bind, Except.bind]
    | ok days => cases monthClause f.month <;> simp [bind, Except.bind]

/-- A sentence fails with an error of one of its clauses. -/
theorem clause_error_of_sentence (h : f.sentence = .error e) : timeClause f.minute f.hour = .error e ∨
    dayClause f.dayOfMonth f.dayOfWeek = .error e ∨ monthClause f.month = .error e := by
  rcases bind_eq_error_iff.mp h with h | ⟨_, _, h⟩
  · exact .inl h
  · rcases bind_eq_error_iff.mp h with h | ⟨_, _, h⟩
    · exact .inr (.inl h)
    · rcases bind_eq_error_iff.mp h with h | ⟨_, _, h⟩
      · exact .inr (.inr h)
      · cases h

/-- **The sentence of any five texts.** Either it is its first word and then one to three clauses, none of them empty,
for the time, the days and the months in this order, of which only the time is always said; or there is none, because
of a numeral over the limit. There is none just in three cases: the time is said by a clock and one of its numerals is
over the limit; the day of the month is a star, and such a numeral comes among the names of weekdays before any atom
that stands for no value; or it does so among the names of months. The fields of an expression that is read have a
sentence. -/
theorem sentence_or_overlong (f : Fields) :
    ((∃ time days months, f.Clauses time days months ∧
        (∀ clause ∈ time :: days.toList ++ months.toList, clause ≠ []) ∧
        f.sentence = .ok (List.intercalate [' '] ("Runs".toList :: time :: days.toList ++ months.toList))) ∨
      ∃ digits, Numeral.digitLimit < digits ∧ f.sentence = .error (.tooLong (.toRead digits))) ∧
    ((∃ e, f.sentence = .error e) ↔
      (Numeral.isPlain f.minute = true ∧ Numeral.isPlain f.hour = true ∧
        (Numeral.digitLimit < f.minute.length ∨ Numeral.digitLimit < f.hour.length)) ∨
      (f.dayOfMonth = ['*'] ∧ ∃ digits, OverlongNames .dayOfWeek f.dayOfWeek digits) ∨
      ∃ digits, OverlongNames .month f.month digits) ∧
    ∀ t e, Expression.read t = .ok e → e.fields = f → ∃ sentence, f.sentence = .ok sentence := by
  refine ⟨?_, ?_, fun t e hread hf => ?_⟩
  · cases hs : f.sentence with
    | ok sentence =>
      obtain ⟨time, days, months, hc, rfl⟩ := sentence_eq_ok_iff_clauses.mp hs
      exact .inl ⟨time, days, months, hc, hc.ne_nil, rfl⟩
    | error e =>
      refine .inr ?_
      rcases clause_error_of_sentence hs with h | h | h
      · obtain ⟨digits, hlong, rfl⟩ := timeClause_error h
        exact ⟨digits, hlong, rfl⟩
      · obtain ⟨_, digits, hnames, rfl⟩ := dayClause_eq_error_iff.mp h
        exact ⟨digits, hnames.limit_lt, rfl⟩
      · obtain ⟨digits, hnames, rfl⟩ := monthClause_eq_error_iff.mp h
        exact ⟨digits, hnames.limit_lt, rfl⟩
  · rw [exists_sentence_error_iff, exists_timeClause_error_iff, exists_dayClause_error_iff,
      exists_monthClause_error_iff]
  · rw [← hf]
    exact exists_sentence (fieldForm_of_schedule (Expression.read_eq_ok hread).2)

/-- Texts that are no fields, a numeral over the limit that ends a span and has none before it but a name, and weekdays
at nine. -/
theorem sentence_or_overlong_span :
    (∃ time days months, Clauses ⟨[], "x y".toList, ['*'], "Mar-jan".toList, ",5".toList⟩ time days months ∧
      sentence ⟨[], "x y".toList, ['*'], "Mar-jan".toList, ",5".toList⟩ =
        .ok (List.intercalate [' '] ("Runs".toList :: time :: days.toList ++ months.toList))) ∧
    (∃ e, sentence ⟨['*'], ['*'], ['1'], "jan-".toList ++ List.replicate 4301 '9' ++ ",x".toList, ['2']⟩ =
      .error e) ∧
    ∃ e, Expression.read "0 9 * * 1-5".toList = .ok e ∧ ∃ sentence, e.fields.sentence = .ok sentence := by
  refine ⟨?_, ?_, ?_⟩
  · have hs : sentence ⟨[], "x y".toList, ['*'], "Mar-jan".toList, ",5".toList⟩ =
        .ok "Runs at minute  during hour x y in March through January".toList := by rfl
    rcases (sentence_or_overlong _).1 with ⟨time, days, months, hc, _, h⟩ | ⟨digits, _, h⟩
    · exact ⟨time, days, months, hc, h⟩
    · rw [hs] at h
      cases h
  · have hlong : Overlong (List.replicate 4301 '9') 4301 := overlong_replicate (by decide)
    have hno : ∀ c : Char, c.isDigit = false → c ∉ List.replicate 4301 '9' := fun c hc => hlong.not_mem hc
    have hmark : ∀ c : Char, c.isDigit = false → c ∉ "jan-".toList → c ∉ ",x".toList →
        c ∉ "jan-".toList ++ List.replicate 4301 '9' ++ ",x".toList := by
      intro c hdigit hjan hx
      simp only [List.mem_append, not_or]
      exact ⟨⟨hjan, hno c hdigit⟩, hx⟩
    have hslash := hmark '/' (by decide) (by decide) (by decide)
    have hstar := hmark '*' (by decide) (by decide) (by decide)
    have hatoms : atoms ("jan-".toList ++ List.replicate 4301 '9' ++ ",x".toList) =
        ["jan".toList, List.replicate 4301 '9', "x".toList] := by
      have hsplit : List.splitOn ',' ("jan-".toList ++ List.replicate 4301 '9' ++ ",x".toList) =
          ["jan".toList ++ '-' :: List.replicate 4301 '9', "x".toList] := by
        have hcomma : ',' ∉ "jan-".toList ++ List.replicate 4301 '9' :=
          fun h => (List.mem_append.mp h).elim (by decide) (hno ',' (by decide))
        exact List.splitOn_append_cons_self_of_not_mem hcomma ['x']
      rw [atoms, hsplit, List.flatMap_cons, itemAtoms_append (by decide)]
      rfl
    have hjan : Stands .month "jan".toList 1 := .name (by rfl) (by rfl) (by rfl)
    refine (sentence_or_overlong _).2.1.mpr (.inr (.inr ⟨4301, hslash, hstar, ?_⟩))
    exact ⟨["jan".toList], _, ["x".toList], hatoms, by simpa using ⟨1, hjan⟩, hlong⟩
  · obtain ⟨e, hread⟩ : ∃ e, Expression.read "0 9 * * 1-5".toList = .ok e := ⟨_, by rfl⟩
    exact ⟨e, hread, (sentence_or_overlong e.fields).2.2 _ e hread rfl⟩

end Fields
end CronSchedule
