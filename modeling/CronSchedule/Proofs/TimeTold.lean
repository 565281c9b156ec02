/-
What the time of a sentence tells. The time is said in one of six ways,
with the texts of the minute and of the hour among its words, and the words
can be read back: not always as the texts they were made from, for a star
and a star with a step of one are said alike, and the clock has two digits
for an hour of one, but as texts with the same values.

* `timeClause_said`: the ways in which the time is said.
* `TimeSaid.told`: reading the words back gives the values.
* `TimeSaid.not_opener`: no word of the time opens another clause.
-/
import CronSchedule.Phrase.Sentence
import CronSchedule.Proofs.FieldText
import CronSchedule.Proofs.NamedValues
import CronSchedule.Proofs.NumeralsTold

namespace CronSchedule
open FieldSpec Text

/-! ## Numerals -/

namespace FieldSpec

variable {spec : FieldSpec}

theorem AtomForm.values {t : Text} {value : Int} (h : AtomForm spec t value) : spec.values t = .ok [value] := by
  have hcomma : ',' ∉ t := h.mark_not_mem (by decide)
  have hempty : t.isEmpty = false := by simpa using h.chars.1
  have hitem : spec.readItem t = .ok ⟨.one value, none⟩ := readItem_eq_ok_iff.mpr (.plain (.one h))
  unfold FieldSpec.values
  rw [hempty, List.splitOn_eq_singleton hcomma, List.mapM_cons, hitem]
  rfl

theorem FieldForm.atom_of_plain {t : Text} (h : FieldForm spec t) (hp : Numeral.isPlain t = true) :
    AtomForm spec t (Numeral.value t) := by
  have hno : ∀ c : Char, c.isDigit = false → c ∉ t := fun c hc => Numeral.not_mem_of_isPlain hp hc
  obtain ⟨_, segments, hseg, hitems⟩ := h
  have hone : segments = [t] := (segments_iff.mp hseg).symm.trans (List.splitOn_eq_singleton (hno ',' (by decide)))
  obtain ⟨item, hitem⟩ := hitems t (by simp [hone])
  cases hitem with
  | stepped => exact absurd (by simp) (hno '/' (by decide))
  | plain hb =>
    cases hb with
    | every => exact absurd (by simp) (hno '*' (by decide))
    | span => exact absurd (by simp) (hno '-' (by decide))
    | one ha =>
      cases ha with
      | numeral hp hl hc => exact .numeral hp hl hc
      | name hne hletters =>
        rw [isPlain_eq_false_of_letters hne hletters] at hp
        cases hp

theorem FieldForm.values_padded {t : Text} (h : FieldForm spec t) (hp : Numeral.isPlain t = true)
    (hhigh : spec.high ≤ 59) : spec.values (Numeral.padded 2 (Numeral.value t)) = spec.values t := by
  have hpadded : ∀ n < 60, Numeral.isPlain (Numeral.padded 2 n) = true ∧
      (Numeral.padded 2 n).length ≤ Numeral.digitLimit ∧ Numeral.value (Numeral.padded 2 n) = n := by decide
  have hatom := h.atom_of_plain hp
  obtain ⟨_, hle⟩ := hatom.inRange
  obtain ⟨hp', hl, hv⟩ := hpadded (Numeral.value t) (by omega)
  have hatom' : AtomForm spec (Numeral.padded 2 (Numeral.value t)) (Numeral.value t) := by
    have := AtomForm.numeral hp' hl (contains_iff.mpr (hv.symm ▸ hatom.inRange))
    rwa [hv] at this
  rw [hatom.values, hatom'.values]

end FieldSpec

namespace Phrase

/-! ## How the time is said -/

/-- The words of every so many. -/
def everyWords (name : FieldName) (step : Text) : List Text :=
  if step = ['1'] then ["every".toList, singular name] else ["every".toList, step, plural name]

/-- How an hour is said after a minute. -/
inductive HourSaid : Text → List Text → Prop
  | any : HourSaid ['*'] []
  | step {step : Text} : Numeral.isPlain step = true → HourSaid ('*' :: '/' :: step) (everyWords .hour step)
  | other {hour : Text} : HourSaid hour ["during".toList, "hour".toList, hour]

/-- How a minute and an hour are said together. -/
inductive TimeSaid : Text → Text → List Text → Prop
  | everyMinute : TimeSaid ['*'] ['*'] ["every".toList, "minute".toList]
  | everyHour : TimeSaid ['0'] ['*']
      ["every".toList, "hour".toList, "at".toList, "minute".toList, "0".toList]
  | minuteStep {step hour : Text} {ws : List Text} : Numeral.isPlain step = true → HourSaid hour ws →
      TimeSaid ('*' :: '/' :: step) hour (everyWords .minute step ++ ws)
  | clock {minute hour : Text} : Numeral.isPlain minute = true → Numeral.isPlain hour = true →
      TimeSaid minute hour ["at".toList,
        Numeral.padded 2 (Numeral.value hour) ++ ':' :: Numeral.padded 2 (Numeral.value minute)]
  | atMinute {minute hour : Text} {ws : List Text} : HourSaid hour ws →
      TimeSaid minute hour ("at".toList :: "minute".toList :: minute :: ws)
  | hourAlone {hour : Text} {ws : List Text} : hour ≠ ['*'] → HourSaid hour ws → TimeSaid ['*'] hour ws

theorem splitOn_every {name : FieldName} {step : Text} (hn : ' ' ∉ singular name ∧ ' ' ∉ plural name)
    (hs : ' ' ∉ step) : List.splitOn ' ' (every name step) = everyWords name step := by
  have hevery : ' ' ∉ "every".toList := by decide
  unfold every everyWords
  split
  next =>
    show List.splitOn ' ' ("every".toList ++ ' ' :: singular name) = _
    rw [List.splitOn_append_cons_self_of_not_mem hevery, List.splitOn_eq_singleton hn.1]
  next =>
    have hparts : "every ".toList ++ step ++ " ".toList ++ plural name =
        "every".toList ++ ' ' :: (step ++ ' ' :: plural name) := by simp
    rw [hparts, List.splitOn_append_cons_self_of_not_mem hevery, List.splitOn_append_cons_self_of_not_mem hs,
      List.splitOn_eq_singleton hn.2]

theorem starStep?_eq_some {t step : Text} (h : starStep? t = some step) :
    t = '*' :: '/' :: step ∧ Numeral.isPlain step = true := by
  unfold starStep? at h
  split at h
  next rest =>
    split at h
    next hp => cases h; exact ⟨rfl, hp⟩
    next => cases h
  next => cases h

theorem hourPhrase?_said {hour : Text} (hh : ' ' ∉ hour) :
    HourSaid hour ((hourPhrase? hour).toList.flatMap (List.splitOn ' ')) := by
  unfold hourPhrase?
  split
  next h => exact h ▸ .any
  next =>
    split
    next step hstep =>
      obtain ⟨rfl, hp⟩ := starStep?_eq_some hstep
      have hspace : ' ' ∉ step := Numeral.not_mem_of_isPlain hp (by decide)
      rw [Option.toList_some, List.flatMap_singleton, splitOn_every (by decide) hspace]
      exact .step hp
    next =>
      have hparts : "during hour ".toList ++ hour = "during".toList ++ ' ' :: ("hour".toList ++ ' ' :: hour) := by rfl
      rw [Option.toList_some, List.flatMap_singleton, hparts,
        List.splitOn_append_cons_self_of_not_mem (by decide), List.splitOn_append_cons_self_of_not_mem (by decide),
        List.splitOn_eq_singleton hh]
      exact .other

/-- **The ways in which the time is said.** -/
theorem timeClause_said {minute hour t : Text} (h : timeClause minute hour = .ok t) (hm : ' ' ∉ minute)
    (hh : ' ' ∉ hour) : TimeSaid minute hour (List.splitOn ' ' t) := by
  have hhour := hourPhrase?_said hh
  unfold timeClause at h
  split at h
  next hboth =>
    obtain ⟨rfl, rfl⟩ := hboth
    cases h
    exact .everyMinute
  next hnot =>
    split at h
    next hboth =>
      obtain ⟨rfl, rfl⟩ := hboth
      cases h
      exact .everyHour
    next =>
      split at h
      next step hstep =>
        obtain ⟨rfl, hp⟩ := starStep?_eq_some hstep
        cases h
        have hspace : ' ' ∉ step := Numeral.not_mem_of_isPlain hp (by decide)
        rw [splitOn_intercalate_flatMap (by simp), List.flatMap_cons, splitOn_every (by decide) hspace]
        exact .minuteStep hp hhour
      next =>
        split at h
        next hplain =>
          obtain ⟨n, hn, h⟩ := bind_eq_ok_iff.mp h
          obtain ⟨m, hm', h⟩ := bind_eq_ok_iff.mp h
          cases h
          have hparts : "at ".toList ++ Numeral.padded 2 n ++ ':' :: Numeral.padded 2 m =
              "at".toList ++ ' ' :: (Numeral.padded 2 n ++ ':' :: Numeral.padded 2 m) := by simp
          have hclock : ' ' ∉ Numeral.padded 2 n ++ ':' :: Numeral.padded 2 m := by
            simp [Numeral.not_mem_padded (show ' '.isDigit = false by decide)]
          rw [hparts, List.splitOn_append_cons_self_of_not_mem (by decide), List.splitOn_eq_singleton hclock,
            ← (number_eq_ok_iff.mp hn).2,
            ← (number_eq_ok_iff.mp hm').2]
          exact .clock hplain.1 hplain.2
        next =>
          cases h
          -- an open minute is left out, and the hour is said, since both open is said otherwise
          by_cases hstar : minute = ['*']
          · subst hstar
            have hopen : hour ≠ ['*'] := fun e => hnot ⟨rfl, e⟩
            have hsome : (hourPhrase? hour).toList ≠ [] := by
              unfold hourPhrase?
              rw [if_neg hopen]
              split <;> simp
            rw [if_pos rfl, List.nil_append, splitOn_intercalate_flatMap hsome]
            exact .hourAlone hopen hhour
          · have hparts : "at minute ".toList ++ minute =
                "at".toList ++ ' ' :: ("minute".toList ++ ' ' :: minute) := by rfl
            rw [if_neg hstar, splitOn_intercalate_flatMap (by simp), List.flatMap_append, List.flatMap_singleton,
              hparts, List.splitOn_append_cons_self_of_not_mem (by decide),
              List.splitOn_append_cons_self_of_not_mem (by decide), List.splitOn_eq_singleton hm]
            exact .atMinute hhour

/-! ## The words read back -/

/-- The hour that is told after a minute. -/
def hourTold : List Text → Text
  | [] => ['*']
  | [_, _] => "*/1".toList
  | [first, second, third] => if first = "during".toList then third else '*' :: '/' :: second
  | _ => []

/-- The minute and the hour that a clock tells. -/
def clockTold (clock : Text) : Text × Text :=
  match cut? ':' clock with
  | some (hour, minute) => (minute, hour)
  | none => ([], [])

/-- The minute and the hour that the words of a time tell. -/
def timeTold : List Text → Text × Text
  | first :: second :: rest =>
    if first = "at".toList then
      match rest with
      | [] => clockTold second
      | minute :: hour => (minute, hourTold hour)
    else if first = "every".toList ∧ second = "minute".toList then (['*'], hourTold rest)
    else if first = "every".toList ∧ second = "hour".toList ∧ rest ≠ [] then (['0'], ['*'])
    else if first = "every".toList ∧ rest.head? = some "minutes".toList then ('*' :: '/' :: second, hourTold rest.tail)
    else (['*'], hourTold (first :: second :: rest))
  | _ => ([], [])

theorem HourSaid.told {hour : Text} {ws : List Text} (h : HourSaid hour ws) : hourTold ws = hour := by
  cases h with
  | any => rfl
  | other => rfl
  | step hp =>
    unfold everyWords
    split
    next h1 => rw [h1]; rfl
    next => rfl

theorem ne_of_plain {step word : Text} (h : Numeral.isPlain step = true) (hw : Numeral.isPlain word = false) :
    step ≠ word := fun e => by
  rw [e, hw] at h
  cases h

theorem timeTold_minuteStep {step : Text} (ws : List Text) (h : Numeral.isPlain step = true) :
    timeTold ("every".toList :: step :: "minutes".toList :: ws) = ('*' :: '/' :: step, hourTold ws) := by
  have hminute : step ≠ "minute".toList := ne_of_plain h (by decide)
  have hhour : step ≠ "hour".toList := ne_of_plain h (by decide)
  rw [timeTold, if_neg (by decide), if_neg fun hc => hminute hc.2, if_neg fun hc => hhour hc.2.1, if_pos ⟨rfl, rfl⟩]
  rfl

theorem timeTold_hourStep {step : Text} (h : Numeral.isPlain step = true) :
    timeTold ["every".toList, step, "hours".toList] = (['*'], '*' :: '/' :: step) := by
  have hminute : step ≠ "minute".toList := ne_of_plain h (by decide)
  have hhour : step ≠ "hour".toList := ne_of_plain h (by decide)
  rw [timeTold, if_neg (by decide), if_neg fun hc => hminute hc.2, if_neg fun hc => hhour hc.2.1, if_neg (by decide)]
  rfl

theorem clockTold_padded (hour minute : Nat) :
    clockTold (Numeral.padded 2 hour ++ ':' :: Numeral.padded 2 minute) =
      (Numeral.padded 2 minute, Numeral.padded 2 hour) := by
  unfold clockTold
  rw [cut?_eq_some_iff.mpr ⟨rfl, Numeral.not_mem_padded (by decide) 2 hour⟩]

/-- **The words of a time tell the values of the minute and the hour.** -/
theorem TimeSaid.told {minute hour : Text} {ws : List Text} (h : TimeSaid minute hour ws)
    (hm : FieldForm .minute minute) (hh : FieldForm .hour hour) :
    FieldSpec.minute.values (timeTold ws).1 = FieldSpec.minute.values minute ∧
      FieldSpec.hour.values (timeTold ws).2 = FieldSpec.hour.values hour := by
  cases h with
  | everyMinute => exact ⟨rfl, rfl⟩
  | everyHour => exact ⟨rfl, rfl⟩
  | @minuteStep step _ ws hp hs =>
    unfold everyWords
    split
    next h1 =>
      -- a step of one is said without it, and is read back as a star
      have htold : timeTold (["every".toList, singular .minute] ++ ws) = (['*'], hourTold ws) := rfl
      rw [htold, hs.told, h1]
      exact ⟨by rfl, rfl⟩
    next =>
      have htold : timeTold (["every".toList, step, plural .minute] ++ ws) = ('*' :: '/' :: step, hourTold ws) :=
        timeTold_minuteStep ws hp
      rw [htold, hs.told]
      exact ⟨rfl, rfl⟩
  | clock hpm hph =>
    -- the clock has two digits, so the texts may differ here
    have htold : ∀ clock, timeTold ["at".toList, clock] = clockTold clock := fun _ => rfl
    rw [htold, clockTold_padded]
    exact ⟨hm.values_padded hpm (by decide), hh.values_padded hph (by decide)⟩
  | @atMinute _ _ ws hs =>
    have htold : timeTold ("at".toList :: "minute".toList :: minute :: ws) = (minute, hourTold ws) := rfl
    rw [htold, hs.told]
    exact ⟨rfl, rfl⟩
  | hourAlone hopen hs =>
    cases hs with
    | any => exact absurd rfl hopen
    | other => exact ⟨rfl, rfl⟩
    | @step step hp =>
      unfold everyWords
      split
      next h1 => rw [h1]; exact ⟨rfl, rfl⟩
      next =>
        have htold : timeTold ["every".toList, step, plural .hour] = (['*'], '*' :: '/' :: step) :=
          timeTold_hourStep hp
        rw [htold]
        exact ⟨rfl, rfl⟩

/-! ## The borders of the clause -/

/-- The words with which the clauses after the time begin. -/
def openers : List Text := ["on".toList, "in".toList]

/-- Neither of them is a field without names. -/
theorem not_fieldForm_of_opener {name : FieldName} (hn : name ∈ [.minute, .hour, .dayOfMonth]) {w : Text}
    (hw : w ∈ openers) : ¬ FieldForm name.spec w := by
  have hall : ∀ name ∈ [FieldName.minute, .hour, .dayOfMonth], ∀ w ∈ openers, (name.spec.values w).isOk = false := by
    decide +kernel
  intro h
  obtain ⟨vs, hvs⟩ := exists_values_iff.mpr h
  have := hall name hn w hw
  rw [hvs] at this
  cases this

theorem everyWords_not_opener {name : FieldName} (hn : name ∈ [.minute, .hour]) {step : Text}
    (hp : Numeral.isPlain step = true) : ∀ w ∈ everyWords name step, w ∉ openers := by
  have hfixed : ∀ name ∈ [FieldName.minute, .hour], ∀ w ∈ ["every".toList, singular name, plural name],
      w ∉ openers := by decide
  have hopeners : ∀ w ∈ openers, Numeral.isPlain w = false := by decide
  have hstep : step ∉ openers := fun h => ne_of_plain hp (hopeners step h) rfl
  intro w hw
  unfold everyWords at hw
  split at hw
  next => exact hfixed name hn w (List.mem_of_mem_take (i := 2) hw)
  next =>
    rcases List.mem_cons.mp hw with rfl | hw
    · exact hfixed name hn _ List.mem_cons_self
    · rcases List.mem_cons.mp hw with rfl | hw
      · exact hstep
      · exact hfixed name hn w (List.mem_of_mem_drop (i := 2) hw)

theorem HourSaid.not_opener {hour : Text} {ws : List Text} (h : HourSaid hour ws) (hh : FieldForm .hour hour) :
    ∀ w ∈ ws, w ∉ openers := by
  cases h with
  | any => exact fun _ hw => (nomatch hw)
  | step hp => exact everyWords_not_opener (by decide) hp
  | other =>
    have hhour : hour ∉ openers := fun h => not_fieldForm_of_opener (by decide : FieldName.hour ∈ _) h hh
    intro w hw
    simp only [List.mem_cons, List.not_mem_nil, or_false] at hw
    rcases hw with rfl | rfl | rfl
    · decide
    · decide
    · exact hhour

/-- **No word of the time opens another clause.** -/
theorem TimeSaid.not_opener {minute hour : Text} {ws : List Text} (h : TimeSaid minute hour ws)
    (hm : FieldForm .minute minute) (hh : FieldForm .hour hour) : ∀ w ∈ ws, w ∉ openers := by
  cases h with
  | everyMinute => decide
  | everyHour => decide
  | minuteStep hp hs =>
    intro w hw
    rcases List.mem_append.mp hw with hw | hw
    · exact everyWords_not_opener (by decide) hp w hw
    · exact hs.not_opener hh w hw
  | clock =>
    have hopeners : ∀ w ∈ openers, ':' ∉ w := by decide
    intro w hw
    simp only [List.mem_cons, List.not_mem_nil, or_false] at hw
    rcases hw with rfl | rfl
    · decide
    · exact fun hopen => hopeners _ hopen (by simp)
  | atMinute hs =>
    have hminute : minute ∉ openers := fun h => not_fieldForm_of_opener (by decide : FieldName.minute ∈ _) h hm
    intro w hw
    rcases List.mem_cons.mp hw with rfl | hw
    · decide
    · rcases List.mem_cons.mp hw with rfl | hw
      · decide
      · rcases List.mem_cons.mp hw with rfl | hw
        · exact hminute
        · exact hs.not_opener hh w hw
  | hourAlone _ hs => exact hs.not_opener hh

end Phrase
end CronSchedule
