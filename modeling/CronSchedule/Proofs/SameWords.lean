/-
The sentence and the phrases say a field in the same words. They are made
apart, each by tests of its own in an order of its own, but the tests do not
get in each other's way: a text with a step or a star is in no names, and a
phrase that is not in names does not open like one that is. So a clause in
names is the phrase of its field, and the phrase of a star with a step is
found again at its place in the time.

* `names_of_phrase`: the names of a field are its phrase, if this opens with
  their word.
* `phrase_starStep`, `TimeMade.minute_prefix`, `TimeMade.hour_suffix`: a star
  with a step, by itself and in the time.
* `clauses_in_phrases`: the clauses of a sentence in the words of the
  phrases.
-/
import CronSchedule.Proofs.PhraseTold
import CronSchedule.Proofs.SentenceForm

namespace CronSchedule
open FieldSpec Text

namespace Phrase

/-! ## Names -/

variable {name : FieldName} {word raw phrase : Text} {table : List Text}

/-- A phrase that begins with an e opens with no word for names. -/
theorem NameWords.not_opens_of_head (h : NameWords name word table) (he : phrase.head? = some 'e') :
    ¬ word <+: phrase := by
  rintro ⟨t, rfl⟩
  have hhead := h.head? t
  rw [he] at hhead
  revert hhead
  decide

theorem named?_of_mark (h : '/' ∈ raw ∨ '*' ∈ raw) : named? name.spec table raw = .ok none := by
  have hguard : (raw.isEmpty || raw.contains '/' || raw.contains '*') = true := by
    rcases h with h | h <;> simp [h]
  rw [named?, hguard, if_pos rfl]

/-- **The names of a field are its phrase**, if this opens with the word for them, and otherwise it has none. -/
theorem names_of_phrase (h : NameWords name word table) (hp : name.spec.phrase raw = .ok phrase) :
    ∃ named, named? name.spec table raw = .ok named ∧
      ∀ clause, named.map (word ++ listed ·) = some clause ↔ clause = phrase ∧ word <+: phrase := by
  -- without names the phrase is one that does not open with the word
  have hnone : ¬ word <+: phrase → ∀ clause,
      (none : Option (List NameItem)).map (word ++ listed ·) = some clause ↔ clause = phrase ∧ word <+: phrase :=
    fun hopens clause => ⟨fun h => (nomatch h), fun h => absurd h.2 hopens⟩
  unfold FieldSpec.phrase at hp
  rw [name.name_spec] at hp
  split at hp
  next hstar =>
    cases hp
    exact ⟨none, named?_of_mark (.inr (by simp [hstar])), hnone (h.not_opens_of_head rfl)⟩
  next =>
    split at hp
    next base step hstepped =>
      have hmark : '/' ∈ raw := by simp [(stepped?_eq_some hstepped).1]
      have hhead : phrase.head? = some 'e' := by
        rw [← Except.ok.inj hp]
        split
        next => exact head?_every name step
        next => rw [List.append_assoc, List.head?_append, head?_every, Option.some_or]
      exact ⟨none, named?_of_mark (.inl hmark), hnone (h.not_opens_of_head hhead)⟩
    next =>
      rw [inNames?_eq (name.name_spec ▸ h)] at hp
      obtain ⟨found, hfound, hp⟩ := bind_eq_ok_iff.mp hp
      obtain ⟨named, hnamed, hfound⟩ := bind_eq_ok_iff.mp hfound
      refine ⟨named, hnamed, ?_⟩
      cases named with
      | none =>
        cases hfound
        cases hp
        exact hnone fun ⟨t, ht⟩ => h.ne_verbatim ht
      | some items =>
        cases hfound
        cases hp
        exact fun clause => ⟨fun hc => ⟨(Option.some.inj hc).symm, List.prefix_append _ _⟩, fun hc => by rw [hc.1]; rfl⟩

/-! ## A star with a step -/

variable {minute hour step time : Text}

theorem starStep?_eq (hp : Numeral.isPlain step = true) : starStep? ('*' :: '/' :: step) = some step := by
  rw [starStep?, if_pos hp]

theorem isPlain_star (t : Text) : Numeral.isPlain ('*' :: t) = false := by
  rw [Numeral.isPlain, List.all_cons]
  rfl

theorem phrase_starStep (name : FieldName) (hp : Numeral.isPlain step = true) :
    name.spec.phrase ('*' :: '/' :: step) = .ok (every name step) := by
  have hcut : cut? '/' ('*' :: '/' :: step) = some (['*'], step) := cut?_eq_some_iff.mpr ⟨rfl, by decide⟩
  have hstepped : stepped? ('*' :: '/' :: step) = some (['*'], step) := by
    rw [stepped?, hcut]
    simp [hp]
  unfold FieldSpec.phrase
  rw [if_neg (by simp), hstepped, name.name_spec]
  rfl

theorem TimeMade.minute_prefix (h : TimeMade ('*' :: '/' :: step) hour time) (hp : Numeral.isPlain step = true) :
    every .minute step <+: time := by
  cases h with
  | everyMinute hm => simp at hm
  | everyHour hm => simp at hm
  | clock hm =>
    rw [isPlain_star] at hm
    cases hm
  | phrases =>
    rw [minutePhrase?_of_starStep (starStep?_eq hp)]
    exact prefix_intercalate _ _ _

theorem TimeMade.hour_suffix (h : TimeMade minute ('*' :: '/' :: step) time) (hp : Numeral.isPlain step = true) :
    every .hour step <:+ time := by
  have hphrase : hourPhrase? ('*' :: '/' :: step) = some (every .hour step) := by
    rw [hourPhrase?, if_neg (by simp), starStep?_eq hp]
  cases h with
  | everyMinute _ hh => simp at hh
  | everyHour _ hh => simp at hh
  | clock _ hh =>
    rw [isPlain_star] at hh
    cases hh
  | phrases =>
    rw [hphrase]
    exact suffix_intercalate _ _ _

/-! ## Clauses in names -/

theorem monthClause_eq (month : Text) :
    monthClause month = (do return (← named? .month monthNames month).map ("in ".toList ++ listed ·)) := by
  unfold monthClause
  split
  next hstar =>
    rw [hstar]
    rfl
  next => rfl

theorem dayClause_eq_of_star (dayOfWeek : Text) :
    dayClause ['*'] dayOfWeek =
      (do return (← named? .dayOfWeek weekdayNames dayOfWeek).map ("on ".toList ++ listed ·)) := by
  unfold dayClause
  rw [if_neg fun h => h.1 rfl]
  split
  next => rfl
  next hnot =>
    obtain rfl : dayOfWeek = ['*'] := Decidable.byContradiction fun h => hnot ⟨rfl, h⟩
    rfl

/-- A clause in names is the phrase of the field, if this opens with the word for them. -/
theorem clause_eq_some_iff {clause? : Option Text} (h : NameWords name word table)
    (hp : name.spec.phrase raw = .ok phrase)
    (hc : (do return (← named? name.spec table raw).map (word ++ listed ·)) = (.ok clause? : Except PhraseError _))
    (clause : Text) : clause? = some clause ↔ clause = phrase ∧ word <+: phrase := by
  obtain ⟨named, hnamed, hiff⟩ := names_of_phrase h hp
  rw [hnamed] at hc
  rw [← hiff, ← Except.ok.inj hc]

end Phrase

open Phrase

namespace Fields

variable {f : Fields} {sentence : Text} {phrase : FieldName → Text}

/-- **The clauses of a sentence are in the words of the phrases.** Where five texts have a sentence and each of them has
a phrase, there is a clause for the months just if the phrase of the month opens with the word for names of months, and
it is this phrase; if the day of the month is a star, the same holds of the clause for the days and of the phrase of
the day of the week; and where the minute or the hour is a star with a step, the time begins with the phrase of the one
and ends with that of the other. -/
theorem clauses_in_phrases (hs : f.sentence = .ok sentence)
    (hp : ∀ name : FieldName, name.spec.phrase (f.get name) = .ok (phrase name)) :
    ∃ time days months, f.Clauses time days months ∧
      sentence = List.intercalate [' '] ("Runs".toList :: time :: days.toList ++ months.toList) ∧
      (∀ clause, months = some clause ↔ clause = phrase .month ∧ "in ".toList <+: phrase .month) ∧
      (f.dayOfMonth = ['*'] → ∀ clause,
        days = some clause ↔ clause = phrase .dayOfWeek ∧ "on ".toList <+: phrase .dayOfWeek) ∧
      (∀ step, Numeral.isPlain step = true → f.minute = '*' :: '/' :: step → phrase .minute <+: time) ∧
      ∀ step, Numeral.isPlain step = true → f.hour = '*' :: '/' :: step → phrase .hour <:+ time := by
  obtain ⟨time, days, months, hc, hsentence⟩ := sentence_eq_ok_iff_clauses.mp hs
  have hmade := timeClause_made hc.time_eq
  refine ⟨time, days, months, hc, hsentence, ?_, fun hstar => ?_, fun step hstep hm => ?_, fun step hstep hh => ?_⟩
  · have hmonths := hc.months_eq
    rw [monthClause_eq] at hmonths
    exact clause_eq_some_iff .months (hp .month) hmonths
  · have hdays := hc.days_eq
    rw [hstar, dayClause_eq_of_star] at hdays
    exact clause_eq_some_iff .weekdays (hp .dayOfWeek) hdays
  · have hphrase : FieldName.minute.spec.phrase f.minute = .ok (phrase .minute) := hp .minute
    rw [hm, phrase_starStep .minute hstep, Except.ok.injEq] at hphrase
    rw [hm] at hmade
    rw [← hphrase]
    exact hmade.minute_prefix hstep
  · have hphrase : FieldName.hour.spec.phrase f.hour = .ok (phrase .hour) := hp .hour
    rw [hh, phrase_starStep .hour hstep, Except.ok.injEq] at hphrase
    rw [hh] at hmade
    rw [← hphrase]
    exact hmade.hour_suffix hstep

/-- Two steps, and names in any case or by number. -/
theorem clauses_in_phrases_steps :
    let f : Fields := ⟨"*/15".toList, "*/2".toList, ['*'], "jan,Mar".toList, "1-FRI".toList⟩
    f.sentence = .ok "Runs every 15 minutes every 2 hours on Monday through Friday in January, March".toList ∧
      ∃ time days months, f.Clauses time days months ∧ "every 15 minutes".toList <+: time ∧
        "every 2 hours".toList <:+ time ∧ days = some "on Monday through Friday".toList ∧
        months = some "in January, March".toList := by
  intro f
  let phrase (name : FieldName) : Text := (name.spec.phrase (f.get name)).toOption.getD []
  have hs : f.sentence =
      .ok "Runs every 15 minutes every 2 hours on Monday through Friday in January, March".toList := by rfl
  have hp : ∀ name : FieldName, name.spec.phrase (f.get name) = .ok (phrase name) := fun name => by
    cases name <;> rfl
  obtain ⟨time, days, months, hc, _, hmonths, hdays, hminute, hhour⟩ := clauses_in_phrases hs hp
  refine ⟨hs, time, days, months, hc, hminute "15".toList (by decide) rfl, hhour "2".toList (by decide) rfl, ?_, ?_⟩
  · exact (hdays rfl _).mpr ⟨rfl, by decide⟩
  · exact (hmonths _).mpr ⟨rfl, by decide⟩

end Fields
end CronSchedule
