/-
What the phrase of a field tells: its values. A phrase has one of three
forms, with a step, in names, or with the text of the field as it stands,
and its opening shows which. Not always is the text told, since a star and a
star with a step of one are said alike, and names stand for numerals and for
letters in any case; but no two texts with the same phrase differ in what is
read from them.

* `phrase_said`: the forms of a phrase.
* `everyFrom_injective`, `VerbatimSaid.raw_eq`: what a phrase with a step and
  what a text as it stands tell.
* `values_eq_of_phrase`: fields with the same phrase have the same values.
-/
import CronSchedule.Proofs.FieldText
import CronSchedule.Proofs.Wording

namespace CronSchedule
open FieldSpec Text

namespace Phrase

/-! ## The forms of a phrase -/

/-- The base of a field with a step, if it is not a star. -/
def fromBase (base : Text) : Text := if base = ['*'] then [] else " from ".toList ++ base

/-- Every so many, from a base. -/
def everyFrom (name : FieldName) (base step : Text) : Text := every name step ++ fromBase base

/-- The word before the names of a field and the table the names are from, for the two fields that have names. -/
inductive NameWords : FieldName → Text → List Text → Prop
  | months : NameWords .month "in ".toList monthNames
  | weekdays : NameWords .dayOfWeek "on ".toList weekdayNames

/-- How a field text is said. The first form is that of a star too, which is a star with a step of one. -/
inductive PhraseSaid (name : FieldName) : Text → Text → Prop
  | stepped {raw base step : Text} : Numeral.isPlain step = true →
      name.spec.values raw = name.spec.values (base ++ '/' :: step) → PhraseSaid name raw (everyFrom name base step)
  | names {raw word : Text} {table : List Text} {items : List NameItem} : NameWords name word table →
      Tells name.spec table raw items → PhraseSaid name raw (word ++ listed items)
  | verbatim {raw : Text} : PhraseSaid name raw (verbatim name raw)

/-- How a text that stands as it is is said: as a list, as a span or as one value. -/
inductive VerbatimSaid (name : FieldName) : Text → Text → Prop
  | list {raw : Text} : ',' ∈ raw →
      VerbatimSaid name raw (plural name ++ ' ' :: List.intercalate ", ".toList (List.splitOn ',' raw))
  | span {first last : Text} : ',' ∉ first ++ last →
      VerbatimSaid name (first ++ '-' :: last) (plural name ++ ' ' :: (first ++ ' ' :: ("through ".toList ++ last)))
  | one {raw : Text} : VerbatimSaid name raw ("at ".toList ++ (singular name ++ ' ' :: raw))

theorem NameWords.nameTable {name : FieldName} {word : Text} {table : List Text} (h : NameWords name word table) :
    NameTable name.spec table := by
  cases h with
  | months => exact nameTable_month
  | weekdays => exact nameTable_dayOfWeek

theorem NameWords.unique {name : FieldName} {word word' : Text} {table table' : List Text}
    (h : NameWords name word table) (h' : NameWords name word' table') : word = word' ∧ table = table' := by
  cases h with
  | months =>
    cases h' with
    | months => exact ⟨rfl, rfl⟩
  | weekdays =>
    cases h' with
    | weekdays => exact ⟨rfl, rfl⟩

theorem inNames?_eq {spec : FieldSpec} {word : Text} {table : List Text} (h : NameWords spec.name word table)
    (raw : Text) : inNames? spec raw = (do return (← named? spec table raw).map (word ++ listed ·)) := by
  unfold inNames?
  generalize spec.name = name at h ⊢
  cases h with
  | months => rfl
  | weekdays => rfl

theorem nameWords_or_inNames?_eq_none (spec : FieldSpec) (raw : Text) :
    (∃ word table, NameWords spec.name word table) ∨
      (∀ word table, ¬ NameWords spec.name word table) ∧ inNames? spec raw = .ok none := by
  unfold inNames?
  cases spec.name with
  | month => exact .inl ⟨_, _, .months⟩
  | dayOfWeek => exact .inl ⟨_, _, .weekdays⟩
  | minute | hour | dayOfMonth => exact .inr ⟨fun _ _ h => (nomatch h), rfl⟩

theorem stepped?_eq_some {raw base step : Text} (h : stepped? raw = some (base, step)) :
    raw = base ++ '/' :: step ∧ Numeral.isPlain step = true := by
  unfold stepped? at h
  split at h
  next b s hcut =>
    split at h
    next hplain =>
      cases h
      exact ⟨(cut?_eq_some_iff.mp hcut).1, (Bool.and_eq_true_iff.mp hplain).1⟩
    next => cases h
  next => cases h

theorem inNames?_said {name : FieldName} {raw phrase : Text} (hf : FieldForm name.spec raw)
    (h : inNames? name.spec raw = .ok (some phrase)) :
    ∃ word table items, NameWords name word table ∧ Tells name.spec table raw items ∧
      phrase = word ++ listed items := by
  -- the two fields with names differ in nothing but the word and the table
  have htells : ∀ {word : Text} {table : List Text}, NameWords name word table →
      (do return (← named? name.spec table raw).map (word ++ listed ·)) = Except.ok (some phrase) →
      ∃ word table items, NameWords name word table ∧ Tells name.spec table raw items ∧
        phrase = word ++ listed items := by
    intro word table hw h
    obtain ⟨named, hnamed, h⟩ := bind_eq_ok_iff.mp h
    cases named with
    | none => cases h
    | some items =>
      cases h
      exact ⟨word, table, items, hw, tells_of_named? hf hw.nameTable hnamed, rfl⟩
  cases name with
  | minute => cases h
  | hour => cases h
  | dayOfMonth => cases h
  | month => exact htells .months h
  | dayOfWeek => exact htells .weekdays h

/-- **The forms of a phrase.** -/
theorem phrase_said {name : FieldName} {raw phrase : Text} (hf : FieldForm name.spec raw)
    (h : name.spec.phrase raw = .ok phrase) : PhraseSaid name raw phrase := by
  unfold FieldSpec.phrase at h
  rw [name.name_spec] at h
  split at h
  next hstar =>
    have hone : name.spec.values ['*'] = name.spec.values (['*'] ++ '/' :: ['1']) := by cases name <;> rfl
    have hphrase : everyFrom name ['*'] ['1'] = "every ".toList ++ singular name := by simp [everyFrom, every, fromBase]
    cases h
    rw [hstar, ← hphrase]
    exact .stepped (by decide) hone
  next =>
    split at h
    next base step hstepped =>
      obtain ⟨rfl, hplain⟩ := stepped?_eq_some hstepped
      have hphrase : everyFrom name base step =
          if base = ['*'] then every name step else every name step ++ " from ".toList ++ base := by
        unfold everyFrom fromBase
        split <;> simp
      cases h
      rw [← hphrase]
      exact .stepped hplain rfl
    next =>
      obtain ⟨named, hnamed, h⟩ := bind_eq_ok_iff.mp h
      cases named with
      | none =>
        cases h
        exact .verbatim
      | some t =>
        cases h
        obtain ⟨word, table, items, hw, htells, rfl⟩ := inNames?_said hf hnamed
        exact .names hw htells

theorem verbatim_said (name : FieldName) (raw : Text) : VerbatimSaid name raw (verbatim name raw) := by
  unfold verbatim
  split
  next hcomma =>
    rw [List.append_assoc]
    exact .list (by simpa using hcomma)
  next hcomma =>
    split
    next first last hcut =>
      obtain ⟨rfl, _⟩ := cut?_eq_some_iff.mp hcut
      simp only [List.append_assoc]
      exact .span fun hmem => hcomma (by simpa using hmem)
    next =>
      simp only [List.append_assoc]
      exact .one

/-! ## The openings -/

theorem head?_every (name : FieldName) (step : Text) : (every name step).head? = some 'e' := by
  unfold every
  split <;> rfl

theorem head?_everyFrom (name : FieldName) (base step : Text) : (everyFrom name base step).head? = some 'e' := by
  rw [everyFrom, List.head?_append, head?_every, Option.some_or]

theorem NameWords.head? {name : FieldName} {word : Text} {table : List Text} (h : NameWords name word table)
    (t : Text) : (word ++ t).head? = some 'i' ∨ (word ++ t).head? = some 'o' := by
  cases h with
  | months => exact .inl rfl
  | weekdays => exact .inr rfl

/-- A text that stands as it is opens with what the field counts, or with the word for a single value. -/
theorem VerbatimSaid.head? {name : FieldName} {raw phrase : Text} (h : VerbatimSaid name raw phrase) :
    phrase.head? = (plural name).head? ∨ phrase.head? = some 'a' := by
  have hplural : ∀ t : Text, (plural name ++ t).head? = (plural name).head? := fun t => by cases name <;> rfl
  cases h with
  | list => exact .inl (hplural _)
  | span => exact .inl (hplural _)
  | one => exact .inr rfl

theorem everyFrom_ne_verbatim {name : FieldName} {base step raw : Text} :
    everyFrom name base step ≠ verbatim name raw := by
  have hplural : (plural name).head? ≠ some 'e' := by cases name <;> decide
  intro e
  have hhead := head?_everyFrom name base step
  rw [e] at hhead
  rcases (verbatim_said name raw).head? with h | h
  · exact hplural (h.symm.trans hhead)
  · exact absurd (h.symm.trans hhead) (by decide)

namespace NameWords

variable {name : FieldName} {word : Text} {table : List Text}

theorem ne_everyFrom (h : NameWords name word table) {t base step : Text} : word ++ t ≠ everyFrom name base step := by
  intro e
  have hhead := h.head? t
  rw [e, head?_everyFrom] at hhead
  revert hhead
  decide

theorem ne_verbatim (h : NameWords name word table) {t raw : Text} : word ++ t ≠ verbatim name raw := by
  have hplural : (plural name).head? ≠ some 'i' ∧ (plural name).head? ≠ some 'o' := by cases name <;> decide
  intro e
  have hhead := h.head? t
  rw [e] at hhead
  rcases (verbatim_said name raw).head? with hv | hv
  · rw [hv] at hhead
    exact hhead.elim hplural.1 hplural.2
  · rw [hv] at hhead
    revert hhead
    decide

end NameWords

/-! ## What each form tells -/

theorem fromBase_injective {base base' : Text} (h : fromBase base = fromBase base') : base = base' := by
  unfold fromBase at h
  split at h
  next hstar =>
    split at h
    next hstar' => rw [hstar, hstar']
    next => cases h
  next =>
    split at h
    next => cases h
    next => exact List.append_cancel_left h

theorem singular_append_ne {name : FieldName} {step t u : Text} (hp : Numeral.isPlain step = true) :
    singular name ++ t ≠ step ++ u := by
  intro e
  obtain ⟨hne, hdigits⟩ := Numeral.isPlain_iff.mp hp
  obtain ⟨c, rest, rfl⟩ := List.exists_cons_of_ne_nil hne
  have hhead : (singular name).head? = some c := by
    have hsome := congrArg List.head? e
    cases name <;> exact hsome
  have hc := hdigits c List.mem_cons_self
  revert hc
  cases name <;> (cases hhead; decide)

/-- **A phrase with a step tells the base and the step.** -/
theorem everyFrom_injective {name : FieldName} {base base' step step' : Text} (hp : Numeral.isPlain step = true)
    (hp' : Numeral.isPlain step' = true) (h : everyFrom name base step = everyFrom name base' step') :
    base = base' ∧ step = step' := by
  have hone : ∀ base, everyFrom name base ['1'] = "every ".toList ++ (singular name ++ fromBase base) := by
    intro base
    simp [everyFrom, every]
  have hmany : ∀ base {step}, step ≠ ['1'] →
      everyFrom name base step = "every ".toList ++ (step ++ ' ' :: (plural name ++ fromBase base)) := by
    intro base step hne
    simp [everyFrom, every, hne]
  by_cases h1 : step = ['1']
  · by_cases h1' : step' = ['1']
    · rw [h1, h1', hone, hone] at h
      exact ⟨fromBase_injective (List.append_cancel_left (List.append_cancel_left h)), h1.trans h1'.symm⟩
    · rw [h1, hone, hmany base' h1'] at h
      exact absurd (List.append_cancel_left h) (singular_append_ne hp')
  · by_cases h1' : step' = ['1']
    · rw [h1', hone, hmany base h1] at h
      exact absurd (List.append_cancel_left h).symm (singular_append_ne hp)
    · rw [hmany base h1, hmany base' h1'] at h
      have hspace : ' ' ∉ step := Numeral.not_mem_of_isPlain hp (by decide)
      have hspace' : ' ' ∉ step' := Numeral.not_mem_of_isPlain hp' (by decide)
      obtain ⟨hstep, hrest⟩ := append_mark_inj hspace hspace' (List.append_cancel_left h)
      exact ⟨fromBase_injective (List.append_cancel_left hrest), hstep⟩

theorem comma_mem_intercalate {raw : Text} (h : ',' ∈ raw) :
    ',' ∈ List.intercalate ", ".toList (List.splitOn ',' raw) := by
  refine Decidable.byContradiction fun hno => ?_
  have hseg : Segments ',' raw (List.splitOn ',' raw) := segments_iff.mpr rfl
  obtain ⟨t, ts, hts⟩ := List.exists_cons_of_ne_nil hseg.nonempty
  have hsplit := List.splitOn_eq_singleton hno
  rw [hts] at hseg hsplit
  have hjoined : List.splitOn ',' (List.intercalate ", ".toList (t :: ts)) = t :: ts.map ([' '] ++ ·) :=
    splitOn_intercalate_padded (by decide) hseg.unmarked
  rw [hjoined, List.cons.injEq, List.map_eq_nil_iff] at hsplit
  rw [hsplit.2] at hseg
  have hraw := hseg.joined
  rw [List.intercalate_singleton] at hraw
  exact hseg.unmarked t List.mem_cons_self (hraw ▸ h)

theorem one_ne_list_or_span {name : FieldName} {t u : Text} : "at ".toList ++ t ≠ plural name ++ u := by
  intro e
  have hhead := congrArg List.head? e
  cases name <;> cases hhead

/-- **A text that stands as it is is told**, if it has no space. -/
theorem VerbatimSaid.raw_eq {name : FieldName} {raw raw' phrase : Text} (h : VerbatimSaid name raw phrase)
    (h' : VerbatimSaid name raw' phrase) (hs : ' ' ∉ raw) (hs' : ' ' ∉ raw') : raw = raw' := by
  -- a span has no comma of its own, nor from the word in it
  have hmixed : ∀ {raw first last : Text}, ',' ∈ raw → ',' ∉ first ++ last →
      List.intercalate ", ".toList (List.splitOn ',' raw) ≠ first ++ ' ' :: ("through ".toList ++ last) := by
    intro raw first last hcomma hno e
    have hmem := e ▸ comma_mem_intercalate hcomma
    simp only [List.mem_append, not_or] at hno
    simp [hno] at hmem
  generalize hp : phrase = said at h'
  cases h with
  | @list raw hcomma =>
    cases h' with
    | @list raw' hcomma' =>
      have hjoined := (List.cons.inj (List.append_cancel_left hp)).2
      have hseg : Segments ',' raw (List.splitOn ',' raw) := segments_iff.mpr rfl
      have hseg' : Segments ',' raw' (List.splitOn ',' raw') := segments_iff.mpr rfl
      exact splitOn_injective (intercalate_padded_injective (show ',' ∉ [' '] by decide) hseg.nonempty hseg'.nonempty
        hseg.unmarked hseg'.unmarked hjoined)
    | span hno => exact absurd (List.cons.inj (List.append_cancel_left hp)).2 (hmixed hcomma hno)
    | one => exact absurd hp.symm one_ne_list_or_span
  | span hno =>
    cases h' with
    | list hcomma => exact absurd (List.cons.inj (List.append_cancel_left hp)).2.symm (hmixed hcomma hno)
    | span =>
      rw [List.mem_append, not_or] at hs hs'
      obtain ⟨rfl, hlast⟩ := append_mark_inj hs.1 hs'.1 (List.cons.inj (List.append_cancel_left hp)).2
      rw [List.append_cancel_left hlast]
    | one => exact absurd hp.symm one_ne_list_or_span
  | one =>
    cases h' with
    | list => exact absurd hp one_ne_list_or_span
    | span => exact absurd hp one_ne_list_or_span
    | one => exact (List.cons.inj (List.append_cancel_left (List.append_cancel_left hp))).2

/-! ## Fields with the same phrase -/

theorem PhraseSaid.values_eq {name : FieldName} {raw raw' phrase : Text} (h : PhraseSaid name raw phrase)
    (h' : PhraseSaid name raw' phrase) (hf : FieldForm name.spec raw) (hf' : FieldForm name.spec raw') :
    name.spec.values raw = name.spec.values raw' := by
  generalize hp : phrase = said at h'
  cases h with
  | stepped hplain hvalues =>
    cases h' with
    | stepped hplain' hvalues' =>
      obtain ⟨rfl, rfl⟩ := everyFrom_injective hplain hplain' hp
      exact hvalues.trans hvalues'.symm
    | names hw => exact absurd hp.symm hw.ne_everyFrom
    | verbatim => exact absurd hp everyFrom_ne_verbatim
  | names hw htells =>
    cases h' with
    | stepped => exact absurd hp hw.ne_everyFrom
    | names hw' htells' =>
      obtain ⟨rfl, rfl⟩ := hw.unique hw'
      exact values_eq_of_listed hw.nameTable htells htells' hf hf' (List.append_cancel_left hp)
    | verbatim => exact absurd hp hw.ne_verbatim
  | verbatim =>
    cases h' with
    | stepped => exact absurd hp.symm everyFrom_ne_verbatim
    | names hw => exact absurd hp.symm hw.ne_verbatim
    | verbatim =>
      have hsaid := hp ▸ verbatim_said name raw
      rw [hsaid.raw_eq (verbatim_said name raw') hf.space_not_mem hf'.space_not_mem]

end Phrase

namespace FieldSpec

/-- **Fields with the same phrase have the same values**, for each of the five specs. A field that is read has a phrase,
so what is the same is not that there is none. -/
theorem values_eq_of_phrase {name : FieldName} {raw raw' : Text} {vs vs' : List Int}
    (h : name.spec.values raw = .ok vs) (h' : name.spec.values raw' = .ok vs')
    (hp : name.spec.phrase raw = name.spec.phrase raw') : vs = vs' := by
  have hf := fieldForm_of_values h
  have hf' := fieldForm_of_values h'
  obtain ⟨phrase, hphrase⟩ := hf.phrase
  have hsaid := Phrase.phrase_said hf hphrase
  have hsaid' := Phrase.phrase_said hf' (hp.symm.trans hphrase)
  exact Except.ok.inj (h.symm.trans ((hsaid.values_eq hsaid' hf hf').trans h'))

/-- Names and numerals, in any case and with zeros before them, and the step of one that is said as none. -/
theorem values_eq_of_phrase_names :
    (∃ vs vs', FieldSpec.dayOfWeek.values "mon-5,SUN".toList = .ok vs ∧
      FieldSpec.dayOfWeek.values "01-Fri,0".toList = .ok vs' ∧
      FieldSpec.dayOfWeek.phrase "mon-5,SUN".toList = .ok "on Monday through Friday, Sunday".toList ∧
      FieldSpec.dayOfWeek.phrase "01-Fri,0".toList = .ok "on Monday through Friday, Sunday".toList ∧ vs = vs') ∧
    ∃ vs vs', FieldSpec.hour.values "*".toList = .ok vs ∧ FieldSpec.hour.values "*/1".toList = .ok vs' ∧
      FieldSpec.hour.phrase "*".toList = .ok "every hour".toList ∧
      FieldSpec.hour.phrase "*/1".toList = .ok "every hour".toList ∧ vs = vs' := by
  refine ⟨?_, ?_⟩
  · obtain ⟨vs, vs', h, h', hp, hp'⟩ :
        ∃ vs vs', FieldName.dayOfWeek.spec.values "mon-5,SUN".toList = .ok vs ∧
          FieldName.dayOfWeek.spec.values "01-Fri,0".toList = .ok vs' ∧
          FieldName.dayOfWeek.spec.phrase "mon-5,SUN".toList = .ok "on Monday through Friday, Sunday".toList ∧
          FieldName.dayOfWeek.spec.phrase "01-Fri,0".toList = .ok "on Monday through Friday, Sunday".toList :=
      ⟨_, _, by rfl, by rfl, by rfl, by rfl⟩
    exact ⟨vs, vs', h, h', hp, hp', values_eq_of_phrase h h' (hp.trans hp'.symm)⟩
  · obtain ⟨vs, vs', h, h', hp, hp'⟩ :
        ∃ vs vs', FieldName.hour.spec.values "*".toList = .ok vs ∧
          FieldName.hour.spec.values "*/1".toList = .ok vs' ∧
          FieldName.hour.spec.phrase "*".toList = .ok "every hour".toList ∧
          FieldName.hour.spec.phrase "*/1".toList = .ok "every hour".toList :=
      ⟨_, _, by rfl, by rfl, by rfl, by rfl⟩
    exact ⟨vs, vs', h, h', hp, hp', values_eq_of_phrase h h' (hp.trans hp'.symm)⟩

end FieldSpec
end CronSchedule
