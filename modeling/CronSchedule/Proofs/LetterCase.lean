/-
The case of letters. A text with the letters from A to Z in lower case is
read as the text is: no mark, digit or blank is such a letter or becomes
one, a letter remains a letter, and names are looked up in upper case. So
each reader commutes with this change. Its results are the same, and its
errors differ in the texts they show.

The words of a schedule are another matter. They are made from the texts of
the fields, and the phrase of a field may show letters; but the sentence does
not. It shows the texts of fields without names only, and these have none.

* `values_lowered`, `read_lowered`: reading in lower case.
* `sentence_lowered`: the sentence of fields that are read.
* `read_blind_to_case`: texts that differ in the case of letters only.
-/
import CronSchedule.FailureClass
import CronSchedule.Proofs.Diagnosis
import CronSchedule.Proofs.FieldText
import CronSchedule.Proofs.Wording
import CronSchedule.Runs.Cursor

namespace CronSchedule

/-! ## Characters -/

namespace Text

/-- What holds of each letter from A to Z holds of all capitals. -/
theorem of_isUpper (p : Char → Prop) (h : ∀ n ∈ List.range' 65 26, p (Char.ofNat n)) {c : Char}
    (hc : c.isUpper = true) : p c := by
  obtain ⟨h1, h2⟩ := isUpper_iff.mp hc
  have hcapital := h c.toNat (List.mem_range'_1.mpr ⟨h1, by omega⟩)
  rwa [Char.ofNat_toNat] at hcapital

theorem isDigit_of_isUpper {c : Char} (h : c.isUpper = true) : c.isDigit = false :=
  of_isUpper (·.isDigit = false) (by decide) h

theorem not_mark_of_isUpper {c : Char} (h : c.isUpper = true) : c ∉ ['*', '-', '/', ','] :=
  of_isUpper (· ∉ ['*', '-', '/', ',']) (by decide) h

theorem toLower_of_not_isUpper {c : Char} (h : ¬ c.isUpper = true) : c.toLower = c :=
  dif_neg fun hc => h (isUpper_iff.mpr hc)

/-- What cannot tell a capital from its small letter cannot tell the case of any character. -/
theorem apply_toLower {α : Type} (f : Char → α)
    (h : ∀ n ∈ List.range' 65 26, f (Char.ofNat n).toLower = f (Char.ofNat n)) (c : Char) : f c.toLower = f c := by
  by_cases hc : c.isUpper = true
  · exact of_isUpper (fun d => f d.toLower = f d) h hc
  · rw [toLower_of_not_isUpper hc]

theorem isDigit_toLower (c : Char) : c.toLower.isDigit = c.isDigit := apply_toLower _ (by decide) c

theorem isLetter_toLower (c : Char) : isLetter c.toLower = isLetter c := apply_toLower _ (by decide +kernel) c

theorem isBlank_toLower (c : Char) : isBlank c.toLower = isBlank c := apply_toLower _ (by decide +kernel) c

theorem mapChar_toLower (c : Char) :
    mapChar upperRuns upperExpansions c.toLower = mapChar upperRuns upperExpansions c :=
  apply_toLower _ (by decide +kernel) c

/-- No letter is a mark of a field. -/
theorem toLower_beq {mark : Char} (hm : mark ∈ ['*', '-', '/', ',']) (c : Char) :
    (c.toLower == mark) = (c == mark) := by
  simp only [List.mem_cons, List.not_mem_nil, or_false] at hm
  rcases hm with rfl | rfl | rfl | rfl <;> exact apply_toLower (· == _) (by decide) c

theorem toLower_eq_iff {mark : Char} (hm : mark ∈ ['*', '-', '/', ',']) {c : Char} :
    c.toLower = mark ↔ c = mark := by
  rw [← beq_iff_eq, toLower_beq hm, beq_iff_eq]

/-! ## Texts -/

/-- The text with the letters from A to Z in lower case. -/
def lowered (t : Text) : Text := t.map Char.toLower

variable {mark : Char}

theorem isEmpty_lowered (t : Text) : (lowered t).isEmpty = t.isEmpty := List.isEmpty_map

theorem all_lowered {p : Char → Bool} (hp : ∀ c, p c.toLower = p c) (t : Text) : (lowered t).all p = t.all p := by
  simp only [lowered, List.all_map, Function.comp_def, hp]

theorem contains_lowered (hm : mark ∈ ['*', '-', '/', ',']) (t : Text) :
    (lowered t).contains mark = t.contains mark := by
  induction t with
  | nil => rfl
  | cons c t ih =>
    simp only [lowered, List.map_cons, List.contains_cons] at ih ⊢
    rw [ih, BEq.comm, toLower_beq hm, BEq.comm]

theorem lowered_eq_star_iff {t : Text} : lowered t = ['*'] ↔ t = ['*'] := by
  cases t with
  | nil => exact Iff.rfl
  | cons c t => simp [lowered, toLower_eq_iff (show '*' ∈ ['*', '-', '/', ','] by decide)]

theorem lowered_of_forall {t : Text} (h : ∀ c : Char, c.isUpper = true → c ∉ t) : lowered t = t := by
  have hmap : t.map Char.toLower = t.map id :=
    List.map_congr_left fun c hc => toLower_of_not_isUpper fun hu => h c hu hc
  rw [lowered, hmap, List.map_id]

theorem cut?_lowered (hm : mark ∈ ['*', '-', '/', ',']) (t : Text) :
    cut? mark (lowered t) = (cut? mark t).map fun (before, after) => (lowered before, lowered after) := by
  induction t with
  | nil => rfl
  | cons c t ih =>
    simp only [lowered, List.map_cons, cut?, toLower_eq_iff hm] at ih ⊢
    split
    next => rfl
    next =>
      rw [ih, Option.map_map, Option.map_map]
      rfl

theorem splitOnP_lowered {p : Char → Bool} (hp : ∀ c, p c.toLower = p c) (t : Text) :
    List.splitOnP p (lowered t) = (List.splitOnP p t).map lowered := by
  induction t with
  | nil => rfl
  | cons c t ih =>
    simp only [lowered, List.map_cons] at ih ⊢
    rw [List.splitOnP_cons_eq_if_modifyHead, List.splitOnP_cons_eq_if_modifyHead, hp, ih]
    split
    next => rfl
    next => cases List.splitOnP p t <;> rfl

theorem splitOn_lowered (hm : mark ∈ ['*', '-', '/', ',']) (t : Text) :
    List.splitOn mark (lowered t) = (List.splitOn mark t).map lowered := splitOnP_lowered (toLower_beq hm) t

theorem words_lowered (t : Text) : words (lowered t) = (words t).map lowered := by
  unfold words
  rw [splitOnP_lowered isBlank_toLower, List.filter_map]
  simp only [Function.comp_def, isEmpty_lowered]

theorem upper_lowered (t : Text) : upper (lowered t) = upper t := by
  unfold upper lowered
  rw [List.flatMap_map]
  simp only [mapChar_toLower]

theorem isPlain_lowered (t : Text) : Numeral.isPlain (lowered t) = Numeral.isPlain t := by
  unfold Numeral.isPlain
  rw [isEmpty_lowered, all_lowered isDigit_toLower]

theorem lowered_of_isPlain {t : Text} (h : Numeral.isPlain t = true) : lowered t = t :=
  lowered_of_forall fun _ hc => Numeral.not_mem_of_isPlain h (isDigit_of_isUpper hc)

end Text

/-! ## Errors -/

/-- The fault, with the texts it shows in lower case. -/
def Fault.lowered : Fault → Fault
  | .emptyField => .emptyField
  | .emptyItem => .emptyItem
  | .manySteps item => .manySteps (Text.lowered item)
  | .notARange base => .notARange (Text.lowered base)
  | .reversedRange base => .reversedRange (Text.lowered base)
  | .missingValue => .missingValue
  | .notAValue atom => .notAValue (Text.lowered atom)
  | .outOfRange atom low high => .outOfRange (Text.lowered atom) low high
  | .stepNotANumber step => .stepNotANumber (Text.lowered step)
  | .stepOutOfRange step greatest => .stepOutOfRange step greatest

def ItemError.lowered : ItemError → ItemError
  | .fault f => .fault f.lowered
  | .tooLong e => .tooLong e

theorem Fault.integers_lowered (f : Fault) : f.lowered.integers = f.integers := by
  cases f <;> rfl

/-- A fault in lower case is raised as the same error in lower case: it has the same integers to show. -/
theorem Fault.raised_lowered (f : Fault) : f.lowered.raised = f.raised.lowered := by
  unfold raised showable
  rw [integers_lowered]
  split <;> rfl

def FieldError.lowered : FieldError → FieldError
  | .malformed field label raw f => .malformed field label (Text.lowered raw) f.lowered
  | .tooLong e => .tooLong e

namespace ExpressionError

def lowered : ExpressionError → ExpressionError
  | .fieldCount => .fieldCount
  | .field e => .field e.lowered

/-- The class of the failure. -/
def failureClass : ExpressionError → FailureClass
  | .fieldCount => .fieldCount
  | .field (.malformed ..) => .field
  | .field (.tooLong _) => .badValue

/-- The field the error names, if it is that of a field. -/
def field? : ExpressionError → Option FieldName
  | .field (.malformed name ..) => some name
  | _ => none

theorem failureClass_lowered (e : ExpressionError) : e.lowered.failureClass = e.failureClass := by
  rcases e with _ | (_ | _) <;> rfl

theorem field?_lowered (e : ExpressionError) : e.lowered.field? = e.field? := by
  rcases e with _ | (_ | _) <;> rfl

end ExpressionError

/-! ## Reading a field -/

namespace FieldSpec

open Text

variable (spec : FieldSpec)

theorem lookup?_lowered (t : Text) : spec.lookup? (lowered t) = spec.lookup? t := by
  rw [lookup?, upper_lowered, lookup?]

theorem atomValue_lowered (t : Text) : spec.atomValue (lowered t) = (spec.atomValue t).mapError ItemError.lowered := by
  unfold atomValue
  rw [isPlain_lowered, all_lowered isLetter_toLower, lookup?_lowered]
  cases hp : Numeral.isPlain t with
  | true =>
    simp only [lowered_of_isPlain hp, if_true]
    cases Numeral.read t <;> rfl
  | false =>
    cases (if t.all isLetter then spec.lookup? t else none) <;> rfl

theorem readAtom_lowered (t : Text) : spec.readAtom (lowered t) = (spec.readAtom t).mapError ItemError.lowered := by
  unfold readAtom
  rw [isEmpty_lowered, atomValue_lowered]
  cases t.isEmpty with
  | true => rfl
  | false =>
    simp only [Bool.false_eq_true, if_false, mapError_bind]
    congr 1
    funext value
    cases spec.contains value with
    | true => rfl
    | false => exact congrArg Except.error (Fault.raised_lowered (.outOfRange t spec.low spec.high))

theorem readBase_lowered (t : Text) : spec.readBase (lowered t) = (spec.readBase t).mapError ItemError.lowered := by
  unfold readBase
  rw [cut?_lowered (by decide)]
  simp only [lowered_eq_star_iff]
  split
  next => rfl
  next =>
    cases cut? '-' t with
    | none =>
      simp only [Option.map_none, readAtom_lowered, mapError_bind]
      rfl
    | some parts =>
      obtain ⟨first, last⟩ := parts
      simp only [Option.map_some, isEmpty_lowered, contains_lowered (show '-' ∈ ['*', '-', '/', ','] by decide)]
      cases first.isEmpty || last.contains '-' with
      | true => rfl
      | false =>
        simp only [Bool.false_eq_true, if_false, readAtom_lowered, mapError_bind]
        congr 1
        funext a
        congr 1
        funext b
        split <;> rfl

theorem readStep_lowered (t : Text) : spec.readStep (lowered t) = (spec.readStep t).mapError ItemError.lowered := by
  unfold readStep
  rw [isPlain_lowered]
  cases hp : Numeral.isPlain t with
  | true =>
    simp only [lowered_of_isPlain hp, if_true]
    cases Numeral.read t with
    | error => rfl
    | ok n =>
      dsimp only
      split
      next => rfl
      next => exact congrArg Except.error (Fault.raised_lowered (.stepOutOfRange n (spec.size - 1)))
  | false => rfl

theorem readItem_lowered (t : Text) : spec.readItem (lowered t) = (spec.readItem t).mapError ItemError.lowered := by
  unfold readItem
  rw [isEmpty_lowered, cut?_lowered (by decide)]
  cases t.isEmpty with
  | true => rfl
  | false =>
    cases cut? '/' t with
    | none =>
      simp only [Bool.false_eq_true, if_false, Option.map_none, readBase_lowered, mapError_bind]
      rfl
    | some parts =>
      obtain ⟨base, step⟩ := parts
      simp only [Bool.false_eq_true, if_false, Option.map_some,
        contains_lowered (show '/' ∈ ['*', '-', '/', ','] by decide)]
      cases step.contains '/' with
      | true => rfl
      | false =>
        simp only [Bool.false_eq_true, if_false, readBase_lowered, readStep_lowered, mapError_bind]
        rfl

/-- **A field in lower case is read for the same values**, or rejected for the same fault. -/
theorem values_lowered (raw : Text) : spec.values (lowered raw) = (spec.values raw).mapError FieldError.lowered := by
  have hitems : ((List.splitOn ',' raw).map lowered).mapM spec.readItem =
      ((List.splitOn ',' raw).mapM spec.readItem).mapError ItemError.lowered := by
    rw [mapError_mapM, List.mapM_map]
    simp only [Function.comp_def, readItem_lowered]
  unfold FieldSpec.values
  rw [isEmpty_lowered, splitOn_lowered (by decide), hitems]
  cases raw.isEmpty with
  | true => rfl
  | false =>
    cases (List.splitOn ',' raw).mapM spec.readItem with
    | ok => rfl
    | error e => cases e <;> rfl

end FieldSpec
/-! ## Reading an expression -/

namespace Fields

/-- The fields with their texts in lower case. -/
def lowered (f : Fields) : Fields where
  minute := f.minute.lowered
  hour := f.hour.lowered
  dayOfMonth := f.dayOfMonth.lowered
  month := f.month.lowered
  dayOfWeek := f.dayOfWeek.lowered

theorem ofList?_lowered (ts : List Text) : ofList? (ts.map Text.lowered) = (ofList? ts).map lowered := by
  cases h : ofList? ts with
  | none =>
    rw [Option.map_none, ofList?_eq_none_iff, List.length_map]
    exact ofList?_eq_none_iff.mp h
  | some f =>
    rw [Option.map_some, ofList?_eq_some_iff, ofList?_eq_some_iff.mp h]
    rfl

theorem schedule_lowered (f : Fields) : f.lowered.schedule = f.schedule.mapError FieldError.lowered := by
  simp only [schedule, lowered, FieldSpec.values_lowered, mapError_bind]
  rfl

end Fields

namespace Expression

/-- The expression with the texts of its fields in lower case. Its schedule is as it was. -/
def lowered (e : Expression) : Expression := { e with fields := e.fields.lowered }

/-- **An expression in lower case is read for the same schedule**, or rejected for the same reason. -/
theorem read_lowered (t : Text) :
    read t.lowered = ((read t).map lowered).mapError ExpressionError.lowered := by
  unfold read split
  rw [Text.words_lowered, Fields.ofList?_lowered]
  cases Fields.ofList? (Text.words t) with
  | none => rfl
  | some f =>
    simp only [Option.map_some, bind, Except.bind, Fields.schedule_lowered]
    cases f.schedule <;> rfl

end Expression

/-! ## The sentence -/

theorem FieldSpec.FieldForm.lowered_eq {spec : FieldSpec} {raw : Text} (h : FieldForm spec raw)
    (hn : spec.names = []) : raw.lowered = raw :=
  Text.lowered_of_forall fun _ hc =>
    h.not_mem_of_nameless hn (Text.isDigit_of_isUpper hc) (Text.not_mark_of_isUpper hc)

namespace Phrase

open Text

variable (spec : FieldSpec) (table : List Text)

theorem nameOf?_lowered (t : Text) : nameOf? spec table (lowered t) = nameOf? spec table t := by
  have hvalue : atomValue? spec (lowered t) = atomValue? spec t := by
    unfold atomValue?
    rw [isPlain_lowered, FieldSpec.lookup?_lowered]
    split
    next hp => rw [lowered_of_isPlain hp]
    next => rfl
  unfold nameOf?
  rw [hvalue]

theorem nameItem?_lowered (t : Text) : nameItem? spec table (lowered t) = nameItem? spec table t := by
  unfold nameItem?
  rw [cut?_lowered (by decide)]
  cases cut? '-' t <;> simp only [Option.map_none, Option.map_some, nameOf?_lowered]

theorem nameItems?_lowered (ts : List Text) :
    nameItems? spec table (ts.map lowered) = nameItems? spec table ts := by
  induction ts with
  | nil => rfl
  | cons t ts ih => simp only [List.map_cons, nameItems?, nameItem?_lowered, ih]

theorem named?_lowered (raw : Text) : named? spec table (lowered raw) = named? spec table raw := by
  unfold named?
  rw [isEmpty_lowered, contains_lowered (by decide), contains_lowered (by decide), splitOn_lowered (by decide),
    nameItems?_lowered]

theorem monthClause_lowered (month : Text) : monthClause (lowered month) = monthClause month := by
  simp only [monthClause, lowered_eq_star_iff, named?_lowered]

theorem dayClause_lowered (dayOfMonth dayOfWeek : Text) :
    dayClause dayOfMonth (lowered dayOfWeek) = dayClause dayOfMonth dayOfWeek := by
  simp only [dayClause, ne_eq, lowered_eq_star_iff, named?_lowered]

end Phrase

/-- **The sentence of fields that are read shows no letter of theirs.** -/
theorem Fields.sentence_lowered {f : Fields} (h : ∀ name : FieldName, FieldSpec.FieldForm name.spec (f.get name)) :
    f.lowered.sentence = f.sentence := by
  have hminute : f.minute.lowered = f.minute := (h .minute).lowered_eq rfl
  have hhour : f.hour.lowered = f.hour := (h .hour).lowered_eq rfl
  have hday : f.dayOfMonth.lowered = f.dayOfMonth := (h .dayOfMonth).lowered_eq rfl
  simp only [sentence, lowered, hminute, hhour, hday, Phrase.dayClause_lowered, Phrase.monthClause_lowered]

namespace Expression

/-- **The case of letters does not matter to a schedule.** Of two texts that differ in the case of letters from A to Z
alone, either both are read, with the same schedule, the same sentence and the same runs, or both are rejected, with
errors of the same class that name the same field, if any. -/
theorem read_blind_to_case {t u : Text} (h : t.map Char.toLower = u.map Char.toLower) :
    (∃ e d sentence, read t = .ok e ∧ read u = .ok d ∧ e.schedule = d.schedule ∧
      e.fields.sentence = .ok sentence ∧ d.fields.sentence = .ok sentence ∧
      ∀ start count limit, e.schedule.nextRuns start count limit = d.schedule.nextRuns start count limit) ∨
    ∃ error error', read t = .error error ∧ read u = .error error' ∧ error.failureClass = error'.failureClass ∧
      error.field? = error'.field? := by
  have hlowered : ((read t).map lowered).mapError ExpressionError.lowered =
      ((read u).map lowered).mapError ExpressionError.lowered := by
    rw [← read_lowered, ← read_lowered, Text.lowered, Text.lowered, h]
  cases ht : read t with
  | ok e =>
    cases hu : read u with
    | ok d =>
      rw [ht, hu] at hlowered
      obtain ⟨hfields, hschedule⟩ : e.fields.lowered = d.fields.lowered ∧ e.schedule = d.schedule :=
        Expression.mk.inj (Except.ok.inj hlowered)
      have hfe := Fields.fieldForm_of_schedule (read_eq_ok ht).2
      have hfd := Fields.fieldForm_of_schedule (read_eq_ok hu).2
      obtain ⟨sentence, hsentence⟩ := exists_sentence hfe
      refine .inl ⟨e, d, sentence, rfl, rfl, hschedule, hsentence, ?_, fun _ _ _ => by rw [hschedule]⟩
      rw [← Fields.sentence_lowered hfd, ← hfields, Fields.sentence_lowered hfe, hsentence]
    | error => rw [ht, hu] at hlowered; cases hlowered
  | error error =>
    cases hu : read u with
    | ok => rw [ht, hu] at hlowered; cases hlowered
    | error error' =>
      rw [ht, hu] at hlowered
      have hsame : error.lowered = error'.lowered := Except.error.inj hlowered
      refine .inr ⟨error, error', rfl, rfl, ?_, ?_⟩
      · rw [← error.failureClass_lowered, hsame, error'.failureClass_lowered]
      · rw [← error.field?_lowered, hsame, error'.field?_lowered]

/-- Months and weekdays in one case and in another, and a month that is none in any. -/
theorem read_blind_to_case_names :
    (∃ e d, read "0 9 * jan-Mar MON".toList = .ok e ∧ read "0 9 * JAN-mar mon".toList = .ok d ∧
      e.schedule = d.schedule ∧
      e.fields.sentence = .ok "Runs at 09:00 on Monday in January through March".toList ∧
      d.fields.sentence = .ok "Runs at 09:00 on Monday in January through March".toList) ∧
    ∃ error error', read "0 9 * Janvier mon".toList = .error error ∧
      read "0 9 * JANVIER MON".toList = .error error' ∧ error ≠ error' ∧
      error.failureClass = error'.failureClass ∧ error.field? = some .month ∧ error'.field? = some .month := by
  refine ⟨?_, ?_⟩
  · obtain ⟨e, he, hse⟩ : ∃ e, read "0 9 * jan-Mar MON".toList = .ok e ∧
        e.fields.sentence = .ok "Runs at 09:00 on Monday in January through March".toList := ⟨_, by rfl, by rfl⟩
    have hcase : "0 9 * jan-Mar MON".toList.map Char.toLower = "0 9 * JAN-mar mon".toList.map Char.toLower := by decide
    rcases read_blind_to_case hcase with ⟨e', d, sentence, he', hd, hschedule, hse', hsd, _⟩ | ⟨_, _, herror, _⟩
    · obtain rfl : e = e' := Except.ok.inj (he.symm.trans he')
      obtain rfl := Except.ok.inj (hse.symm.trans hse')
      exact ⟨e, d, he, hd, hschedule, hse, hsd⟩
    · rw [he] at herror
      cases herror
  · obtain ⟨error, error', ht, hu, hne, hfield⟩ :
        ∃ error error', read "0 9 * Janvier mon".toList = .error error ∧
          read "0 9 * JANVIER MON".toList = .error error' ∧ error ≠ error' ∧ error.field? = some .month :=
      ⟨_, _, by rfl, by rfl, by decide, by rfl⟩
    have hcase : "0 9 * Janvier mon".toList.map Char.toLower = "0 9 * JANVIER MON".toList.map Char.toLower := by decide
    rcases read_blind_to_case hcase with ⟨e, _, _, he, _⟩ | ⟨error₁, error₂, ht', hu', hclass, hfields⟩
    · rw [ht] at he
      cases he
    · obtain rfl : error = error₁ := Except.error.inj (ht.symm.trans ht')
      obtain rfl : error' = error₂ := Except.error.inj (hu.symm.trans hu')
      exact ⟨error, error', ht, hu, hne, hclass, hfield, hfields ▸ hfield⟩

/-- The phrase of a field is not so: it shows the base of a step as it stands. -/
example : ∃ phrase phrase', FieldSpec.dayOfWeek.phrase "mon/2".toList = .ok phrase ∧
    FieldSpec.dayOfWeek.phrase "MON/2".toList = .ok phrase' ∧ phrase ≠ phrase' :=
  ⟨_, _, by rfl, by rfl, by decide⟩

end Expression
end CronSchedule
