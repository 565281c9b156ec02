/-
What is wrong with a text that is no field. An item is read from left to
right, its base before its step and the first value of a span before the
last, and the first thing found wrong is the fault that is reported; of
the items of a field the first that has one decides. A fault is said here
of the text alone, without reading it. Reading fails with it as it is
raised: if an integer in its wording cannot be shown, with that integer.

* `readItem_eq_raised_iff`: the fault of an item.
* `values_eq_malformed_iff`: the fault of a field, reported with its name,
  its label and its whole text.
* `values_eq_toShow_iff`: the fields that fail with an integer that cannot
  be shown.
* `showable_of_values`: so a fault that is reported can be worded.
* `FirstFault.of_prefix`: what follows the item with the fault does not
  change it.
-/
import CronSchedule.Proofs.Overlong
import CronSchedule.Proofs.ShownIntegers

namespace CronSchedule
namespace FieldSpec

/-- The text is a name of the field: letters for which it has a value. -/
def IsName (spec : FieldSpec) (t : Text) : Prop :=
  (∀ c ∈ t, Text.isLetter c = true) ∧ ∃ value, spec.lookup? t = some value

/-- What is wrong with an atom. -/
inductive FaultyAtom (spec : FieldSpec) : Text → Fault → Prop
  | missing : FaultyAtom spec [] .missingValue
  | notAValue {t : Text} : t ≠ [] → Numeral.isPlain t = false → ¬ IsName spec t → FaultyAtom spec t (.notAValue t)
  | number {t : Text} : Numeral.isPlain t = true → t.length ≤ Numeral.digitLimit →
      spec.contains (Numeral.value t) = false → FaultyAtom spec t (.outOfRange t spec.low spec.high)
  | name {t : Text} {value : Int} : t ≠ [] → (∀ c ∈ t, Text.isLetter c = true) → spec.lookup? t = some value →
      spec.contains value = false → FaultyAtom spec t (.outOfRange t spec.low spec.high)

/-- What is first wrong with a base. -/
inductive FaultyBase (spec : FieldSpec) : Text → Fault → Prop
  | one {t : Text} {f : Fault} : t ≠ ['*'] → '-' ∉ t → FaultyAtom spec t f → FaultyBase spec t f
  | notARange {t u : Text} : '-' ∉ t → (t = [] ∨ '-' ∈ u) → FaultyBase spec (t ++ '-' :: u) (.notARange (t ++ '-' :: u))
  | first {t u : Text} {f : Fault} : t ≠ [] → '-' ∉ t → '-' ∉ u → FaultyAtom spec t f →
      FaultyBase spec (t ++ '-' :: u) f
  | last {t u : Text} {value : Int} {f : Fault} : AtomForm spec t value → '-' ∉ u → FaultyAtom spec u f →
      FaultyBase spec (t ++ '-' :: u) f
  | reversed {t u : Text} {first last : Int} : AtomForm spec t first → AtomForm spec u last → last < first →
      FaultyBase spec (t ++ '-' :: u) (.reversedRange (t ++ '-' :: u))

/-- What is wrong with a step. -/
inductive FaultyStep (spec : FieldSpec) : Text → Fault → Prop
  | notANumber {t : Text} : Numeral.isPlain t = false → FaultyStep spec t (.stepNotANumber t)
  | outOfRange {t : Text} : Numeral.isPlain t = true → t.length ≤ Numeral.digitLimit →
      ¬ (1 ≤ Numeral.value t ∧ Numeral.value t < spec.size) →
      FaultyStep spec t (.stepOutOfRange (Numeral.value t) (spec.size - 1))

/-- What is first wrong with an item. -/
inductive FaultyItem (spec : FieldSpec) : Text → Fault → Prop
  | empty : FaultyItem spec [] .emptyItem
  | plain {t : Text} {f : Fault} : t ≠ [] → '/' ∉ t → FaultyBase spec t f → FaultyItem spec t f
  | manySteps {t u : Text} : '/' ∉ t → '/' ∈ u → FaultyItem spec (t ++ '/' :: u) (.manySteps (t ++ '/' :: u))
  | base {t u : Text} {f : Fault} : '/' ∉ t → '/' ∉ u → FaultyBase spec t f → FaultyItem spec (t ++ '/' :: u) f
  | step {t u : Text} {base : Base} {f : Fault} : BaseForm spec t base → '/' ∉ u → FaultyStep spec u f →
      FaultyItem spec (t ++ '/' :: u) f

variable {spec : FieldSpec} {t : Text} {f : Fault}

/-! ## Reading what is faulty

An error that is not of reading a numeral is a fault as it is raised. -/

section
variable {e : ItemError} (he : ∀ n, e ≠ .tooLong (.toRead n))
include he

theorem atomValue_eq_error_iff :
    spec.atomValue t = .error e ↔ Numeral.isPlain t = false ∧ ¬ IsName spec t ∧ e = .fault (.notAValue t) := by
  unfold atomValue
  cases hp : Numeral.isPlain t with
  | true =>
    simp only [if_true, Bool.true_eq_false, false_and, iff_false]
    cases hr : Numeral.read t with
    | ok n => exact fun h => (nomatch h)
    | error numeral =>
      obtain ⟨_, rfl⟩ := read_eq_error_iff.mp hr
      exact fun h => he _ (Except.error.inj h).symm
  | false =>
    simp only [Bool.false_eq_true, if_false, true_and]
    split
    next value hk =>
      split at hk
      next hl =>
        have hname : IsName spec t := ⟨List.all_eq_true.mp hl, value, hk⟩
        exact ⟨fun h => (nomatch h), fun h => absurd hname h.1⟩
      next => cases hk
    next hk =>
      have hname : ¬ IsName spec t := fun h => by
        obtain ⟨hl, value, hvalue⟩ := h
        rw [if_pos (List.all_eq_true.mpr hl), hvalue] at hk
        cases hk
      exact ⟨fun h => ⟨hname, (Except.error.inj h).symm⟩, fun h => by rw [h.2]⟩

theorem readAtom_eq_raised_iff : spec.readAtom t = .error e ↔ ∃ f, FaultyAtom spec t f ∧ e = f.raised := by
  unfold readAtom
  by_cases hne : t = []
  · subst hne
    refine ⟨fun h => ⟨_, .missing, (Except.error.inj h).symm⟩, fun ⟨f, hf, he⟩ => ?_⟩
    cases hf with
    | missing => rw [he]; rfl
    | notAValue hne => exact absurd rfl hne
    | number hp => exact absurd rfl (Numeral.isPlain_iff.mp hp).1
    | name hne => exact absurd rfl hne
  · have hempty : t.isEmpty = false := by simpa using hne
    simp only [hempty, Bool.false_eq_true, if_false, bind_eq_error_iff, atomValue_eq_error_iff he]
    refine ⟨fun h => ?_, fun ⟨f, hf, he⟩ => ?_⟩
    · rcases h with ⟨hp, hname, rfl⟩ | ⟨value, hvalue, h⟩
      · exact ⟨_, .notAValue hne hp hname, rfl⟩
      · split at h
        next => cases h
        next hc =>
          rw [Bool.not_eq_true] at hc
          refine ⟨_, ?_, (Except.error.inj h).symm⟩
          rcases atomValue_eq_ok_iff.mp hvalue with ⟨hp, hl, rfl⟩ | ⟨_, hl, hk⟩
          · exact .number hp hl hc
          · exact .name hne hl hk hc
    · cases hf with
      | missing => exact absurd rfl hne
      | notAValue _ hp hname => exact .inl ⟨hp, hname, he⟩
      | number hp hl hc => exact .inr ⟨_, atomValue_eq_ok_iff.mpr (.inl ⟨hp, hl, rfl⟩), by simp [hc, he]⟩
      | name _ hl hk hc =>
        have hvalue := atomValue_eq_ok_iff.mpr (.inr ⟨isPlain_eq_false_of_letters hne hl, hl, hk⟩)
        exact .inr ⟨_, hvalue, by simp [hc, he]⟩

theorem readStep_eq_raised_iff : spec.readStep t = .error e ↔ ∃ f, FaultyStep spec t f ∧ e = f.raised := by
  unfold readStep
  refine ⟨fun h => ?_, fun ⟨f, hf, he⟩ => ?_⟩
  · split at h
    next hp =>
      split at h
      next n hr =>
        obtain ⟨hl, rfl⟩ := Numeral.read_eq_ok_iff.mp hr
        split at h
        next => cases h
        next hc => exact ⟨_, .outOfRange hp hl hc, (Except.error.inj h).symm⟩
      next numeral hr =>
        obtain ⟨_, rfl⟩ := read_eq_error_iff.mp hr
        exact absurd (Except.error.inj h).symm (he _)
    next hp => exact ⟨_, .notANumber (Bool.eq_false_iff.mpr hp), (Except.error.inj h).symm⟩
  · cases hf with
    | notANumber hp =>
      simp only [hp, Bool.false_eq_true, if_false, he]
      rfl
    | outOfRange hp hl hc =>
      have hr := Numeral.read_eq_ok_iff.mpr ⟨hl, rfl⟩
      simp only [hp, if_true, hr, hc, if_false, he]

omit he in
theorem readBase_notARange {u : Text} (ht : '-' ∉ t) (h : t = [] ∨ '-' ∈ u) :
    spec.readBase (t ++ '-' :: u) = .error (.fault (.notARange (t ++ '-' :: u))) := by
  have hs : t ++ '-' :: u ≠ ['*'] := fun e => by
    have := congrArg (fun l => '-' ∈ l) e
    simp at this
  have hg : (t.isEmpty || u.contains '-') = true := by simpa using h
  unfold readBase
  rw [if_neg hs, Text.cut?_eq_some_iff.mpr ⟨rfl, ht⟩]
  simp only [hg, if_true]

theorem readBase_eq_raised_iff : spec.readBase t = .error e ↔ ∃ f, FaultyBase spec t f ∧ e = f.raised := by
  refine ⟨fun h => ?_, fun ⟨f, hf, hraised⟩ => ?_⟩
  · by_cases hs : t = ['*']
    · rw [hs] at h
      cases h
    · cases hc : Text.cut? '-' t with
      | none =>
        have hd := Text.cut?_eq_none_iff.mp hc
        rw [readBase_one hs hd, bind_eq_error_iff] at h
        rcases h with h | ⟨_, _, h⟩
        · obtain ⟨f, hf, hraised⟩ := (readAtom_eq_raised_iff he).mp h
          exact ⟨f, .one hs hd hf, hraised⟩
        · cases h
      | some parts =>
        obtain ⟨first, last⟩ := parts
        obtain ⟨rfl, hfirst⟩ := Text.cut?_eq_some_iff.mp hc
        by_cases hno : first = [] ∨ '-' ∈ last
        · rw [readBase_notARange hfirst hno] at h
          exact ⟨_, .notARange hfirst hno, (Except.error.inj h).symm⟩
        · rw [not_or] at hno
          rw [readBase_span hno.1 hfirst hno.2, bind_eq_error_iff] at h
          rcases h with h | ⟨a, ha, h⟩
          · obtain ⟨f, hf, hraised⟩ := (readAtom_eq_raised_iff he).mp h
            exact ⟨f, .first hno.1 hfirst hno.2 hf, hraised⟩
          · have ha := readAtom_eq_ok_iff.mp ha
            rcases bind_eq_error_iff.mp h with h | ⟨b, hb, h⟩
            · obtain ⟨f, hf, hraised⟩ := (readAtom_eq_raised_iff he).mp h
              exact ⟨f, .last ha hno.2 hf, hraised⟩
            · split at h
              next => cases h
              next hab =>
                exact ⟨_, .reversed ha (readAtom_eq_ok_iff.mp hb) (Int.not_le.mp hab), (Except.error.inj h).symm⟩
  · cases hf with
    | one hs hd ha =>
      rw [readBase_one hs hd]
      exact bind_eq_error_iff.mpr (.inl ((readAtom_eq_raised_iff he).mpr ⟨f, ha, hraised⟩))
    | notARange ht hno =>
      rw [readBase_notARange ht hno, hraised]
      rfl
    | first ht hd hu ha =>
      rw [readBase_span ht hd hu]
      exact bind_eq_error_iff.mpr (.inl ((readAtom_eq_raised_iff he).mpr ⟨f, ha, hraised⟩))
    | last ha hu hf =>
      rw [readBase_span ha.chars.1 (ha.mark_not_mem (by decide)) hu]
      refine bind_eq_error_iff.mpr (.inr ⟨_, readAtom_eq_ok_iff.mpr ha, ?_⟩)
      exact bind_eq_error_iff.mpr (.inl ((readAtom_eq_raised_iff he).mpr ⟨f, hf, hraised⟩))
    | reversed ha hb hab =>
      rw [readBase_span ha.chars.1 (ha.mark_not_mem (by decide)) (hb.mark_not_mem (by decide)), hraised]
      refine bind_eq_error_iff.mpr (.inr ⟨_, readAtom_eq_ok_iff.mpr ha, ?_⟩)
      refine bind_eq_error_iff.mpr (.inr ⟨_, readAtom_eq_ok_iff.mpr hb, ?_⟩)
      rw [if_neg (Int.not_le.mpr hab)]
      rfl

omit he in
theorem readItem_manySteps {u : Text} (ht : '/' ∉ t) (hu : '/' ∈ u) :
    spec.readItem (t ++ '/' :: u) = .error (.fault (.manySteps (t ++ '/' :: u))) := by
  have hempty : (t ++ '/' :: u).isEmpty = false := by simp
  have hg : u.contains '/' = true := by simpa using hu
  simp only [readItem, hempty, Bool.false_eq_true, if_false, Text.cut?_eq_some_iff.mpr ⟨rfl, ht⟩, hg, if_true]

/-- **An item fails with what is first wrong with it**, unless it fails with a numeral that is too long to be read. -/
theorem readItem_eq_raised_iff : spec.readItem t = .error e ↔ ∃ f, FaultyItem spec t f ∧ e = f.raised := by
  refine ⟨fun h => ?_, fun ⟨f, hf, hraised⟩ => ?_⟩
  · by_cases hne : t = []
    · subst hne
      exact ⟨_, .empty, (Except.error.inj h).symm⟩
    · cases hc : Text.cut? '/' t with
      | none =>
        have hd := Text.cut?_eq_none_iff.mp hc
        rw [readItem_plain hne hd, bind_eq_error_iff] at h
        rcases h with h | ⟨_, _, h⟩
        · obtain ⟨f, hf, hraised⟩ := (readBase_eq_raised_iff he).mp h
          exact ⟨f, .plain hne hd hf, hraised⟩
        · cases h
      | some parts =>
        obtain ⟨base, step⟩ := parts
        obtain ⟨rfl, hbase⟩ := Text.cut?_eq_some_iff.mp hc
        by_cases hmany : '/' ∈ step
        · rw [readItem_manySteps hbase hmany] at h
          exact ⟨_, .manySteps hbase hmany, (Except.error.inj h).symm⟩
        · rw [readItem_stepped hbase hmany, bind_eq_error_iff] at h
          rcases h with h | ⟨b, hb, h⟩
          · obtain ⟨f, hf, hraised⟩ := (readBase_eq_raised_iff he).mp h
            exact ⟨f, .base hbase hmany hf, hraised⟩
          · rcases bind_eq_error_iff.mp h with h | ⟨_, _, h⟩
            · obtain ⟨f, hf, hraised⟩ := (readStep_eq_raised_iff he).mp h
              exact ⟨f, .step (readBase_eq_ok_iff.mp hb) hmany hf, hraised⟩
            · cases h
  · cases hf with
    | empty =>
      rw [hraised]
      rfl
    | plain hne hd hb =>
      rw [readItem_plain hne hd]
      exact bind_eq_error_iff.mpr (.inl ((readBase_eq_raised_iff he).mpr ⟨f, hb, hraised⟩))
    | manySteps ht hu =>
      rw [readItem_manySteps ht hu, hraised]
      rfl
    | base ht hu hb =>
      rw [readItem_stepped ht hu]
      exact bind_eq_error_iff.mpr (.inl ((readBase_eq_raised_iff he).mpr ⟨f, hb, hraised⟩))
    | step hb hu hs =>
      rw [readItem_stepped hb.slash_not_mem hu]
      refine bind_eq_error_iff.mpr (.inr ⟨_, readBase_eq_ok_iff.mpr hb, ?_⟩)
      exact bind_eq_error_iff.mpr (.inl ((readStep_eq_raised_iff he).mpr ⟨f, hs, hraised⟩))

end

theorem FaultyItem.readItem (h : FaultyItem spec t f) : spec.readItem t = .error f.raised :=
  (readItem_eq_raised_iff fun _ => Fault.raised_ne_toRead).mpr ⟨f, h, rfl⟩

/-! ## Faults that can be worded -/

/-- The bounds of the field, and the greatest step, can be shown. -/
structure Showable (spec : FieldSpec) : Prop where
  low : Numeral.showable spec.low = true
  high : Numeral.showable spec.high = true
  step : Numeral.showable (spec.size - 1) = true

theorem FaultyAtom.showable (hs : Showable spec) (h : FaultyAtom spec t f) : f.showable = true := by
  cases h with
  | missing => rfl
  | notAValue => rfl
  | number => simp [Fault.showable, Fault.integers, hs.low, hs.high]
  | name => simp [Fault.showable, Fault.integers, hs.low, hs.high]

theorem FaultyBase.showable (hs : Showable spec) (h : FaultyBase spec t f) : f.showable = true := by
  cases h with
  | one _ _ ha => exact ha.showable hs
  | notARange => rfl
  | first _ _ _ ha => exact ha.showable hs
  | last _ _ ha => exact ha.showable hs
  | reversed => rfl

theorem FaultyStep.showable (hs : Showable spec) (h : FaultyStep spec t f) : f.showable = true := by
  cases h with
  | notANumber => rfl
  | outOfRange hp hl => simp [Fault.showable, Fault.integers, Numeral.showable_value hp hl, hs.step]

/-- Where the bounds can be shown, so can every fault: the step in it was read. -/
theorem FaultyItem.showable (hs : Showable spec) (h : FaultyItem spec t f) : f.showable = true := by
  cases h with
  | empty => rfl
  | plain _ _ hb => exact hb.showable hs
  | manySteps => rfl
  | base _ _ hb => exact hb.showable hs
  | step _ _ hstep => exact hstep.showable hs

/-! ## Fields -/

/-- The segment `t` is the first of a field that is no item, and this is what is first wrong with it. -/
structure FirstFault (spec : FieldSpec) (raw : Text) (before : List Text) (t : Text) (f : Fault) : Prop where
  segments : ∃ after, Text.Segments ',' raw (before ++ t :: after)
  items : ∀ segment ∈ before, ∃ item, ItemForm spec segment item
  faulty : FaultyItem spec t f

/-- What follows the segment with the fault does not change it. -/
theorem FirstFault.of_prefix {raw raw' : Text} {before after : List Text} (h : FirstFault spec raw before t f)
    (hseg : Text.Segments ',' raw' (before ++ t :: after)) : FirstFault spec raw' before t f :=
  ⟨⟨after, hseg⟩, h.items, h.faulty⟩

/-- **A field that is not empty fails with the first fault in it**, unless it fails with a numeral that is too long to
be read. -/
theorem values_eq_raised_iff {raw : Text} (hne : raw ≠ []) {e : FieldError} (he : ∀ n, e ≠ .tooLong (.toRead n)) :
    spec.values raw = .error e ↔
      ∃ before t f, FirstFault spec raw before t f ∧ e = f.raised.inField spec raw := by
  have hempty : raw.isEmpty = false := by simpa using hne
  unfold FieldSpec.values
  simp only [hempty, Bool.false_eq_true, if_false]
  refine ⟨fun h => ?_, fun h => ?_⟩
  · split at h
    next => cases h
    next error hitems =>
      obtain ⟨before, t, after, hseg, hbefore, ht⟩ := mapM_eq_error_iff.mp hitems
      have hraised : ∀ n, error ≠ .tooLong (.toRead n) := by
        rintro n rfl
        exact he n (Except.error.inj h).symm
      obtain ⟨f, hf, rfl⟩ := (readItem_eq_raised_iff hraised).mp ht
      refine ⟨before, t, f, ⟨⟨after, Text.segments_iff.mpr hseg⟩, ?_, hf⟩, (Except.error.inj h).symm⟩
      intro segment hmem
      obtain ⟨item, hitem⟩ := hbefore segment hmem
      exact ⟨item, readItem_eq_ok_iff.mp hitem⟩
  · obtain ⟨before, t, f, ⟨⟨after, hseg⟩, hbefore, hf⟩, rfl⟩ := h
    have hitems : (List.splitOn ',' raw).mapM spec.readItem = .error f.raised := by
      refine mapM_eq_error_iff.mpr ⟨before, t, after, Text.segments_iff.mp hseg, fun segment hmem => ?_, hf.readItem⟩
      obtain ⟨item, hitem⟩ := hbefore segment hmem
      exact ⟨item, readItem_eq_ok_iff.mpr hitem⟩
    rw [hitems]

/-- A field whose bounds can be shown fails with its first fault as it is. -/
theorem values_eq_malformed_iff (hs : Showable spec) {raw : Text} (hne : raw ≠ []) {e : FieldError}
    (he : ∀ n, e ≠ .tooLong (.toRead n)) :
    spec.values raw = .error e ↔
      ∃ before t f, FirstFault spec raw before t f ∧ e = .malformed spec.name spec.label raw f := by
  rw [values_eq_raised_iff hne he]
  have hraised : ∀ {before t f}, FirstFault spec raw before t f → f.raised = .fault f := fun h =>
    Fault.raised_of_showable (h.faulty.showable hs)
  refine ⟨fun h => ?_, fun h => ?_⟩
  · obtain ⟨before, t, f, hfirst, rfl⟩ := h
    exact ⟨before, t, f, hfirst, by rw [hraised hfirst]; rfl⟩
  · obtain ⟨before, t, f, hfirst, rfl⟩ := h
    exact ⟨before, t, f, hfirst, by rw [hraised hfirst]; rfl⟩

/-- The first fault of the field has an integer in its wording that cannot be shown. -/
def UnshownField (spec : FieldSpec) (raw : Text) : Prop :=
  ∃ before t f, FirstFault spec raw before t f ∧ f.showable = false

theorem UnshownField.not_showable {raw : Text} (h : UnshownField spec raw) : ¬ Showable spec := by
  obtain ⟨before, t, f, hfirst, hf⟩ := h
  intro hs
  rw [hfirst.faulty.showable hs] at hf
  cases hf

theorem FirstFault.ne_nil {raw : Text} {before : List Text} (h : FirstFault spec raw before t f)
    (hf : f.showable = false) : raw ≠ [] := by
  rintro rfl
  obtain ⟨after, hseg⟩ := h.segments
  obtain rfl := hseg.eq_nil (List.mem_append_right before List.mem_cons_self)
  have hread := h.faulty.readItem
  rw [Fault.raised_of_not_showable hf] at hread
  cases hread

/-- **A field fails with an integer that is too long to be shown** just if its first fault has one. -/
theorem values_eq_toShow_iff {raw : Text} : spec.values raw = .error (.tooLong .toShow) ↔ UnshownField spec raw := by
  have he : ∀ n, FieldError.tooLong .toShow ≠ .tooLong (.toRead n) := fun n h => nomatch h
  refine ⟨fun h => ?_, fun h => ?_⟩
  · have hne : raw ≠ [] := by
      rintro rfl
      cases h
    obtain ⟨before, t, f, hfirst, hraised⟩ := (values_eq_raised_iff hne he).mp h
    refine ⟨before, t, f, hfirst, Bool.eq_false_iff.mpr fun hf => ?_⟩
    rw [Fault.raised_of_showable hf] at hraised
    cases hraised
  · obtain ⟨before, t, f, hfirst, hf⟩ := h
    refine (values_eq_raised_iff (hfirst.ne_nil hf) he).mpr ⟨before, t, f, hfirst, ?_⟩
    rw [Fault.raised_of_not_showable hf]
    rfl

theorem showable_of_values {name : FieldName} {label raw shown : Text}
    (h : spec.values raw = .error (.malformed name label shown f)) : f.showable = true := by
  by_cases hne : raw = []
  · subst hne
    cases h
    rfl
  · have he : ∀ n, FieldError.malformed name label shown f ≠ .tooLong (.toRead n) := fun n h => nomatch h
    obtain ⟨_, _, cause, _, hraised⟩ := (values_eq_raised_iff hne he).mp h
    cases hcause : cause.showable with
    | true =>
      rw [Fault.raised_of_showable hcause] at hraised
      cases hraised
      exact hcause
    | false =>
      rw [Fault.raised_of_not_showable hcause] at hraised
      cases hraised

end FieldSpec

theorem FieldName.spec_showable (name : FieldName) : FieldSpec.Showable name.spec := by
  cases name <;> exact ⟨by decide, by decide, by decide⟩

end CronSchedule
