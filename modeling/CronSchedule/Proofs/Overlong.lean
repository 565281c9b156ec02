/-
Where a numeral that is too long to be read stands in the way. A field is
read from left to right, so a numeral over the limit is an error of its
own only if nothing before it is wrong: it decides for the item it stands
in, and this for the field if the items before it are well formed.

* `readItem_eq_tooLong_iff`: the items that fail with such a numeral.
* `values_eq_tooLong_iff`: the fields that fail with one.
* `values_cases`: a text that is no field for another reason is reported
  with the name, the label and the whole text of the field.
-/
import CronSchedule.Proofs.FieldMeaning

namespace CronSchedule
namespace FieldSpec

/-- A numeral with this many digits, more than the limit. -/
def Overlong (t : Text) (digits : Nat) : Prop :=
  Numeral.isPlain t = true ∧ Numeral.digitLimit < t.length ∧ digits = t.length

/-- A base in which a numeral of this many digits, more than the limit, is read before anything is wrong. -/
inductive OverlongBase (spec : FieldSpec) : Text → Nat → Prop
  | one {t : Text} {digits : Nat} : Overlong t digits → OverlongBase spec t digits
  | first {t u : Text} {digits : Nat} : Overlong t digits → '-' ∉ u → OverlongBase spec (t ++ '-' :: u) digits
  | last {t u : Text} {value : Int} {digits : Nat} : AtomForm spec t value → Overlong u digits →
      OverlongBase spec (t ++ '-' :: u) digits

/-- An item in which a numeral of this many digits, more than the limit, is read before anything is wrong. -/
inductive OverlongItem (spec : FieldSpec) : Text → Nat → Prop
  | plain {t : Text} {digits : Nat} : OverlongBase spec t digits → '/' ∉ t → OverlongItem spec t digits
  | base {t u : Text} {digits : Nat} : OverlongBase spec t digits → '/' ∉ t → '/' ∉ u →
      OverlongItem spec (t ++ '/' :: u) digits
  | step {t u : Text} {base : Base} {digits : Nat} : BaseForm spec t base → Overlong u digits →
      OverlongItem spec (t ++ '/' :: u) digits

/-- A field in which a numeral of this many digits, more than the limit, is read before anything is wrong: the segments
before the one it stands in are items. -/
def OverlongField (spec : FieldSpec) (raw : Text) (digits : Nat) : Prop :=
  ∃ before t after, Text.Segments ',' raw (before ++ t :: after) ∧
    (∀ segment ∈ before, ∃ item, ItemForm spec segment item) ∧ OverlongItem spec t digits

variable {spec : FieldSpec} {t : Text} {n : Nat}

theorem overlong_replicate (h : Numeral.digitLimit < n) : Overlong (List.replicate n '9') n := by
  have hne : List.replicate n '9' ≠ [] := by
    rw [ne_eq, List.replicate_eq_nil_iff]
    omega
  have hdigits : ∀ c ∈ List.replicate n '9', c.isDigit = true := fun c hc => by
    rw [List.eq_of_mem_replicate hc]
    decide
  have hlength : (List.replicate n '9').length = n := List.length_replicate
  exact ⟨Numeral.isPlain_iff.mpr ⟨hne, hdigits⟩, by omega, hlength.symm⟩

/-! ## Atoms and steps -/

theorem Overlong.ne_nil (h : Overlong t n) : t ≠ [] := (Numeral.isPlain_iff.mp h.1).1

theorem Overlong.not_mem (h : Overlong t n) {c : Char} (hc : c.isDigit = false) : c ∉ t :=
  Numeral.not_mem_of_isPlain h.1 hc

theorem read_eq_error_iff {e : Numeral.TooLong} :
    Numeral.read t = .error e ↔ Numeral.digitLimit < t.length ∧ e = .toRead t.length := by
  simp only [Numeral.read]
  split
  next h => simp; omega
  next h =>
    simp only [Except.error.injEq]
    exact ⟨fun he => ⟨by omega, he.symm⟩, fun he => he.2.symm⟩

theorem readAtom_eq_tooLong_iff : spec.readAtom t = .error (.tooLong (.toRead n)) ↔ Overlong t n := by
  unfold readAtom
  by_cases he : t.isEmpty = true
  · simp only [he, if_true]
    refine ⟨fun h => (nomatch h), fun h => absurd (List.isEmpty_iff.mp he) h.ne_nil⟩
  · simp only [he, Bool.false_eq_true, if_false, bind_eq_error_iff]
    refine ⟨fun h => ?_, fun h => ?_⟩
    · rcases h with h | ⟨v, _, h⟩
      · unfold atomValue at h
        split at h
        next hp =>
          split at h
          next => cases h
          next e hr =>
            obtain ⟨hl, rfl⟩ := read_eq_error_iff.mp hr
            cases h
            exact ⟨hp, hl, rfl⟩
        next =>
          split at h
          next => cases h
          next => cases h
      · split at h
        next => cases h
        next => exact absurd (Except.error.inj h) Fault.raised_ne_toRead
    · obtain ⟨hp, hl, rfl⟩ := h
      have hr := read_eq_error_iff.mpr ⟨hl, rfl⟩
      refine .inl ?_
      simp only [atomValue, hp, if_true, hr]

theorem readStep_eq_tooLong_iff : spec.readStep t = .error (.tooLong (.toRead n)) ↔ Overlong t n := by
  unfold readStep
  refine ⟨fun h => ?_, fun h => ?_⟩
  · split at h
    next hp =>
      split at h
      next =>
        split at h
        next => cases h
        next => exact absurd (Except.error.inj h) Fault.raised_ne_toRead
      next e hr =>
        obtain ⟨hl, rfl⟩ := read_eq_error_iff.mp hr
        cases h
        exact ⟨hp, hl, rfl⟩
    next => cases h
  · obtain ⟨hp, hl, rfl⟩ := h
    have hr := read_eq_error_iff.mpr ⟨hl, rfl⟩
    simp only [hp, if_true, hr]

/-! ## Bases and items -/

theorem readBase_one (hs : t ≠ ['*']) (hd : '-' ∉ t) :
    spec.readBase t = (do let a ← spec.readAtom t; .ok (.one a)) := by
  unfold readBase
  rw [if_neg hs, Text.cut?_eq_none_iff.mpr hd]
  rfl

theorem readBase_span {u : Text} (ht : t ≠ []) (hd : '-' ∉ t) (hu : '-' ∉ u) :
    spec.readBase (t ++ '-' :: u) = (do
      let a ← spec.readAtom t
      let b ← spec.readAtom u
      if a ≤ b then .ok (.span a b) else .error (.fault (.reversedRange (t ++ '-' :: u)))) := by
  have hs : t ++ '-' :: u ≠ ['*'] := fun e => by
    have := congrArg (fun l => '-' ∈ l) e
    simp at this
  have hg : (t.isEmpty || u.contains '-') = false := by simp [ht, hu]
  unfold readBase
  rw [if_neg hs, Text.cut?_eq_some_iff.mpr ⟨rfl, hd⟩]
  simp only [hg, Bool.false_eq_true, if_false]

theorem readBase_eq_tooLong_iff : spec.readBase t = .error (.tooLong (.toRead n)) ↔ OverlongBase spec t n := by
  refine ⟨fun h => ?_, fun h => ?_⟩
  · unfold readBase at h
    split at h
    next => cases h
    next =>
      split at h
      next hc =>
        rcases bind_eq_error_iff.mp h with h | ⟨v, _, h⟩
        · exact .one (readAtom_eq_tooLong_iff.mp h)
        · cases h
      next first last hc =>
        obtain ⟨rfl, _⟩ := Text.cut?_eq_some_iff.mp hc
        split at h
        next => cases h
        next hg =>
          have hl : '-' ∉ last := by simp_all
          rcases bind_eq_error_iff.mp h with h | ⟨a, ha, h⟩
          · exact .first (readAtom_eq_tooLong_iff.mp h) hl
          · rcases bind_eq_error_iff.mp h with h | ⟨b, _, h⟩
            · exact .last (readAtom_eq_ok_iff.mp ha) (readAtom_eq_tooLong_iff.mp h)
            · split at h
              next => cases h
              next => cases h
  · cases h with
    | one ho =>
      have hs : t ≠ ['*'] := fun e => ho.not_mem (show '*'.isDigit = false by decide) (by simp [e])
      rw [readBase_one hs (ho.not_mem (by decide))]
      exact bind_eq_error_iff.mpr (.inl (readAtom_eq_tooLong_iff.mpr ho))
    | first ho hu =>
      rw [readBase_span ho.ne_nil (ho.not_mem (by decide)) hu]
      exact bind_eq_error_iff.mpr (.inl (readAtom_eq_tooLong_iff.mpr ho))
    | last ha ho =>
      rw [readBase_span ha.chars.1 (ha.mark_not_mem (by decide)) (ho.not_mem (by decide))]
      refine bind_eq_error_iff.mpr (.inr ⟨_, readAtom_eq_ok_iff.mpr ha, ?_⟩)
      exact bind_eq_error_iff.mpr (.inl (readAtom_eq_tooLong_iff.mpr ho))

theorem OverlongBase.ne_nil (h : OverlongBase spec t n) : t ≠ [] := by
  cases h with
  | one ho => exact ho.ne_nil
  | first => simp
  | last => simp

theorem readItem_plain (ht : t ≠ []) (hd : '/' ∉ t) :
    spec.readItem t = (do let b ← spec.readBase t; .ok ⟨b, none⟩) := by
  have he : t.isEmpty = false := by simpa using ht
  simp only [readItem, he, Bool.false_eq_true, if_false, Text.cut?_eq_none_iff.mpr hd]
  rfl

theorem readItem_stepped {u : Text} (ht : '/' ∉ t) (hu : '/' ∉ u) :
    spec.readItem (t ++ '/' :: u) = (do
      let b ← spec.readBase t
      let s ← spec.readStep u
      .ok ⟨b, some s⟩) := by
  have he : (t ++ '/' :: u).isEmpty = false := by simp
  have hg : u.contains '/' = false := by simpa using hu
  simp only [readItem, he, Bool.false_eq_true, if_false, Text.cut?_eq_some_iff.mpr ⟨rfl, ht⟩, hg]

/-- **An item fails with a numeral that is too long** just if it is one in which such a numeral is read first. -/
theorem readItem_eq_tooLong_iff : spec.readItem t = .error (.tooLong (.toRead n)) ↔ OverlongItem spec t n := by
  refine ⟨fun h => ?_, fun h => ?_⟩
  · unfold readItem at h
    split at h
    next => cases h
    next =>
      split at h
      next hc =>
        rcases bind_eq_error_iff.mp h with h | ⟨b, _, h⟩
        · exact .plain (readBase_eq_tooLong_iff.mp h) (Text.cut?_eq_none_iff.mp hc)
        · cases h
      next base step hc =>
        obtain ⟨rfl, hbase⟩ := Text.cut?_eq_some_iff.mp hc
        split at h
        next => cases h
        next hg =>
          have hstep : '/' ∉ step := by simpa using hg
          rcases bind_eq_error_iff.mp h with h | ⟨b, hb, h⟩
          · exact .base (readBase_eq_tooLong_iff.mp h) hbase hstep
          · rcases bind_eq_error_iff.mp h with h | ⟨s, _, h⟩
            · exact .step (readBase_eq_ok_iff.mp hb) (readStep_eq_tooLong_iff.mp h)
            · cases h
  · cases h with
    | plain hb hd =>
      rw [readItem_plain hb.ne_nil hd]
      exact bind_eq_error_iff.mpr (.inl (readBase_eq_tooLong_iff.mpr hb))
    | base hb hd hu =>
      rw [readItem_stepped hd hu]
      exact bind_eq_error_iff.mpr (.inl (readBase_eq_tooLong_iff.mpr hb))
    | step hb ho =>
      rw [readItem_stepped hb.slash_not_mem (ho.not_mem (by decide))]
      refine bind_eq_error_iff.mpr (.inr ⟨_, readBase_eq_ok_iff.mpr hb, ?_⟩)
      exact bind_eq_error_iff.mpr (.inl (readStep_eq_tooLong_iff.mpr ho))

/-! ## Fields -/

theorem OverlongItem.ne_nil (h : OverlongItem spec t n) : t ≠ [] := by
  cases h with
  | plain hb => exact hb.ne_nil
  | base => simp
  | step => simp

theorem Overlong.field (h : Overlong t n) : OverlongField spec t n :=
  ⟨[], t, [], Text.segments_iff.mpr (List.splitOn_eq_singleton (h.not_mem (by decide))), fun _ ht => (nomatch ht),
    .plain (.one h) (h.not_mem (by decide))⟩

theorem OverlongField.ne_nil {raw : Text} (h : OverlongField spec raw n) : raw ≠ [] := by
  obtain ⟨before, t, after, hseg, _, ht⟩ := h
  rintro rfl
  exact ht.ne_nil (hseg.eq_nil (List.mem_append_right before List.mem_cons_self))

/-- **A field fails with a numeral that is too long** just if it is one in which such a numeral is read first. -/
theorem values_eq_tooLong_iff {raw : Text} :
    spec.values raw = .error (.tooLong (.toRead n)) ↔ OverlongField spec raw n := by
  have hmap : (List.splitOn ',' raw).mapM spec.readItem = .error (.tooLong (.toRead n)) ↔ OverlongField spec raw n := by
    simp only [mapM_eq_error_iff, OverlongField, Text.segments_iff, readItem_eq_ok_iff, readItem_eq_tooLong_iff]
  rw [← hmap]
  unfold FieldSpec.values
  by_cases hraw : raw = []
  · subst hraw
    refine ⟨fun h => (nomatch h), fun h => absurd rfl (hmap.mp h).ne_nil⟩
  · have he : raw.isEmpty = false := by simpa using hraw
    simp only [he, Bool.false_eq_true, if_false]
    split
    next items hitems => rw [hitems]; simp
    next e hitems =>
      rw [hitems]
      cases e <;> simp [ItemError.inField]

/-- Reading a field has three outcomes: values, more digits than the limit, or a fault, which is reported with the
name, the label and the whole text of the field. -/
theorem values_cases (spec : FieldSpec) (raw : Text) :
    (∃ vs, spec.values raw = .ok vs) ∨ (∃ numeral, spec.values raw = .error (.tooLong numeral)) ∨
      ∃ fault, spec.values raw = .error (.malformed spec.name spec.label raw fault) := by
  unfold FieldSpec.values
  split
  next => exact .inr (.inr ⟨_, rfl⟩)
  next =>
    split
    next items hitems => exact .inl ⟨_, rfl⟩
    next e hitems =>
      cases e with
      | fault f => exact .inr (.inr ⟨f, rfl⟩)
      | tooLong numeral => exact .inr (.inl ⟨numeral, rfl⟩)

end FieldSpec
end CronSchedule
