/-
The grammar of items, as relations between a text and what it stands for.

* `readAtom_eq_ok_iff`, `readBase_eq_ok_iff`, `readStep_eq_ok_iff`: each
  reader accepts just the texts of its form.
* `readItem_eq_ok_iff`: so an item is read exactly if it is well formed.
-/
import CronSchedule.Field.Item
import CronSchedule.Proofs.Traverse

namespace CronSchedule
namespace FieldSpec

/-- How a value is written: as a plain numeral within the limit, or as a name in letters. -/
inductive AtomForm (spec : FieldSpec) : Text → Int → Prop
  | numeral {t : Text} : Numeral.isPlain t = true → t.length ≤ Numeral.digitLimit →
      spec.contains (Numeral.value t) = true → AtomForm spec t (Numeral.value t)
  | name {t : Text} {value : Int} : t ≠ [] → (∀ c ∈ t, Text.isLetter c = true) → spec.lookup? t = some value →
      spec.contains value = true → AtomForm spec t value

/-- How a base is written. -/
inductive BaseForm (spec : FieldSpec) : Text → Base → Prop
  | every : BaseForm spec ['*'] .every
  | one {t : Text} {value : Int} : AtomForm spec t value → BaseForm spec t (.one value)
  | span {t u : Text} {first last : Int} : AtomForm spec t first → AtomForm spec u last → first ≤ last →
      BaseForm spec (t ++ '-' :: u) (.span first last)

/-- How an item is written. -/
inductive ItemForm (spec : FieldSpec) : Text → Item → Prop
  | plain {t : Text} {base : Base} : BaseForm spec t base → ItemForm spec t ⟨base, none⟩
  | stepped {t u : Text} {base : Base} : BaseForm spec t base → Numeral.isPlain u = true →
      u.length ≤ Numeral.digitLimit → 1 ≤ Numeral.value u → Numeral.value u < spec.size →
      ItemForm spec (t ++ '/' :: u) ⟨base, some (Numeral.value u)⟩

/-- A name in letters is no numeral. -/
theorem isPlain_eq_false_of_letters {t : Text} (hne : t ≠ []) (h : ∀ c ∈ t, Text.isLetter c = true) :
    Numeral.isPlain t = false := by
  refine Bool.eq_false_iff.mpr fun hp => ?_
  obtain ⟨c, hc⟩ := List.exists_mem_of_ne_nil t hne
  have hno := Text.isLetter_of_isDigit ((Numeral.isPlain_iff.mp hp).2 c hc)
  rw [h c hc] at hno
  cases hno

/-- An atom is written with digits alone or with letters alone. -/
theorem AtomForm.chars {spec : FieldSpec} {t : Text} {value : Int} (h : AtomForm spec t value) :
    t ≠ [] ∧ ∀ c ∈ t, c.isDigit = true ∨ Text.isLetter c = true := by
  cases h with
  | numeral hp => obtain ⟨hne, hd⟩ := Numeral.isPlain_iff.mp hp; exact ⟨hne, fun c hc => .inl (hd c hc)⟩
  | name hne hl => exact ⟨hne, fun c hc => .inr (hl c hc)⟩

theorem AtomForm.not_mem {spec : FieldSpec} {t : Text} {value : Int} (h : AtomForm spec t value) {c : Char}
    (hd : c.isDigit = false) (hl : Text.isLetter c = false) : c ∉ t := fun hc => by
  rcases h.chars.2 c hc with h | h <;> simp_all

/-- No mark of a field stands in an atom. -/
theorem AtomForm.mark_not_mem {spec : FieldSpec} {t : Text} {value : Int} (h : AtomForm spec t value) {c : Char}
    (hm : c ∈ ['*', '-', '/', ',']) : c ∉ t := by
  simp only [List.mem_cons, List.not_mem_nil, or_false] at hm
  rcases hm with rfl | rfl | rfl | rfl <;> exact h.not_mem (by decide) (Text.isLetter_of_lt (by decide))

theorem atomValue_eq_ok_iff {spec : FieldSpec} {t : Text} {value : Int} :
    spec.atomValue t = .ok value ↔
      (Numeral.isPlain t = true ∧ t.length ≤ Numeral.digitLimit ∧ (Numeral.value t : Int) = value) ∨
      (Numeral.isPlain t = false ∧ (∀ c ∈ t, Text.isLetter c = true) ∧ spec.lookup? t = some value) := by
  cases hp : Numeral.isPlain t with
  | true =>
    simp only [atomValue, hp, if_true, true_and, Bool.true_eq_false, false_and, or_false]
    cases hr : Numeral.read t with
    | ok n =>
      obtain ⟨hl, rfl⟩ := Numeral.read_eq_ok_iff.mp hr
      simp [hl]
    | error e =>
      refine ⟨fun h => (nomatch h), fun h => ?_⟩
      rw [Numeral.read_eq_ok_iff.mpr ⟨h.1, rfl⟩] at hr
      cases hr
  | false =>
    simp only [atomValue, hp, Bool.false_eq_true, if_false, false_and, true_and, false_or]
    by_cases hl : t.all Text.isLetter = true
    · have hl' := List.all_eq_true.mp hl
      simp only [hl, if_true]
      cases spec.lookup? t with
      | none => simp
      | some v => simp only [Except.ok.injEq, Option.some.injEq]; exact ⟨fun h => ⟨hl', h⟩, fun h => h.2⟩
    · have hl' := fun h => hl (List.all_eq_true.mpr h)
      simp only [hl]
      exact ⟨fun h => by simp at h, fun h => absurd h.1 hl'⟩

theorem readAtom_eq_ok_iff {spec : FieldSpec} {t : Text} {value : Int} :
    spec.readAtom t = .ok value ↔ AtomForm spec t value := by
  cases t with
  | nil =>
    simp only [readAtom, List.isEmpty_nil, if_true]
    refine ⟨fun h => ?_, fun h => absurd rfl (AtomForm.chars h).1⟩
    simp at h
  | cons c t =>
    have hb : spec.readAtom (c :: t) = .ok value ↔
        spec.atomValue (c :: t) = .ok value ∧ spec.contains value = true := by
      simp only [readAtom, List.isEmpty_cons, Bool.false_eq_true, if_false, bind, Except.bind]
      cases spec.atomValue (c :: t) with
      | error e => simp
      | ok v => by_cases hv : spec.contains v = true <;> simp [hv] <;> grind
    rw [hb, atomValue_eq_ok_iff]
    constructor
    · rintro ⟨⟨hp, hl, rfl⟩ | ⟨_, hl, hk⟩, hc⟩
      · exact .numeral hp hl hc
      · exact .name (by simp) hl hk hc
    · intro h
      cases h with
      | numeral hp hl hc => exact ⟨.inl ⟨hp, hl, rfl⟩, hc⟩
      | name hne hl hk hc => exact ⟨.inr ⟨isPlain_eq_false_of_letters hne hl, hl, hk⟩, hc⟩

theorem readBase_eq_ok_iff {spec : FieldSpec} {t : Text} {base : Base} :
    spec.readBase t = .ok base ↔ BaseForm spec t base := by
  constructor
  · intro h
    simp only [readBase] at h
    split at h
    next he => cases h; exact he ▸ .every
    next he =>
      split at h
      next hc =>
        obtain ⟨v, hv, hb⟩ := bind_eq_ok_iff.mp h
        cases hb
        exact .one (readAtom_eq_ok_iff.mp hv)
      next first last hc =>
        obtain ⟨rfl, _⟩ := Text.cut?_eq_some_iff.mp hc
        split at h
        next => cases h
        next =>
          obtain ⟨a, ha, h⟩ := bind_eq_ok_iff.mp h
          obtain ⟨b, hb, h⟩ := bind_eq_ok_iff.mp h
          split at h
          next hab => cases h; exact .span (readAtom_eq_ok_iff.mp ha) (readAtom_eq_ok_iff.mp hb) hab
          next => cases h
  · intro h
    cases h with
    | every => rfl
    | one ha =>
      have hstar : '*' ∉ t := ha.mark_not_mem (by decide)
      have hne : t ≠ ['*'] := fun e => hstar (by simp [e])
      have hdash : '-' ∉ t := ha.mark_not_mem (by decide)
      have hc := Text.cut?_eq_none_iff.mpr hdash
      simp only [readBase, hne, if_false, hc]
      exact bind_eq_ok_iff.mpr ⟨_, readAtom_eq_ok_iff.mpr ha, rfl⟩
    | @span t u first last ha hb hab =>
      have hne : t ++ '-' :: u ≠ ['*'] := fun e => by
        have := congrArg (fun l => '-' ∈ l) e
        simp at this
      have hc : Text.cut? '-' (t ++ '-' :: u) = some (t, u) :=
        Text.cut?_eq_some_iff.mpr ⟨rfl, ha.mark_not_mem (by decide)⟩
      have hu : '-' ∉ u := hb.mark_not_mem (by decide)
      have ht : t ≠ [] := ha.chars.1
      have hg : (t.isEmpty || u.contains '-') = false := by simp [ht, hu]
      simp only [readBase, hne, if_false, hc, hg, Bool.false_eq_true]
      exact bind_eq_ok_iff.mpr ⟨_, readAtom_eq_ok_iff.mpr ha,
        bind_eq_ok_iff.mpr ⟨_, readAtom_eq_ok_iff.mpr hb, by simp [hab]⟩⟩

/-- A base is written with atoms, a star or a hyphen. -/
theorem BaseForm.not_mem_of_atoms {spec : FieldSpec} {t : Text} {base : Base} (h : BaseForm spec t base) {c : Char}
    (ha : ∀ {u : Text} {value : Int}, AtomForm spec u value → c ∉ u) (hs : c ≠ '*') (hh : c ≠ '-') : c ∉ t := by
  cases h with
  | every => simpa using hs
  | one hone => exact ha hone
  | span hfirst hlast => simp [ha hfirst, ha hlast, hh]

theorem BaseForm.slash_not_mem {spec : FieldSpec} {t : Text} {base : Base} (h : BaseForm spec t base) : '/' ∉ t :=
  h.not_mem_of_atoms (fun ha => ha.mark_not_mem (by decide)) (by decide) (by decide)

theorem readStep_eq_ok_iff {spec : FieldSpec} {t : Text} {step : Nat} :
    spec.readStep t = .ok step ↔ Numeral.isPlain t = true ∧ t.length ≤ Numeral.digitLimit ∧
      Numeral.value t = step ∧ 1 ≤ step ∧ step < spec.size := by
  simp only [readStep]
  cases hp : Numeral.isPlain t with
  | false => simp
  | true =>
    cases hr : Numeral.read t with
    | error e =>
      simp only [if_true, true_and]
      refine ⟨fun h => (nomatch h), fun h => ?_⟩
      rw [Numeral.read_eq_ok_iff.mpr ⟨h.1, h.2.1⟩] at hr
      cases hr
    | ok n =>
      obtain ⟨hl, rfl⟩ := Numeral.read_eq_ok_iff.mp hr
      simp only [if_true]
      split
      next hb => simp only [Except.ok.injEq]; exact ⟨fun h => ⟨trivial, hl, h, h ▸ hb⟩, fun h => h.2.2.1⟩
      next hb => exact ⟨fun h => (nomatch h), fun h => absurd (h.2.2.1 ▸ h.2.2.2) hb⟩

/-- **An item is read exactly if it is well formed, and for what it stands for.** -/
theorem readItem_eq_ok_iff {spec : FieldSpec} {t : Text} {item : Item} :
    spec.readItem t = .ok item ↔ ItemForm spec t item := by
  constructor
  · intro h
    simp only [readItem] at h
    split at h
    next => cases h
    next he =>
      split at h
      next hc =>
        obtain ⟨v, hv, hb⟩ := bind_eq_ok_iff.mp h
        cases hb
        exact .plain (readBase_eq_ok_iff.mp hv)
      next base step hc =>
        obtain ⟨rfl, _⟩ := Text.cut?_eq_some_iff.mp hc
        split at h
        next => cases h
        next =>
          obtain ⟨b, hb, h⟩ := bind_eq_ok_iff.mp h
          obtain ⟨n, hn, h⟩ := bind_eq_ok_iff.mp h
          cases h
          obtain ⟨h1, h2, rfl, h3, h4⟩ := readStep_eq_ok_iff.mp hn
          exact .stepped (readBase_eq_ok_iff.mp hb) h1 h2 h3 h4
  · intro h
    cases h with
    | plain hb =>
      have hc := Text.cut?_eq_none_iff.mpr hb.slash_not_mem
      have hne : t.isEmpty = false := by
        cases hb with
        | every => rfl
        | one ha => simp [ha.chars.1]
        | span => simp
      simp only [readItem, hne, Bool.false_eq_true, if_false, hc]
      exact bind_eq_ok_iff.mpr ⟨_, readBase_eq_ok_iff.mpr hb, rfl⟩
    | @stepped t u base hb hp hl h1 h2 =>
      have hc : Text.cut? '/' (t ++ '/' :: u) = some (t, u) :=
        Text.cut?_eq_some_iff.mpr ⟨rfl, hb.slash_not_mem⟩
      have hu : u.contains '/' = false := by
        simp only [List.contains_eq_mem, decide_eq_false_iff_not]
        exact Numeral.not_mem_of_isPlain hp (by decide)
      have hne : (t ++ '/' :: u).isEmpty = false := by simp
      simp only [readItem, hne, Bool.false_eq_true, if_false, hc, hu]
      exact bind_eq_ok_iff.mpr ⟨_, readBase_eq_ok_iff.mpr hb,
        bind_eq_ok_iff.mpr ⟨_, readStep_eq_ok_iff.mpr ⟨hp, hl, rfl, h1, h2⟩, rfl⟩⟩
end FieldSpec
end CronSchedule
