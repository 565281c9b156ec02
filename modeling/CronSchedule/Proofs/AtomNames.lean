/-
The atoms of a field text, and where looking up their names fails. The
atoms are looked up from left to right. One that stands for no value of the
field ends this without names, and one that cannot be looked up ends it with
an error. So the first of these decides, and what comes after it does not
count.

* `nameOf?_eq_error_iff`: the two ways in which the look-up of an atom fails.
* `named?_eq_error_iff`: a text fails just if it has such an atom and those
  before it have names.
* `NameTable.named?_eq_error_iff`: where the table has all names, it fails
  just with a numeral over the limit.
-/
import CronSchedule.Proofs.NamedValues
import CronSchedule.Proofs.Overlong

namespace CronSchedule
open FieldSpec

namespace Phrase

variable {spec : FieldSpec} {table : List Text} {t : Text} {e : PhraseError}

/-! ## One atom -/

/-- An atom stands for a value of the field: as a numeral within the limit, or as one of its names. -/
inductive Stands (spec : FieldSpec) : Text → Int → Prop
  | numeral {t : Text} : Numeral.isPlain t = true → t.length ≤ Numeral.digitLimit →
      spec.contains (Numeral.value t) = true → Stands spec t (Numeral.value t)
  | name {t : Text} {value : Int} : Numeral.isPlain t = false → spec.lookup? t = some value →
      spec.contains value = true → Stands spec t value

/-- An atom cannot be looked up: it is a numeral over the limit, or it stands for a value past the end of the table. -/
inductive Fails (spec : FieldSpec) (table : List Text) : Text → PhraseError → Prop
  | tooLong {t : Text} {digits : Nat} : Overlong t digits → Fails spec table t (.tooLong (.toRead digits))
  | unnamed {t : Text} {value : Int} : Stands spec t value → table.length ≤ (value - spec.low).toNat →
      Fails spec table t .unnamed

/-- An atom stands for a value that has a name in the table. -/
def HasName (spec : FieldSpec) (table : List Text) (t : Text) : Prop :=
  ∃ value name, Stands spec t value ∧ Names spec table name value

theorem number_eq_error_iff :
    number t = .error e ↔ Numeral.digitLimit < t.length ∧ e = .tooLong (.toRead t.length) := by
  unfold number
  split
  next n hn =>
    have hle := (Numeral.read_eq_ok_iff.mp hn).1
    exact ⟨fun h => (nomatch h), fun h => absurd h.1 (Nat.not_lt.mpr hle)⟩
  next numeral hn =>
    obtain ⟨hlt, rfl⟩ := read_eq_error_iff.mp hn
    exact ⟨fun h => ⟨hlt, (Except.error.inj h).symm⟩, fun h => by rw [h.2]⟩

theorem atomValue?_eq_error_iff :
    atomValue? spec t = .error e ↔ ∃ digits, Overlong t digits ∧ e = .tooLong (.toRead digits) := by
  unfold atomValue?
  split
  next hp =>
    refine ⟨fun h => ?_, fun h => ?_⟩
    · rcases bind_eq_error_iff.mp h with h | ⟨n, _, h⟩
      · obtain ⟨hlt, rfl⟩ := number_eq_error_iff.mp h
        exact ⟨t.length, ⟨hp, hlt, rfl⟩, rfl⟩
      · cases h
    · obtain ⟨digits, ⟨_, hlt, rfl⟩, rfl⟩ := h
      exact bind_eq_error_iff.mpr (.inl (number_eq_error_iff.mpr ⟨hlt, rfl⟩))
  next hp =>
    refine ⟨fun h => (nomatch h), fun h => ?_⟩
    obtain ⟨_, hlong, _⟩ := h
    exact absurd hlong.1 hp

theorem stands_iff {value : Int} :
    Stands spec t value ↔ atomValue? spec t = .ok (some value) ∧ spec.contains value = true := by
  refine ⟨fun h => ?_, fun h => ?_⟩
  · unfold atomValue?
    cases h with
    | numeral hp hl hc =>
      rw [if_pos hp, number_of_le hl]
      exact ⟨rfl, hc⟩
    | name hp hk hc =>
      rw [hp, if_neg Bool.false_ne_true, hk]
      exact ⟨rfl, hc⟩
  · obtain ⟨h, hc⟩ := h
    unfold atomValue? at h
    split at h
    next hp =>
      obtain ⟨n, hn, h⟩ := bind_eq_ok_iff.mp h
      cases h
      obtain ⟨hl, rfl⟩ := number_eq_ok_iff.mp hn
      exact .numeral hp hl hc
    next hp => exact .name (Bool.not_eq_true _ ▸ hp) (Except.ok.inj h) hc

theorem Stands.nameOf?_eq {value : Int} (h : Stands spec t value) :
    nameOf? spec table t = match table[(value - spec.low).toNat]? with
      | some found => .ok (some found)
      | none => .error .unnamed := by
  obtain ⟨hvalue, hc⟩ := stands_iff.mp h
  unfold nameOf?
  rw [hvalue]
  cases hname : table[(value - spec.low).toNat]? with
  | some found => simp only [bind, Except.bind, hc, if_true, hname]
  | none => simp only [bind, Except.bind, hc, if_true, hname]

theorem nameOf?_cases (spec : FieldSpec) (table : List Text) (t : Text) :
    (∃ digits, Overlong t digits ∧ nameOf? spec table t = .error (.tooLong (.toRead digits))) ∨
      (∃ value, Stands spec t value) ∨ nameOf? spec table t = .ok none := by
  unfold nameOf?
  cases hvalue : atomValue? spec t with
  | error e =>
    obtain ⟨digits, hlong, rfl⟩ := atomValue?_eq_error_iff.mp hvalue
    exact .inl ⟨digits, hlong, rfl⟩
  | ok found =>
    cases found with
    | none => exact .inr (.inr rfl)
    | some value =>
      by_cases hc : spec.contains value = true
      · exact .inr (.inl ⟨value, stands_iff.mpr ⟨hvalue, hc⟩⟩)
      · refine .inr (.inr ?_)
        simp only [bind, Except.bind, hc]
        rfl

theorem hasName_iff : HasName spec table t ↔ ∃ name, nameOf? spec table t = .ok (some name) := by
  refine ⟨fun h => ?_, fun h => ?_⟩
  · obtain ⟨value, name, hs, hname⟩ := h
    rw [hs.nameOf?_eq, hname.2]
    exact ⟨name, rfl⟩
  · obtain ⟨name, hname⟩ := h
    rcases nameOf?_cases spec table t with ⟨_, _, hlong⟩ | ⟨value, hs⟩ | hnone
    · rw [hname] at hlong
      cases hlong
    · refine ⟨value, name, hs, contains_iff.mp (stands_iff.mp hs).2, ?_⟩
      rw [hs.nameOf?_eq] at hname
      split at hname
      next found hfound =>
        cases hname
        exact hfound
      next => cases hname
    · rw [hname] at hnone
      cases hnone

/-- **The two ways in which the look-up of an atom fails.** -/
theorem nameOf?_eq_error_iff : nameOf? spec table t = .error e ↔ Fails spec table t e := by
  refine ⟨fun h => ?_, fun h => ?_⟩
  · rcases nameOf?_cases spec table t with ⟨digits, hlong, hfails⟩ | ⟨value, hs⟩ | hnone
    · cases h.symm.trans hfails
      exact .tooLong hlong
    · rw [hs.nameOf?_eq] at h
      split at h
      next => cases h
      next hpast =>
        cases h
        exact .unnamed hs (List.getElem?_eq_none_iff.mp hpast)
    · rw [h] at hnone
      cases hnone
  · cases h with
    | tooLong hlong =>
      unfold nameOf?
      rw [atomValue?_eq_error_iff.mpr ⟨_, hlong, rfl⟩]
      rfl
    | unnamed hs hpast => rw [hs.nameOf?_eq, List.getElem?_eq_none_iff.mpr hpast]

/-! ## Atoms in order -/

/-- The atoms of an item: what stands before its first hyphen and after it, or the whole item. -/
def itemAtoms (item : Text) : List Text :=
  match Text.cut? '-' item with
  | none => [item]
  | some (first, last) => [first, last]

/-- The atoms of a field text, from left to right. -/
def atoms (raw : Text) : List Text := (List.splitOn ',' raw).flatMap itemAtoms

theorem itemAtoms_append {u : Text} (h : '-' ∉ t) : itemAtoms (t ++ '-' :: u) = [t, u] := by
  rw [itemAtoms, Text.cut?_eq_some_iff.mpr ⟨rfl, h⟩]

/-- An atom is a part of the text. -/
theorem infix_of_mem_atoms {raw : Text} (h : t ∈ atoms raw) : t <:+: raw := by
  obtain ⟨item, hitem, ht⟩ := List.mem_flatMap.mp h
  have hraw : item <:+: raw := by
    have hjoined : item <:+: List.intercalate [','] (List.splitOn ',' raw) := Text.infix_intercalate hitem
    rwa [List.intercalate_splitOn] at hjoined
  refine List.IsInfix.trans ?_ hraw
  unfold itemAtoms at ht
  split at ht
  next => exact List.mem_singleton.mp ht ▸ List.infix_rfl
  next first last hcut =>
    obtain ⟨rfl, _⟩ := Text.cut?_eq_some_iff.mp hcut
    rw [List.mem_cons, List.mem_singleton] at ht
    rcases ht with rfl | rfl
    · exact (List.prefix_append _ _).isInfix
    · exact ((List.suffix_cons _ _).trans (List.suffix_append _ _)).isInfix

/-- Of these atoms one fails with the error, and those before it have names. -/
def StopsWith (spec : FieldSpec) (table : List Text) (ts : List Text) (e : PhraseError) : Prop :=
  ∃ before t after, ts = before ++ t :: after ∧ (∀ atom ∈ before, HasName spec table atom) ∧ Fails spec table t e

variable {ts us : List Text}

theorem stopsWith_cons_iff :
    StopsWith spec table (t :: ts) e ↔ Fails spec table t e ∨ HasName spec table t ∧ StopsWith spec table ts e := by
  refine ⟨fun h => ?_, fun h => ?_⟩
  · obtain ⟨before, atom, after, hsplit, hbefore, hfails⟩ := h
    cases before with
    | nil => exact .inl ((List.cons.inj hsplit).1 ▸ hfails)
    | cons first before =>
      obtain ⟨rfl, hrest⟩ := List.cons.inj hsplit
      refine .inr ⟨hbefore t List.mem_cons_self, before, atom, after, hrest, fun a ha => ?_, hfails⟩
      exact hbefore a (List.mem_cons_of_mem t ha)
  · rcases h with hfails | ⟨hname, before, atom, after, rfl, hbefore, hfails⟩
    · exact ⟨[], t, ts, rfl, by simp, hfails⟩
    · exact ⟨t :: before, atom, after, rfl, List.forall_mem_cons.mpr ⟨hname, hbefore⟩, hfails⟩

theorem not_stopsWith_nil : ¬ StopsWith spec table [] e := by
  intro ⟨before, t, after, hsplit, _⟩
  simp at hsplit

theorem stopsWith_append_iff :
    StopsWith spec table (ts ++ us) e ↔
      StopsWith spec table ts e ∨ (∀ atom ∈ ts, HasName spec table atom) ∧ StopsWith spec table us e := by
  induction ts with
  | nil => simp [not_stopsWith_nil]
  | cons t ts ih =>
    rw [List.cons_append, stopsWith_cons_iff, stopsWith_cons_iff, ih, List.forall_mem_cons]
    simp only [and_or_left, or_assoc, and_assoc]

/-! ## Items and texts -/

theorem exists_nameItem?_iff :
    (∃ named, nameItem? spec table t = .ok (some named)) ↔ ∀ atom ∈ itemAtoms t, HasName spec table atom := by
  unfold nameItem? itemAtoms
  cases Text.cut? '-' t with
  | none =>
    simp only [List.forall_mem_singleton, hasName_iff]
    cases nameOf? spec table t with
    | error e => simp [bind, Except.bind]
    | ok found => cases found <;> simp [bind, Except.bind, pure, Except.pure]
  | some parts =>
    obtain ⟨first, last⟩ := parts
    simp only [List.forall_mem_cons, List.not_mem_nil, false_implies, implies_true, and_true, hasName_iff]
    cases nameOf? spec table first with
    | error e => simp [bind, Except.bind]
    | ok found =>
      cases found with
      | none => simp [bind, Except.bind]
      | some name =>
        cases nameOf? spec table last with
        | error e => simp [bind, Except.bind]
        | ok found => cases found <;> simp [bind, Except.bind, pure, Except.pure]

theorem nameItem?_eq_error_iff : nameItem? spec table t = .error e ↔ StopsWith spec table (itemAtoms t) e := by
  unfold nameItem? itemAtoms
  cases Text.cut? '-' t with
  | none =>
    simp only [stopsWith_cons_iff, not_stopsWith_nil, and_false, or_false, ← nameOf?_eq_error_iff]
    cases nameOf? spec table t <;> simp [bind, Except.bind, pure, Except.pure]
  | some parts =>
    obtain ⟨first, last⟩ := parts
    simp only [stopsWith_cons_iff, not_stopsWith_nil, and_false, or_false, ← nameOf?_eq_error_iff, hasName_iff]
    cases nameOf? spec table first with
    | error e => simp [bind, Except.bind]
    | ok found =>
      cases found with
      | none => simp [bind, Except.bind]
      | some name => cases nameOf? spec table last <;> simp [bind, Except.bind, pure, Except.pure]

theorem nameItems?_eq_error_iff :
    nameItems? spec table ts = .error e ↔ StopsWith spec table (ts.flatMap itemAtoms) e := by
  induction ts with
  | nil => exact ⟨fun h => (nomatch h), fun h => absurd h not_stopsWith_nil⟩
  | cons t ts ih =>
    rw [List.flatMap_cons, stopsWith_append_iff, ← ih, ← nameItem?_eq_error_iff, ← exists_nameItem?_iff]
    rw [nameItems?]
    cases nameItem? spec table t with
    | error e => simp [bind, Except.bind]
    | ok found =>
      cases found with
      | none => simp [bind, Except.bind]
      | some named => cases nameItems? spec table ts <;> simp [bind, Except.bind, pure, Except.pure]

/-- **A text fails to be told in names** just if it has no step and no star, and of its atoms one fails while those
before it have names. -/
theorem named?_eq_error_iff {raw : Text} :
    named? spec table raw = .error e ↔
      raw ≠ [] ∧ '/' ∉ raw ∧ '*' ∉ raw ∧ StopsWith spec table (atoms raw) e := by
  unfold named?
  split
  next hguard =>
    refine ⟨fun h => (nomatch h), fun h => ?_⟩
    simp [h.1, h.2.1, h.2.2.1] at hguard
  next hguard =>
    simp only [Bool.not_eq_true, Bool.or_eq_false_iff, List.isEmpty_eq_false_iff, List.contains_eq_mem,
      decide_eq_false_iff_not] at hguard
    rw [nameItems?_eq_error_iff]
    exact ⟨fun h => ⟨hguard.1.1, hguard.1.2, hguard.2, h⟩, fun h => h.2.2.2⟩

/-! ## Complete tables -/

/-- In a text with no step and no star, a numeral of this many digits, more than the limit, comes before any atom that
stands for no value of the field. -/
def OverlongNames (spec : FieldSpec) (raw : Text) (digits : Nat) : Prop :=
  '/' ∉ raw ∧ '*' ∉ raw ∧ ∃ before t after, atoms raw = before ++ t :: after ∧
    (∀ atom ∈ before, ∃ value, Stands spec atom value) ∧ Overlong t digits

theorem OverlongNames.limit_lt {raw : Text} {digits : Nat} (h : OverlongNames spec raw digits) :
    Numeral.digitLimit < digits := by
  obtain ⟨_, _, _, t, _, _, _, _, hlong, rfl⟩ := h
  exact hlong

theorem Stands.inRange {value : Int} (h : Stands spec t value) : spec.low ≤ value ∧ value ≤ spec.high :=
  contains_iff.mp (stands_iff.mp h).2

/-- Where the table has a name for each value, what stands for one has a name. -/
theorem NameTable.hasName_iff (ht : NameTable spec table) : HasName spec table t ↔ ∃ value, Stands spec t value := by
  refine ⟨fun ⟨value, _, hs, _⟩ => ⟨value, hs⟩, fun ⟨value, hs⟩ => ?_⟩
  obtain ⟨name, hname⟩ := ht.exists_name hs.inRange
  exact ⟨value, name, hs, hname⟩

/-- There an atom fails only if it is a numeral over the limit. -/
theorem NameTable.fails_iff (ht : NameTable spec table) :
    Fails spec table t e ↔ ∃ digits, Overlong t digits ∧ e = .tooLong (.toRead digits) := by
  refine ⟨fun h => ?_, fun ⟨digits, hlong, he⟩ => he ▸ .tooLong hlong⟩
  cases h with
  | tooLong hlong => exact ⟨_, hlong, rfl⟩
  | unnamed hs hpast =>
    obtain ⟨hlow, hhigh⟩ := hs.inRange
    have hcomplete := ht.complete
    unfold size at hcomplete
    omega

theorem ne_nil_of_overlong {raw : Text} {n : Nat} (ht : t ∈ atoms raw) (hlong : Overlong t n) : raw ≠ [] := by
  rintro rfl
  exact hlong.ne_nil (List.mem_singleton.mp ht)

/-- **Where the table has a name for each value** a text fails to be told just with a numeral over the limit. -/
theorem NameTable.named?_eq_error_iff (ht : NameTable spec table) {raw : Text} :
    named? spec table raw = .error e ↔ ∃ digits, OverlongNames spec raw digits ∧ e = .tooLong (.toRead digits) := by
  rw [Phrase.named?_eq_error_iff]
  simp only [StopsWith, OverlongNames, ht.hasName_iff, ht.fails_iff]
  refine ⟨fun h => ?_, fun h => ?_⟩
  · obtain ⟨_, hslash, hstar, before, t, after, hsplit, hbefore, digits, hlong, he⟩ := h
    exact ⟨digits, ⟨hslash, hstar, before, t, after, hsplit, hbefore, hlong⟩, he⟩
  · obtain ⟨digits, ⟨hslash, hstar, before, t, after, hsplit, hbefore, hlong⟩, he⟩ := h
    have hne : raw ≠ [] := ne_nil_of_overlong (hsplit ▸ List.mem_append_right before List.mem_cons_self) hlong
    exact ⟨hne, hslash, hstar, before, t, after, hsplit, hbefore, digits, hlong, he⟩

end Phrase
end CronSchedule
