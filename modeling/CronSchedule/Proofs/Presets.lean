/-
The ready-made expressions. A label is compared with its case folded, and
for characters below 128 this is the same as to put them in lower case. So
no two labels are the same but for their case, and a preset is found by its
label and by nothing else.

* `fold_eq_lowered`: the folding of a text of characters below 128.
* `find_eq_ok_iff`, `find_eq_error_iff`: what is found under a label.
* `exists_read`: what is found can be read.
-/
import CronSchedule.Preset
import CronSchedule.Proofs.LetterCase

namespace CronSchedule

/-! ## Folding -/

namespace Text

theorem CaseRun.move?_of_lt {r : CaseRun} {n : Nat} (h : n < r.first) : r.move? n = none := by
  have hfirst : decide (r.first ≤ n) = false := decide_eq_false (Nat.not_le.mpr h)
  simp [move?, hfirst]

theorem mapChar_fold {c : Char} (h : c.toNat < 128) : mapChar foldRuns foldExpansions c = [c.toLower] := by
  have hruns : foldRuns.tail.findSome? (·.move? c.toNat) = none := by
    have hfirst : ∀ r ∈ foldRuns.tail, 128 ≤ r.first := by decide +kernel
    rw [List.findSome?_eq_none_iff]
    exact fun r hr => CaseRun.move?_of_lt (Nat.lt_of_lt_of_le h (hfirst r hr))
  have hexpansions : foldExpansions.lookup c.toNat = none := by
    have hcodes : ∀ entry ∈ foldExpansions, 128 ≤ entry.1 := by decide +kernel
    rw [List.lookup_eq_none_iff]
    exact fun entry hentry => bne_iff_ne.mpr (Nat.ne_of_lt (Nat.lt_of_lt_of_le h (hcodes entry hentry)))
  -- the first run holds the capitals from A to Z, and nothing else in the tables is below 128
  have hsplit : foldRuns = ⟨0x41, 0x5A, 1, 32⟩ :: foldRuns.tail := rfl
  by_cases hc : c.isUpper = true
  · exact of_isUpper (fun c => mapChar foldRuns foldExpansions c = [c.toLower]) (by decide) hc
  · have hout : CaseRun.move? ⟨0x41, 0x5A, 1, 32⟩ c.toNat = none := by
      rw [isUpper_iff] at hc
      simp only [CaseRun.move?]
      rw [if_neg]
      simp only [Bool.and_eq_true, decide_eq_true_eq]
      omega
    rw [mapChar, hsplit, List.findSome?_cons, hout, hruns, hexpansions, toLower_of_not_isUpper hc]

theorem fold_eq_lowered {t : Text} (h : ∀ c ∈ t, c.toNat < 128) : fold t = lowered t := by
  induction t with
  | nil => rfl
  | cons c t ih =>
    obtain ⟨hc, ht⟩ := List.forall_mem_cons.mp h
    have ih := ih ht
    rw [fold] at ih
    rw [fold, List.flatMap_cons, mapChar_fold hc, ih]
    rfl

end Text

/-! ## Labels -/

namespace Preset

variable {p q : Preset} {label : Text}

theorem exists_read (h : p ∈ all) : ∃ e, Expression.read p.expression = .ok e := by
  have hall : ∀ p ∈ all, (Expression.read p.expression).toBool = true := by decide +kernel
  have hread := hall p h
  cases hp : Expression.read p.expression with
  | ok e => exact ⟨e, rfl⟩
  | error e =>
    rw [hp] at hread
    cases hread

theorem trimmed_label : ∀ p ∈ all, Text.trimmed p.label = p.label := by decide +kernel

/-- No two labels are the same but for their case. -/
theorem eq_of_fold_label (hp : p ∈ all) (hq : q ∈ all) (h : Text.fold p.label = Text.fold q.label) : p = q := by
  have hchars : ∀ p ∈ all, ∀ c ∈ p.label, c.toNat < 128 := by
    have hall : ∀ p ∈ all, p.label.all (·.toNat < 128) = true := by decide +kernel
    simpa only [List.all_eq_true, decide_eq_true_eq] using hall
  have hlowered : ∀ p ∈ all, ∀ q ∈ all, Text.lowered p.label = Text.lowered q.label → p = q := by decide +kernel
  rw [Text.fold_eq_lowered (hchars p hp), Text.fold_eq_lowered (hchars q hq)] at h
  exact hlowered p hp q hq h

/-- **A preset is found by its label**, in any case and with any blanks around it, and by nothing else. -/
theorem find_eq_ok_iff : find label = .ok p ↔ p ∈ all ∧ Text.fold p.label = Text.fold (Text.trimmed label) := by
  unfold find
  dsimp only
  cases hfound : all.find? fun q => Text.fold q.label == Text.fold (Text.trimmed label) with
  | none =>
    refine ⟨fun h => (nomatch h), fun ⟨hp, hlabel⟩ => ?_⟩
    exact absurd (beq_iff_eq.mpr hlabel) (List.find?_eq_none.mp hfound p hp)
  | some q =>
    have hq := List.mem_of_find?_eq_some hfound
    have hsame : Text.fold q.label = Text.fold (Text.trimmed label) := by simpa using List.find?_some hfound
    rw [Except.ok.injEq]
    refine ⟨?_, fun ⟨hp, hlabel⟩ => eq_of_fold_label hq hp (hsame.trans hlabel.symm)⟩
    rintro rfl
    exact ⟨hq, hsame⟩

theorem find_label (h : p ∈ all) : find p.label = .ok p := find_eq_ok_iff.mpr ⟨h, by rw [trimmed_label p h]⟩

/-- A label that no preset has is refused as it was given. -/
theorem find_eq_error_iff {e : UnknownPreset} :
    find label = .error e ↔ (∀ p ∈ all, Text.fold p.label ≠ Text.fold (Text.trimmed label)) ∧ e = ⟨label⟩ := by
  cases hfound : find label with
  | ok p =>
    obtain ⟨hp, hlabel⟩ := find_eq_ok_iff.mp hfound
    exact ⟨fun h => (nomatch h), fun ⟨hno, _⟩ => absurd hlabel (hno p hp)⟩
  | error e' =>
    have hno : ∀ p ∈ all, Text.fold p.label ≠ Text.fold (Text.trimmed label) := fun p hp hlabel => by
      rw [find_eq_ok_iff.mpr ⟨hp, hlabel⟩] at hfound
      cases hfound
    have he : e' = ⟨label⟩ := by
      unfold find at hfound
      dsimp only at hfound
      split at hfound
      next => cases hfound
      next => exact (Except.error.inj hfound).symm
    rw [Except.error.injEq, he]
    exact ⟨fun h => ⟨hno, h.symm⟩, fun h => h.2.symm⟩

end Preset
end CronSchedule
