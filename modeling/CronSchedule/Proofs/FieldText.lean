/-
The characters of a field text. Whatever the spec, an accepted field is
written with digits, letters and four marks, the names in it included: a
name is found in its upper case, but the letters it is written with are
those of the text. None of these characters is a blank.

* `FieldForm.not_mem`: no other character stands in a field that is read.
* `FieldForm.not_mem_of_nameless`: nor any letter, if the field has no names.
* `FieldForm.not_blank`: so none that separates fields does.
-/
import CronSchedule.Proofs.FieldMeaning

namespace CronSchedule

theorem Text.isBlank_of_isLetter {c : Char} (h : isLetter c = true) : isBlank c = false := by
  have hapart : ∀ blank ∈ blankRanges, (letterRanges.all fun letter =>
      decide (blank.last < letter.first ∨ letter.last < blank.first)) = true := by decide +kernel
  refine Bool.eq_false_iff.mpr fun hb => ?_
  obtain ⟨letter, hletter, hc⟩ := List.any_eq_true.mp h
  obtain ⟨blank, hblank, hc'⟩ := List.any_eq_true.mp hb
  have := of_decide_eq_true (List.all_eq_true.mp (hapart blank hblank) letter hletter)
  simp only [CodeRange.has, Bool.and_eq_true, decide_eq_true_eq] at hc hc'
  omega

namespace FieldSpec

variable {spec : FieldSpec}

theorem ItemForm.not_mem_of_atoms {t : Text} {item : Item} (h : ItemForm spec t item) {c : Char}
    (ha : ∀ {u : Text} {value : Int}, AtomForm spec u value → c ∉ u) (hd : c.isDigit = false)
    (hm : c ∉ ['*', '-', '/', ',']) : c ∉ t := by
  simp only [List.mem_cons, List.not_mem_nil, or_false, not_or] at hm
  obtain ⟨hstar, hdash, hslash, _⟩ := hm
  cases h with
  | plain hb => exact hb.not_mem_of_atoms ha hstar hdash
  | stepped hb hp =>
    simp only [List.mem_append, List.mem_cons, not_or]
    exact ⟨hb.not_mem_of_atoms ha hstar hdash, hslash, Numeral.not_mem_of_isPlain hp hd⟩

theorem FieldForm.not_mem_of_atoms {raw : Text} (h : FieldForm spec raw) {c : Char}
    (ha : ∀ {u : Text} {value : Int}, AtomForm spec u value → c ∉ u) (hd : c.isDigit = false)
    (hm : c ∉ ['*', '-', '/', ',']) : c ∉ raw := by
  obtain ⟨_, segments, hseg, hitems⟩ := h
  intro hc
  rw [← hseg.joined] at hc
  rcases Text.of_mem_intercalate hc with rfl | ⟨t, ht, hc⟩
  · simp at hm
  · obtain ⟨item, hitem⟩ := hitems t ht
    exact hitem.not_mem_of_atoms ha hd hm hc

/-- A field is written with digits, letters and the four marks. -/
theorem FieldForm.not_mem {raw : Text} (h : FieldForm spec raw) {c : Char} (hd : c.isDigit = false)
    (hl : Text.isLetter c = false) (hm : c ∉ ['*', '-', '/', ',']) : c ∉ raw :=
  h.not_mem_of_atoms (fun ha => ha.not_mem hd hl) hd hm

theorem FieldForm.not_mem_of_nameless {raw : Text} (h : FieldForm spec raw) (hn : spec.names = []) {c : Char}
    (hd : c.isDigit = false) (hm : c ∉ ['*', '-', '/', ',']) : c ∉ raw := by
  refine h.not_mem_of_atoms (fun ha => ?_) hd hm
  cases ha with
  | numeral hp => exact Numeral.not_mem_of_isPlain hp hd
  | name _ _ hk =>
    rw [lookup?, hn] at hk
    cases hk

theorem FieldForm.not_blank {raw : Text} (h : FieldForm spec raw) : ∀ c ∈ raw, Text.isBlank c = false := by
  intro c hc
  refine Bool.eq_false_iff.mpr fun hblank => h.not_mem ?_ ?_ ?_ hc
  · exact Bool.eq_false_iff.mpr fun hd => by rw [Text.isBlank_of_isDigit hd] at hblank; cases hblank
  · exact Bool.eq_false_iff.mpr fun hl => by rw [Text.isBlank_of_isLetter hl] at hblank; cases hblank
  · intro hm
    simp only [List.mem_cons, List.not_mem_nil, or_false] at hm
    rcases hm with rfl | rfl | rfl | rfl <;> exact absurd hblank (by decide)

theorem FieldForm.space_not_mem {raw : Text} (h : FieldForm spec raw) : ' ' ∉ raw := fun hm =>
  absurd (h.not_blank ' ' hm) (by decide)

end FieldSpec
end CronSchedule
