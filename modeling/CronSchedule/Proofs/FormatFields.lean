/-
The fields of a format text. A field is `%(name)` and a conversion letter,
and between the two there may be flags, a width, and a precision after a
point. Each part is read as far as it goes. No field is missed that way:
what one part takes is of no use to the next, but for zeros, which are flags
and digits alike and may be either.

* `startsWithField_iff`, `hasField_iff`: a field is found where one stands,
  and nowhere else.
-/
import Mathlib.Data.List.TakeDrop
import CronSchedule.Log.Root

namespace CronSchedule.Log

/-- A character that may be a flag. -/
def isFlag (c : Char) : Bool := "#0+ -".toList.contains c

/-- A star, or digits, or nothing. -/
def IsWidth (t : Text) : Prop := t = ['*'] ∨ ∀ c ∈ t, isDigit c = true

/-- A point and a width that is not empty, or nothing. -/
def IsPrecision (t : Text) : Prop := t = [] ∨ ∃ w, t = '.' :: w ∧ w ≠ [] ∧ IsWidth w

/-- A field of a format text. -/
inductive IsField : Text → Prop
  | intro {name flags width precision : Text} {letter : Char} : name ≠ [] → (∀ c ∈ name, isNameChar c = true) →
      (∀ c ∈ flags, isFlag c = true) → IsWidth width → IsPrecision precision → isConversion letter = true →
      IsField ('%' :: '(' :: (name ++ ')' :: (flags ++ (width ++ (precision ++ [letter])))))

variable {t name flags width precision rest : Text} {c letter : Char}

/-! ## Characters -/

theorem upper_of_isDigit (h : isDigit c = true) : Text.upper [c] = [c] := by
  have hruns : ∀ r ∈ Text.upperRuns, ∀ z ∈ Text.digitZeros, r.last < z ∨ z + 10 ≤ r.first := by decide +kernel
  have hexpansions : ∀ entry ∈ Text.upperExpansions, ∀ z ∈ Text.digitZeros, entry.1 < z ∨ z + 10 ≤ entry.1 := by
    decide +kernel
  obtain ⟨n, hn⟩ := Option.isSome_iff_exists.mp h
  obtain ⟨z, hfound, _⟩ := Option.map_eq_some_iff.mp hn
  have hz := List.mem_of_find?_eq_some hfound
  have hbounds := List.find?_some hfound
  simp only [Bool.and_eq_true, decide_eq_true_eq] at hbounds
  have hmove : Text.upperRuns.findSome? (·.move? c.toNat) = none := List.findSome?_eq_none_iff.mpr fun r hr => by
    have hapart := hruns r hr z hz
    rw [Text.CaseRun.move?, if_neg]
    simp only [Bool.and_eq_true, decide_eq_true_eq]
    omega
  have hsingle : Text.upperExpansions.lookup c.toNat = none := List.lookup_eq_none_iff.mpr fun entry hentry => by
    have hapart := hexpansions entry hentry z hz
    rw [bne_iff_ne]
    omega
  simp only [Text.upper, List.flatMap_cons, List.flatMap_nil, List.append_nil, Text.mapChar, hmove, hsingle]

theorem isDigit_of_isConversion (h : isConversion c = true) : isDigit c = false := by
  have hletters : ('\u0130' :: "DIOUXEFGCRSA%".toList).all (!isDigit ·) = true := by decide +kernel
  refine Bool.eq_false_iff.mpr fun hdigit => ?_
  rw [isConversion, upper_of_isDigit hdigit, Bool.or_eq_true, beq_iff_eq, List.contains_iff_mem, List.mem_map] at h
  have hmem : c ∈ '\u0130' :: "DIOUXEFGCRSA%".toList := by
    rcases h with rfl | ⟨letter, hletter, he⟩
    · exact List.mem_cons_self
    · exact List.mem_cons_of_mem _ ((List.cons.inj he).1 ▸ hletter)
  have hnone := List.all_eq_true.mp hletters c hmem
  rw [hdigit] at hnone
  cases hnone

theorem ne_star_of_isDigit (h : isDigit c = true) : c ≠ '*' := by
  rintro rfl
  exact absurd h (by decide +kernel)

/-- No flag and no width starts with this character. -/
structure Stops (c : Char) : Prop where
  notFlag : isFlag c = false
  notDigit : isDigit c = false
  notStar : c ≠ '*'

theorem stops_point : Stops '.' := ⟨by decide, by decide +kernel, by decide⟩

theorem stops_of_isConversion (h : isConversion letter = true) : Stops letter := by
  have hothers : ('*' :: "#0+ -".toList).all (!isConversion ·) = true := by decide +kernel
  have hmem : letter ∉ '*' :: "#0+ -".toList := fun hmem => by
    have hnone := List.all_eq_true.mp hothers letter hmem
    rw [h] at hnone
    cases hnone
  rw [List.mem_cons, not_or] at hmem
  obtain ⟨hstar, hflag⟩ := hmem
  exact ⟨by simpa [isFlag] using hflag, isDigit_of_isConversion h, hstar⟩

theorem point_ne_of_isConversion (h : isConversion letter = true) : letter ≠ '.' := by
  rintro rfl
  exact absurd h (by decide +kernel)

/-! ## Widths and precisions -/

theorem dropWhile_digits (hw : ∀ d ∈ width, isDigit d = true) (hc : Stops c) :
    (width ++ c :: rest).dropWhile isDigit = c :: rest := by
  rw [List.dropWhile_append_of_pos hw, List.dropWhile_cons_of_neg (by simp [hc.notDigit])]

theorem afterWidth_append (hw : IsWidth width) (hc : Stops c) : afterWidth (width ++ c :: rest) = c :: rest := by
  rcases hw with rfl | hw
  · rfl
  · unfold afterWidth
    split
    next u he =>
      cases width with
      | nil => exact absurd (List.cons.inj he).1 hc.notStar
      | cons d width => exact absurd (List.cons.inj he).1 (ne_star_of_isDigit (hw d List.mem_cons_self))
    next => exact dropWhile_digits hw hc

theorem exists_width (t : Text) : ∃ width, IsWidth width ∧ t = width ++ afterWidth t := by
  unfold afterWidth
  split
  next u => exact ⟨['*'], .inl rfl, rfl⟩
  next =>
    refine ⟨t.takeWhile isDigit, .inr (List.all_eq_true.mp List.all_takeWhile), ?_⟩
    exact List.takeWhile_append_dropWhile.symm

theorem afterPrecision_append (hp : IsPrecision precision) (hc : Stops c) (hpoint : c ≠ '.') :
    afterPrecision (precision ++ c :: rest) = c :: rest := by
  rcases hp with rfl | ⟨width, rfl, hne, hw⟩
  · rw [List.nil_append]
    unfold afterPrecision
    split
    next he => exact absurd (List.cons.inj he).1 hpoint
    next he => exact absurd (List.cons.inj he).1 hpoint
    next => rfl
  · rcases hw with rfl | hw
    · rfl
    · cases width with
      | nil => exact absurd rfl hne
      | cons d width =>
        obtain ⟨hd, hw⟩ := List.forall_mem_cons.mp hw
        have hstar := ne_star_of_isDigit hd
        simp only [List.cons_append, afterPrecision, hd, if_true, dropWhile_digits hw hc]

theorem exists_precision (t : Text) : ∃ precision, IsPrecision precision ∧ t = precision ++ afterPrecision t := by
  unfold afterPrecision
  split
  next u => exact ⟨['.', '*'], .inr ⟨['*'], rfl, by simp, .inl rfl⟩, rfl⟩
  next d u _ =>
    split
    next hd =>
      refine ⟨'.' :: d :: u.takeWhile isDigit, .inr ⟨d :: u.takeWhile isDigit, rfl, by simp, .inr ?_⟩, ?_⟩
      · exact List.forall_mem_cons.mpr ⟨hd, List.all_eq_true.mp List.all_takeWhile⟩
      · simp
    next => exact ⟨[], .inl rfl, rfl⟩
  next => exact ⟨[], .inl rfl, rfl⟩

/-! ## Flags -/

/-- Flags are read as far as they go, with the zeros that the width starts with among them. -/
theorem dropWhile_flags (hflags : ∀ c ∈ flags, isFlag c = true) (hw : IsWidth width) (hc : Stops c) :
    ∃ width', IsWidth width' ∧ (flags ++ (width ++ c :: rest)).dropWhile isFlag = width' ++ c :: rest := by
  rw [List.dropWhile_append_of_pos hflags]
  rcases hw with rfl | hw
  · exact ⟨['*'], .inl rfl, rfl⟩
  · refine ⟨width.dropWhile isFlag, .inr fun d hd => hw d ((List.dropWhile_sublist _).mem hd), ?_⟩
    rw [List.dropWhile_append, List.dropWhile_cons_of_neg (by simp [hc.notFlag])]
    split
    next hempty => rw [List.isEmpty_iff.mp hempty, List.nil_append]
    next => rfl

theorem exists_stop (hp : IsPrecision precision) (hletter : isConversion letter = true) (rest : Text) :
    ∃ c u, precision ++ letter :: rest = c :: u ∧ Stops c := by
  rcases hp with rfl | ⟨width, rfl, _⟩
  · exact ⟨letter, rest, rfl, stops_of_isConversion hletter⟩
  · exact ⟨'.', _, rfl, stops_point⟩

/-- **What stands between the name of a field and its letter.** -/
theorem parts_iff (hletter : isConversion letter = true) {after : Text} :
    afterPrecision (afterWidth (rest.dropWhile isFlag)) = letter :: after ↔ ∃ flags width precision,
      rest = flags ++ (width ++ (precision ++ letter :: after)) ∧ (∀ c ∈ flags, isFlag c = true) ∧ IsWidth width ∧
      IsPrecision precision := by
  refine ⟨fun h => ?_, fun h => ?_⟩
  · obtain ⟨width, hwidth, hrest⟩ := exists_width (rest.dropWhile isFlag)
    obtain ⟨precision, hprecision, htail⟩ := exists_precision (afterWidth (rest.dropWhile isFlag))
    rw [htail, h] at hrest
    refine ⟨rest.takeWhile isFlag, width, precision, ?_, List.all_eq_true.mp List.all_takeWhile, hwidth, hprecision⟩
    rw [← hrest, List.takeWhile_append_dropWhile]
  · obtain ⟨flags, width, precision, rfl, hflags, hwidth, hprecision⟩ := h
    obtain ⟨c, u, hu, hc⟩ := exists_stop hprecision hletter after
    obtain ⟨width', hwidth', hdrop⟩ := @dropWhile_flags flags width u c hflags hwidth hc
    rw [hu, hdrop, afterWidth_append hwidth' hc, ← hu]
    exact afterPrecision_append hprecision (stops_of_isConversion hletter) (point_ne_of_isConversion hletter)

/-! ## Fields -/

theorem span_name (hname : ∀ c ∈ name, isNameChar c = true) :
    (name ++ ')' :: rest).span isNameChar = (name, ')' :: rest) := by
  have hclose : ¬ isNameChar ')' = true := by decide +kernel
  rw [List.span_eq_takeWhile_dropWhile, List.takeWhile_append_of_pos hname, List.dropWhile_append_of_pos hname,
    List.takeWhile_cons_of_neg hclose, List.dropWhile_cons_of_neg hclose, List.append_nil]

theorem startsWithField_iff_parts :
    startsWithField t = true ↔ ∃ name rest letter after, t = '%' :: '(' :: (name ++ ')' :: rest) ∧ name ≠ [] ∧
      (∀ c ∈ name, isNameChar c = true) ∧ afterPrecision (afterWidth (rest.dropWhile isFlag)) = letter :: after ∧
      isConversion letter = true := by
  refine ⟨fun h => ?_, fun h => ?_⟩
  · unfold startsWithField at h
    split at h
    next u =>
      split at h
      next d name rest hspan =>
        split at h
        next letter after hafter =>
          rw [List.span_eq_takeWhile_dropWhile, Prod.mk.injEq] at hspan
          refine ⟨d :: name, rest, letter, after, ?_, by simp, ?_, hafter, h⟩
          · rw [← hspan.1, ← hspan.2, List.takeWhile_append_dropWhile]
          · rw [← hspan.1]
            exact List.all_eq_true.mp List.all_takeWhile
        next => cases h
      next => cases h
    next => cases h
  · obtain ⟨name, rest, letter, after, rfl, hne, hname, hafter, hletter⟩ := h
    cases name with
    | nil => exact absurd rfl hne
    | cons d name =>
      simp only [startsWithField, span_name hname]
      rw [show (fun c => "#0+ -".toList.contains c) = isFlag from rfl, hafter]
      exact hletter

/-- **A field is found at the start of a text** exactly if the text starts with one. -/
theorem startsWithField_iff : startsWithField t = true ↔ ∃ field after, t = field ++ after ∧ IsField field := by
  rw [startsWithField_iff_parts]
  refine ⟨fun h => ?_, fun h => ?_⟩
  · obtain ⟨name, rest, letter, after, rfl, hne, hname, hparts, hletter⟩ := h
    obtain ⟨flags, width, precision, rfl, hflags, hwidth, hprecision⟩ := (parts_iff hletter).mp hparts
    exact ⟨_, after, by simp, .intro hne hname hflags hwidth hprecision hletter⟩
  · obtain ⟨_, after, rfl, hfield⟩ := h
    cases hfield with
    | @intro name flags width precision letter hne hname hflags hwidth hprecision hletter =>
      have hparts := (@parts_iff _ _ hletter after).mpr ⟨flags, width, precision, rfl, hflags, hwidth, hprecision⟩
      refine ⟨name, flags ++ (width ++ (precision ++ letter :: after)), letter, after, by simp, hne, hname, ?_⟩
      exact ⟨hparts, hletter⟩

/-- **A field is found in a text** exactly if one stands in it. -/
theorem hasField_iff : hasField t = true ↔ ∃ before field after, t = before ++ field ++ after ∧ IsField field := by
  induction t with
  | nil =>
    refine ⟨fun h => (nomatch h), ?_⟩
    rintro ⟨before, _, after, h, ⟨⟩⟩
    cases before <;> cases h
  | cons c t ih =>
    rw [hasField, Bool.or_eq_true, startsWithField_iff, ih]
    refine ⟨fun h => ?_, fun h => ?_⟩
    · rcases h with ⟨field, after, h, hfield⟩ | ⟨before, field, after, rfl, hfield⟩
      · exact ⟨[], field, after, h, hfield⟩
      · exact ⟨c :: before, field, after, rfl, hfield⟩
    · obtain ⟨before, field, after, h, hfield⟩ := h
      cases before with
      | nil => exact .inl ⟨field, after, h, hfield⟩
      | cons d before => exact .inr ⟨before, field, after, (List.cons.inj h).2, hfield⟩

end CronSchedule.Log
