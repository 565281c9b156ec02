/-
The parts of a text: the segments its marks separate, and the words its
blanks separate. There is just one way to take a text apart at its marks,
and it is the one that splitting gives.

* `segments_iff`: the segments of a text are what it is split into.
* `words_append`: the first blank ends the first word.
* `words_intercalate`: words with a space between each two are found again.
-/
import CronSchedule.Text.Basic

namespace CronSchedule.Text

/-- The text is these segments with the mark between each two, and the mark stands in none of them. -/
structure Segments (mark : Char) (t : Text) (segments : List Text) : Prop where
  nonempty : segments ≠ []
  unmarked : ∀ segment ∈ segments, mark ∉ segment
  joined : List.intercalate [mark] segments = t

variable {mark : Char}

/-- What stands before the first mark, and what stands after it, are told by the whole. -/
theorem append_mark_inj {t t' u u' : Text} (ht : mark ∉ t) (ht' : mark ∉ t')
    (h : t ++ mark :: u = t' ++ mark :: u') : t = t' ∧ u = u' := by
  have hcut : cut? mark (t ++ mark :: u) = some (t, u) := cut?_eq_some_iff.mpr ⟨rfl, ht⟩
  have hcut' : cut? mark (t ++ mark :: u) = some (t', u') := cut?_eq_some_iff.mpr ⟨h, ht'⟩
  exact Prod.mk.inj (Option.some.inj (hcut.symm.trans hcut'))

/-- Where the mark is followed by some padding, all parts but the first begin with it. -/
theorem splitOn_intercalate_padded {pad t : Text} {ts : List Text} (hp : mark ∉ pad) (h : ∀ u ∈ t :: ts, mark ∉ u) :
    List.splitOn mark (List.intercalate (mark :: pad) (t :: ts)) = t :: ts.map (pad ++ ·) := by
  induction ts generalizing t with
  | nil =>
    rw [List.intercalate_singleton, List.splitOn_eq_singleton (h t List.mem_cons_self), List.map_nil]
  | cons u us ih =>
    have hpad : List.intercalate (mark :: pad) (t :: u :: us) =
        t ++ mark :: List.intercalate (mark :: pad) ((pad ++ u) :: us) := by
      cases us <;> simp [List.intercalate]
    rw [hpad, List.splitOn_append_cons_self_of_not_mem (h t List.mem_cons_self), ih, List.map_cons]
    intro v hv
    rcases List.mem_cons.mp hv with rfl | hv
    · rw [List.mem_append, not_or]
      exact ⟨hp, h u (by simp)⟩
    · exact h v (by simp [hv])

theorem intercalate_padded_injective {pad : Text} {ts us : List Text} (hp : mark ∉ pad) (hts : ts ≠ []) (hus : us ≠ [])
    (ht : ∀ t ∈ ts, mark ∉ t) (hu : ∀ u ∈ us, mark ∉ u)
    (h : List.intercalate (mark :: pad) ts = List.intercalate (mark :: pad) us) : ts = us := by
  obtain ⟨t, ts, rfl⟩ := List.exists_cons_of_ne_nil hts
  obtain ⟨u, us, rfl⟩ := List.exists_cons_of_ne_nil hus
  have hsplit := congrArg (List.splitOn mark) h
  rw [splitOn_intercalate_padded hp ht, splitOn_intercalate_padded hp hu, List.cons.injEq] at hsplit
  rw [hsplit.1, (List.map_inj_right fun _ _ => List.append_cancel_left).mp hsplit.2]

theorem not_mem_of_mem_splitOn {t segment : Text} (h : segment ∈ List.splitOn mark t) : mark ∉ segment := by
  induction t generalizing segment with
  | nil =>
    rw [List.splitOn_nil, List.mem_singleton] at h
    simp [h]
  | cons c t ih =>
    rw [List.splitOn_cons_eq_if_modifyHead] at h
    split at h
    next =>
      rcases List.mem_cons.mp h with rfl | h
      · exact List.not_mem_nil
      · exact ih h
    next hc =>
      obtain ⟨first, rest, hsplit⟩ := List.exists_cons_of_ne_nil (List.splitOn_ne_nil mark t)
      rw [hsplit] at h ih
      rcases List.mem_cons.mp h with rfl | h
      · rw [List.mem_cons, not_or]
        exact ⟨fun he => hc (by simp [he]), ih List.mem_cons_self⟩
      · exact ih (List.mem_cons_of_mem first h)

theorem mem_intercalate {between : Text} {ts : List Text} {t : Text} (ht : t ∈ ts) {c : Char} (hc : c ∈ t) :
    c ∈ List.intercalate between ts := by
  induction ts with
  | nil => cases ht
  | cons u us ih =>
    cases us with
    | nil =>
      rw [List.mem_singleton.mp ht] at hc
      rw [List.intercalate_singleton]
      exact hc
    | cons v vs =>
      rw [List.intercalate_cons_cons, List.mem_append, List.mem_append]
      rcases List.mem_cons.mp ht with rfl | ht
      · exact .inl (.inl hc)
      · exact .inr (ih ht)

theorem prefix_intercalate (between t : Text) (ts : List Text) : t <+: List.intercalate between (t :: ts) := by
  cases ts with
  | nil => exact ⟨[], by rw [List.append_nil, List.intercalate_singleton]⟩
  | cons u us =>
    rw [List.intercalate_cons_cons, List.append_assoc]
    exact List.prefix_append t _

theorem suffix_intercalate (between t : Text) (ts : List Text) : t <:+ List.intercalate between (ts ++ [t]) := by
  induction ts with
  | nil => exact ⟨[], by rw [List.nil_append, List.nil_append, List.intercalate_singleton]⟩
  | cons u us ih =>
    obtain ⟨v, vs, hvs⟩ := List.exists_cons_of_ne_nil (show us ++ [t] ≠ [] by simp)
    rw [hvs] at ih
    rw [List.cons_append, hvs, List.intercalate_cons_cons]
    exact ih.trans (List.suffix_append _ _)

theorem infix_intercalate {between t : Text} {ts : List Text} (h : t ∈ ts) : t <:+: List.intercalate between ts := by
  induction ts with
  | nil => cases h
  | cons u us ih =>
    rcases List.mem_cons.mp h with rfl | h
    · exact (prefix_intercalate between t us).isInfix
    · obtain ⟨v, vs, rfl⟩ := List.exists_cons_of_ne_nil (List.ne_nil_of_mem h)
      have htail : List.intercalate between (v :: vs) <:+ List.intercalate between (u :: v :: vs) := by
        rw [List.intercalate_cons_cons]
        exact List.suffix_append _ _
      exact (ih h).trans htail.isInfix

theorem of_mem_intercalate {ts : List Text} {c : Char} (hc : c ∈ List.intercalate [mark] ts) :
    c = mark ∨ ∃ t ∈ ts, c ∈ t := by
  induction ts with
  | nil => simp at hc
  | cons t ts ih =>
    cases ts with
    | nil =>
      rw [List.intercalate_singleton] at hc
      exact .inr ⟨t, List.mem_cons_self, hc⟩
    | cons u us =>
      rw [List.intercalate_cons_cons, List.mem_append, List.mem_append, List.mem_singleton] at hc
      rcases hc with (hc | hc) | hc
      · exact .inr ⟨t, List.mem_cons_self, hc⟩
      · exact .inl hc
      · rcases ih hc with h | ⟨v, hv, h⟩
        · exact .inl h
        · exact .inr ⟨v, List.mem_cons_of_mem t hv, h⟩

theorem Segments.mem {t segment : Text} {segments : List Text} (h : Segments mark t segments)
    (hs : segment ∈ segments) {c : Char} (hc : c ∈ segment) : c ∈ t :=
  h.joined ▸ mem_intercalate hs hc

/-- **The segments of a text are what it is split into.** -/
theorem segments_iff {t : Text} {segments : List Text} : Segments mark t segments ↔ List.splitOn mark t = segments := by
  refine ⟨fun h => ?_, fun h => ?_⟩
  · rw [← h.joined]
    exact List.splitOn_intercalate mark h.unmarked h.nonempty
  · rw [← h]
    exact ⟨List.splitOn_ne_nil mark t, fun _ => not_mem_of_mem_splitOn, List.intercalate_splitOn mark⟩

theorem Segments.eq_nil {segment : Text} {segments : List Text} (h : Segments mark [] segments)
    (hs : segment ∈ segments) : segment = [] := by
  rw [← segments_iff.mp h] at hs
  exact List.mem_singleton.mp hs

theorem splitOn_intercalate_flatMap {ts : List Text} (hne : ts ≠ []) :
    List.splitOn mark (List.intercalate [mark] ts) = ts.flatMap (List.splitOn mark) := by
  induction ts with
  | nil => exact absurd rfl hne
  | cons t ts ih =>
    cases ts with
    | nil => rw [List.intercalate_singleton, List.flatMap_singleton]
    | cons u us =>
      rw [List.intercalate_cons_cons, List.append_assoc, List.singleton_append, List.splitOn_append_cons_self,
        ih (by simp)]
      simp only [List.flatMap_cons]

theorem splitOn_injective {t u : Text} (h : List.splitOn mark t = List.splitOn mark u) : t = u := by
  rw [← @List.intercalate_splitOn _ t _ _ mark, h, List.intercalate_splitOn]

/-! ## Words -/

theorem isBlank_of_isDigit {c : Char} (h : c.isDigit = true) : isBlank c = false := by
  have hall : ∀ r ∈ blankRanges, r.last < 48 ∨ 57 < r.first := by decide
  refine Bool.eq_false_iff.mpr fun hb => ?_
  obtain ⟨r, hr, hc⟩ := List.any_eq_true.mp hb
  have hout := hall r hr
  simp only [CodeRange.has, Bool.and_eq_true, decide_eq_true_eq] at hc
  simp only [Char.isDigit, Bool.and_eq_true, decide_eq_true_eq] at h
  have h1 : 48 ≤ c.toNat := h.1
  have h2 : c.toNat ≤ 57 := h.2
  omega

theorem words_append {t u : Text} {c : Char} (hne : t ≠ []) (h : ∀ d ∈ t, isBlank d = false) (hc : isBlank c = true) :
    words (t ++ c :: u) = t :: words u := by
  have hkept : (!t.isEmpty) = true := by simpa using hne
  unfold words
  rw [List.splitOnP_append_cons_of_forall_mem h c hc, List.filter_cons, if_pos hkept]

theorem words_of_not_blank {t : Text} (hne : t ≠ []) (h : ∀ c ∈ t, isBlank c = false) : words t = [t] := by
  have hkept : (!t.isEmpty) = true := by simpa using hne
  unfold words
  rw [List.splitOnP_eq_singleton h, List.filter_cons, if_pos hkept, List.filter_nil]

theorem words_intercalate {ts : List Text} (h : ∀ t ∈ ts, t ≠ [] ∧ ∀ c ∈ t, isBlank c = false) :
    words (List.intercalate [' '] ts) = ts := by
  induction ts with
  | nil => rfl
  | cons t ts ih =>
    obtain ⟨hne, ht⟩ := h t List.mem_cons_self
    have ih := ih fun u hu => h u (List.mem_cons_of_mem t hu)
    cases ts with
    | nil =>
      rw [List.intercalate_singleton]
      exact words_of_not_blank hne ht
    | cons u us =>
      rw [List.intercalate_cons_cons, List.append_assoc, List.singleton_append, words_append hne ht (by decide), ih]

end CronSchedule.Text
