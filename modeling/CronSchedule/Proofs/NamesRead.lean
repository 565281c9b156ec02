/-
Names and reading. A field is told in names by a reader of its own, which
cuts a span at its first hyphen and looks a name up without asking for
letters first. It agrees with the reading of the field all the same: a text
that becomes a name in upper case is written with letters, since nothing
but a letter becomes a letter from A to Z. The one thing it lets pass is a
span whose first value is above its last.

* `isLetter_of_upper`: what becomes capitals is a letter.
* `fieldForm_iff_of_named?`: what is told in names is read, if no span in
  it is reversed.
* `named?_agrees`: the two readers, for months and for days of the week.
-/
import CronSchedule.Proofs.FaultyField
import CronSchedule.Proofs.FieldReading
import CronSchedule.Proofs.NamedValues

namespace CronSchedule
open FieldSpec

/-! ## Capitals -/

namespace Text

/-- The ranges of the letters have a code point. -/
def isLetterCode (n : Nat) : Bool := letterRanges.any fun r => r.first ≤ n && n ≤ r.last

theorem toNat_ofNat_of_isUpper {n : Nat} (h : (Char.ofNat n).isUpper = true) : (Char.ofNat n).toNat = n := by
  by_cases hn : n.isValidChar
  · rw [Char.ofNat, dif_pos hn]
    rfl
  · rw [Char.ofNat, dif_neg hn] at h
    exact absurd h (by decide)

/-- **What becomes capitals from A to Z in upper case is a letter.** -/
theorem isLetter_of_upper {c : Char} (h : ∀ d ∈ mapChar upperRuns upperExpansions c, d.isUpper = true) :
    isLetter c = true := by
  have hruns : ∀ r ∈ upperRuns, ∀ n ∈ List.range' 65 26,
      r.move? (n - r.shift).toNat = some n → isLetterCode (n - r.shift).toNat = true := by decide +kernel
  have hexpansions : ∀ entry ∈ upperExpansions, (∀ code ∈ entry.2, (Char.ofNat code).isUpper = true) →
      isLetterCode entry.1 = true := by decide +kernel
  show isLetterCode c.toNat = true
  unfold mapChar at h
  split at h
  next n hn =>
    obtain ⟨r, hr, hmove⟩ := List.exists_of_findSome?_eq_some hn
    have hcapital : (Char.ofNat n).isUpper = true := h _ List.mem_cons_self
    have hbounds := isUpper_iff.mp hcapital
    rw [toNat_ofNat_of_isUpper hcapital] at hbounds
    have hcode : c.toNat = (n - r.shift).toNat := by
      unfold CaseRun.move? at hmove
      split at hmove
      next =>
        cases hmove
        omega
      next => cases hmove
    rw [hcode] at hmove ⊢
    exact hruns r hr n (List.mem_range'_1.mpr ⟨hbounds.1, by omega⟩) hmove
  next =>
    split at h
    next codes hcodes =>
      obtain ⟨before, after, hentries, _⟩ := List.lookup_eq_some_iff.mp hcodes
      refine hexpansions (c.toNat, codes) (by rw [hentries]; simp) fun code hcode => ?_
      exact h _ (List.mem_map_of_mem hcode)
    next =>
      have hc := isUpper_iff.mp (h c List.mem_cons_self)
      exact List.any_eq_true.mpr ⟨⟨0x41, 0x5A⟩, by decide, by simpa using hc⟩

end Text

namespace Phrase

variable {spec : FieldSpec} {table : List Text}

/-- The names of the field are written in capitals from A to Z. -/
def NamedInCapitals (spec : FieldSpec) : Prop := ∀ name ∈ spec.names, name ≠ [] ∧ name.all Char.isUpper = true

theorem namedInCapitals_month : NamedInCapitals .month := by unfold NamedInCapitals; decide

theorem namedInCapitals_dayOfWeek : NamedInCapitals .dayOfWeek := by unfold NamedInCapitals; decide

theorem letters_of_lookup? {t : Text} {value : Int} (hc : NamedInCapitals spec) (h : spec.lookup? t = some value) :
    t ≠ [] ∧ ∀ c ∈ t, Text.isLetter c = true := by
  obtain ⟨i, hname, _⟩ := lookup?_eq_some_iff.mp h
  obtain ⟨hne, hcapitals⟩ := hc _ (List.mem_of_getElem? hname)
  refine ⟨fun he => hne (by rw [he]; rfl), fun c hct => Text.isLetter_of_upper fun d hd => ?_⟩
  exact List.all_eq_true.mp hcapitals d (List.mem_flatMap.mpr ⟨c, hct, hd⟩)

/-! ## Items -/

theorem atomForm_of_nameOf? {t name : Text} (hc : NamedInCapitals spec)
    (h : nameOf? spec table t = .ok (some name)) :
    ∃ value, AtomForm spec t value ∧ Names spec table name value := by
  obtain ⟨found, hfound, h⟩ := bind_eq_ok_iff.mp h
  cases found with
  | none => cases h
  | some value =>
    dsimp only at h
    split at h
    next hrange =>
      split at h
      next hname =>
        cases h
        refine ⟨value, ?_, contains_iff.mp hrange, hname⟩
        unfold atomValue? at hfound
        split at hfound
        next hp =>
          obtain ⟨n, hn, hfound⟩ := bind_eq_ok_iff.mp hfound
          cases hfound
          obtain ⟨hl, rfl⟩ := number_eq_ok_iff.mp hn
          exact .numeral hp hl hrange
        next =>
          rw [Except.ok.injEq] at hfound
          obtain ⟨hne, hletters⟩ := letters_of_lookup? hc hfound
          exact .name hne hletters hfound hrange
      next => cases h
    next => cases h

/-- The item is a span from a name to one whose value is less. -/
def NameItem.Reversed (spec : FieldSpec) (table : List Text) : NameItem → Prop
  | ⟨_, none⟩ => False
  | ⟨first, some last⟩ => ∃ a b, Names spec table first a ∧ Names spec table last b ∧ b < a

/-- **What is told as an item of names is an item**, if it is no reversed span. -/
theorem itemForm_iff_of_nameItem? {t : Text} {named : NameItem} (ht : NameTable spec table)
    (hc : NamedInCapitals spec) (hslash : '/' ∉ t) (h : nameItem? spec table t = .ok (some named)) :
    (∃ item, ItemForm spec t item) ↔ ¬ named.Reversed spec table := by
  unfold nameItem? at h
  split at h
  next =>
    obtain ⟨found, hfound, h⟩ := bind_eq_ok_iff.mp h
    cases found with
    | none => cases h
    | some name =>
      cases h
      obtain ⟨value, ha, _⟩ := atomForm_of_nameOf? hc hfound
      exact ⟨fun _ hr => hr, fun _ => ⟨_, .plain (.one ha)⟩⟩
  next first last hcut =>
    obtain ⟨rfl, _⟩ := Text.cut?_eq_some_iff.mp hcut
    obtain ⟨foundFirst, hfirst, h⟩ := bind_eq_ok_iff.mp h
    cases foundFirst with
    | none => cases h
    | some firstName =>
      obtain ⟨foundLast, hlast, h⟩ := bind_eq_ok_iff.mp h
      cases foundLast with
      | none => cases h
      | some lastName =>
        cases h
        obtain ⟨a, ha, hna⟩ := atomForm_of_nameOf? hc hfirst
        obtain ⟨b, hb, hnb⟩ := atomForm_of_nameOf? hc hlast
        refine ⟨fun hitem hr => ?_, fun hr => ?_⟩
        · -- a reversed span is a fault, so it is no item
          obtain ⟨a', b', hna', hnb', hlt⟩ := hr
          rw [hna'.value_eq ht hna, hnb'.value_eq ht hnb] at hlt
          obtain ⟨item, hitem⟩ := hitem
          have hfault := (FaultyItem.plain (by simp) hslash (.reversed ha hb hlt)).readItem
          rw [readItem_eq_ok_iff.mpr hitem] at hfault
          cases hfault
        · have hle : a ≤ b := Int.not_lt.mp fun hlt => hr ⟨a, b, hna, hnb, hlt⟩
          exact ⟨_, .plain (.span ha hb hle)⟩

/-! ## Fields -/

/-- **What is told in names is a field**, if no span in it is reversed. -/
theorem fieldForm_iff_of_named? {raw : Text} {items : List NameItem} (ht : NameTable spec table)
    (hc : NamedInCapitals spec) (h : named? spec table raw = .ok (some items)) :
    FieldForm spec raw ↔ ¬ ∃ item ∈ items, item.Reversed spec table := by
  obtain ⟨hslash, _⟩ := not_mem_of_named? h
  unfold named? at h
  split at h
  next => cases h
  next hguard =>
    have hne : raw ≠ [] := fun he => hguard (by rw [he]; rfl)
    have hseg : Text.Segments ',' raw (List.splitOn ',' raw) := Text.segments_iff.mpr rfl
    obtain ⟨hto, hfrom⟩ := nameItems?_eq_some h
    have hitem : ∀ {t named}, t ∈ List.splitOn ',' raw → nameItem? spec table t = .ok (some named) →
        ((∃ item, ItemForm spec t item) ↔ ¬ named.Reversed spec table) := fun hmem hnamed =>
      itemForm_iff_of_nameItem? ht hc (fun hs => hslash (hseg.mem hmem hs)) hnamed
    refine ⟨fun hform hr => ?_, fun hr => ⟨hne, _, hseg, fun t hmem => ?_⟩⟩
    · obtain ⟨named, hn, hr⟩ := hr
      obtain ⟨t, hmem, hnamed⟩ := hfrom named hn
      obtain ⟨_, segments, hseg', hitems⟩ := hform
      obtain rfl := Text.segments_iff.mp hseg'
      exact (hitem hmem hnamed).mp (hitems t hmem) hr
    · obtain ⟨named, hn, hnamed⟩ := hto t hmem
      exact (hitem hmem hnamed).mpr fun hr' => hr ⟨named, hn, hr'⟩

/-- **Names and reading agree**, for months and for days of the week and on any text. A field that is read and has no
step and no star is told in names, and these denote its values. And what is told in names is read, but for one thing:
that some item of it goes from a name to one whose value is less. Nothing is asked of the numerals in the text, since
one that is too long is neither read nor told. -/
theorem named?_agrees (h : (spec, table) ∈ [(FieldSpec.month, monthNames), (FieldSpec.dayOfWeek, weekdayNames)])
    (raw : Text) :
    (∀ vs, spec.values raw = .ok vs → '/' ∉ raw → '*' ∉ raw →
      ∃ items, named? spec table raw = .ok (some items) ∧ (∀ item ∈ items, item.IsFrom table) ∧
        ∀ v, (∃ item ∈ items, item.Denotes spec table v) ↔ v ∈ vs) ∧
    ∀ items, named? spec table raw = .ok (some items) →
      ((∃ vs, spec.values raw = .ok vs) ↔ ¬ ∃ item ∈ items, item.Reversed spec table) := by
  obtain ⟨ht, hc⟩ : NameTable spec table ∧ NamedInCapitals spec := by
    simp only [List.mem_cons, Prod.mk.injEq, List.not_mem_nil, or_false] at h
    rcases h with ⟨rfl, rfl⟩ | ⟨rfl, rfl⟩
    · exact ⟨nameTable_month, namedInCapitals_month⟩
    · exact ⟨nameTable_dayOfWeek, namedInCapitals_dayOfWeek⟩
  refine ⟨fun vs hvs hslash hstar => ?_, fun items hitems => ?_⟩
  · obtain ⟨hform, _, hmem⟩ := values_eq_ok_iff.mp hvs
    obtain ⟨items, hitems, htells⟩ := named?_eq_some hform ht hslash hstar
    exact ⟨items, hitems, htells.isFrom, fun v => (htells.denotes v).trans (hmem v).symm⟩
  · rw [exists_values_iff]
    exact fieldForm_iff_of_named? ht hc hitems

/-- A long s, zeros before a number, and a week that would have to end before it begins. -/
theorem named?_agrees_longS :
    (∃ items, named? .month monthNames "ſep,001-mar".toList = .ok (some items) ∧
      listed items = "September, January through March".toList ∧
      ∀ v, (∃ item ∈ items, item.Denotes .month monthNames v) ↔ v ∈ [1, 2, 3, 9]) ∧
    ∃ items, named? .dayOfWeek weekdayNames "Fri-1,0".toList = .ok (some items) ∧
      listed items = "Friday through Monday, Sunday".toList ∧
      ¬ ∃ vs, FieldSpec.dayOfWeek.values "Fri-1,0".toList = .ok vs := by
  refine ⟨?_, ?_⟩
  · have hread : FieldSpec.month.values "ſep,001-mar".toList = .ok [1, 2, 3, 9] := by rfl
    obtain ⟨items, hitems, _, hdenotes⟩ :=
      (named?_agrees (show (FieldSpec.month, monthNames) ∈ _ by decide) _).1 _ hread (by decide) (by decide)
    refine ⟨items, hitems, ?_, hdenotes⟩
    have hnames : named? .month monthNames "ſep,001-mar".toList =
        .ok (some [⟨"September".toList, none⟩, ⟨"January".toList, some "March".toList⟩]) := by rfl
    rw [hnames] at hitems
    cases hitems
    rfl
  · have hnames : named? .dayOfWeek weekdayNames "Fri-1,0".toList =
        .ok (some [⟨"Friday".toList, some "Monday".toList⟩, ⟨"Sunday".toList, none⟩]) := by rfl
    have hiff := (named?_agrees (show (FieldSpec.dayOfWeek, weekdayNames) ∈ _ by decide) _).2 _ hnames
    refine ⟨_, hnames, rfl, fun hread => hiff.mp hread ?_⟩
    exact ⟨_, List.mem_cons_self, 5, 1, ⟨by decide, rfl⟩, ⟨by decide, rfl⟩, by decide⟩

end Phrase
end CronSchedule
