/-
Where a phrase comes to the end of a table of names. There are twelve names
of months and seven of weekdays, whatever the spec is, and a spec that a
caller makes may hold more values than that. A value past the end of the
table has no name, and there the phrase fails; it does so only if such a
value is met before an atom that stands for no value, since this ends the
names. A spec with no more values than names has a phrase for every text.

* `phrase_eq_error_iff`: the texts that have no phrase.
* `phrase_ne_nil`: a phrase is not empty.
* `phrase_unless_namesRunOut`: the phrase of a text in which no run of
  digits is over the limit.
-/
import CronSchedule.Proofs.AtomNames
import CronSchedule.Proofs.PhraseTold

namespace CronSchedule
open FieldSpec Text

/-- No run of digits in the text is over the limit. -/
def Text.DigitsWithinLimit (raw : Text) : Prop :=
  ∀ t, t <:+: raw → Numeral.isPlain t = true → t.length ≤ Numeral.digitLimit

theorem Text.digitsWithinLimit_of_length_le {raw : Text} (h : raw.length ≤ Numeral.digitLimit) :
    raw.DigitsWithinLimit := fun _ ht _ => Nat.le_trans ht.length_le h

namespace Phrase

variable {spec : FieldSpec} {raw : Text} {e : PhraseError}

theorem inNames?_eq_error_iff :
    inNames? spec raw = .error e ↔
      ∃ word table, NameWords spec.name word table ∧ named? spec table raw = .error e := by
  rcases nameWords_or_inNames?_eq_none spec raw with ⟨word, table, hw⟩ | ⟨hno, hnone⟩
  · rw [inNames?_eq hw, bind_eq_error_iff]
    refine ⟨fun h => ?_, fun ⟨_, _, hw', h⟩ => ?_⟩
    · rcases h with h | ⟨_, _, h⟩
      · exact ⟨word, table, hw, h⟩
      · cases h
    · obtain ⟨_, rfl⟩ := hw.unique hw'
      exact .inl h
  · rw [hnone]
    exact ⟨fun h => (nomatch h), fun ⟨word, table, hw, _⟩ => absurd hw (hno word table)⟩

theorem every_ne_nil (name : FieldName) (step : Text) : every name step ≠ [] := by
  have hhead := head?_every name step
  exact fun h => by rw [h] at hhead; cases hhead

theorem verbatim_ne_nil (name : FieldName) (raw : Text) : verbatim name raw ≠ [] := by
  have hplural : (plural name).head? ≠ none := by cases name <;> decide
  intro h
  rcases (verbatim_said name raw).head? with hhead | hhead
  · rw [h] at hhead
    exact hplural hhead.symm
  · rw [h] at hhead
    cases hhead

theorem inNames?_ne_nil {phrase : Text} (h : inNames? spec raw = .ok (some phrase)) : phrase ≠ [] := by
  rcases nameWords_or_inNames?_eq_none spec raw with ⟨word, table, hw⟩ | ⟨_, hnone⟩
  · rw [inNames?_eq hw] at h
    obtain ⟨named, _, h⟩ := bind_eq_ok_iff.mp h
    obtain ⟨items, _, rfl⟩ := Option.map_eq_some_iff.mp (Except.ok.inj h)
    intro hnil
    rcases hw.head? (listed items) with hhead | hhead
    · rw [hnil] at hhead
      cases hhead
    · rw [hnil] at hhead
      cases hhead
  · rw [hnone] at h
    cases h

end Phrase

open Phrase

namespace FieldSpec

variable {spec : FieldSpec} {raw : Text} {e : PhraseError}

/-- **The texts that have no phrase** are those whose names fail to be looked up. -/
theorem phrase_eq_error_iff :
    spec.phrase raw = .error e ↔ ∃ word table, NameWords spec.name word table ∧ raw ≠ [] ∧ '/' ∉ raw ∧ '*' ∉ raw ∧
      StopsWith spec table (atoms raw) e := by
  have hnames : spec.phrase raw = .error e ↔ inNames? spec raw = .error e := by
    unfold FieldSpec.phrase
    split
    next hstar =>
      refine ⟨fun h => (nomatch h), fun h => ?_⟩
      obtain ⟨_, _, _, h⟩ := inNames?_eq_error_iff.mp h
      exact absurd (by simp [hstar]) (named?_eq_error_iff.mp h).2.2.1
    next =>
      split
      next base step hstepped =>
        refine ⟨fun h => (nomatch h), fun h => ?_⟩
        obtain ⟨_, _, _, h⟩ := inNames?_eq_error_iff.mp h
        exact absurd (by simp [(stepped?_eq_some hstepped).1]) (named?_eq_error_iff.mp h).2.1
      next =>
        rw [bind_eq_error_iff]
        refine ⟨fun h => ?_, .inl⟩
        rcases h with h | ⟨named, _, h⟩
        · exact h
        · cases named <;> cases h
  simp only [hnames, inNames?_eq_error_iff, named?_eq_error_iff]

theorem phrase_ne_nil {phrase : Text} (h : spec.phrase raw = .ok phrase) : phrase ≠ [] := by
  unfold FieldSpec.phrase at h
  split at h
  next =>
    cases h
    simp
  next =>
    split at h
    next base step _ =>
      cases h
      split
      next => exact every_ne_nil _ _
      next => simp
    next =>
      obtain ⟨named, hnamed, h⟩ := bind_eq_ok_iff.mp h
      cases named with
      | none =>
        cases h
        exact verbatim_ne_nil _ _
      | some t =>
        cases h
        exact inNames?_ne_nil hnamed

/-- Of the atoms of a month or weekday text, which has no step and no star, one stands for a value past the end of the
table of names, and those before it have names. -/
def NamesRunOut (spec : FieldSpec) (raw : Text) : Prop :=
  ∃ word table, NameWords spec.name word table ∧ raw ≠ [] ∧ '/' ∉ raw ∧ '*' ∉ raw ∧
    ∃ before t after value, atoms raw = before ++ t :: after ∧ (∀ atom ∈ before, HasName spec table atom) ∧
      Stands spec t value ∧ table.length ≤ (value - spec.low).toNat

theorem NamesRunOut.exists_short_table (h : spec.NamesRunOut raw) :
    ∃ word table, NameWords spec.name word table ∧ table.length < spec.size := by
  obtain ⟨word, table, hw, _, _, _, _, t, _, value, _, _, hs, hpast⟩ := h
  obtain ⟨hlow, hhigh⟩ := hs.inRange
  refine ⟨word, table, hw, ?_⟩
  unfold size
  omega

/-- Where no run of digits is over the limit, the end of the table is all that a phrase can fail with. -/
theorem phrase_eq_error_iff_namesRunOut (h : raw.DigitsWithinLimit) :
    spec.phrase raw = .error e ↔ spec.NamesRunOut raw ∧ e = .unnamed := by
  rw [phrase_eq_error_iff]
  refine ⟨fun hfails => ?_, fun hfails => ?_⟩
  · obtain ⟨word, table, hw, hne, hslash, hstar, before, t, after, hsplit, hbefore, hfails⟩ := hfails
    cases hfails with
    | tooLong hlong =>
      obtain ⟨hp, hlt, _⟩ := hlong
      have hpart : t <:+: raw := infix_of_mem_atoms (hsplit ▸ List.mem_append_right before List.mem_cons_self)
      exact absurd hlt (Nat.not_lt.mpr (h t hpart hp))
    | unnamed hs hpast =>
      exact ⟨⟨word, table, hw, hne, hslash, hstar, before, t, after, _, hsplit, hbefore, hs, hpast⟩, rfl⟩
  · obtain ⟨⟨word, table, hw, hne, hslash, hstar, before, t, after, value, hsplit, hbefore, hs, hpast⟩, rfl⟩ := hfails
    exact ⟨word, table, hw, hne, hslash, hstar, before, t, after, hsplit, hbefore, .unnamed hs hpast⟩

/-- **Every text in which no run of digits is over the limit has a phrase**, for every spec, and it is not empty, with
one exception: the names run out. Then the phrase fails with just this. They do not run out for a spec that has no more
values than there are names, as the five of an expression are. -/
theorem phrase_unless_namesRunOut (spec : FieldSpec) {raw : Text} (h : raw.DigitsWithinLimit) :
    (spec.NamesRunOut raw ∧ spec.phrase raw = .error .unnamed ∨
      ¬ spec.NamesRunOut raw ∧ ∃ phrase, spec.phrase raw = .ok phrase ∧ phrase ≠ []) ∧
    ((∀ word table, NameWords spec.name word table → spec.size ≤ table.length) → ¬ spec.NamesRunOut raw) := by
  refine ⟨?_, fun htable hout => ?_⟩
  · cases hphrase : spec.phrase raw with
    | error e =>
      obtain ⟨hout, rfl⟩ := (phrase_eq_error_iff_namesRunOut h).mp hphrase
      exact .inl ⟨hout, rfl⟩
    | ok phrase =>
      refine .inr ⟨fun hout => ?_, phrase, rfl, phrase_ne_nil hphrase⟩
      rw [(phrase_eq_error_iff_namesRunOut h).mpr ⟨hout, rfl⟩] at hphrase
      cases hphrase
  · obtain ⟨word, table, hw, hshort⟩ := hout.exists_short_table
    have hlong := htable word table hw
    omega

/-- A thirteenth month is not met after what is no month, and the months of an expression have all names. -/
theorem phrase_unless_namesRunOut_thirteen :
    (∃ phrase, FieldSpec.phrase ⟨.month, "month".toList, 1, 13, []⟩ "12,x,13".toList = .ok phrase ∧ phrase ≠ []) ∧
      ∃ phrase, FieldSpec.month.phrase "Sep-1".toList = .ok phrase ∧ phrase ≠ [] := by
  refine ⟨?_, ?_⟩
  · have hphrase : FieldSpec.phrase ⟨.month, "month".toList, 1, 13, []⟩ "12,x,13".toList =
        .ok "months 12, x, 13".toList := by rfl
    have hlimit : DigitsWithinLimit "12,x,13".toList := digitsWithinLimit_of_length_le (by decide)
    rcases (phrase_unless_namesRunOut ⟨.month, "month".toList, 1, 13, []⟩ hlimit).1 with ⟨_, hfails⟩ | ⟨_, h⟩
    · rw [hphrase] at hfails
      cases hfails
    · exact h
  · have hlimit : DigitsWithinLimit "Sep-1".toList := digitsWithinLimit_of_length_le (by decide)
    obtain ⟨hone, hnever⟩ := phrase_unless_namesRunOut .month hlimit
    have hout : ¬ FieldSpec.month.NamesRunOut "Sep-1".toList := hnever fun word table hw => by
      cases hw
      decide
    exact (hone.resolve_left fun h => hout h.1).2

/-- A thirteenth month has no name, and its field no phrase. -/
theorem phrase_fails_thirteenth :
    DigitsWithinLimit "13".toList ∧
      FieldSpec.phrase ⟨.month, "month".toList, 1, 13, []⟩ "13".toList = .error .unnamed ∧
      ¬ ∃ phrase, FieldSpec.phrase ⟨.month, "month".toList, 1, 13, []⟩ "13".toList = .ok phrase := by
  have hfails : FieldSpec.phrase ⟨.month, "month".toList, 1, 13, []⟩ "13".toList = .error .unnamed := by rfl
  refine ⟨digitsWithinLimit_of_length_le (by decide), hfails, fun h => ?_⟩
  obtain ⟨phrase, hphrase⟩ := h
  rw [hfails] at hphrase
  cases hphrase

end FieldSpec
end CronSchedule
