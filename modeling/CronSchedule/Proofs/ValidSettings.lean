/-
Settings that passed the checks, and that nothing else passes them.

* `Draft.check_eq_ok_iff`: a draft comes to settings exactly if they are
  valid and the draft is theirs.
* `Draft.check_eq_error_iff`: and otherwise it is refused for the first check
  that it fails.
* `Draft.check_eq_error_iff_of_showable`: and for nothing else, if its values
  can be shown.
-/
import CronSchedule.Settings.Basic
import CronSchedule.Proofs.Traverse

namespace CronSchedule

/-- What the checks promise of settings: three positive numbers, the usual number of runs not above the greatest, and
a level with a number. -/
structure Settings.Valid (s : Settings) : Prop where
  default_pos : 1 ≤ s.defaultRunCount
  max_pos : 1 ≤ s.maxRunCount
  scan_pos : 1 ≤ s.scanLimit
  default_le_max : s.defaultRunCount ≤ s.maxRunCount
  level_known : ∃ level, s.threshold? = some level

namespace Draft

theorem positive_eq_ok_iff {setting : Setting} {v : Value} {n : Nat} :
    positive setting v = .ok n ↔ v = .int n ∧ 1 ≤ n := by
  unfold positive
  split
  next i =>
    split
    next h =>
      rw [Except.ok.injEq, Value.int.injEq]
      omega
    next h =>
      rw [Value.int.injEq]
      refine ⟨fun he => (nomatch he), fun he => ?_⟩
      omega
  next hno =>
    refine ⟨fun he => (nomatch he), fun he => absurd he.1 (hno n)⟩

theorem levelName_eq_ok_iff {v : Value} {t : Text} :
    levelName v = .ok t ↔ v = .text t ∧ ∃ level, Log.levelNumber? t = some level := by
  unfold levelName
  split
  next u =>
    rw [Value.text.injEq, ← Option.isSome_iff_exists]
    split
    next h =>
      rw [Except.ok.injEq]
      exact ⟨fun he => ⟨he, he ▸ h⟩, fun he => he.1⟩
    next h =>
      refine ⟨fun he => (nomatch he), fun he => absurd (he.1 ▸ he.2) h⟩
  next hno =>
    refine ⟨fun he => (nomatch he), fun he => absurd he.1 (hno t)⟩

/-- **A draft passes the checks** exactly if it is that of valid settings, and then it comes to these. -/
theorem check_eq_ok_iff {d : Draft} {s : Settings} : d.check = .ok s ↔ d = s.toDraft ∧ s.Valid := by
  obtain ⟨default, max, scan, level⟩ := d
  obtain ⟨n, m, k, t⟩ := s
  simp only [check, bind_eq_ok_iff, positive_eq_ok_iff, Settings.toDraft, Draft.mk.injEq]
  refine ⟨fun h => ?_, fun h => ?_⟩
  · obtain ⟨n', ⟨rfl, hn⟩, m', ⟨rfl, hm⟩, k', ⟨rfl, hk⟩, h⟩ := h
    split at h
    next => cases h
    next hle =>
      obtain ⟨t', ht, hs⟩ := bind_eq_ok_iff.mp h
      obtain ⟨hname, hlevel⟩ := levelName_eq_ok_iff.mp ht
      cases hs
      subst hname
      exact ⟨⟨rfl, rfl, rfl, rfl⟩, hn, hm, hk, Nat.le_of_not_lt hle, hlevel⟩
  · obtain ⟨⟨rfl, rfl, rfl, rfl⟩, hn, hm, hk, hle, hlevel⟩ := h
    refine ⟨n, ⟨rfl, hn⟩, m, ⟨rfl, hm⟩, k, ⟨rfl, hk⟩, ?_⟩
    rw [if_neg (Nat.not_lt.mpr hle), levelName_eq_ok_iff.mpr ⟨rfl, hlevel⟩]
    rfl

theorem positive_eq_error {setting : Setting} {v : Value} {e : SettingsError} (h : positive setting v = .error e) :
    e = (SettingsError.notPositive setting v).raised := by
  unfold positive at h
  split at h
  next =>
    split at h
    next => cases h
    next => exact (Except.error.inj h).symm
  next => exact (Except.error.inj h).symm

theorem levelName_eq_error {v : Value} {e : SettingsError} (h : levelName v = .error e) :
    e = (SettingsError.unknownLevel v).raised := by
  unfold levelName at h
  split at h
  next =>
    split at h
    next => cases h
    next => exact (Except.error.inj h).symm
  next => exact (Except.error.inj h).symm

/-! ## The first check that fails -/

/-- What is checked of a draft. -/
inductive Check where
  | positive (setting : Setting)
  | withinMax
  | levelKnown

/-- The checks in the order in which they are made. -/
def Check.inOrder : List Check :=
  [.positive .defaultRunCount, .positive .maxRunCount, .positive .scanLimit, .withinMax, .levelKnown]

/-- A positive integer stands for the setting; one integer is not above the other; a text names a level. -/
def Passes (d : Draft) : Check → Prop
  | .positive setting => ∃ n : Nat, d.get setting = .int n ∧ 1 ≤ n
  | .withinMax => ∀ n m : Nat, d.defaultRunCount = .int n → d.maxRunCount = .int m → n ≤ m
  | .levelKnown => ∃ t level, d.logLevel = .text t ∧ Log.levelNumber? t = some level

/-- The draft fails a check, with this error. -/
inductive Fails (d : Draft) : Check → SettingsError → Prop
  | notPositive {setting : Setting} : ¬ d.Passes (.positive setting) →
      Fails d (.positive setting) (.notPositive setting (d.get setting))
  | aboveMax {n m : Nat} : d.defaultRunCount = .int n → d.maxRunCount = .int m → m < n →
      Fails d .withinMax (.defaultAboveMax n m)
  | unknownLevel : ¬ d.Passes .levelKnown → Fails d .levelKnown (.unknownLevel d.logLevel)

/-- The draft passes the checks before one of them, and this one it fails. -/
def FirstFails (d : Draft) (e : SettingsError) : Prop :=
  ∃ before c after, Check.inOrder = before ++ c :: after ∧ (∀ earlier ∈ before, d.Passes earlier) ∧ d.Fails c e

variable {d : Draft} {s : Settings} {c : Check} {e e' : SettingsError}

theorem Fails.not_passes (h : d.Fails c e) : ¬ d.Passes c := by
  cases h with
  | notPositive h => exact h
  | aboveMax hn hm hlt => exact fun hle => Nat.not_le.mpr hlt (hle _ _ hn hm)
  | unknownLevel h => exact h

theorem Fails.unique (h : d.Fails c e) (h' : d.Fails c e') : e = e' := by
  cases h with
  | notPositive _ => cases h'; rfl
  | aboveMax hn hm _ =>
    cases h' with
    | aboveMax hn' hm' _ =>
      rw [hn, Value.int.injEq, Int.ofNat_inj] at hn'
      rw [hm, Value.int.injEq, Int.ofNat_inj] at hm'
      rw [hn', hm']
  | unknownLevel _ => cases h'; rfl

theorem FirstFails.unique (h : d.FirstFails e) (h' : d.FirstFails e') : e = e' := by
  obtain ⟨before, c, after, hsplit, hpass, hfail⟩ := h
  obtain ⟨before', c', after', hsplit', hpass', hfail'⟩ := h'
  obtain rfl := first_unique (hsplit.symm.trans hsplit') hpass hpass' hfail.not_passes hfail'.not_passes
  exact hfail.unique hfail'

theorem passes_of_valid (h : s.Valid) : ∀ c ∈ Check.inOrder, s.toDraft.Passes c := by
  obtain ⟨level, hlevel⟩ := h.level_known
  simp only [Check.inOrder, List.forall_mem_cons]
  refine ⟨⟨_, rfl, h.default_pos⟩, ⟨_, rfl, h.max_pos⟩, ⟨_, rfl, h.scan_pos⟩, ?_, ⟨_, level, rfl, hlevel⟩, by simp⟩
  intro n m hn hm
  obtain rfl : s.defaultRunCount = n := Int.ofNat.inj (Value.int.inj hn)
  obtain rfl : s.maxRunCount = m := Int.ofNat.inj (Value.int.inj hm)
  exact h.default_le_max

theorem not_passes_of_positive {setting : Setting} (h : positive setting (d.get setting) = .error e) :
    ¬ d.Passes (.positive setting) := by
  intro ⟨n, hn⟩
  rw [positive_eq_ok_iff.mpr hn] at h
  cases h

theorem not_passes_of_levelName (h : levelName d.logLevel = .error e) : ¬ d.Passes .levelKnown := by
  intro ⟨t, level, ht, hlevel⟩
  rw [levelName_eq_ok_iff.mpr ⟨ht, level, hlevel⟩] at h
  cases h

theorem firstFails_of_check (h : d.check = .error e) : ∃ cause, d.FirstFails cause ∧ e = cause.raised := by
  rcases bind_eq_error_iff.mp h with h | ⟨n, hn, h⟩
  · exact ⟨_, ⟨[], _, _, rfl, by simp, .notPositive (not_passes_of_positive h)⟩, positive_eq_error h⟩
  replace hn := positive_eq_ok_iff.mp hn
  have hdefault : d.Passes (.positive .defaultRunCount) := ⟨n, hn⟩
  rcases bind_eq_error_iff.mp h with h | ⟨m, hm, h⟩
  · exact ⟨_, ⟨[_], _, _, rfl, by simp [hdefault], .notPositive (not_passes_of_positive h)⟩, positive_eq_error h⟩
  replace hm := positive_eq_ok_iff.mp hm
  have hmax : d.Passes (.positive .maxRunCount) := ⟨m, hm⟩
  rcases bind_eq_error_iff.mp h with h | ⟨k, hk, h⟩
  · refine ⟨_, ⟨[_, _], _, _, rfl, ?_, .notPositive (not_passes_of_positive h)⟩, positive_eq_error h⟩
    simp [hdefault, hmax]
  have hscan : d.Passes (.positive .scanLimit) := ⟨k, positive_eq_ok_iff.mp hk⟩
  split at h
  next hlt =>
    refine ⟨_, ⟨[_, _, _], _, _, rfl, ?_, .aboveMax hn.1 hm.1 hlt⟩, (Except.error.inj h).symm⟩
    simp [hdefault, hmax, hscan]
  next hle =>
    have hwithin : d.Passes .withinMax := by
      intro n' m' hn' hm'
      obtain rfl : n = n' := Int.ofNat.inj (Value.int.inj (hn.1.symm.trans hn'))
      obtain rfl : m = m' := Int.ofNat.inj (Value.int.inj (hm.1.symm.trans hm'))
      exact Nat.le_of_not_lt hle
    rcases bind_eq_error_iff.mp h with h | ⟨level, _, h⟩
    · refine ⟨_, ⟨[_, _, _, _], _, [], rfl, ?_, .unknownLevel (not_passes_of_levelName h)⟩, levelName_eq_error h⟩
      simp [hdefault, hmax, hscan, hwithin]
    · cases h

/-- **A draft is refused for the first check that it fails.** -/
theorem check_eq_error_iff : d.check = .error e ↔ ∃ cause, d.FirstFails cause ∧ e = cause.raised := by
  refine ⟨firstFails_of_check, fun h => ?_⟩
  obtain ⟨cause, hfirst, he⟩ := h
  cases hcheck : d.check with
  | error e' =>
    obtain ⟨cause', hfirst', he'⟩ := firstFails_of_check hcheck
    rw [he, he', hfirst.unique hfirst']
  | ok s =>
    obtain ⟨rfl, hv⟩ := check_eq_ok_iff.mp hcheck
    obtain ⟨before, c, after, hsplit, _, hfail⟩ := hfirst
    exact absurd (passes_of_valid hv c (by simp [hsplit])) hfail.not_passes

/-! ## What a refusal shows -/

/-- Every value of the draft can be shown. -/
def Showable (d : Draft) : Prop := ∀ setting, (d.get setting).showable = true

theorem FirstFails.showable (hd : d.Showable) (h : d.FirstFails e) : e.showable = true := by
  obtain ⟨_, _, _, _, _, hfail⟩ := h
  cases hfail with
  | notPositive _ => exact hd _
  | unknownLevel _ => exact hd .logLevel
  | aboveMax hn hm _ =>
    have hdefault := hd .defaultRunCount
    have hmax := hd .maxRunCount
    simp only [get, hn, hm, Value.showable, Value.integers, List.all_cons, List.all_nil, Bool.and_true] at hdefault hmax
    simp [SettingsError.showable, SettingsError.integers, hdefault, hmax]

theorem check_eq_error_iff_of_showable (hd : d.Showable) : d.check = .error e ↔ d.FirstFails e := by
  rw [check_eq_error_iff]
  refine ⟨fun h => ?_, fun h => ⟨e, h, (SettingsError.raised_of_showable (h.showable hd)).symm⟩⟩
  obtain ⟨cause, hfirst, rfl⟩ := h
  rwa [SettingsError.raised_of_showable (hfirst.showable hd)]

theorem fails_or_toShow_of_check (h : d.check = .error e) : (∃ c, d.Fails c e) ∨ e = .tooLong .toShow := by
  obtain ⟨cause, ⟨_, c, _, _, _, hfail⟩, rfl⟩ := firstFails_of_check h
  unfold SettingsError.raised
  split
  next => exact .inl ⟨c, hfail⟩
  next => exact .inr rfl

/-- The message of a refusal shows no integer that is too long. -/
theorem showable_of_check (h : d.check = .error e) : e.showable = true := by
  obtain ⟨cause, _, rfl⟩ := firstFails_of_check h
  unfold SettingsError.raised
  split
  next hcause => exact hcause
  next => rfl

end Draft
end CronSchedule
