/-
What configuring the root logger leaves behind. The level is looked up before
anything is written, but the format is judged only when the level is already
set. A refused format thus leaves the new level with the old handlers.

* `RootLogger.configure_of_accepted`, `configure_of_unknownLevel`,
  `configure_of_badFormat`: the three ways in which a configuration ends.
* `RootLogger.configure_allOrNothing_iff`: when nothing half done is left.
-/
import CronSchedule.Proofs.FormatFields

namespace CronSchedule.Log

/-- The number that a chosen level stands for. -/
inductive LevelChoice.Stands : LevelChoice → Int → Prop
  | number (i : Int) : Stands (.number i) i
  | name {t : Text} {n : Nat} : (Text.upper t, n) ∈ levelNames → Stands (.name t) n

/-- A format text that a handler takes: the empty one, and those with a field. -/
def AcceptedFormat (format : Text) : Prop :=
  format = [] ∨ ∃ before field after, format = before ++ field ++ after ∧ IsField field

/-- The format of a handler that was given a format text. -/
def handlerFormat (format : Text) : Text := if format = [] then plainFormat else format

/-- A configuration ends as a whole: with the chosen level and a single handler of the chosen format, or in an error
with everything as it was. -/
inductive RootLogger.AllOrNothing (root : RootLogger) (level : LevelChoice) (format : Text) :
    Except ConfigurationError Unit × RootLogger → Prop
  | configured {n : Int} : level.Stands n → AllOrNothing root level format (.ok (), ⟨n, [some (handlerFormat format)]⟩)
  | refused {e : ConfigurationError} : AllOrNothing root level format (.error e, root)

variable {root : RootLogger} {level : LevelChoice} {format name t : Text} {n m : Int}

/-! ## Levels -/

theorem levelNumber?_eq_some_iff {n : Nat} : levelNumber? t = some n ↔ (Text.upper t, n) ∈ levelNames := by
  refine ⟨fun h => ?_, fun h => ?_⟩
  · obtain ⟨before, after, hsplit, _⟩ := List.lookup_eq_some_iff.mp h
    rw [hsplit]
    exact List.mem_append_right before List.mem_cons_self
  · -- no name stands in the table twice
    have hfirst : ∀ entry ∈ levelNames, levelNames.lookup entry.1 = some entry.2 := by decide
    exact hfirst _ h

theorem LevelChoice.resolve_eq_ok_iff : level.resolve = .ok n ↔ level.Stands n := by
  cases level with
  | number i =>
    rw [resolve, Except.ok.injEq]
    exact ⟨fun h => h ▸ .number i, fun h => by cases h; rfl⟩
  | name t =>
    refine ⟨fun h => ?_, fun h => ?_⟩
    · rw [resolve] at h
      split at h
      next k hk =>
        cases h
        exact .name (levelNumber?_eq_some_iff.mp hk)
      next => cases h
    · cases h with
      | name hmem => simp only [resolve, levelNumber?_eq_some_iff.mpr hmem]

theorem LevelChoice.resolve_of_unknown (h : ∀ n, ¬ (LevelChoice.name t).Stands n) :
    (LevelChoice.name t).resolve = .error (.unknownLevel t) := by
  cases hnumber : levelNumber? t with
  | none => simp only [resolve, hnumber]
  | some k => exact absurd (.name (levelNumber?_eq_some_iff.mp hnumber)) (h k)

/-- Only a name can be unknown. -/
theorem LevelChoice.exists_name (h : ∀ n, ¬ level.Stands n) : ∃ t, level = .name t := by
  cases level with
  | number i => exact absurd (.number i) (h i)
  | name t => exact ⟨t, rfl⟩

theorem LevelChoice.Stands.unique (h : level.Stands n) (h' : level.Stands m) : n = m :=
  Except.ok.inj ((resolve_eq_ok_iff.mpr h).symm.trans (resolve_eq_ok_iff.mpr h'))

/-! ## Formats -/

theorem resolveFormat_of_accepted (h : AcceptedFormat format) : resolveFormat format = .ok (handlerFormat format) := by
  unfold resolveFormat handlerFormat
  cases format with
  | nil => rfl
  | cons c format =>
    rcases h with h | h
    · cases h
    · simp [hasField_iff.mpr h]

theorem resolveFormat_of_not_accepted (h : ¬ AcceptedFormat format) :
    resolveFormat format = .error (.badFormat format) := by
  obtain ⟨hne, hfield⟩ := not_or.mp h
  rw [← hasField_iff] at hfield
  rw [resolveFormat, if_neg (by simpa using hne), if_neg hfield]

namespace RootLogger

/-! ## The configuration -/

theorem configure_of_accepted (hlevel : level.Stands n) (hformat : AcceptedFormat format) :
    root.configure level format = (.ok (), ⟨n, [some (handlerFormat format)]⟩) := by
  simp only [configure, LevelChoice.resolve_eq_ok_iff.mpr hlevel, resolveFormat_of_accepted hformat]

theorem configure_of_unknownLevel (hlevel : ∀ n, ¬ (LevelChoice.name name).Stands n) :
    root.configure (.name name) format = (.error (.unknownLevel name), root) := by
  simp only [configure, LevelChoice.resolve_of_unknown hlevel]

/-- The level is set all the same. -/
theorem configure_of_badFormat (hlevel : level.Stands n) (hformat : ¬ AcceptedFormat format) :
    root.configure level format = (.error (.badFormat format), { root with level := n }) := by
  simp only [configure, LevelChoice.resolve_eq_ok_iff.mpr hlevel, resolveFormat_of_not_accepted hformat]

theorem allOrNothing_of_badFormat_iff (hlevel : level.Stands n) (hformat : ¬ AcceptedFormat format) :
    root.AllOrNothing level format (root.configure level format) ↔ n = root.level := by
  rw [configure_of_badFormat hlevel hformat]
  refine ⟨fun h => ?_, fun h => ?_⟩
  · generalize hend : ({ root with level := n } : RootLogger) = left at h
    cases h
    exact congrArg RootLogger.level hend
  · subst h
    exact .refused

/-- **When configuring the root logger is all-or-nothing.** A configuration ends with the level the choice stands for
and a single handler with the format, or in an error with the level and the handlers as they were, exactly if the
level is a name that is not known, or the format is accepted, or the root logger has the chosen level already. A known
level with an accepted format is configured, a level that is not known is refused; and a known level with a format
that is not accepted is refused when the level is set, with the handlers as they were. -/
theorem configure_allOrNothing_iff (root : RootLogger) (level : LevelChoice) (format : Text) :
    (root.AllOrNothing level format (root.configure level format) ↔
        (∀ n, ¬ level.Stands n) ∨ AcceptedFormat format ∨ level.Stands root.level) ∧
      (∀ n, level.Stands n → AcceptedFormat format →
        root.configure level format = (.ok (), ⟨n, [some (handlerFormat format)]⟩)) ∧
      (∀ name, level = .name name → (∀ n, ¬ level.Stands n) →
        root.configure level format = (.error (.unknownLevel name), root)) ∧
      (∀ n, level.Stands n → ¬ AcceptedFormat format →
        root.configure level format = (.error (.badFormat format), ⟨n, root.formats⟩)) := by
  refine ⟨?_, fun n => configure_of_accepted, ?_, fun n => configure_of_badFormat⟩
  · by_cases hknown : ∃ n, level.Stands n
    · obtain ⟨n, hlevel⟩ := hknown
      have hhas : level.Stands root.level ↔ n = root.level := ⟨hlevel.unique, fun h => h ▸ hlevel⟩
      by_cases hformat : AcceptedFormat format
      · rw [configure_of_accepted hlevel hformat]
        exact ⟨fun _ => .inr (.inl hformat), fun _ => .configured hlevel⟩
      · rw [allOrNothing_of_badFormat_iff hlevel hformat, hhas]
        refine ⟨fun h => .inr (.inr h), ?_⟩
        rintro (h | h | h)
        · exact absurd hlevel (h n)
        · exact absurd h hformat
        · exact h
    · have hunknown : ∀ n, ¬ level.Stands n := fun n h => hknown ⟨n, h⟩
      obtain ⟨name, rfl⟩ := LevelChoice.exists_name hunknown
      rw [configure_of_unknownLevel hunknown]
      exact ⟨fun _ => .inl hunknown, fun _ => .refused⟩
  · rintro name rfl hunknown
    exact configure_of_unknownLevel hunknown

/-- A name in small letters, with a format that has a field. -/
theorem configure_allOrNothing_iff_info :
    let root : RootLogger := ⟨30, [none, none]⟩
    let level : LevelChoice := .name "info".toList
    let format := "> %(message)-8s".toList
    level.Stands 20 ∧ AcceptedFormat format ∧ root.AllOrNothing level format (root.configure level format) ∧
      root.configure level format = (.ok (), ⟨20, [some format]⟩) := by
  intro root level format
  have hlevel : level.Stands 20 := .name (by decide +kernel)
  have hformat : AcceptedFormat format := .inr (hasField_iff.mp (by decide +kernel))
  obtain ⟨hwhole, hconfigured, _⟩ := configure_allOrNothing_iff root level format
  exact ⟨hlevel, hformat, hwhole.mpr (.inr (.inl hformat)), hconfigured 20 hlevel hformat⟩

/-- A percent sign alone is no field, and the level is set before that is seen. -/
theorem configure_halfDone :
    let root : RootLogger := ⟨10, [none, none]⟩
    let level : LevelChoice := .number 35
    let format := "100%".toList
    root.configure level format = (.error (.badFormat format), ⟨35, [none, none]⟩) ∧
      ¬ root.AllOrNothing level format (root.configure level format) := by
  intro root level format
  have hformat : ¬ AcceptedFormat format := by
    rintro (h | h)
    · exact List.cons_ne_nil _ _ h
    · exact absurd (hasField_iff.mpr h) (by decide)
  refine ⟨configure_of_badFormat (.number 35) hformat, fun h => ?_⟩
  rw [allOrNothing_of_badFormat_iff (.number 35) hformat] at h
  cases h

end RootLogger

end CronSchedule.Log
