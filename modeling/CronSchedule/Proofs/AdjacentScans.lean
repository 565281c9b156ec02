/-
Scans one after the other. What a cursor gives up to its end depends on the
minutes it may look at and on nothing else, so a scan can be cut at any
minute, also in the middle of a day or of an hour that it passes over at
once: what is found before the cut and what is found from there on is what
one scan finds.

* `search_charges`: a search is charged for all minutes up to the one it
  finds, those it passes over included.
* `Gives.resume`: what is still to come after a run.
* `gives_adjacent`: two scans one after the other, and a scan that is taken
  up again at a run.
-/
import CronSchedule.Proofs.CursorPulls
import CronSchedule.Proofs.Window

namespace CronSchedule

/-- The instant this many minutes later, at the same second; none past the end of the calendar. -/
def Instant.plus? (i : Instant) (minutes : Nat) : Option Instant :=
  if h : i.toMinute.number + minutes < minuteCount then
    some { ofMinute ⟨i.toMinute.number + minutes, h⟩ i.offset with second := i.second, microsecond := i.microsecond }
  else none

theorem Instant.plus?_eq_some {i : Instant} {minutes : Nat} (h : i.toMinute.number + minutes < minuteCount) :
    ∃ later, i.plus? minutes = some later ∧ later.toMinute.number = i.toMinute.number + minutes ∧
      later.offset = i.offset := by
  refine ⟨_, dif_pos h, ?_, rfl⟩
  exact congrArg Minute.number (toMinute_ofMinute ⟨i.toMinute.number + minutes, h⟩ i.offset)

/-! ## All that a cursor gives -/

namespace Cursor

/-- The cursor gives these runs, one a pull, and then comes to its end. -/
inductive Gives : Cursor → List Instant → Prop
  | finish {c rest : Cursor} : c.pull = (.ok none, rest) → Gives c []
  | run {c rest : Cursor} {run : Instant} {runs : List Instant} : c.pull = (.ok (some run), rest) →
      Gives rest runs → Gives c (run :: runs)

variable {c d : Cursor} {runs runs' : List Instant}

theorem Gives.unique (h : c.Gives runs) (h' : c.Gives runs') : runs = runs' := by
  induction h generalizing runs' with
  | finish hp =>
    cases h' with
    | finish => rfl
    | run hp' =>
      rw [hp] at hp'
      cases hp'
  | run hp _ ih =>
    cases h' with
    | finish hp' =>
      rw [hp] at hp'
      cases hp'
    | run hp' hrest =>
      rw [hp] at hp'
      cases hp'
      rw [ih hrest]

theorem Gives.of_pull_eq (h : c.Gives runs) (hp : c.pull = d.pull) : d.Gives runs := by
  cases h with
  | finish hend => exact .finish (hp ▸ hend)
  | run hrun hrest => exact .run (hp ▸ hrun) hrest

theorem gives_of_runs (h : c.runs (runs.length + 1) = .ok runs) : c.Gives runs := by
  induction runs generalizing c with
  | nil =>
    rcases pull_cases c with ⟨run, rest, hp⟩ | hp | hp
    · rw [runs_of_some hp] at h
      cases h
    · exact .finish hp
    · rw [runs_of_error hp] at h
      cases h
  | cons run runs ih =>
    rw [List.length_cons] at h
    rcases pull_cases c with ⟨found, rest, hp⟩ | hp | hp
    · rw [runs_of_some hp] at h
      cases hrest : rest.runs (runs.length + 1) with
      | error e =>
        rw [hrest] at h
        cases h
      | ok others =>
        rw [hrest] at h
        cases h
        exact .run hp (ih hrest)
    · rw [runs_of_none hp] at h
      cases h
    · rw [runs_of_error hp] at h
      cases h

end Cursor

/-! ## Windows -/

namespace Schedule

variable {s : Schedule} {offset : Option Offset}

theorem runsIn_add (first a b : Nat) :
    s.runsIn offset first (a + b) = s.runsIn offset first a ++ s.runsIn offset (first + a) b := by
  simp only [runsIn, ← List.range'_append_1, List.filterMap_append, List.filter_append]

/-- **A search is charged for the minutes it passes over**: what is left of the budget are the minutes after the one it
finds. -/
theorem search_charges {next budget left : Nat} {m : Minute} (h : s.search next budget = .ok (some (m, left))) :
    next ≤ m.number ∧ m.number + 1 + left = next + budget := by
  fun_induction search s next budget with
  | case1 next => cases h
  | case2 next budget _ _ _ _ ih =>
    have := ih h
    omega
  | case3 next budget _ _ _ _ _ ih =>
    have := ih h
    omega
  | case4 next budget hb hlt =>
    simp only [Except.ok.injEq, Option.some.injEq, Prod.mk.injEq] at h
    obtain ⟨hm, hleft⟩ := h
    have hnumber : m.number = next := congrArg Minute.number hm.symm
    omega
  | case5 next budget _ _ _ _ _ _ ih =>
    have := ih h
    omega
  | case6 next budget => cases h

end Schedule

namespace Cursor

variable {s : Schedule} {offset : Option Offset} {start run : Instant}

/-- A cursor that was not looked at yet starts at the next minute, if there is one. -/
theorem pull_fresh (h : start.toMinute.number + 1 < minuteCount) (limit : Int) :
    (fresh s start limit).pull = (running s start.offset (start.toMinute.number + 1) limit.toNat).pull := by
  simp only [pull, h, if_true]

theorem gives_running {next budget : Nat} (h : next + budget ≤ minuteCount) :
    (running s offset next budget).Gives (s.runsIn offset next budget) := by
  refine gives_of_runs ?_
  rw [runs_running, Schedule.walk_eq_take h, List.take_of_length_le (Nat.le_succ _)]

/-- After a run that was found stands the cursor of the minutes after it that the budget has left. -/
theorem Gives.rest {next budget : Nat} {rest : Cursor} {runs : List Instant}
    (hp : (running s offset next budget).pull = (.ok (some run), rest)) (hrest : rest.Gives runs) :
    run.offset = offset ∧ next ≤ run.toMinute.number ∧ run.toMinute.number < next + budget ∧
      (running s offset (run.toMinute.number + 1) (next + budget - (run.toMinute.number + 1))).Gives runs := by
  simp only [pull, seek] at hp
  split at hp
  next m left hs =>
    cases hp
    obtain ⟨hle, hleft⟩ := Schedule.search_charges hs
    rw [Instant.toMinute_ofMinute]
    refine ⟨rfl, hle, by omega, ?_⟩
    rwa [← hleft, Nat.add_sub_cancel_left]
  next => cases hp
  next => cases hp

/-- **What is still to come after a run** are the runs of the minutes after it that the budget has left. -/
theorem Gives.resume {next budget : Nat} {before after : List Instant}
    (h : (running s offset next budget).Gives (before ++ run :: after)) :
    run.offset = offset ∧ next ≤ run.toMinute.number ∧ run.toMinute.number < next + budget ∧
      (running s offset (run.toMinute.number + 1) (next + budget - (run.toMinute.number + 1))).Gives after := by
  induction before generalizing next budget with
  | nil =>
    cases h with
    | run hp hrest => exact Gives.rest hp hrest
  | cons first before ih =>
    cases h with
    | run hp hrest =>
      obtain ⟨_, hle, hlt, hgives⟩ := Gives.rest hp hrest
      obtain ⟨ho, hlater, hbelow, hgives⟩ := ih hgives
      -- the first run and the minutes left after it end where the budget does
      have hend : first.toMinute.number + 1 + (next + budget - (first.toMinute.number + 1)) = next + budget := by omega
      rw [hend] at hbelow hgives
      exact ⟨ho, by omega, hbelow, hgives⟩

theorem gives_fresh {limit : Int} (hfirst : start.toMinute.number + 1 < minuteCount)
    (hlast : start.toMinute.number + limit.toNat < minuteCount) :
    (fresh s start limit).Gives (s.runsIn start.offset (start.toMinute.number + 1) limit.toNat) :=
  (gives_running (by omega)).of_pull_eq (pull_fresh hfirst limit).symm

/-- **Scans one after the other.** The runs after an instant among the next `a + b` minutes are those among the next `a`
minutes, and after them those that a scan started `a` minutes later finds in `b` minutes. And a scan started at one of
these runs, with what is left of the budget, finds those that come after it. The calendar has to have all these minutes,
and the first one of each scan besides, which is formed even if nothing may be scanned. A run is not later than the last
of these minutes, so a minute more is enough for all. -/
theorem gives_adjacent (s : Schedule) (start : Instant) (a b : Nat)
    (hlast : start.toMinute.number + (a + b) < minuteCount) (hfirst : start.toMinute.number + a + 1 < minuteCount) :
    ∃ later earlierRuns laterRuns, start.plus? a = some later ∧ (fresh s start a).Gives earlierRuns ∧
      (fresh s later b).Gives laterRuns ∧ (fresh s start (a + b)).Gives (earlierRuns ++ laterRuns) ∧
      ∀ before run after, earlierRuns ++ laterRuns = before ++ run :: after →
        let used := run.toMinute.number - start.toMinute.number
        (1 ≤ used ∧ used ≤ a + b) ∧
          (run.toMinute.number + 1 < minuteCount → (fresh s run (a + b - used : Nat)).Gives after) := by
  have hwithin : start.toMinute.number + a < minuteCount := by omega
  obtain ⟨later, hlater, hnumber, hoffset⟩ := Instant.plus?_eq_some hwithin
  have hearly := @gives_fresh s start a (by omega) (by omega)
  have hlate := @gives_fresh s later b (by omega) (by omega)
  have hall := @gives_fresh s start (a + b) (by omega) (by omega)
  have hparts : s.runsIn start.offset (start.toMinute.number + 1) (a + b : Int).toNat =
      s.runsIn start.offset (start.toMinute.number + 1) (a : Int).toNat ++
        s.runsIn later.offset (later.toMinute.number + 1) (b : Int).toNat := by
    rw [hoffset, hnumber, show (a + b : Int).toNat = a + b by omega, Schedule.runsIn_add, Int.toNat_natCast,
      Int.toNat_natCast, Nat.add_right_comm]
  rw [hparts] at hall
  refine ⟨later, _, _, hlater, hearly, hlate, hall, fun before run after hsplit => ?_⟩
  have hgives := hall.of_pull_eq (pull_fresh (by omega) _)
  rw [hsplit] at hgives
  obtain ⟨ho, hle, hlt, hafter⟩ := hgives.resume
  refine ⟨by omega, fun hnext => Gives.of_pull_eq hafter ?_⟩
  rw [pull_fresh hnext, ho, Int.toNat_natCast]
  congr 2
  omega

/-- A scan cut in the last minute of a day that it passes over finds the midnight after it, and nothing more from there
on. -/
theorem gives_adjacent_midnight :
    let leapDay : Schedule := ⟨[0], [0], [29], [2], [0, 1, 2, 3, 4, 5, 6]⟩
    let start : Instant := ⟨⟨2024, 2, 28, by decide⟩, 23, 58, 30, 0, none⟩
    let midnight : Instant := ⟨⟨2024, 2, 29, by decide⟩, 0, 0, 0, 0, none⟩
    (start.toMinute.number + (1 + 2) < minuteCount ∧ start.toMinute.number + 1 + 1 < minuteCount) ∧
      ∃ later, start.plus? 1 = some later ∧ (fresh leapDay start 1).Gives [] ∧
        (fresh leapDay later 2).Gives [midnight] ∧ (fresh leapDay start 3).Gives [midnight] ∧
        (fresh leapDay midnight 1).Gives [] := by
  intro leapDay start midnight
  have hlast : start.toMinute.number + (1 + 2) < minuteCount := by decide
  have hfirst : start.toMinute.number + 1 + 1 < minuteCount := by decide
  obtain ⟨later, earlierRuns, laterRuns, hplus, hearly, hlate, hall, hafter⟩ :=
    gives_adjacent leapDay start 1 2 hlast hfirst
  have hnone : leapDay.runsIn start.offset (start.toMinute.number + 1) 1 = [] := by decide +kernel
  have hone : leapDay.runsIn start.offset (start.toMinute.number + 1) 3 = [midnight] := by decide +kernel
  have hbefore : (fresh leapDay start 1).Gives [] := by
    rw [← hnone]
    exact gives_fresh (Nat.lt_of_succ_lt hfirst) (Nat.lt_of_succ_lt hfirst)
  have hwhole : (fresh leapDay start 3).Gives [midnight] := by
    rw [← hone]
    exact gives_fresh (Nat.lt_of_succ_lt hfirst) hlast
  obtain rfl : earlierRuns = [] := hearly.unique hbefore
  obtain rfl : laterRuns = [midnight] := hall.unique hwhole
  have hused : midnight.toMinute.number - start.toMinute.number = 2 := by decide
  obtain ⟨_, hrest⟩ := hafter [] midnight [] rfl
  rw [hused] at hrest
  exact ⟨⟨hlast, hfirst⟩, later, hplus, hearly, hlate, hall, hrest (by decide)⟩

end Cursor
end CronSchedule
