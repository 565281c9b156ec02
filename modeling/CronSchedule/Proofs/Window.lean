/-
The runs in a window of consecutive minutes, and what the walk makes of a
window: its first runs, or a failure where the calendar ends too early.

* `walk_eq_take`: inside the calendar a walk finds the first runs of the
  window.
* `walk_eq_error_iff`: a walk fails if its window leaves the calendar and
  the minutes up to there do not hold runs enough.
* `nextRuns_eq_walk`: the runs after an instant are those of the walk from
  the next minute on, which has to exist.
* `nextRuns_eq_take`: so inside the calendar they are the first runs of the
  minutes after it.
-/
import CronSchedule.Runs.Walk

namespace CronSchedule

/-- The start of the wall-clock minute with this number; none if the calendar has no such minute. -/
def Instant.at? (offset : Option Offset) (number : Nat) : Option Instant :=
  if h : number < minuteCount then some (.ofMinute ⟨number, h⟩ offset) else none

theorem Instant.at?_of_lt {offset : Option Offset} {number : Nat} (h : number < minuteCount) :
    Instant.at? offset number = some (.ofMinute ⟨number, h⟩ offset) := dif_pos h

theorem Instant.at?_of_le {offset : Option Offset} {number : Nat} (h : minuteCount ≤ number) :
    Instant.at? offset number = none := dif_neg (Nat.not_lt.mpr h)

namespace Schedule

/-- The runs in the `length` minutes from the minute `first` on, ascending. -/
def runsIn (s : Schedule) (offset : Option Offset) (first length : Nat) : List Instant :=
  ((List.range' first length).filterMap (Instant.at? offset)).filter s.admits

variable {s : Schedule} {offset : Option Offset}

theorem mem_runsIn {first length : Nat} {i : Instant} :
    i ∈ s.runsIn offset first length ↔
      ∃ m : Minute, first ≤ m.number ∧ m.number < first + length ∧ i = .ofMinute m offset ∧ s.admits i = true := by
  simp only [runsIn, List.mem_filter, List.mem_filterMap, List.mem_range'_1]
  refine ⟨fun hmem => ?_, fun hmem => ?_⟩
  · obtain ⟨⟨n, ⟨h1, h2⟩, hi⟩, ha⟩ := hmem
    by_cases h : n < minuteCount
    · rw [Instant.at?_of_lt h, Option.some.injEq] at hi
      exact ⟨⟨n, h⟩, h1, h2, hi.symm, ha⟩
    · rw [Instant.at?_of_le (Nat.not_lt.mp h)] at hi
      cases hi
  · obtain ⟨m, h1, h2, rfl, ha⟩ := hmem
    exact ⟨⟨m.number, ⟨h1, h2⟩, Instant.at?_of_lt m.inCalendar⟩, ha⟩

theorem runsIn_succ {first length : Nat} (h : first < minuteCount) :
    s.runsIn offset first (length + 1) =
      if s.admits (.ofMinute ⟨first, h⟩ offset) then .ofMinute ⟨first, h⟩ offset :: s.runsIn offset (first + 1) length
      else s.runsIn offset (first + 1) length := by
  simp only [runsIn, List.range'_succ, List.filterMap_cons, Instant.at?_of_lt h, List.filter_cons]

/-- **Inside the calendar a walk finds the first runs of its window.** -/
theorem walk_eq_take {budget next count : Nat} (h : next + budget ≤ minuteCount) :
    s.walk offset budget next count = .ok ((s.runsIn offset next budget).take count) := by
  induction budget generalizing next count with
  | zero => simp [walk, runsIn]
  | succ budget ih =>
    cases count with
    | zero => simp [walk_zero]
    | succ count =>
      have hlt : next < minuteCount := by omega
      rw [walk, dif_pos hlt, runsIn_succ hlt]
      by_cases ha : s.admits (.ofMinute ⟨next, hlt⟩ offset) = true
      · simp only [ha, if_true, List.take_succ_cons, ih (show next + 1 + budget ≤ minuteCount by omega)]
        rfl
      · simp only [ha, Bool.false_eq_true, if_false, ih (show next + 1 + budget ≤ minuteCount by omega)]

/-- **A walk fails** if its window leaves the calendar and the minutes up to there do not hold runs enough. -/
theorem walk_eq_error_iff {budget next count : Nat} (h : next ≤ minuteCount) :
    s.walk offset budget next count = .error ⟨⟩ ↔
      minuteCount < next + budget ∧ (s.runsIn offset next (minuteCount - next)).length < count := by
  induction budget generalizing next count with
  | zero => simp [walk]; omega
  | succ budget ih =>
    cases count with
    | zero => simp [walk_zero]
    | succ count =>
      rw [walk]
      by_cases hlt : next < minuteCount
      · obtain ⟨left, hleft⟩ : ∃ left, minuteCount - next = left + 1 := ⟨minuteCount - next - 1, by omega⟩
        have hleft' : minuteCount - (next + 1) = left := by omega
        rw [dif_pos hlt, hleft, runsIn_succ hlt]
        have ih := fun c => @ih (next + 1) c (by omega)
        rw [hleft'] at ih
        by_cases ha : s.admits (.ofMinute ⟨next, hlt⟩ offset) = true
        · have hmap : ∀ r : Except CalendarEnd (List Instant),
              r.map (Instant.ofMinute ⟨next, hlt⟩ offset :: ·) = .error ⟨⟩ ↔ r = .error ⟨⟩ := by
            intro r
            cases r <;> simp [Except.map]
          simp only [ha, if_true, hmap, ih, List.length_cons]
          omega
        · simp only [ha, Bool.false_eq_true, if_false, ih]
          omega
      · have hnone : s.runsIn offset next (minuteCount - next) = [] := by
          rw [show minuteCount - next = 0 by omega]
          rfl
        rw [dif_neg hlt, hnone]
        simp only [List.length_nil, true_iff]
        omega

theorem nextRuns_eq_walk {start : Instant} {count limit : Int} (hc : 0 < count) :
    s.nextRuns start count limit =
      if start.toMinute.number + 1 < minuteCount then
        s.walk start.offset limit.toNat (start.toMinute.number + 1) count.toNat
      else .error ⟨⟩ := by
  obtain ⟨k, hk⟩ : ∃ k, count.toNat = k + 1 := ⟨count.toNat - 1, by omega⟩
  rw [nextRuns, hk]
  by_cases h : start.toMinute.number + 1 < minuteCount
  · rw [if_pos h, ← runs_running]
    simp only [Cursor.runs, Cursor.pull, h, if_true]
  · rw [if_neg h]
    simp only [Cursor.runs, Cursor.pull, h, if_false]

theorem nextRuns_of_nonpos {start : Instant} {count limit : Int} (hc : count ≤ 0) :
    s.nextRuns start count limit = .ok [] := by
  rw [nextRuns, show count.toNat = 0 by omega]
  rfl

/-- **Inside the calendar the runs after an instant** are the first runs of the minutes after it. -/
theorem nextRuns_eq_take {start : Instant} {count limit : Int} (h1 : start.toMinute.number + 1 < minuteCount)
    (h2 : start.toMinute.number + 1 + limit.toNat ≤ minuteCount) :
    s.nextRuns start count limit =
      .ok ((s.runsIn start.offset (start.toMinute.number + 1) limit.toNat).take count.toNat) := by
  by_cases hc : 0 < count
  · rw [nextRuns_eq_walk hc, if_pos h1, walk_eq_take h2]
  · rw [nextRuns_of_nonpos (by omega), show count.toNat = 0 by omega, List.take_zero]

end Schedule
end CronSchedule
