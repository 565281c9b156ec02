/-
The runs of a schedule by the plainest rule there is: from the next
minute on, one minute of the clock after the other, each formed from the
one before by carrying. The search that passes over days and hours gives
the same runs, and comes to the end of the calendar on the same questions.

* `nextRuns_eq_plainRuns`: the same answers, failures included.
-/
import CronSchedule.Proofs.Tick
import CronSchedule.Proofs.Window

namespace CronSchedule
namespace Schedule

/-- Looks at up to `budget` minutes, the candidate first, and stops at the run number `count`. A minute that the
calendar does not have fails the walk as soon as it is looked at. -/
def minuteByMinute (s : Schedule) : (budget count : Nat) → Option Instant → Except CalendarEnd (List Instant)
  | 0, _, _ => .ok []
  | _ + 1, 0, _ => .ok []
  | _ + 1, _ + 1, none => .error ⟨⟩
  | budget + 1, count + 1, some i =>
    if s.admits i then (s.minuteByMinute budget count i.tick?).map (i :: ·)
    else s.minuteByMinute budget (count + 1) i.tick?

/-- The first `count` runs after `start`, of those among the next `limit` minutes, looked for minute by minute. The
first of these minutes has to exist whatever the limit is. -/
def plainRuns (s : Schedule) (start : Instant) (count limit : Int) : Except CalendarEnd (List Instant) :=
  if count ≤ 0 then .ok []
  else
    match start.tick? with
    | none => .error ⟨⟩
    | some first => s.minuteByMinute limit.toNat count.toNat (some first)

variable {s : Schedule} {offset : Option Offset}

theorem tick?_ofMinute (m : Minute) : (Instant.ofMinute m offset).tick? = Instant.at? offset (m.number + 1) := by
  rw [Instant.tick?_eq, Instant.toMinute_ofMinute]
  rfl

theorem minuteByMinute_eq_walk {budget count number : Nat} :
    s.minuteByMinute budget count (Instant.at? offset number) = s.walk offset budget number count := by
  induction budget generalizing count number with
  | zero => simp [minuteByMinute, walk]
  | succ budget ih =>
    cases count with
    | zero => rw [walk_zero, minuteByMinute]
    | succ count =>
      rw [walk]
      by_cases h : number < minuteCount
      · rw [dif_pos h, Instant.at?_of_lt h, minuteByMinute, tick?_ofMinute, ih, ih]
      · rw [dif_neg h, Instant.at?_of_le (Nat.not_lt.mp h), minuteByMinute]

/-- **The runs are those of the plain walk.** The search and the minute by minute walk give the same answer to every
question, and they fail just if the minute after the start does not exist, or if the minutes asked for leave the
calendar and those up to its end do not hold runs enough. -/
theorem nextRuns_eq_plainRuns (s : Schedule) (start : Instant) (count limit : Int) :
    s.nextRuns start count limit = s.plainRuns start count limit ∧
      (s.nextRuns start count limit = .error ⟨⟩ ↔
        let first := start.toMinute.number + 1
        0 < count ∧ (minuteCount ≤ first ∨
          minuteCount < first + limit ∧
            (s.runsIn start.offset first (minuteCount - first)).length < count)) := by
  by_cases hc : 0 < count
  · rw [nextRuns_eq_walk hc, plainRuns, if_neg (show ¬ count ≤ 0 by omega), Instant.tick?_eq]
    by_cases h : start.toMinute.number + 1 < minuteCount
    · rw [if_pos h, dif_pos h]
      refine ⟨?_, ?_⟩
      · rw [← minuteByMinute_eq_walk, Instant.at?_of_lt h]
      · rw [walk_eq_error_iff (Nat.le_of_lt h)]
        dsimp only
        omega
    · rw [if_neg h, dif_neg h]
      refine ⟨rfl, ?_⟩
      simp only [true_iff]
      exact ⟨hc, .inl (by omega)⟩
  · rw [nextRuns_of_nonpos (by omega), plainRuns, if_pos (show count ≤ 0 by omega)]
    refine ⟨rfl, ?_⟩
    simp only [reduceCtorEq, false_iff, not_and]
    exact fun h => absurd h hc

end Schedule
end CronSchedule
