/-
The plain walk: one wall-clock minute after the other, each looked at and
each charged to the budget. It is what a cursor comes to.

* `walk_search`: a walk first comes to the minute that a search finds, and
  goes on from there with the budget the search left.
* `runs_running`: the runs a cursor finds are those of the walk from where
  it stands.
-/
import CronSchedule.Runs.Cursor

namespace CronSchedule

/-- The first `count` minutes from `next` on in which the schedule runs, of those among the next `budget` ones. A walk
that goes on past the end of the calendar fails. -/
def Schedule.walk (s : Schedule) (offset : Option Offset) :
    (budget next count : Nat) → Except CalendarEnd (List Instant)
  | 0, _, _ => .ok []
  | _ + 1, _, 0 => .ok []
  | budget + 1, next, count + 1 =>
    if h : next < minuteCount then
      let i := Instant.ofMinute ⟨next, h⟩ offset
      if s.admits i then (s.walk offset budget (next + 1) count).map (i :: ·)
      else s.walk offset budget (next + 1) (count + 1)
    else .error ⟨⟩

theorem walk_zero {s : Schedule} {offset} (budget next : Nat) : s.walk offset budget next 0 = .ok [] := by
  cases budget <;> rfl

/-- A walk passes over minutes that do not match. -/
theorem walk_skip {s : Schedule} {offset} {count k : Nat} : ∀ {budget next}, next + k ≤ minuteCount →
    (∀ m : Minute, next ≤ m.number → m.number < next + k → s.admits (.ofMinute m offset) = false) →
    s.walk offset budget next count = s.walk offset (budget - k) (next + k) count := by
  induction k with
  | zero => intros; rfl
  | succ k ih =>
    intro budget next hk hno
    cases budget with
    | zero => simp [Schedule.walk]
    | succ budget =>
      cases count with
      | zero => simp [walk_zero]
      | succ count =>
        have hlt : next < minuteCount := by omega
        have h0 := hno ⟨next, hlt⟩ (Nat.le_refl _) (by simp)
        rw [Schedule.walk, dif_pos hlt]
        simp only [h0, Bool.false_eq_true, if_false]
        rw [ih (by omega) (fun m h1 h2 => hno m (by omega) (by omega))]
        congr 1 <;> omega

theorem walk_search {s : Schedule} {offset} {count : Nat} (next budget : Nat) :
    s.walk offset budget next (count + 1) =
      match s.search next budget with
      | .ok (some (m, left)) => (s.walk offset left (m.number + 1) count).map (.ofMinute m offset :: ·)
      | .ok none => .ok []
      | .error e => .error e := by
  fun_induction Schedule.search s next budget with
  | case1 next => simp [Schedule.walk]
  | case2 next budget hb h m hd ih =>
    rw [← ih]
    refine walk_skip m.toMidnight_le fun n h1 h2 => ?_
    have := Minute.date_eq (show m.number ≤ n.number from h1) h2
    simp [Schedule.admits, Instant.ofMinute, this] at hd ⊢
    simp [hd]
  | case3 next budget hb h m hd hh ih =>
    rw [← ih]
    refine walk_skip m.toFullHour_le fun n h1 h2 => ?_
    have := Minute.hour_eq (show m.number ≤ n.number from h1) h2
    simp [Schedule.admits, Instant.ofMinute, this] at hh ⊢
    simp [hh]
  | case4 next budget hb h m hd hh hm =>
    obtain ⟨b, rfl⟩ : ∃ b, budget = b + 1 := ⟨budget - 1, by omega⟩
    have : s.admits (.ofMinute m offset) = true := by
      simp at hd hh; simp [Schedule.admits, Instant.ofMinute, hd, hh, hm]
    rw [Schedule.walk, dif_pos h]
    simp only [show (⟨next, h⟩ : Minute) = m from rfl, this, if_true]
    rfl
  | case5 next budget hb h m hd hh hm ih =>
    obtain ⟨b, rfl⟩ : ∃ b, budget = b + 1 := ⟨budget - 1, by omega⟩
    have : s.admits (.ofMinute m offset) = false := by simp [Schedule.admits, Instant.ofMinute, hm]
    rw [← ih, Schedule.walk, dif_pos h]
    simp only [show (⟨next, h⟩ : Minute) = m from rfl, this, Bool.false_eq_true, if_false]
    rfl
  | case6 next budget hb h =>
    obtain ⟨b, rfl⟩ : ∃ b, budget = b + 1 := ⟨budget - 1, by omega⟩
    rw [Schedule.walk, dif_neg h]

/-- **The runs of a cursor are those of the plain walk.** -/
theorem runs_running {s : Schedule} {offset} (count : Nat) : ∀ next budget,
    (Cursor.running s offset next budget).runs count = s.walk offset budget next count := by
  induction count with
  | zero => intro next budget; rw [walk_zero]; rfl
  | succ count ih =>
    intro next budget
    rw [walk_search]
    simp only [Cursor.runs, Cursor.pull, Cursor.seek]
    cases hs : s.search next budget with
    | error e => rfl
    | ok found =>
      cases found with
      | none => rfl
      | some r => simp only [ih]

end CronSchedule
