/-
The day rule of a schedule that was read. The rule counts the values of
the two day fields to find out whether they restrict anything. What is
read is ascending and of the range of its field, so the count is full only
for all values, in whatever way the text spells them.

* `WellFormed.everyDay_iff`, `WellFormed.everyWeekday_iff`: a day field is
  open just if it leaves nothing out.
* `dayRule_of_read`: the rule itself. Where both fields leave something
  out one of them is enough, and otherwise a date needs both.
-/
import CronSchedule.Proofs.ReadValues

namespace CronSchedule

theorem FieldSpec.Held.eq_progression_iff {spec : FieldSpec} {vs : List Int} (h : spec.Held vs) :
    (∀ v, spec.low ≤ v → v ≤ spec.high → v ∈ vs) ↔ vs = Item.progression spec.low spec.high 1 := by
  refine ⟨fun hall => ?_, fun hvs v h1 h2 => ?_⟩
  · refine h.ascending.eq_of_mem_iff (Item.progression_ascending Nat.one_pos) fun v => ?_
    rw [Item.mem_progression_one]
    exact ⟨h.inRange v, fun hv => hall v hv.1 hv.2⟩
  · rw [hvs]
    exact Item.mem_progression_one.mpr ⟨h1, h2⟩

namespace Schedule

variable {s : Schedule}

/-- Some value of the field is not in the schedule. -/
def LeavesOut (s : Schedule) (name : FieldName) : Prop :=
  ∃ v, (name.spec.low ≤ v ∧ v ≤ name.spec.high) ∧ v ∉ s.values name

/-! ## Open fields -/

theorem WellFormed.full_iff (hw : s.WellFormed) (name : FieldName) :
    ((s.values name).length == name.spec.size) = true ↔
      s.values name = Item.progression name.spec.low name.spec.high 1 := by
  rw [beq_iff_eq, (hw name).length_eq_size_iff, (hw name).eq_progression_iff]

theorem WellFormed.leavesOut_iff (hw : s.WellFormed) (name : FieldName) :
    s.LeavesOut name ↔ ((s.values name).length == name.spec.size) = false := by
  rw [← Bool.not_eq_true, beq_iff_eq, (hw name).length_eq_size_iff, LeavesOut]
  simp only [Classical.not_forall, exists_prop, and_assoc]

/-- **The day of the month is open just if its values are 1 to 31.** -/
theorem WellFormed.everyDay_iff (hw : s.WellFormed) :
    s.everyDay = true ↔ s.daysOfMonth = (List.range' 1 31).map Int.ofNat := hw.full_iff .dayOfMonth

/-- **The day of the week is open just if its values are 0 to 6.** -/
theorem WellFormed.everyWeekday_iff (hw : s.WellFormed) :
    s.everyWeekday = true ↔ s.daysOfWeek = [0, 1, 2, 3, 4, 5, 6] := hw.full_iff .dayOfWeek

theorem WellFormed.leavesOut_day_iff (hw : s.WellFormed) : s.LeavesOut .dayOfMonth ↔ s.everyDay = false :=
  hw.leavesOut_iff .dayOfMonth

theorem WellFormed.leavesOut_weekday_iff (hw : s.WellFormed) : s.LeavesOut .dayOfWeek ↔ s.everyWeekday = false :=
  hw.leavesOut_iff .dayOfWeek

theorem WellFormed.mem_of_full (hw : s.WellFormed) (name : FieldName)
    (h : ((s.values name).length == name.spec.size) = true) {v : Int}
    (hv : name.spec.low ≤ v ∧ v ≤ name.spec.high) : v ∈ s.values name :=
  (hw name).length_eq_size_iff.mp (beq_iff_eq.mp h) v hv.1 hv.2

/-! ## The rule -/

theorem onDay_of_weekday {day weekday : Int} (h : s.everyWeekday = false) (hw : weekday ∈ s.daysOfWeek) :
    s.onDay day weekday = true := by
  unfold onDay
  rw [h]
  cases s.everyDay <;> simp [hw]

theorem onDay_iff_or {day weekday : Int} (hd : s.everyDay = false) (hw : s.everyWeekday = false) :
    s.onDay day weekday = true ↔ day ∈ s.daysOfMonth ∨ weekday ∈ s.daysOfWeek := by
  unfold onDay
  rw [hd, hw]
  simp

theorem WellFormed.onDay_iff_and (hw : s.WellFormed) {day weekday : Int} (hd : 1 ≤ day ∧ day ≤ 31)
    (hwd : 0 ≤ weekday ∧ weekday ≤ 6) (hopen : s.everyDay = true ∨ s.everyWeekday = true) :
    s.onDay day weekday = true ↔ day ∈ s.daysOfMonth ∧ weekday ∈ s.daysOfWeek := by
  have hday : s.everyDay = true → day ∈ s.daysOfMonth := fun h => hw.mem_of_full .dayOfMonth h hd
  have hweekday : s.everyWeekday = true → weekday ∈ s.daysOfWeek := fun h => hw.mem_of_full .dayOfWeek h hwd
  unfold onDay
  cases h1 : s.everyDay <;> cases h2 : s.everyWeekday <;> simp_all

theorem WellFormed.onDay_iff (hw : s.WellFormed) (h : s.everyWeekday = true) {day weekday : Int}
    (hd : 1 ≤ day ∧ day ≤ 31) : s.onDay day weekday = true ↔ day ∈ s.daysOfMonth := by
  unfold onDay
  rw [h]
  cases hall : s.everyDay with
  | false => simp
  | true =>
    have hmem : day ∈ s.daysOfMonth := hw.mem_of_full .dayOfMonth hall hd
    simp [hmem]

/-- **The day rule of what is read.** A day field is open just if its values are all there are, and a date meets the
rule if one of its fields is among the values where both leave something out, and if both are otherwise. -/
theorem dayRule_of_read {t : Text} {e : Expression} (h : Expression.read t = .ok e) :
    (e.schedule.everyDay = true ↔ e.schedule.daysOfMonth = (List.range' 1 31).map Int.ofNat) ∧
      (e.schedule.everyWeekday = true ↔ e.schedule.daysOfWeek = [0, 1, 2, 3, 4, 5, 6]) ∧
      ∀ day weekday : Int, (1 ≤ day ∧ day ≤ 31) → (0 ≤ weekday ∧ weekday ≤ 6) →
        (e.schedule.LeavesOut .dayOfMonth ∧ e.schedule.LeavesOut .dayOfWeek →
          (e.schedule.onDay day weekday = true ↔
            day ∈ e.schedule.daysOfMonth ∨ weekday ∈ e.schedule.daysOfWeek)) ∧
        (¬ (e.schedule.LeavesOut .dayOfMonth ∧ e.schedule.LeavesOut .dayOfWeek) →
          (e.schedule.onDay day weekday = true ↔
            day ∈ e.schedule.daysOfMonth ∧ weekday ∈ e.schedule.daysOfWeek)) := by
  have hw := Expression.read_wellFormed h
  refine ⟨hw.everyDay_iff, hw.everyWeekday_iff, fun day weekday hd hwd => ?_⟩
  rw [hw.leavesOut_day_iff, hw.leavesOut_weekday_iff]
  refine ⟨fun hboth => onDay_iff_or hboth.1 hboth.2, fun hnot => hw.onDay_iff_and hd hwd ?_⟩
  cases hday : e.schedule.everyDay with
  | true => exact .inl rfl
  | false => exact .inr ((Bool.not_eq_false _).mp fun hweekday => hnot ⟨hday, hweekday⟩)

/-- Two halves that overlap are all days, so the days of the week decide alone: a Sunday is out, whatever its date. -/
theorem dayRule_of_read_overlapping :
    ∃ e, Expression.read "0 0 1-15,10-31 * mon-5,TUE".toList = .ok e ∧ e.schedule.everyDay = true ∧
      e.schedule.onDay 13 1 = true ∧ e.schedule.onDay 13 0 = false := by
  obtain ⟨e, hread, hdays, hweekdays⟩ : ∃ e, Expression.read "0 0 1-15,10-31 * mon-5,TUE".toList = .ok e ∧
      e.schedule.daysOfMonth = (List.range' 1 31).map Int.ofNat ∧ e.schedule.daysOfWeek = [1, 2, 3, 4, 5] :=
    ⟨_, by rfl, by rfl, by rfl⟩
  obtain ⟨hevery, _, hrule⟩ := dayRule_of_read hread
  have hall : ¬ (e.schedule.LeavesOut .dayOfMonth ∧ e.schedule.LeavesOut .dayOfWeek) := by
    rw [(Expression.read_wellFormed hread).leavesOut_day_iff, hevery.mpr hdays]
    simp
  refine ⟨e, hread, hevery.mpr hdays, ?_, ?_⟩
  · rw [(hrule 13 1 (by decide) (by decide)).2 hall, hdays, hweekdays]
    decide
  · rw [← Bool.not_eq_true, (hrule 13 0 (by decide) (by decide)).2 hall, hdays, hweekdays]
    decide

end Schedule
end CronSchedule
