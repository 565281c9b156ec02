/-
Years and months of the calendar: leap years, the lengths of the months,
and the year that a count of days since the first of January of the year
1 falls in.

* `yearOf_eq`: a day lies in the year whose first day is not after it and
  whose successor's first day is.
* `takeMonths_eq`: taking whole months off a day of the year undoes adding
  them.
-/
namespace CronSchedule.Calendar

/-- Every fourth year is a leap year, but of the hundredth ones only every fourth. -/
def isLeapYear (year : Nat) : Bool := year % 4 == 0 && (year % 100 != 0 || year % 400 == 0)

/-- The lengths of the twelve months. -/
def monthLengths (leap : Bool) : List Nat := [31, if leap then 29 else 28, 31, 30, 31, 30, 31, 31, 30, 31, 30, 31]

/-- The days of months of these lengths. -/
def totalDays : List Nat → Nat
  | [] => 0
  | length :: rest => length + totalDays rest

/-- The length of a month, counted from 1. -/
def daysInMonth (year month : Nat) : Nat := (monthLengths (isLeapYear year)).getD (month - 1) 0

/-- The days from the first of January of the year 1 to that of `year`. -/
def daysBeforeYear (year : Nat) : Nat :=
  let p := year - 1
  365 * p + p / 4 - p / 100 + p / 400

/-- The year a day falls in, by its number. The quotient by the mean length of a year is off by one at most. -/
def yearOf (n : Nat) : Nat :=
  let guess := 400 * n / 146097 + 1
  if n < daysBeforeYear guess then guess - 1
  else if n < daysBeforeYear (guess + 1) then guess
  else guess + 1

/-- Takes whole months off a count of days: how many there are, and the days left. -/
def takeMonths : List Nat → Nat → Nat × Nat
  | [], days => (0, days)
  | length :: rest, days =>
    if days < length then (0, days)
    else
      let (months, left) := takeMonths rest (days - length)
      (months + 1, left)

/-! ## Years -/

theorem isLeapYear_iff {y : Nat} : isLeapYear y = true ↔ y % 4 = 0 ∧ (y % 100 ≠ 0 ∨ y % 400 = 0) := by
  simp [isLeapYear]

@[simp] theorem totalDays_nil : totalDays [] = 0 := rfl

@[simp] theorem totalDays_cons (length : Nat) (rest : List Nat) :
    totalDays (length :: rest) = length + totalDays rest := rfl

theorem totalDays_monthLengths (leap : Bool) : totalDays (monthLengths leap) = if leap then 366 else 365 := by
  cases leap <;> rfl

theorem daysBeforeYear_succ {y : Nat} (h : 1 ≤ y) :
    daysBeforeYear (y + 1) = daysBeforeYear y + totalDays (monthLengths (isLeapYear y)) := by
  obtain ⟨p, rfl⟩ : ∃ p, y = p + 1 := ⟨y - 1, by omega⟩
  have h4 : (p + 1) / 4 = p / 4 + if (p + 1) % 4 = 0 then 1 else 0 := by split <;> omega
  have h100 : (p + 1) / 100 = p / 100 + if (p + 1) % 100 = 0 then 1 else 0 := by split <;> omega
  have h400 : (p + 1) / 400 = p / 400 + if (p + 1) % 400 = 0 then 1 else 0 := by split <;> omega
  have hle : p / 100 ≤ p / 4 := by omega
  rw [totalDays_monthLengths]
  simp only [daysBeforeYear, Nat.add_sub_cancel, h4, h100, h400, isLeapYear_iff]
  by_cases m4 : (p + 1) % 4 = 0
  · by_cases m100 : (p + 1) % 100 = 0
    · by_cases m400 : (p + 1) % 400 = 0
      · rw [if_pos m4, if_pos m100, if_pos m400, if_pos ⟨m4, .inr m400⟩]; omega
      · rw [if_pos m4, if_pos m100, if_neg m400, if_neg (by simp [m100, m400])]; omega
    · rw [if_pos m4, if_neg m100, if_neg (by omega), if_pos ⟨m4, .inl m100⟩]; omega
  · rw [if_neg m4, if_neg (by omega), if_neg (by omega), if_neg (by simp [m4])]; omega

theorem daysBeforeYear_le (p : Nat) : 400 * daysBeforeYear (p + 1) ≤ 146097 * p + 396 := by
  simp only [daysBeforeYear, Nat.add_sub_cancel]; omega

theorem le_daysBeforeYear (p : Nat) : 146097 * p ≤ 400 * daysBeforeYear (p + 1) + 699 := by
  simp only [daysBeforeYear, Nat.add_sub_cancel]; omega

theorem daysBeforeYear_one : daysBeforeYear 1 = 0 := rfl

theorem yearOf_spec (n : Nat) :
    1 ≤ yearOf n ∧ daysBeforeYear (yearOf n) ≤ n ∧ n < daysBeforeYear (yearOf n + 1) := by
  simp only [yearOf]
  generalize hq : 400 * n / 146097 = q
  have hlo := Nat.div_mul_le_self (400 * n) 146097
  have hhi := Nat.lt_div_mul_add (a := 400 * n) (show 0 < 146097 by decide)
  rw [hq] at hlo hhi
  have h2 := le_daysBeforeYear (q + 1 + 1)
  split
  next h =>
    cases q with
    | zero => rw [daysBeforeYear_one] at h; omega
    | succ q => have := daysBeforeYear_le q; simp only [Nat.add_sub_cancel]; omega
  next h => split <;> omega

theorem yearOf_le {n : Nat} (h : n < 3652059) : yearOf n ≤ 9999 := by
  refine Decidable.byContradiction fun hn => ?_
  obtain ⟨_, h1, _⟩ := yearOf_spec n
  generalize yearOf n = y at *
  obtain ⟨p, rfl⟩ : ∃ p, y = p + 1 := ⟨y - 1, by omega⟩
  have := le_daysBeforeYear p
  simp only [daysBeforeYear] at h1
  omega

theorem daysBeforeYear_mono {a b : Nat} (ha : 1 ≤ a) (h : a ≤ b) : daysBeforeYear a ≤ daysBeforeYear b := by
  induction h with
  | refl => exact Nat.le_refl _
  | step h ih => rw [daysBeforeYear_succ (Nat.le_trans ha h)]; exact Nat.le_trans ih (Nat.le_add_right ..)

theorem yearOf_eq {n y : Nat} (hy : 1 ≤ y) (h1 : daysBeforeYear y ≤ n) (h2 : n < daysBeforeYear (y + 1)) :
    yearOf n = y := by
  obtain ⟨h0, h3, h4⟩ := yearOf_spec n
  rcases Nat.lt_trichotomy (yearOf n) y with h | h | h
  · have := daysBeforeYear_mono (by omega) (show yearOf n + 1 ≤ y by omega); omega
  · exact h
  · have := daysBeforeYear_mono (by omega) (show y + 1 ≤ yearOf n by omega); omega

/-! ## Months -/

theorem takeMonths_spec {ls : List Nat} {d : Nat} (h : d < totalDays ls) :
    (takeMonths ls d).1 < ls.length ∧ (takeMonths ls d).2 < ls.getD (takeMonths ls d).1 0 ∧
      totalDays (ls.take (takeMonths ls d).1) + (takeMonths ls d).2 = d := by
  induction ls generalizing d with
  | nil => simp at h
  | cons l ls ih =>
    simp only [takeMonths]
    split
    next hl => simp [hl]
    next hl =>
      simp only [totalDays_cons] at h
      obtain ⟨h1, h2, h3⟩ := ih (show d - l < totalDays ls by omega)
      refine ⟨by simpa using h1, by simpa using h2, ?_⟩
      simp only [List.take_succ_cons, totalDays_cons]
      omega

theorem takeMonths_eq {ls : List Nat} {m d : Nat} (h : d < ls.getD m 0) :
    takeMonths ls (totalDays (ls.take m) + d) = (m, d) := by
  induction ls generalizing m with
  | nil => simp at h
  | cons l ls ih =>
    cases m with
    | zero => simp at h; simp [takeMonths, h]
    | succ m =>
      simp only [List.getD_cons_succ] at h
      have hn : ¬ l + (totalDays (ls.take m) + d) < l := by omega
      simp only [List.take_succ_cons, totalDays_cons, takeMonths, Nat.add_assoc, hn, if_false,
        Nat.add_sub_cancel_left, ih h]

/-- One month more. -/
theorem totalDays_take_succ {ls : List Nat} {m : Nat} (h : m < ls.length) :
    totalDays (ls.take (m + 1)) = totalDays (ls.take m) + ls.getD m 0 := by
  induction ls generalizing m with
  | nil => simp at h
  | cons l ls ih =>
    cases m with
    | zero => simp
    | succ m =>
      have := ih (Nat.lt_of_succ_lt_succ h)
      simp only [List.take_succ_cons, totalDays_cons, List.getD_cons_succ] at this ⊢
      omega

theorem totalDays_take_add_lt {ls : List Nat} {m d : Nat} (h : d < ls.getD m 0) :
    totalDays (ls.take m) + d < totalDays ls := by
  induction ls generalizing m with
  | nil => simp at h
  | cons l ls ih =>
    cases m with
    | zero => simp at h ⊢; omega
    | succ m =>
      simp only [List.getD_cons_succ] at h
      have := ih h
      simp only [List.take_succ_cons, totalDays_cons]; omega

end CronSchedule.Calendar
