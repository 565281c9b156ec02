/-
Pulls on cursors. A cursor keeps its place between two pulls, and nothing
but a pull on it moves it. So among any number of cursors, pulled in any
order and with any other steps between, the answers of one of them are the
runs that a list of first runs has, one after the other, and after them
the end.

* `pull_after`: the answer to a pull after `k` others, against the lists
  of the first runs.
* `lookup_run`: the cursor under a name after a run of a session.
* `pull_interleaved`: the answers of one cursor in a run.
-/
import CronSchedule.Proofs.SessionRun
import CronSchedule.Proofs.Window

namespace CronSchedule

/-! ## One cursor -/

namespace Cursor

variable {c : Cursor}

/-- The cursor after `k` pulls. -/
def after : Nat → Cursor → Cursor
  | 0, c => c
  | k + 1, c => after k c.pull.2

theorem pull_cases (c : Cursor) :
    (∃ run rest, c.pull = (.ok (some run), rest)) ∨ c.pull = (.ok none, .finished) ∨
      c.pull = (.error ⟨⟩, .finished) := by
  have hseek : ∀ s offset next budget,
      (∃ run rest, seek s offset next budget = (.ok (some run), rest)) ∨
        seek s offset next budget = (.ok none, .finished) ∨ seek s offset next budget = (.error ⟨⟩, .finished) := by
    intro s offset next budget
    unfold seek
    split
    next => exact .inl ⟨_, _, rfl⟩
    next => exact .inr (.inl rfl)
    next => exact .inr (.inr rfl)
  cases c with
  | fresh s start limit =>
    simp only [pull]
    split
    next => exact hseek ..
    next => exact .inr (.inr rfl)
  | running s offset next budget => exact hseek ..
  | finished => exact .inr (.inl rfl)

theorem after_add (j k : Nat) (c : Cursor) : c.after (j + k) = (c.after j).after k := by
  induction j generalizing c with
  | zero => rw [Nat.zero_add, after]
  | succ j ih => rw [Nat.succ_add, after, after, ih]

theorem after_finished (k : Nat) : finished.after k = finished := by
  induction k with
  | zero => rfl
  | succ k ih => exact ih

/-- A cursor that has come to its end, or has failed, gives the end from then on. -/
theorem after_of_end (h : ∀ run, c.pull.1 ≠ .ok (some run)) (k : Nat) : (c.after (k + 1)).pull.1 = .ok none := by
  have hrest : c.pull.2 = finished := by
    rcases pull_cases c with ⟨run, rest, hp⟩ | hp | hp
    · exact absurd (by rw [hp]) (h run)
    · rw [hp]
    · rw [hp]
  rw [after, hrest, after_finished]
  rfl

/-! ## First runs -/

theorem runs_of_some {run : Instant} {rest : Cursor} (h : c.pull = (.ok (some run), rest)) (k : Nat) :
    c.runs (k + 1) = (rest.runs k).map (run :: ·) := by
  simp only [runs, h]

theorem runs_of_none (h : c.pull = (.ok none, .finished)) (k : Nat) : c.runs (k + 1) = .ok [] := by
  simp only [runs, h]

theorem runs_of_error (h : c.pull = (.error ⟨⟩, .finished)) (k : Nat) : c.runs (k + 1) = .error ⟨⟩ := by
  simp only [runs, h]

theorem length_runs_le {k : Nat} {rs : List Instant} (h : c.runs k = .ok rs) : rs.length ≤ k := by
  induction k generalizing c rs with
  | zero =>
    cases h
    exact Nat.le_refl _
  | succ k ih =>
    rcases pull_cases c with ⟨run, rest, hp⟩ | hp | hp
    · rw [runs_of_some hp] at h
      cases hr : rest.runs k with
      | error e =>
        rw [hr] at h
        cases h
      | ok found =>
        rw [hr] at h
        cases h
        exact Nat.succ_le_succ (ih hr)
    · rw [runs_of_none hp] at h
      cases h
      exact Nat.zero_le _
    · rw [runs_of_error hp] at h
      cases h

/-- Who fails to find some first runs fails to find more of them. -/
theorem runs_eq_error_of_le {j k : Nat} (hjk : j ≤ k) (h : c.runs j = .error ⟨⟩) : c.runs k = .error ⟨⟩ := by
  induction j generalizing c k with
  | zero => cases h
  | succ j ih =>
    obtain ⟨k, rfl⟩ : ∃ k', k = k' + 1 := ⟨k - 1, by omega⟩
    rcases pull_cases c with ⟨run, rest, hp⟩ | hp | hp
    · rw [runs_of_some hp] at h ⊢
      cases hr : rest.runs j with
      | ok found =>
        rw [hr] at h
        cases h
      | error e =>
        rw [ih (by omega) hr]
        rfl
    · rw [runs_of_none hp] at h
      cases h
    · exact runs_of_error hp k

/-- **The answer to a pull after `k` others** is the run number `k` of the first runs, and the failure to find so many
only the first time. -/
theorem pull_after (k : Nat) (c : Cursor) :
    (c.after k).pull.1 =
      match c.runs (k + 1) with
      | .ok rs => .ok rs[k]?
      | .error e => match c.runs k with
        | .ok _ => .error e
        | .error _ => .ok none := by
  induction k generalizing c with
  | zero =>
    rcases pull_cases c with ⟨run, rest, hp⟩ | hp | hp
    · rw [runs_of_some hp]
      simp only [after, hp]
      rfl
    · rw [runs_of_none hp]
      simp only [after, hp]
      rfl
    · rw [runs_of_error hp]
      simp only [after, hp]
      rfl
  | succ k ih =>
    rcases pull_cases c with ⟨run, rest, hp⟩ | hp | hp
    · rw [runs_of_some hp, runs_of_some hp, after, hp, ih rest]
      cases rest.runs (k + 1) with
      | ok rs => rfl
      | error e => cases rest.runs k <;> rfl
    · rw [runs_of_none hp, after, hp, after_finished]
      rfl
    · rw [runs_of_error hp, runs_of_error hp, after, hp, after_finished]
      rfl

end Cursor

/-! ## Cursors of a session -/

/-- The step pulls on the cursor of this name. -/
def Step.isPull (id : Text) : Step → Bool
  | .pull other => other == id
  | _ => false

/-- The step puts a new cursor under this name. -/
def Step.Opens (id : Text) : Step → Prop
  | .openCursor other source _ _ => other = id ∧ ∃ schedule, source.schedule = .ok schedule
  | _ => False

namespace Session

variable {s : Session} {id : Text} {c : Cursor}

theorem step_pull (h : s.cursors.lookup id = some c) :
    s.step (.pull id) = ({ s with cursors := (id, c.pull.2) :: s.cursors },
      ⟨(c.pull.1.map Answer.run).mapError StepError.calendarEnd, []⟩) := by
  simp only [step, withId, h]

theorem lookup_openCursor {source : ScheduleSource} {schedule : Schedule} (h : source.schedule = .ok schedule)
    (start : Instant) (limit : Int) :
    (s.step (.openCursor id source start limit)).1.cursors.lookup id = some (.fresh schedule start limit) := by
  simp only [step, h, List.lookup_cons_self]

/-- Only a pull on a cursor moves it, as long as no other takes its name. -/
theorem lookup_step (h : s.cursors.lookup id = some c) {x : Step} (hx : ¬ x.Opens id) :
    (s.step x).1.cursors.lookup id = some (if x.isPull id then c.pull.2 else c) := by
  cases hpull : x.isPull id with
  | true =>
    obtain rfl : x = .pull id := by
      cases x <;> simp_all [Step.isPull]
    rw [step_pull h]
    simp only [List.lookup_cons_self, if_true]
  | false =>
    have hother : ∀ {other : Text} {d : Cursor}, other ≠ id →
        List.lookup id ((other, d) :: s.cursors) = some c := by
      intro other d hne
      rw [List.lookup_cons, beq_false_of_ne hne.symm]
      exact h
    have hleads := step_leads s x
    generalize (s.step x).1 = s' at hleads ⊢
    simp only [Bool.false_eq_true, if_false]
    cases hleads with
    | opened hsource => exact hother fun he => hx ⟨he, _, hsource⟩
    | pulled => exact hother (by simpa [Step.isPull] using hpull)
    | _ => exact h

/-- **The cursor under a name after a run** has been moved by the pulls on it, whatever other steps there were. -/
theorem lookup_run (h : s.cursors.lookup id = some c) {steps : List Step} (hsteps : ∀ x ∈ steps, ¬ x.Opens id) :
    (s.run steps).1.cursors.lookup id = some (c.after (steps.countP (Step.isPull id))) := by
  induction steps generalizing s c with
  | nil => exact h
  | cons x steps ih =>
    have hfirst := lookup_step h (hsteps x List.mem_cons_self)
    rw [run_cons, ih hfirst fun y hy => hsteps y (List.mem_cons_of_mem x hy), List.countP_cons]
    cases x.isPull id <;> rfl

theorem reply_pull (h : s.cursors.lookup id = some c) {before : List Step} (hbefore : ∀ x ∈ before, ¬ x.Opens id)
    (later : List Step) :
    (s.run (before ++ .pull id :: later)).2[before.length]? =
      some ⟨((c.after (before.countP (Step.isPull id))).pull.1.map Answer.run).mapError StepError.calendarEnd, []⟩ := by
  rw [reply_at, step_pull (lookup_run h hbefore)]

theorem reply_pull_of_end (h : s.cursors.lookup id = some c) {earlier between : List Step}
    (hbefore : ∀ x ∈ earlier ++ .pull id :: between, ¬ x.Opens id) (later : List Step)
    (hend : ∀ run, (c.after (earlier.countP (Step.isPull id))).pull.1 ≠ .ok (some run)) :
    (s.run (earlier ++ .pull id :: between ++ .pull id :: later)).2[(earlier ++ .pull id :: between).length]? =
      some ⟨.ok (.run none), []⟩ := by
  have hpulls : (earlier ++ .pull id :: between).countP (Step.isPull id) =
      earlier.countP (Step.isPull id) + (between.countP (Step.isPull id) + 1) := by
    simp only [List.countP_append, List.countP_cons, Step.isPull, beq_self_eq_true, if_true]
  rw [reply_pull h hbefore later, hpulls, Cursor.after_add, Cursor.after_of_end hend]
  rfl

/-- **The answers of one cursor, whatever is done between the pulls on it.** After a cursor has been opened, any steps
may follow, pulls on it and on other cursors among them, as long as no other takes its name. A pull on it that follows
`n` others answers by the first `n + 1` runs after the start: with the last of them if there are so many, with the end
if there are fewer, and with a failure if looking for them fails but looking for fewer does not. After the end and after
a failure, every pull answers with the end. -/
theorem pull_interleaved {source : ScheduleSource} {schedule : Schedule} (hsource : source.schedule = .ok schedule)
    (start : Instant) (limit : Int) {before : List Step} (hbefore : ∀ x ∈ before, ¬ x.Opens id) (later : List Step) :
    let opened := (s.step (.openCursor id source start limit)).1
    let replies := (opened.run (before ++ .pull id :: later)).2
    let n := before.countP (Step.isPull id)
    let first (count : Nat) := schedule.nextRuns start count limit
    (∀ runs, first (n + 1) = .ok runs → runs.length ≤ n + 1 ∧
      replies[before.length]? = some ⟨.ok (.run runs[n]?), []⟩) ∧
    (first (n + 1) = .error ⟨⟩ → (∀ j ≤ n, first j ≠ .error ⟨⟩) →
      replies[before.length]? = some ⟨.error (.calendarEnd ⟨⟩), []⟩) ∧
    (∀ j ≤ n, first j = .error ⟨⟩ → replies[before.length]? = some ⟨.ok (.run none), []⟩) ∧
    ∀ earlier between, before = earlier ++ .pull id :: between →
      replies[earlier.length]? = some ⟨.ok (.run none), []⟩ ∨
        replies[earlier.length]? = some ⟨.error (.calendarEnd ⟨⟩), []⟩ →
      replies[before.length]? = some ⟨.ok (.run none), []⟩ := by
  intro opened replies n first
  have hopened : opened.cursors.lookup id = some (.fresh schedule start limit) := lookup_openCursor hsource start limit
  have hfirst : ∀ count, first count = (Cursor.fresh schedule start limit).runs count := fun _ => rfl
  have hreply := reply_pull hopened hbefore later
  refine ⟨fun runs hruns => ?_, fun hfail hfewer => ?_, fun j hj hfail => ?_, fun earlier between hsplit hend => ?_⟩
  · rw [hfirst] at hruns
    refine ⟨Cursor.length_runs_le hruns, ?_⟩
    rw [hreply, Cursor.pull_after, hruns]
    rfl
  · have hn : first n ≠ .error ⟨⟩ := hfewer n (Nat.le_refl n)
    rw [hfirst] at hfail hn
    rw [hreply, Cursor.pull_after, hfail]
    cases hruns : (Cursor.fresh schedule start limit).runs n with
    | ok runs => rfl
    | error e => exact absurd hruns hn
  · rw [hfirst] at hfail
    have hn := Cursor.runs_eq_error_of_le hj hfail
    have hn' := Cursor.runs_eq_error_of_le (Nat.le_succ_of_le hj) hfail
    rw [hreply, Cursor.pull_after, hn', hn]
    rfl
  · subst hsplit
    refine reply_pull_of_end hopened hbefore later fun run hrun => ?_
    have hbetween := reply_pull hopened (fun x hx => hbefore x (List.mem_append_left _ hx))
      (between ++ .pull id :: later)
    simp only [replies, List.append_assoc, List.cons_append] at hend
    rw [hbetween, hrun] at hend
    rcases hend with hend | hend <;> cases hend

/-- Two cursors, pulled in turn. One finds a run and comes to its end; the other starts in the last minute of the
calendar and fails at once. -/
theorem pull_interleaved_lastMinute :
    let noon : Instant := ⟨⟨2024, 2, 29, by decide⟩, 12, 0, 0, 0, none⟩
    let midnight : Instant := ⟨⟨9999, 12, 31, by decide⟩, 23, 59, 0, 0, none⟩
    let openB : Step := .openCursor ['b'] (.expression "* * * * *".toList) midnight 2
    let opened := ((start 0).step (.openCursor ['a'] (.expression "1 12 29 2 *".toList) noon 2)).1
    let replies := (opened.run [openB, .pull ['b'], .pull ['a'], .pull ['b'], .pull ['a']]).2
    replies[1]? = some ⟨.error (.calendarEnd ⟨⟩), []⟩ ∧ replies[3]? = some ⟨.ok (.run none), []⟩ ∧
      replies[2]? = some ⟨.ok (.run (some { noon with minute := 1 })), []⟩ ∧
      replies[4]? = some ⟨.ok (.run none), []⟩ := by
  intro noon midnight openB opened replies
  let everyDay : List Int := [0, 1, 2, 3, 4, 5, 6]
  have ha : (ScheduleSource.expression "1 12 29 2 *".toList).schedule = .ok ⟨[1], [12], [29], [2], everyDay⟩ := by rfl
  have hwindow : Schedule.runsIn ⟨[1], [12], [29], [2], everyDay⟩ noon.offset (noon.toMinute.number + 1) 2 =
      [{ noon with minute := 1 }] := by decide +kernel
  have hfound : ∀ count, Schedule.nextRuns ⟨[1], [12], [29], [2], everyDay⟩ noon count 2 =
      .ok ([{ noon with minute := 1 }].take count.toNat) := by
    intro count
    rw [Schedule.nextRuns_eq_take (by decide) (by decide), ← hwindow]
    rfl
  obtain ⟨second, hb⟩ : ∃ second, (ScheduleSource.expression "* * * * *".toList).schedule = .ok second := ⟨_, by rfl⟩
  have hfails : second.nextRuns midnight 1 2 = .error ⟨⟩ := by
    rw [Schedule.nextRuns_eq_walk (by decide), if_neg (by decide)]
  have hreplies : replies = (opened.step openB).2 ::
      ((opened.step openB).1.run [.pull ['b'], .pull ['a'], .pull ['b'], .pull ['a']]).2 :=
    congrArg Prod.snd (run_cons opened openB _)
  refine ⟨?_, ?_, ?_, ?_⟩
  · have hpull := @pull_interleaved opened ['b'] _ _ hb midnight 2 [] (fun x hx => nomatch hx)
      [.pull ['a'], .pull ['b'], .pull ['a']]
    rw [hreplies, List.getElem?_cons_succ]
    refine hpull.2.1 hfails fun j hj => ?_
    obtain rfl : j = 0 := Nat.le_zero.mp hj
    exact fun h => nomatch h
  · have hpull := @pull_interleaved opened ['b'] _ _ hb midnight 2 [.pull ['b'], .pull ['a']] (by simp [Step.Opens])
      [.pull ['a']]
    rw [hreplies, List.getElem?_cons_succ]
    exact hpull.2.2.1 1 (by decide) hfails
  · have hpull := @pull_interleaved (start 0) ['a'] _ _ ha noon 2 [openB, .pull ['b']] (by simp [Step.Opens, openB])
      [.pull ['b'], .pull ['a']]
    exact (hpull.1 _ (hfound _)).2
  · have hpull := @pull_interleaved (start 0) ['a'] _ _ ha noon 2 [openB, .pull ['b'], .pull ['a'], .pull ['b']]
      (by simp [Step.Opens, openB]) []
    exact (hpull.1 _ (hfound _)).2
end Session
end CronSchedule
