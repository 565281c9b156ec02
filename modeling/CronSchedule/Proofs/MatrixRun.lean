/-
What a run of the test matrix comes to. Each version is tested with its own
command, whatever came of those before, and the failures are told by one line
that can be read in one way only, since neither a version nor an exit code has
a comma in it. The arguments are handed on as they are given, but for an empty
list of them: the arguments of the process stand in for it, as if none were
given at all.

* `failing_iff`: the failures that are looked for are those of the run.
* `Reports.unique`: a report tells which versions failed, and how.
* `run_complete`: a run is complete for the arguments it is made with.
* `run_complete_iff`: and for those that are given, unless they are replaced.
-/
import CronSchedule.Proofs.NumeralsTold
import CronSchedule.Proofs.Segments
import CronSchedule.TestMatrix

namespace CronSchedule.TestMatrix
open Text

/-- The command line that tests a version, before any arguments. -/
def commandLine (version : Text) : Text := "uv run --python ".toList ++ version ++ " --group test pytest".toList

/-- The versions in order, each with its exit code. -/
def results (codes : Nat → Int) : List (Text × Int) := versions.mapIdx fun k version => (version, codes k)

/-- These are the versions whose exit codes are not zero, in order, each with its code. -/
structure Failing (codes : Nat → Int) (failed : List (Text × Int)) : Prop where
  ordered : failed.Sublist (results codes)
  members : ∀ result ∈ results codes, result ∈ failed ↔ result.2 ≠ 0

/-- The text reports that these versions failed with these exit codes; it is empty if there are none. -/
inductive Reports : Text → List (Text × Int) → Prop
  | nothing : Reports [] []
  | failures {failed : List (Text × Int)} : failed ≠ [] →
    Reports ("\nTest suite encountered failures: ".toList ++ List.intercalate ", ".toList (failed.map failureText) ++
      "\n".toList) failed

/-- Each version is tested once and in order, by its command with just these arguments, and what comes of it is told by
the exit code of the whole and by a report of the failures. -/
structure Outcome.Complete (o : Outcome) (args : List Text) (codes : Nat → Int) : Prop where
  commands : o.commands = versions.map fun version => words (commandLine version) ++ args
  passed : o.code = 0 ↔ ∀ k < versions.length, codes k = 0
  code : o.code = 0 ∨ o.code = 1
  report : ∀ failed : List (Text × Int), (∀ f ∈ failed, f.1 ∈ versions) → (Reports o.err failed ↔ Failing codes failed)

variable {codes : Nat → Int} {failed failed' : List (Text × Int)} {args args' : List Text}

/-! ## Failures -/

theorem map_fst_results (codes : Nat → Int) : (results codes).map Prod.fst = versions := rfl

theorem nodup_results (codes : Nat → Int) : (results codes).Nodup := by
  have hversions : ((results codes).map Prod.fst).Nodup := by
    rw [map_fst_results]
    decide
  exact List.Pairwise.of_map Prod.fst (fun _ _ hne he => hne (congrArg Prod.fst he)) hversions

theorem mem_failures {f : Text × Int} : f ∈ failures (results codes) ↔ f ∈ results codes ∧ f.2 ≠ 0 := by
  simp [failures, List.mem_filter]

theorem version_mem_of_failures : ∀ f ∈ failures (results codes), f.1 ∈ versions := fun _ hf =>
  map_fst_results codes ▸ List.mem_map_of_mem (mem_failures.mp hf).1

/-- **The failures that are looked for are those of the run**, for only one list has them in order. -/
theorem failing_iff : Failing codes failed ↔ failed = failures (results codes) := by
  refine ⟨fun h => ?_, fun h => ?_⟩
  · have hkept : failures failed = failed := List.filter_eq_self.mpr fun f hf => by
      simpa using (h.members f (h.ordered.subset hf)).mp hf
    have hsub : failed.Sublist (failures (results codes)) := hkept ▸ h.ordered.filter _
    have hall : failures (results codes) ⊆ failed := fun f hf =>
      (h.members f (mem_failures.mp hf).1).mpr (mem_failures.mp hf).2
    have hnodup : (failures (results codes)).Nodup := (nodup_results codes).filter _
    exact hsub.eq_of_length_le (hnodup.length_le_of_subset hall)
  · subst h
    exact ⟨List.filter_sublist, fun f hf => mem_failures.trans (and_iff_right hf)⟩

theorem failures_eq_nil_iff : failures (results codes) = [] ↔ ∀ k < versions.length, codes k = 0 := by
  rw [failures, List.filter_eq_nil_iff, results]
  simp only [List.mem_mapIdx]
  refine ⟨fun h k hk => ?_, fun h f hf => ?_⟩
  · simpa using h _ ⟨k, hk, rfl⟩
  · obtain ⟨k, hk, rfl⟩ := hf
    simpa using h k hk

/-! ## Reports -/

theorem failureText_inj {f g : Text × Int} (hf : f.1 ∈ versions) (hg : g.1 ∈ versions)
    (h : failureText f = failureText g) : f = g := by
  have hspace : ∀ version ∈ versions, ' ' ∉ version := by decide
  obtain ⟨version, code⟩ := f
  obtain ⟨version', code'⟩ := g
  have hparts : version ++ ' ' :: ("(exit ".toList ++ Numeral.ofInt code ++ ")".toList) =
      version' ++ ' ' :: ("(exit ".toList ++ Numeral.ofInt code' ++ ")".toList) := by
    simpa [failureText] using h
  obtain ⟨rfl, hrest⟩ := append_mark_inj (hspace _ hf) (hspace _ hg) hparts
  rw [Numeral.ofInt_injective (List.append_cancel_left (List.append_cancel_right hrest))]

theorem comma_not_mem_failureText {f : Text × Int} (hf : f.1 ∈ versions) : ',' ∉ failureText f := by
  have hversion : ∀ version ∈ versions, ',' ∉ version := by decide
  have hcode : ',' ∉ Numeral.ofInt f.2 := Numeral.not_mem_ofInt (by decide) (by decide) f.2
  simp [failureText, hversion f.1 hf, hcode]

theorem map_failureText_inj (hf : ∀ f ∈ failed, f.1 ∈ versions) (hf' : ∀ f ∈ failed', f.1 ∈ versions)
    (h : failed.map failureText = failed'.map failureText) : failed = failed' := by
  induction failed generalizing failed' with
  | nil => exact (List.map_eq_nil_iff.mp h.symm).symm
  | cons f rest ih =>
    cases failed' with
    | nil => cases h
    | cons g rest' =>
      obtain ⟨hfirst, hrest⟩ := List.cons.inj h
      rw [failureText_inj (hf f List.mem_cons_self) (hf' g List.mem_cons_self) hfirst,
        ih (fun f hm => hf f (List.mem_cons_of_mem _ hm)) (fun f hm => hf' f (List.mem_cons_of_mem _ hm)) hrest]

theorem Reports.unique {t : Text} (h : Reports t failed) (h' : Reports t failed')
    (hf : ∀ f ∈ failed, f.1 ∈ versions) (hf' : ∀ f ∈ failed', f.1 ∈ versions) : failed = failed' := by
  have hcomma : ∀ {fs : List (Text × Int)}, (∀ f ∈ fs, f.1 ∈ versions) → ∀ t ∈ fs.map failureText, ',' ∉ t :=
    fun hfs t ht => by
      obtain ⟨f, hm, rfl⟩ := List.mem_map.mp ht
      exact comma_not_mem_failureText (hfs f hm)
  generalize ht : t = u at h'
  cases h with
  | nothing =>
    cases h' with
    | nothing => rfl
    | failures => cases ht
  | failures hne =>
    cases h' with
    | nothing => cases ht
    | failures hne' =>
      have htexts := List.append_cancel_left (List.append_cancel_right ht)
      refine map_failureText_inj hf hf' ?_
      exact intercalate_padded_injective (show ',' ∉ [' '] by decide) (by simpa using hne) (by simpa using hne')
        (hcomma hf) (hcomma hf') htexts

/-! ## The run -/

/-- The exit code of a run and its report are those of its failures. -/
theorem run_verdict (args : List Text) (codes : Nat → Int) :
    (run args codes).code = (if failures (results codes) = [] then 0 else 1) ∧
      Reports (run args codes).err (failures (results codes)) := by
  cases hfailed : failures (results codes) with
  | nil =>
    rw [results] at hfailed
    simp only [run, verdict, hfailed]
    exact ⟨rfl, .nothing⟩
  | cons f rest =>
    rw [results] at hfailed
    simp only [run, verdict, hfailed]
    exact ⟨rfl, .failures (List.cons_ne_nil f rest)⟩

theorem command_eq {version : Text} (hv : version ∈ versions) (args : List Text) :
    command version args = words (commandLine version) ++ args := by
  have hwords : ∀ version ∈ versions, words (commandLine version) = command version [] := by decide
  rw [hwords version hv, command, command, List.append_nil]

/-- **A run is complete for the arguments it is made with**, whatever the exit codes are. -/
theorem run_complete (args : List Text) (codes : Nat → Int) : (run args codes).Complete args codes := by
  obtain ⟨hcode, hreport⟩ := run_verdict args codes
  refine ⟨List.map_congr_left fun version hv => command_eq hv args, ?_, ?_, fun failed hsupported => ?_⟩
  · rw [hcode, ← failures_eq_nil_iff]
    split <;> simp [*]
  · rw [hcode]
    split
    · exact .inl rfl
    · exact .inr rfl
  · rw [failing_iff]
    refine ⟨fun h => ?_, fun h => h ▸ hreport⟩
    exact h.unique hreport hsupported version_mem_of_failures

theorem Outcome.Complete.args_eq {o : Outcome} {codes' : Nat → Int} (h : o.Complete args codes)
    (h' : o.Complete args' codes') : args = args' := by
  have hcommands := List.map_inj_left.mp (h.commands.symm.trans h'.commands) "3.10".toList List.mem_cons_self
  exact List.append_cancel_left hcommands

/-- **When the arguments that are given are handed on.** A run is complete for the arguments that are given, whatever
those of the process and the exit codes are, exactly if some are given or the process has none: each version is tested
by its command with just these arguments, also after failures, and the exit code of the whole and the report tell
exactly what failed. If none are given, it is complete for those of the process. -/
theorem run_complete_iff (argv ofProcess : List Text) (codes : Nat → Int) :
    ((run (arguments (some argv) ofProcess) codes).Complete argv codes ↔ argv ≠ [] ∨ ofProcess = []) ∧
      (run (arguments (some []) ofProcess) codes).Complete ofProcess codes := by
  refine ⟨⟨fun h => ?_, fun h => ?_⟩, run_complete ofProcess codes⟩
  · have hargs : argv = arguments (some argv) ofProcess := h.args_eq (run_complete _ codes)
    cases argv with
    | nil => exact .inr hargs.symm
    | cons a rest => exact .inl (List.cons_ne_nil a rest)
  · have hargs : arguments (some argv) ofProcess = argv := by
      cases argv with
      | nil => exact h.resolve_left fun hne => hne rfl
      | cons a rest => rfl
    rw [hargs]
    exact run_complete argv codes

/-- A signal and a failure among versions that pass, and arguments of the process that do not count. -/
theorem run_complete_iff_signal :
    let codes : Nat → Int := fun k => [0, 2, 0, -9].getD k 0
    let o := run (arguments (some ["-q".toList, "a b".toList]) ["-x".toList]) codes
    o.Complete ["-q".toList, "a b".toList] codes ∧ o.code = 1 ∧
      o.err = "\nTest suite encountered failures: 3.11 (exit 2), 3.13 (exit -9)\n".toList := by
  intro codes o
  exact ⟨(run_complete_iff _ _ codes).1.mpr (.inl (by decide)), by decide, by decide⟩

/-- An empty list of arguments is not handed on where the process has one. -/
theorem run_incomplete_noArguments :
    let codes : Nat → Int := fun _ => 0
    let o := run (arguments (some []) ["-x".toList]) codes
    (o.commands = versions.map fun version => words (commandLine version) ++ ["-x".toList]) ∧
      ¬ o.Complete [] codes := by
  intro codes o
  have hcomplete : o.Complete ["-x".toList] codes := run_complete ["-x".toList] codes
  exact ⟨hcomplete.commands, fun h => absurd (h.args_eq hcomplete) (by decide)⟩

end CronSchedule.TestMatrix
