/-
The diagnosis of a text that is no expression. It has another number of
words than five, or a field that is rejected: the first one in order, with
the fault of the first of its segments that is no item. What follows this
segment, in its field and in the fields after it, has no part in the
diagnosis.

* `read_eq_fieldCount_iff`, `read_eq_malformed_iff`: the two diagnoses.
* `FirstRejected.of_same_start`: texts that are the same as far as the
  fault have the same fault.
-/
import CronSchedule.Proofs.ExpressionReading
import CronSchedule.Proofs.FaultyField

namespace CronSchedule
open FieldSpec

theorem Text.ne_nil_of_mem_words {t word : Text} (h : word ∈ words t) : word ≠ [] := by
  have hkept := (List.mem_filter.mp h).2
  intro he
  rw [he] at hkept
  cases hkept

namespace Fields

variable {f f' : Fields} {before : List FieldName} {name : FieldName} {segments : List Text} {segment : Text}
variable {fault : Fault}

theorem ofList?_eq_some_iff {ts : List Text} : ofList? ts = some f ↔ ts = f.toList := by
  refine ⟨fun h => ?_, fun h => by rw [h]; rfl⟩
  unfold ofList? at h
  split at h
  next => cases h; rfl
  next => cases h

theorem ofList?_eq_none_iff {ts : List Text} : ofList? ts = none ↔ ts.length ≠ 5 := by
  match ts with
  | [] | [_] | [_, _] | [_, _, _] | [_, _, _, _] => simp [ofList?]
  | [_, _, _, _, _] => simp [ofList?]
  | _ :: _ :: _ :: _ :: _ :: _ :: ts =>
    refine ⟨fun _ h => ?_, fun _ => rfl⟩
    simp only [List.length_cons] at h
    omega

theorem get_mem_toList (f : Fields) (name : FieldName) : f.get name ∈ f.toList := by
  cases name <;> simp [get, toList]

/-- The fields before this one are read, and the segment is the first one in it that is no item. -/
structure FirstRejected (f : Fields) (before : List FieldName) (name : FieldName) (segments : List Text)
    (segment : Text) (fault : Fault) : Prop where
  position : ∃ after, FieldName.all = before ++ name :: after
  accepted : ∀ earlier ∈ before, FieldForm earlier.spec (f.get earlier)
  first : FirstFault name.spec (f.get name) segments segment fault

/-- **Texts that are the same as far as the fault have the same fault.** -/
theorem FirstRejected.of_same_start (h : f.FirstRejected before name segments segment fault)
    (hbefore : ∀ earlier ∈ before, f'.get earlier = f.get earlier) {rest : List Text}
    (hseg : Text.Segments ',' (f'.get name) (segments ++ segment :: rest)) :
    f'.FirstRejected before name segments segment fault := by
  refine ⟨h.position, fun earlier hmem => ?_, h.first.of_prefix hseg⟩
  rw [hbefore earlier hmem]
  exact h.accepted earlier hmem

/-- **Fields that are not empty are rejected** just if one of them has a fault, and for the first one that has. -/
theorem schedule_eq_malformed_iff (hne : ∀ name, f.get name ≠ []) {e : FieldError}
    (hlong : ∀ n, e ≠ .tooLong (.toRead n)) :
    f.schedule = .error e ↔ ∃ before name segments segment fault,
      f.FirstRejected before name segments segment fault ∧
      e = .malformed name name.spec.label (f.get name) fault := by
  rw [schedule_eq_error_iff]
  simp only [exists_values_iff]
  refine ⟨fun h => ?_, fun h => ?_⟩
  · obtain ⟨before, name, after, hall, haccepted, he⟩ := h
    obtain ⟨segments, segment, fault, hfirst, rfl⟩ :=
      (values_eq_malformed_iff name.spec_showable (hne name) hlong).mp he
    rw [name.name_spec]
    exact ⟨before, name, segments, segment, fault, ⟨⟨after, hall⟩, haccepted, hfirst⟩, rfl⟩
  · obtain ⟨before, name, segments, segment, fault, ⟨⟨after, hall⟩, haccepted, hfirst⟩, rfl⟩ := h
    refine ⟨before, name, after, hall, haccepted, ?_⟩
    refine (values_eq_malformed_iff name.spec_showable (hne name) hlong).mpr ?_
    exact ⟨segments, segment, fault, hfirst, by rw [name.name_spec]⟩

end Fields

namespace Expression

variable {t : Text} {f : Fields}

theorem split_eq_ok_iff : split t = .ok f ↔ Text.words t = f.toList := by
  unfold split
  rw [← Fields.ofList?_eq_some_iff]
  cases Fields.ofList? (Text.words t) <;> simp

/-- An expression that is not of five words is rejected for this. -/
theorem split_eq_error_iff {e : ExpressionError} :
    split t = .error e ↔ (Text.words t).length ≠ 5 ∧ e = .fieldCount := by
  unfold split
  rw [← Fields.ofList?_eq_none_iff]
  cases Fields.ofList? (Text.words t) <;> simp [eq_comm]

theorem read_eq_fieldCount_iff : read t = .error .fieldCount ↔ (Text.words t).length ≠ 5 := by
  unfold read
  rw [bind_eq_error_iff, split_eq_error_iff]
  refine ⟨fun h => ?_, fun h => .inl ⟨h, rfl⟩⟩
  rcases h with h | ⟨fields, _, h⟩
  · exact h.1
  · split at h
    next => cases h
    next => cases h

/-- **A field error is that of the first field that is rejected**, and of its first segment that is no item. -/
theorem read_eq_malformed_iff {e : FieldError} (hlong : ∀ n, e ≠ .tooLong (.toRead n)) :
    read t = .error (.field e) ↔ ∃ (fields : Fields) (before : List FieldName) (name : FieldName)
      (segments : List Text) (segment : Text) (fault : Fault),
        Text.words t = fields.toList ∧ fields.FirstRejected before name segments segment fault ∧
        e = .malformed name name.spec.label (fields.get name) fault := by
  rw [read_eq_field_iff]
  have hne : ∀ {fields : Fields}, Text.words t = fields.toList → ∀ name, fields.get name ≠ [] := by
    intro fields hwords name
    exact Text.ne_nil_of_mem_words (hwords ▸ fields.get_mem_toList name)
  refine ⟨fun h => ?_, fun h => ?_⟩
  · obtain ⟨fields, hsplit, hs⟩ := h
    have hwords := split_eq_ok_iff.mp hsplit
    obtain ⟨before, name, segments, segment, fault, hfirst, he⟩ :=
      (Fields.schedule_eq_malformed_iff (hne hwords) hlong).mp hs
    exact ⟨fields, before, name, segments, segment, fault, hwords, hfirst, he⟩
  · obtain ⟨fields, before, name, segments, segment, fault, hwords, hfirst, he⟩ := h
    refine ⟨fields, split_eq_ok_iff.mpr hwords, (Fields.schedule_eq_malformed_iff (hne hwords) hlong).mpr ?_⟩
    exact ⟨before, name, segments, segment, fault, hfirst, he⟩

/-- The error is the diagnosis of the text. It is the number of words just if this is not five. Otherwise it is that of
the first field that is rejected, with its name and its whole text, and the fault is that of the first segment of it
that is no item: every text that is the same as far as this segment is rejected for the same fault. -/
def Diagnosed (t : Text) (error : ExpressionError) : Prop :=
  (error = .fieldCount ↔ (Text.words t).length ≠ 5) ∧
    (error ≠ .fieldCount → ∃ (fields : Fields) (before : List FieldName) (name : FieldName) (segments : List Text)
      (segment : Text) (fault : Fault),
        Text.words t = fields.toList ∧ fields.FirstRejected before name segments segment fault ∧
        error = .field (.malformed name name.spec.label (fields.get name) fault) ∧
        ∀ (t' : Text) (fields' : Fields) (rest : List Text), Text.words t' = fields'.toList →
          (∀ earlier ∈ before, fields'.get earlier = fields.get earlier) →
          Text.Segments ',' (fields'.get name) (segments ++ segment :: rest) →
          read t' = .error (.field (.malformed name name.spec.label (fields'.get name) fault)))

/-- **The error of a text is its diagnosis**, if no numeral in it is too long. -/
theorem diagnosed_of_read {error : ExpressionError} (h : read t = .error error)
    (hlong : ∀ numeral, error ≠ .field (.tooLong numeral)) : Diagnosed t error := by
  refine ⟨?_, fun hfield => ?_⟩
  · rw [← read_eq_fieldCount_iff, h, Except.error.injEq]
  · cases error with
    | fieldCount => exact absurd rfl hfield
    | field e =>
      have hlong : ∀ n, e ≠ .tooLong (.toRead n) := fun n he => hlong (.toRead n) (by rw [he])
      obtain ⟨fields, before, name, segments, segment, fault, hwords, hfirst, rfl⟩ :=
        (read_eq_malformed_iff hlong).mp h
      refine ⟨fields, before, name, segments, segment, fault, hwords, hfirst, rfl, ?_⟩
      intro t' fields' rest hwords' hbefore hseg
      have hfirst' := hfirst.of_same_start hbefore hseg
      have hlong' : ∀ n, FieldError.malformed name name.spec.label (fields'.get name) fault ≠ .tooLong (.toRead n) := by
        intro n he
        cases he
      exact (read_eq_malformed_iff hlong').mpr ⟨fields', before, name, segments, segment, fault, hwords', hfirst', rfl⟩

end Expression
end CronSchedule
