/-
Composing an expression and reading it. A field that is read is not empty
and has no blank in it. So the fields of an expression with a space
between each two are found again when it is read, and composing and
reading undo each other.

* `Fields.split_text`: the fields of an expression are found in its text.
* `compose_read_inverse`: what can be composed, and that reading and
  composing are inverse to each other.
-/
import CronSchedule.Preset
import CronSchedule.Proofs.FieldText
import CronSchedule.Proofs.ReadValues
import CronSchedule.Report

namespace CronSchedule

namespace Fields

theorem ofList?_toList (f : Fields) : ofList? f.toList = some f := rfl

theorem mem_toList {f : Fields} {t : Text} (h : t ∈ f.toList) : ∃ name : FieldName, f.get name = t := by
  simp only [toList, List.mem_cons, List.not_mem_nil, or_false] at h
  rcases h with rfl | rfl | rfl | rfl | rfl
  · exact ⟨.minute, rfl⟩
  · exact ⟨.hour, rfl⟩
  · exact ⟨.dayOfMonth, rfl⟩
  · exact ⟨.month, rfl⟩
  · exact ⟨.dayOfWeek, rfl⟩

theorem split_text {f : Fields} (h : ∀ name : FieldName, FieldSpec.FieldForm name.spec (f.get name)) :
    Expression.split f.text = .ok f := by
  have hwords : Text.words f.text = f.toList := Text.words_intercalate fun t ht => by
    obtain ⟨name, rfl⟩ := mem_toList ht
    exact ⟨(h name).1, (h name).not_blank⟩
  unfold Expression.split
  rw [hwords, ofList?_toList]

theorem exists_schedule_iff {f : Fields} :
    (∃ s, f.schedule = .ok s) ↔ ∀ name : FieldName, ∃ vs, name.spec.values (f.get name) = .ok vs := by
  refine ⟨fun h name => ?_, fun h => ?_⟩
  · obtain ⟨s, hs⟩ := h
    exact ⟨s.values name, schedule_eq_ok_iff.mp hs name⟩
  · obtain ⟨minutes, hminutes⟩ := h .minute
    obtain ⟨hours, hhours⟩ := h .hour
    obtain ⟨daysOfMonth, hdays⟩ := h .dayOfMonth
    obtain ⟨months, hmonths⟩ := h .month
    obtain ⟨daysOfWeek, hweekdays⟩ := h .dayOfWeek
    refine ⟨⟨minutes, hours, daysOfMonth, months, daysOfWeek⟩, schedule_eq_ok_iff.mpr fun name => ?_⟩
    cases name <;> assumption

theorem ofGiven_entries (f : Fields) : ofGiven f.entries = f := rfl

end Fields

namespace Expression

theorem read_text {f : Fields} {s : Schedule} (h : f.schedule = .ok s) : read f.text = .ok ⟨f, s⟩ := by
  have hsplit : split f.text = .ok f := Fields.split_text (Fields.fieldForm_of_schedule h)
  unfold read
  rw [hsplit]
  simp only [bind, Except.bind, h]

/-- With all five fields given, a composition is their text, if they are read. -/
theorem compose_eq_ok_iff {f : Fields} {t : Text} :
    compose f.entries = .ok t ↔ ∃ s, f.schedule = .ok s ∧ t = f.text := by
  have hknown : (f.entries.find? fun entry => (FieldName.ofKey? entry.1).isNone) = none := by
    rw [List.find?_eq_none]
    intro entry hmem
    obtain ⟨name, _, rfl⟩ := List.mem_map.mp hmem
    simp [FieldName.ofKey?_key]
  unfold compose
  rw [hknown]
  simp only [Fields.ofGiven_entries]
  cases f.schedule with
  | ok s => simp [eq_comm]
  | error e => simp

/-- **Composing and reading are inverse.** Five fields are composed just if each of them is read by its own spec, and
the text that comes of it is split into these fields and read with their values. What is read, with any blanks around
and between its fields, is composed of its fields again, with single spaces, and this text is read as the same. -/
theorem compose_read_inverse :
    (∀ f : Fields,
      ((∃ t, compose f.entries = .ok t) ↔ ∀ name : FieldName, ∃ vs, name.spec.values (f.get name) = .ok vs) ∧
      ∀ t, compose f.entries = .ok t → split t = .ok f ∧ ∃ e, read t = .ok e ∧ e.fields = f ∧
        ∀ name : FieldName, name.spec.values (f.get name) = .ok (e.schedule.values name)) ∧
      ∀ t e, read t = .ok e → compose e.fields.entries = .ok e.fields.text ∧ read e.fields.text = .ok e := by
  refine ⟨fun f => ⟨?_, fun t h => ?_⟩, fun t e h => ?_⟩
  · rw [← Fields.exists_schedule_iff]
    simp only [compose_eq_ok_iff]
    exact ⟨fun ⟨_, s, hs, _⟩ => ⟨s, hs⟩, fun ⟨s, hs⟩ => ⟨f.text, s, hs, rfl⟩⟩
  · obtain ⟨s, hs, rfl⟩ := compose_eq_ok_iff.mp h
    have hread := read_text hs
    exact ⟨(read_eq_ok hread).1, ⟨f, s⟩, hread, rfl, Fields.schedule_eq_ok_iff.mp hs⟩
  · have hs := (read_eq_ok h).2
    exact ⟨compose_eq_ok_iff.mpr ⟨_, hs, rfl⟩, read_text hs⟩

/-- Blanks of several kinds become single spaces, and a long s stays what it was. -/
theorem compose_read_inverse_blanks :
    ∃ e, read "\u00a05\t9\u2003*\u3000 * ſat\n".toList = .ok e ∧
      compose e.fields.entries = .ok "5 9 * * ſat".toList ∧ read "5 9 * * ſat".toList = .ok e := by
  obtain ⟨e, hread, htext⟩ : ∃ e, read "\u00a05\t9\u2003*\u3000 * ſat\n".toList = .ok e ∧
      e.fields.text = "5 9 * * ſat".toList := ⟨_, by rfl, by rfl⟩
  have hback := compose_read_inverse.2 _ e hread
  rw [htext] at hback
  exact ⟨e, hread, hback⟩

end Expression
end CronSchedule
