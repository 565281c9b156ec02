/-
What the entries of a report tell. As plain data a report has no order among
its entries, and none among the phrases of its fields; an attribute that is
absent has no entry, which is told apart from one that is empty; and the runs
are texts. Nothing is lost by this: reports with the same entries are the same
in each attribute.

* `Report.lookup_entries`: what stands under each identifier.
* `Report.same_of_entries`: the entries tell each attribute.
* `Report.entries_told`: reports have the same entries just if they are the
  same.
-/
import CronSchedule.Proofs.InstantsTold
import CronSchedule.Report

namespace CronSchedule

/-! ## Plain data without order -/

/-- The tables hold the same text under each key, or none in both. -/
def SameTable (t u : List (Text × Text)) : Prop := ∀ key, t.lookup key = u.lookup key

namespace Datum

/-- The data are equal but for the order of a table. -/
inductive Same : Datum → Datum → Prop
  | flag (value : Bool) : Same (.flag value) (.flag value)
  | text (value : Text) : Same (.text value) (.text value)
  | texts (values : List Text) : Same (.texts values) (.texts values)
  | table {t u : List (Text × Text)} : SameTable t u → Same (.table t) (.table u)

theorem Same.refl (d : Datum) : d.Same d := by
  cases d with
  | flag value => exact .flag value
  | text value => exact .text value
  | texts values => exact .texts values
  | table entries => exact .table fun _ => rfl

theorem flag_of_same (a b : Bool) (h : (flag a).Same (flag b)) : a = b := by
  cases h
  rfl

theorem text_of_same (a b : Text) (h : (text a).Same (text b)) : a = b := by
  cases h
  rfl

theorem texts_of_same {ts us : List Text} (h : (texts ts).Same (texts us)) : ts = us := by
  cases h
  rfl

theorem table_of_same {t u : List (Text × Text)} (h : (table t).Same (table u)) : SameTable t u := by
  cases h with
  | table h => exact h

theorem same_of_rel_some {d d' : Datum} (h : Option.Rel Same (some d) (some d')) : d.Same d' := by
  cases h with
  | some hd => exact hd

theorem eq_of_rel_map {α : Type} {datum : α → Datum} (hd : ∀ a b, (datum a).Same (datum b) → a = b) {x y : Option α}
    (h : Option.Rel Same (x.map datum) (y.map datum)) : x = y := by
  cases x with
  | none =>
    cases y with
    | none => rfl
    | some b => cases h
  | some a =>
    cases y with
    | none => cases h
    | some b => rw [hd a b (same_of_rel_some h)]

end Datum

/-- The entries hold the same data under each key, or none in both. -/
def SameEntries (es es' : List (Text × Datum)) : Prop :=
  ∀ key, Option.Rel Datum.Same (es.lookup key) (es'.lookup key)

theorem SameEntries.refl (es : List (Text × Datum)) : SameEntries es es := fun key => by
  cases es.lookup key with
  | none => exact .none
  | some d => exact .some (.refl d)

theorem SameEntries.cons {key : Text} {d d' : Datum} {es es' : List (Text × Datum)} (hd : d.Same d')
    (h : SameEntries es es') : SameEntries ((key, d) :: es) ((key, d') :: es') := fun other => by
  rw [List.lookup_cons, List.lookup_cons]
  cases other == key with
  | true => exact .some hd
  | false => exact h other

/-! ## Attributes -/

namespace Fields

theorem ext_get {f g : Fields} (h : ∀ name, f.get name = g.get name) : f = g := by
  cases f
  cases g
  rw [Fields.mk.injEq]
  exact ⟨h .minute, h .hour, h .dayOfMonth, h .month, h .dayOfWeek⟩

theorem lookup_entries (f : Fields) (name : FieldName) : f.entries.lookup name.key = some (f.get name) := by
  cases name <;> rfl

/-- The fields are told by their texts in any order. -/
theorem eq_of_same (f g : Fields) (h : (Datum.table f.entries).Same (.table g.entries)) : f = g := by
  refine ext_get fun name => ?_
  have hname := Datum.table_of_same h name.key
  rw [lookup_entries, lookup_entries] at hname
  exact Option.some.inj hname

end Fields

namespace Report
open Datum

variable {r s : Report}

/-- The reports are the same in each attribute; the phrases of the fields may stand in another order. -/
structure Same (r s : Report) : Prop where
  expression : r.expression = s.expression
  isValid : r.isValid = s.isValid
  fields : r.fields = s.fields
  description : r.description = s.description
  fieldPhrases : SameTable r.fieldPhrases s.fieldPhrases
  runs : r.runs = s.runs
  error : r.error = s.error

/-- What stands under each identifier: what is absent has no entry. -/
theorem lookup_entries (r : Report) :
    r.entries.lookup "expression".toList = some (.text r.expression) ∧
      r.entries.lookup "is_valid".toList = some (.flag r.isValid) ∧
      r.entries.lookup "field_descriptions".toList = some (.table r.fieldPhrases) ∧
      r.entries.lookup "next_runs".toList = some (.texts (r.runs.map Instant.text)) ∧
      r.entries.lookup "fields".toList = r.fields.map (.table ·.entries) ∧
      r.entries.lookup "description".toList = r.description.map .text ∧
      r.entries.lookup "error".toList = r.error.map .text := by
  rcases r with ⟨expression, isValid, _ | fields, _ | description, phrases, runs, _ | error⟩ <;>
    exact ⟨rfl, rfl, rfl, rfl, rfl, rfl, rfl⟩

theorem same_of_entries (h : SameEntries r.entries s.entries) : r.Same s := by
  obtain ⟨hexpression, hvalid, hphrases, hruns, hfields, hdescription, herror⟩ := r.lookup_entries
  obtain ⟨hexpression', hvalid', hphrases', hruns', hfields', hdescription', herror'⟩ := s.lookup_entries
  have told : ∀ {key x y}, r.entries.lookup key = x → s.entries.lookup key = y → Option.Rel Datum.Same x y :=
    fun hx hy => hx ▸ hy ▸ h _
  have hruns : r.runs.map Instant.text = s.runs.map Instant.text := texts_of_same (same_of_rel_some (told hruns hruns'))
  exact {
    expression := text_of_same _ _ (same_of_rel_some (told hexpression hexpression'))
    isValid := flag_of_same _ _ (same_of_rel_some (told hvalid hvalid'))
    fields := eq_of_rel_map Fields.eq_of_same (told hfields hfields')
    description := eq_of_rel_map text_of_same (told hdescription hdescription')
    fieldPhrases := table_of_same (same_of_rel_some (told hphrases hphrases'))
    runs := (List.map_inj_right fun _ _ h => Instant.text_injective h).mp hruns
    error := eq_of_rel_map text_of_same (told herror herror') }

theorem entries_of_same (h : r.Same s) : SameEntries r.entries s.entries := by
  obtain ⟨expression, isValid, fields, description, fieldPhrases, runs, error⟩ := r
  obtain ⟨expression', isValid', fields', description', fieldPhrases', runs', error'⟩ := s
  obtain ⟨rfl, rfl, rfl, rfl, hphrases, rfl, rfl⟩ := h
  exact .cons (.text expression) (.cons (.flag isValid) (.cons (.table hphrases) (.refl _)))

/-- **Nothing of a report is lost in its entries.** Two reports have the same entries, whatever the order of the entries
and of the phrases of the fields, exactly if they are the same in each attribute: in the expression and whether it is
valid, in what is there of fields, description and error, in the phrase of each field, and in the runs, each with its
date, its time and its offset. If the order counts, their entries are equal exactly if the reports are. -/
theorem entries_told (r s : Report) :
    (SameEntries r.entries s.entries ↔ r.Same s) ∧ (r.entries = s.entries ↔ r = s) := by
  refine ⟨⟨same_of_entries, entries_of_same⟩, fun h => ?_, congrArg entries⟩
  have hsame : r.Same s := same_of_entries (h ▸ .refl r.entries)
  obtain ⟨_, _, hphrases, _⟩ := r.lookup_entries
  obtain ⟨_, _, hphrases', _⟩ := s.lookup_entries
  rw [h, hphrases', Option.some.injEq, Datum.table.injEq] at hphrases
  cases r
  cases s
  rw [Report.mk.injEq]
  exact ⟨hsame.expression, hsame.isValid, hsame.fields, hsame.description, hphrases.symm, hsame.runs, hsame.error⟩

end Report
end CronSchedule
