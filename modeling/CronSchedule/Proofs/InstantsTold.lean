/-
What the text of an instant tells. Each number of it has a fixed width, and
what may be left out, a fraction of a second and the seconds of an offset,
has a mark that stands nowhere else at that place. So the text is told apart
from left to right, and no two instants have the same one: not one with an
offset and one without, and not the same time in two offsets.

* `Date.text_append_inj`, `Instant.timeText_append_inj`,
  `Offset.text_append_inj`: each part is told, and so is what follows it.
* `Instant.text_injective`: an instant is told by its text.
-/
import CronSchedule.Calendar.Iso
import CronSchedule.Proofs.NumeralsTold
import CronSchedule.Proofs.YearWindow

namespace CronSchedule
open Numeral

variable {t u : Text}

theorem Date.text_append_inj {d e : Date} (h : d.text ++ t = e.text ++ u) : d = e ∧ t = u := by
  obtain ⟨year, month, day, hd⟩ := d
  obtain ⟨year', month', day', he⟩ := e
  have hday := hd.day_le
  have hday' := he.day_le
  obtain ⟨⟨_, hyear⟩, ⟨_, hmonth⟩, _⟩ := hd
  obtain ⟨⟨_, hyear'⟩, ⟨_, hmonth'⟩, _⟩ := he
  simp only [Date.text, List.append_assoc, List.cons_append] at h
  obtain ⟨rfl, hmonths⟩ := padded_append_inj (by decide) (by omega) (by omega) h
  obtain ⟨rfl, hdays⟩ := padded_append_inj (by decide) (by omega) (by omega) (List.cons.inj hmonths).2
  obtain ⟨rfl, hrest⟩ := padded_append_inj (by decide) (by omega) (by omega) (List.cons.inj hdays).2
  exact ⟨rfl, hrest⟩

/-! ## Offsets -/

namespace Offset

theorem head?_text (o : Offset) : o.text.head? = some (if o.seconds < 0 then '-' else '+') := rfl

/-- **An offset is told, and so is what follows it**, if that is no further part of an offset. -/
theorem text_append_inj {o p : Offset} (ht : t.head? ≠ some ':') (hu : u.head? ≠ some ':')
    (h : o.text ++ t = p.text ++ u) : o = p ∧ t = u := by
  obtain ⟨s, hs⟩ := o
  obtain ⟨s', hs'⟩ := p
  simp only [text, List.append_assoc, List.cons_append, List.cons.injEq] at h
  obtain ⟨hsign, h⟩ := h
  obtain ⟨hhours, hminutes⟩ := padded_append_inj (by decide) (by omega) (by omega) h
  obtain ⟨hminutes, hseconds⟩ := padded_append_inj (by decide) (by omega) (by omega) (List.cons.inj hminutes).2
  obtain ⟨hseconds, hrest⟩ := marked_append_inj (by decide) (by omega) (by omega) ht hu hseconds
  have hminus : ∀ r : Int, (if r < 0 then '-' else '+') = '-' ↔ r < 0 := fun r => by split <;> simp [*]
  have hside : s < 0 ↔ s' < 0 := by rw [← hminus s, hsign, hminus]
  have habs : s.natAbs = s'.natAbs := by omega
  have hsame : s = s' := by omega
  subst hsame
  exact ⟨rfl, hrest⟩

theorem text_injective : Function.Injective text := fun _ _ h =>
  (text_append_inj (t := []) (u := []) (by decide) (by decide) (congrArg (· ++ []) h)).1

end Offset

namespace Instant

variable {i j : Instant}

theorem timeText_append_inj (ht : t.head? ≠ some '.') (hu : u.head? ≠ some '.')
    (h : i.timeText ++ t = j.timeText ++ u) :
    (i.hour = j.hour ∧ i.minute = j.minute ∧ i.second = j.second ∧ i.microsecond = j.microsecond) ∧ t = u := by
  simp only [timeText, List.append_assoc, List.cons_append] at h
  obtain ⟨hhour, h⟩ := padded_append_inj (by decide) (by omega) (by omega) h
  obtain ⟨hminute, h⟩ := padded_append_inj (by decide) (by omega) (by omega) (List.cons.inj h).2
  obtain ⟨hsecond, h⟩ := padded_append_inj (by decide) (by omega) (by omega) (List.cons.inj h).2
  obtain ⟨hmicrosecond, h⟩ := marked_append_inj (by decide) i.microsecond.isLt j.microsecond.isLt ht hu h
  exact ⟨⟨Fin.ext hhour, Fin.ext hminute, Fin.ext hsecond, Fin.ext hmicrosecond⟩, h⟩

/-- The text of the offset, if there is one. -/
def offsetText : Option Offset → Text
  | none => []
  | some o => o.text

theorem head?_offsetText (offset : Option Offset) : (offsetText offset).head? ≠ some '.' := by
  cases offset with
  | none => simp [offsetText]
  | some o =>
    rw [offsetText, Offset.head?_text]
    split <;> decide

theorem offsetText_injective : Function.Injective offsetText := by
  intro offset offset' h
  cases offset with
  | none =>
    cases offset' with
    | none => rfl
    | some p => cases h
  | some o =>
    cases offset' with
    | none => cases h
    | some p => rw [Offset.text_injective h]

theorem text_eq (i : Instant) : i.text = i.date.text ++ 'T' :: (i.timeText ++ offsetText i.offset) := by
  unfold text offsetText
  cases i.offset <;> simp only [List.append_assoc, List.cons_append]

/-- **An instant is told by its text**, its offset and the lack of one included. -/
theorem text_injective : Function.Injective text := by
  intro i j h
  rw [text_eq, text_eq] at h
  obtain ⟨hdate, htime⟩ := Date.text_append_inj h
  obtain ⟨⟨hhour, hminute, hsecond, hmicrosecond⟩, hrest⟩ :=
    timeText_append_inj (head?_offsetText i.offset) (head?_offsetText j.offset) (List.cons.inj htime).2
  have hoffset := offsetText_injective hrest
  cases i
  cases j
  rw [Instant.mk.injEq]
  exact ⟨hdate, hhour, hminute, hsecond, hmicrosecond, hoffset⟩

-- both marked parts are there, and the sign is that of the whole offset
example : (of? 987 6 5 4 3 2 1 (some (-1))).map text = some "0987-06-05T04:03:02.000001-00:00:01".toList := by decide

end Instant
end CronSchedule
