/-
What names say. A month or weekday field without a step and without a star
is told in names, and the names tell its values: each stands in its table
for one value, so a list of names, and of spans from one name to another,
denotes what the field stands for. The list can be read back, since no name
has a space or a comma in it.

* `named?_eq_some`: a field with no step and no star is told in names, and
  they denote its values.
* `listed_injective`: the text of a list of names tells the list.
* `values_eq_of_listed`: so it tells the values.
-/
import CronSchedule.Phrase.Names
import CronSchedule.Proofs.ReadValues

namespace CronSchedule
open FieldSpec

namespace Phrase

variable {spec : FieldSpec} {table : List Text}

/-! ## Tables -/

/-- The table has a name for each value of the field, no two alike, and each is a word that a list can hold. -/
structure NameTable (spec : FieldSpec) (table : List Text) : Prop where
  complete : spec.size ≤ table.length
  distinct : table.Nodup
  plain : ∀ name ∈ table, ' ' ∉ name ∧ ',' ∉ name

theorem nameTable_month : NameTable .month monthNames := ⟨by decide, by decide, by decide⟩

theorem nameTable_dayOfWeek : NameTable .dayOfWeek weekdayNames := ⟨by decide, by decide, by decide⟩

/-- The name stands in the table for this value of the field. -/
def Names (spec : FieldSpec) (table : List Text) (name : Text) (value : Int) : Prop :=
  (spec.low ≤ value ∧ value ≤ spec.high) ∧ table[(value - spec.low).toNat]? = some name

theorem Names.mem {name : Text} {value : Int} (h : Names spec table name value) : name ∈ table :=
  List.mem_of_getElem? h.2

theorem Names.value_eq {name : Text} {a b : Int} (ht : NameTable spec table) (ha : Names spec table name a)
    (hb : Names spec table name b) : a = b := by
  obtain ⟨⟨ha1, _⟩, ha⟩ := ha
  obtain ⟨⟨hb1, _⟩, hb⟩ := hb
  obtain ⟨hlt, _⟩ := List.getElem?_eq_some_iff.mp ha
  have hij : (a - spec.low).toNat = (b - spec.low).toNat :=
    (List.getElem?_inj hlt ht.distinct).mp (ha.trans hb.symm)
  omega

theorem NameTable.exists_name (ht : NameTable spec table) {value : Int}
    (h : spec.low ≤ value ∧ value ≤ spec.high) : ∃ name, Names spec table name value := by
  have hlt : (value - spec.low).toNat < table.length := by
    have := ht.complete
    unfold size at this
    omega
  exact ⟨_, h, List.getElem?_eq_getElem hlt⟩

/-- An item made of names of the table. -/
def NameItem.IsFrom (table : List Text) (item : NameItem) : Prop :=
  item.first ∈ table ∧ ∀ last ∈ item.last, last ∈ table

/-- The values an item of names stands for: that of its name, or all from one name to another. -/
def NameItem.Denotes (spec : FieldSpec) (table : List Text) (value : Int) : NameItem → Prop
  | ⟨first, none⟩ => Names spec table first value
  | ⟨first, some last⟩ =>
    ∃ a b, Names spec table first a ∧ Names spec table last b ∧ a ≤ value ∧ value ≤ b

/-! ## From fields to names -/

theorem number_eq_ok_iff {t : Text} {n : Nat} :
    number t = .ok n ↔ t.length ≤ Numeral.digitLimit ∧ Numeral.value t = n := by
  rw [← Numeral.read_eq_ok_iff]
  unfold number
  cases Numeral.read t <;> simp

theorem number_of_le {t : Text} (h : t.length ≤ Numeral.digitLimit) : number t = .ok (Numeral.value t) :=
  number_eq_ok_iff.mpr ⟨h, rfl⟩

theorem atomValue?_of_atomForm {t : Text} {value : Int} (h : AtomForm spec t value) :
    atomValue? spec t = .ok (some value) := by
  unfold atomValue?
  cases h with
  | numeral hp hl =>
    rw [if_pos hp, number_of_le hl]
    rfl
  | name hne hletters hk =>
    rw [isPlain_eq_false_of_letters hne hletters, if_neg Bool.false_ne_true, hk]

theorem nameOf?_of_atomForm {t : Text} {value : Int} (h : AtomForm spec t value) (ht : NameTable spec table) :
    ∃ name, Names spec table name value ∧ nameOf? spec table t = .ok (some name) := by
  obtain ⟨name, hname⟩ := ht.exists_name h.inRange
  refine ⟨name, hname, ?_⟩
  unfold nameOf?
  rw [atomValue?_of_atomForm h]
  simp only [bind, Except.bind, contains_iff.mpr h.inRange, if_true, hname.2]

/-- An item with no step is told in names, unless it is a star, and they denote what it stands for. -/
theorem nameItem?_of_itemForm {t : Text} {item : Item} (h : ItemForm spec t item) (ht : NameTable spec table)
    (hslash : '/' ∉ t) (hstar : '*' ∉ t) :
    ∃ named, nameItem? spec table t = .ok (some named) ∧ named.IsFrom table ∧
      ∀ v, named.Denotes spec table v ↔ item.Denotes spec v := by
  unfold nameItem?
  cases h with
  | stepped => simp at hslash
  | plain hb =>
    cases hb with
    | every => simp at hstar
    | one ha =>
      obtain ⟨name, hname, hread⟩ := nameOf?_of_atomForm ha ht
      rw [Text.cut?_eq_none_iff.mpr (ha.mark_not_mem (by decide))]
      simp only [hread]
      refine ⟨⟨name, none⟩, rfl, ⟨hname.mem, fun _ hlast => (nomatch hlast)⟩, fun v => ?_⟩
      exact ⟨fun hv => hv.value_eq ht hname, fun hv => hv ▸ hname⟩
    | span ha hb =>
      obtain ⟨first, hfirst, hreadFirst⟩ := nameOf?_of_atomForm ha ht
      obtain ⟨last, hlast, hreadLast⟩ := nameOf?_of_atomForm hb ht
      rw [Text.cut?_eq_some_iff.mpr ⟨rfl, ha.mark_not_mem (by decide)⟩]
      simp only [hreadFirst, hreadLast, bind, Except.bind]
      refine ⟨⟨first, some last⟩, rfl, ⟨hfirst.mem, fun _ h => Option.mem_some.mp h ▸ hlast.mem⟩, fun v => ?_⟩
      refine ⟨fun hv => ?_, fun hv => ⟨_, _, hfirst, hlast, hv⟩⟩
      obtain ⟨a, b, ha', hb', hv⟩ := hv
      rw [ha'.value_eq ht hfirst, hb'.value_eq ht hlast] at hv
      exact hv

theorem nameItem?_eq_some {t : Text} (h : ∃ item, ItemForm spec t item) (ht : NameTable spec table) (hslash : '/' ∉ t)
    (hstar : '*' ∉ t) : ∃ named, nameItem? spec table t = .ok (some named) ∧ named.IsFrom table ∧
      ∀ v, named.Denotes spec table v ↔ ∃ item, ItemForm spec t item ∧ item.Denotes spec v := by
  obtain ⟨item, hitem⟩ := h
  obtain ⟨named, hnamed, hfrom, hden⟩ := nameItem?_of_itemForm hitem ht hslash hstar
  refine ⟨named, hnamed, hfrom, fun v => (hden v).trans ⟨fun hv => ⟨item, hitem, hv⟩, fun hv => ?_⟩⟩
  obtain ⟨item', hitem', hv⟩ := hv
  obtain rfl : item = item' :=
    Except.ok.inj ((readItem_eq_ok_iff.mpr hitem).symm.trans (readItem_eq_ok_iff.mpr hitem'))
  exact hv

theorem exists_nameItems? {ts : List Text} (h : ∀ t ∈ ts, ∃ named, nameItem? spec table t = .ok (some named)) :
    ∃ items, nameItems? spec table ts = .ok (some items) := by
  induction ts with
  | nil => exact ⟨[], rfl⟩
  | cons t ts ih =>
    obtain ⟨first, hfirst⟩ := h t List.mem_cons_self
    obtain ⟨rest, hrest⟩ := ih fun u hu => h u (List.mem_cons_of_mem t hu)
    refine ⟨first :: rest, ?_⟩
    simp only [nameItems?, hfirst, hrest, bind, Except.bind]
    rfl

theorem nameItems?_eq_some {ts : List Text} {items : List NameItem} (h : nameItems? spec table ts = .ok (some items)) :
    (∀ t ∈ ts, ∃ named ∈ items, nameItem? spec table t = .ok (some named)) ∧
      ∀ named ∈ items, ∃ t ∈ ts, nameItem? spec table t = .ok (some named) := by
  induction ts generalizing items with
  | nil =>
    cases h
    simp
  | cons t ts ih =>
    obtain ⟨found, hfound, h⟩ := bind_eq_ok_iff.mp h
    cases found with
    | none => cases h
    | some first =>
      obtain ⟨rest, hrest, h⟩ := bind_eq_ok_iff.mp h
      cases rest with
      | none => cases h
      | some others =>
        cases h
        obtain ⟨hto, hfrom⟩ := ih hrest
        refine ⟨fun u hu => ?_, fun named hn => ?_⟩
        · rcases List.mem_cons.mp hu with rfl | hu
          · exact ⟨first, List.mem_cons_self, hfound⟩
          · obtain ⟨named, hn, hu⟩ := hto u hu
            exact ⟨named, List.mem_cons_of_mem first hn, hu⟩
        · rcases List.mem_cons.mp hn with rfl | hn
          · exact ⟨t, List.mem_cons_self, hfound⟩
          · obtain ⟨u, hu, hn⟩ := hfrom named hn
            exact ⟨u, List.mem_cons_of_mem t hu, hn⟩

/-- The items are names of the table, at least one, and denote what the field text stands for. -/
structure Tells (spec : FieldSpec) (table : List Text) (raw : Text) (items : List NameItem) : Prop where
  nonempty : items ≠ []
  isFrom : ∀ item ∈ items, item.IsFrom table
  denotes : ∀ v, (∃ item ∈ items, item.Denotes spec table v) ↔ FieldDenotes spec raw v

/-- **A field with no step and no star is told in names**, and they denote its values. -/
theorem named?_eq_some {raw : Text} (h : FieldForm spec raw) (ht : NameTable spec table) (hslash : '/' ∉ raw)
    (hstar : '*' ∉ raw) : ∃ items, named? spec table raw = .ok (some items) ∧ Tells spec table raw items := by
  obtain ⟨hne, segments, hseg, hitems⟩ := h
  have hguard : (raw.isEmpty || raw.contains '/' || raw.contains '*') = false := by simp [hne, hslash, hstar]
  have htold : ∀ t ∈ segments, ∃ named, nameItem? spec table t = .ok (some named) ∧ named.IsFrom table ∧
      ∀ v, named.Denotes spec table v ↔ ∃ item, ItemForm spec t item ∧ item.Denotes spec v := fun t hmem =>
    nameItem?_eq_some (hitems t hmem) ht (fun hc => hslash (hseg.mem hmem hc)) (fun hc => hstar (hseg.mem hmem hc))
  have hitem : ∀ {t named}, t ∈ segments → nameItem? spec table t = .ok (some named) → named.IsFrom table ∧
      ∀ v, named.Denotes spec table v ↔ ∃ item, ItemForm spec t item ∧ item.Denotes spec v := by
    intro t named hmem hnamed
    obtain ⟨told, htold, hden⟩ := htold t hmem
    rw [hnamed] at htold
    cases htold
    exact hden
  obtain ⟨items, hitems⟩ := exists_nameItems? fun t hmem => (htold t hmem).imp fun _ h => h.1
  obtain ⟨hto, hfrom⟩ := nameItems?_eq_some hitems
  unfold named?
  rw [hguard, Text.segments_iff.mp hseg]
  refine ⟨items, hitems, ?_, fun named hn => ?_, fun v => ⟨fun hv => ?_, fun hv => ?_⟩⟩
  · obtain ⟨t, hmem⟩ := List.exists_mem_of_ne_nil segments hseg.nonempty
    obtain ⟨named, hn, _⟩ := hto t hmem
    exact List.ne_nil_of_mem hn
  · obtain ⟨t, hmem, hnamed⟩ := hfrom named hn
    exact (hitem hmem hnamed).1
  · obtain ⟨named, hn, hv⟩ := hv
    obtain ⟨t, hmem, hnamed⟩ := hfrom named hn
    exact ⟨segments, hseg, t, hmem, ((hitem hmem hnamed).2 v).mp hv⟩
  · obtain ⟨segments', hseg', t, hmem, hv⟩ := hv
    obtain rfl : segments = segments' := (Text.segments_iff.mp hseg).symm.trans (Text.segments_iff.mp hseg')
    obtain ⟨named, hn, hnamed⟩ := hto t hmem
    exact ⟨named, hn, ((hitem hmem hnamed).2 v).mpr hv⟩

/-- What is told in names has no step and no star. -/
theorem not_mem_of_named? {raw : Text} {items : List NameItem} (h : named? spec table raw = .ok (some items)) :
    '/' ∉ raw ∧ '*' ∉ raw := by
  unfold named? at h
  split at h
  next => cases h
  next hguard =>
    simp only [Bool.not_eq_true, Bool.or_eq_false_iff, List.contains_eq_mem, decide_eq_false_iff_not] at hguard
    exact ⟨hguard.1.2, hguard.2⟩

/-- Whatever names a field that is read is told in, they denote its values. -/
theorem tells_of_named? {raw : Text} {items : List NameItem} (h : FieldForm spec raw) (ht : NameTable spec table)
    (hn : named? spec table raw = .ok (some items)) : Tells spec table raw items := by
  obtain ⟨hslash, hstar⟩ := not_mem_of_named? hn
  obtain ⟨items', hitems, htells⟩ := named?_eq_some h ht hslash hstar
  rw [hn] at hitems
  cases hitems
  exact htells

theorem exists_named? {raw : Text} (h : FieldForm spec raw) (ht : NameTable spec table) :
    ∃ named, named? spec table raw = .ok named := by
  cases hguard : raw.isEmpty || raw.contains '/' || raw.contains '*' with
  | true =>
    unfold named?
    rw [hguard]
    exact ⟨_, rfl⟩
  | false =>
    obtain ⟨hslash, hstar⟩ : '/' ∉ raw ∧ '*' ∉ raw := by simp_all
    obtain ⟨items, hitems, _⟩ := named?_eq_some h ht hslash hstar
    exact ⟨_, hitems⟩

theorem Tells.values_eq {raw raw' : Text} {items : List NameItem} (h : Tells spec table raw items)
    (h' : Tells spec table raw' items) (hf : FieldForm spec raw) (hf' : FieldForm spec raw') :
    spec.values raw = spec.values raw' := by
  obtain ⟨vs, hvs, hasc, hmem⟩ := hf.values
  obtain ⟨vs', hvs', hasc', hmem'⟩ := hf'.values
  rw [hvs, hvs', hasc.eq_of_mem_iff hasc' fun v => by rw [hmem v, ← h.denotes v, h'.denotes v, ← hmem' v]]

/-! ## From names to the list -/

/-- The item of names that a text tells: the first name ends where the first space is. -/
def NameItem.ofText (t : Text) : NameItem :=
  match Text.cut? ' ' t with
  | none => ⟨t, none⟩
  | some (first, rest) => ⟨first, some (rest.drop "through ".toList.length)⟩

theorem NameItem.ofText_text {item : NameItem} (h : ' ' ∉ item.first) : ofText item.text = item := by
  obtain ⟨first, last⟩ := item
  cases last with
  | none =>
    have hcut : Text.cut? ' ' first = none := Text.cut?_eq_none_iff.mpr h
    simp only [ofText, text, hcut]
  | some last =>
    have hcut : Text.cut? ' ' (first ++ " through ".toList ++ last) = some (first, "through ".toList ++ last) :=
      Text.cut?_eq_some_iff.mpr ⟨by simp, h⟩
    simp only [ofText, text, hcut, List.drop_left]

theorem NameItem.IsFrom.comma_not_mem {item : NameItem} (h : item.IsFrom table) (ht : NameTable spec table) :
    ',' ∉ item.text := by
  obtain ⟨first, last⟩ := item
  have hfirst := (ht.plain first h.1).2
  cases last with
  | none => exact hfirst
  | some last => simp [NameItem.text, hfirst, (ht.plain last (h.2 last rfl)).2]

theorem map_ofText_text {items : List NameItem} (h : ∀ item ∈ items, ' ' ∉ item.first) :
    (items.map NameItem.text).map NameItem.ofText = items := by
  have hback : items.map (NameItem.ofText ∘ NameItem.text) = items.map id :=
    List.map_congr_left fun item hi => NameItem.ofText_text (h item hi)
  rw [List.map_map, hback, List.map_id]

theorem listed_injective (ht : NameTable spec table) {raw raw' : Text} {xs ys : List NameItem}
    (hx : Tells spec table raw xs) (hy : Tells spec table raw' ys) (h : listed xs = listed ys) : xs = ys := by
  have hplain : ∀ items : List NameItem, (∀ item ∈ items, item.IsFrom table) →
      (∀ item ∈ items, ' ' ∉ item.first) ∧ ∀ t ∈ items.map NameItem.text, ',' ∉ t := fun items hfrom => by
    refine ⟨fun item hi => (ht.plain _ (hfrom item hi).1).1, fun t hmem => ?_⟩
    obtain ⟨item, hi, rfl⟩ := List.mem_map.mp hmem
    exact (hfrom item hi).comma_not_mem ht
  obtain ⟨hspaces, hcommas⟩ := hplain xs hx.isFrom
  obtain ⟨hspaces', hcommas'⟩ := hplain ys hy.isFrom
  have htexts : xs.map NameItem.text = ys.map NameItem.text :=
    Text.intercalate_padded_injective (show ',' ∉ [' '] by decide) (by simpa using hx.nonempty)
      (by simpa using hy.nonempty)
      hcommas hcommas' h
  rw [← map_ofText_text hspaces, htexts, map_ofText_text hspaces']

theorem values_eq_of_listed (ht : NameTable spec table) {raw raw' : Text} {xs ys : List NameItem}
    (hx : Tells spec table raw xs) (hy : Tells spec table raw' ys) (hf : FieldForm spec raw)
    (hf' : FieldForm spec raw') (h : listed xs = listed ys) : spec.values raw = spec.values raw' := by
  obtain rfl := listed_injective ht hx hy h
  exact hx.values_eq hy hf hf'

end Phrase
end CronSchedule
