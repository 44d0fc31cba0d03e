import Mathlib.Data.List.Nodup
import SectorForest.Datum.Decode

/-!
# Fields of a record

A record is looked at through `field?`. Where no two of its fields share a name, `field?` tells
everything about it but the order of its fields: `sortFields_eq_iff`. `Datum.canonical` is a datum
in which the fields of all records stand in one order.
-/

namespace SectorForest.Datum

/-- The names of a record's fields, in order. -/
def names (fields : List (String × Datum)) : List String :=
  fields.map (·.1)

variable {fields given : List (String × Datum)} {name : String} {d : Datum}

@[simp]
theorem names_append (front back : List (String × Datum)) :
    names (front ++ back) = names front ++ names back :=
  List.map_append

/-! ## Looking a field up -/

theorem field?_cons (f : String × Datum) (fields : List (String × Datum)) (name : String) :
    field? (f :: fields) name = if f.1 = name then some f.2 else field? fields name := by
  rw [field?, field?, List.find?_cons]
  by_cases h : f.1 = name
  · rw [if_pos h, beq_iff_eq.mpr h, Option.map_some]
  · rw [if_neg h, beq_eq_false_iff_ne.mpr h]

theorem mem_of_field? (h : field? fields name = some d) : (name, d) ∈ fields := by
  obtain ⟨⟨key, value⟩, hfind, rfl⟩ := Option.map_eq_some_iff.mp h
  have hkey : key = name := by simpa using List.find?_some hfind
  exact hkey ▸ List.mem_of_find?_eq_some hfind

theorem field?_eq_none_iff : field? fields name = none ↔ name ∉ names fields := by
  simp only [field?, names, Option.map_eq_none_iff, List.find?_eq_none, List.mem_map, beq_iff_eq]
  exact ⟨fun h ⟨f, hf, hname⟩ => h f hf hname, fun h f hf hname => h ⟨f, hf, hname⟩⟩

/-- Where names are distinct, a look-up finds whatever is there. -/
theorem field?_eq_some_iff (h : (names fields).Nodup) :
    field? fields name = some d ↔ (name, d) ∈ fields := by
  refine ⟨mem_of_field?, fun hmem => ?_⟩
  cases hfound : field? fields name with
  | none => exact absurd (List.mem_map_of_mem hmem) (field?_eq_none_iff.mp hfound)
  | some found =>
    have heq := List.inj_on_of_nodup_map h (mem_of_field? hfound) hmem rfl
    rw [(Prod.mk.inj heq).2]

/-- Fields of other names do not matter. -/
theorem field?_filter (own : List String) (hname : name ∈ own) :
    field? (fields.filter (·.1 ∈ own)) name = field? fields name := by
  induction fields with
  | nil => rfl
  | cons f fields ih =>
    by_cases hown : f.1 ∈ own
    · rw [List.filter_cons_of_pos (by simpa using hown), field?_cons, field?_cons, ih]
    · have hne : f.1 ≠ name := fun heq => hown (heq ▸ hname)
      rw [List.filter_cons_of_neg (by simpa using hown), field?_cons, if_neg hne, ih]

/-- The values of the first fields, under the names of all. -/
theorem zip_names_append (front back : List (String × Datum)) :
    (names (front ++ back)).zip (front.map (·.2)) = front := by
  induction front with
  | nil => exact List.zip_nil_right
  | cons f front ih => exact congrArg (f :: ·) ih

/-! ## Order -/

/-- Distinct names and the same under every name: the same fields. -/
theorem perm_of_field?_eq (hfields : (names fields).Nodup) (hgiven : (names given).Nodup)
    (h : ∀ name, field? fields name = field? given name) : fields.Perm given := by
  refine (List.perm_ext_iff_of_nodup (List.Nodup.of_map _ hfields)
    (List.Nodup.of_map _ hgiven)).mpr ?_
  rintro ⟨name, d⟩
  rw [← field?_eq_some_iff hfields, ← field?_eq_some_iff hgiven, h name]

theorem field?_perm (h : (names fields).Nodup) (hperm : fields.Perm given) (name : String) :
    field? fields name = field? given name := by
  have hgiven : (names given).Nodup := (hperm.map _).nodup_iff.mp h
  ext d
  rw [field?_eq_some_iff h, field?_eq_some_iff hgiven, hperm.mem_iff]

theorem sortFields_perm (fields : List (String × Datum)) : (sortFields fields).Perm fields :=
  List.mergeSort_perm _ _

theorem pairwise_sortFields (fields : List (String × Datum)) :
    (sortFields fields).Pairwise fun f g => f.1 ≤ g.1 := by
  refine (List.pairwise_mergeSort ?_ ?_ fields).imp of_decide_eq_true
  · intro f g k hfg hgk
    exact decide_eq_true (String.le_trans (of_decide_eq_true hfg) (of_decide_eq_true hgk))
  · intro f g
    rw [Bool.or_eq_true, decide_eq_true_iff, decide_eq_true_iff]
    exact String.le_total f.1 g.1

/-- Fields of distinct names can be sorted in one way only. -/
theorem eq_of_perm_of_sorted (h : (names fields).Nodup) (hperm : fields.Perm given)
    (hfields : fields.Pairwise fun f g => f.1 ≤ g.1)
    (hgiven : given.Pairwise fun f g => f.1 ≤ g.1) : fields = given := by
  refine hperm.eq_of_pairwise ?_ hfields hgiven
  intro f g hf hg hle hge
  exact List.inj_on_of_nodup_map h hf (hperm.mem_iff.mpr hg) (String.le_antisymm hle hge)

theorem field?_sortFields (h : (names fields).Nodup) (name : String) :
    field? (sortFields fields) name = field? fields name :=
  (field?_perm h (sortFields_perm fields).symm name).symm

/-- Sorted by name, records of distinct names are the same exactly if all look-ups agree. -/
theorem sortFields_eq_iff (hfields : (names fields).Nodup) (hgiven : (names given).Nodup) :
    sortFields fields = sortFields given ↔ ∀ name, field? fields name = field? given name := by
  constructor
  · intro h name
    rw [← field?_sortFields hfields, h, field?_sortFields hgiven]
  · intro h
    refine eq_of_perm_of_sorted (((sortFields_perm fields).map _).nodup_iff.mpr hfields) ?_
      (pairwise_sortFields fields) (pairwise_sortFields given)
    exact (sortFields_perm fields).trans
      ((perm_of_field?_eq hfields hgiven h).trans (sortFields_perm given).symm)

/-! ## Data up to the order of fields -/

mutual

/-- The datum with the fields of all records in it in the byte order of their names. Two data are
the same value, however their fields are ordered, if they are equal in this form. -/
def canonical : Datum → Datum
  | .list items => .list (canonicalItems items)
  | .record fields => .record (sortFields (canonicalFields fields))
  | d => d

/-- The items of a list, each in this form. -/
def canonicalItems : List Datum → List Datum
  | [] => []
  | d :: rest => canonical d :: canonicalItems rest

/-- The fields of a record, the value of each in this form. -/
def canonicalFields : List (String × Datum) → List (String × Datum)
  | [] => []
  | (name, d) :: rest => (name, canonical d) :: canonicalFields rest

end

theorem canonicalItems_eq (items : List Datum) : canonicalItems items = items.map canonical := by
  induction items with
  | nil => rfl
  | cons d items ih => rw [canonicalItems, ih, List.map_cons]

theorem canonicalFields_eq (fields : List (String × Datum)) :
    canonicalFields fields = fields.map fun f => (f.1, f.2.canonical) := by
  induction fields with
  | nil => rfl
  | cons f fields ih => rw [canonicalFields, ih, List.map_cons]

end SectorForest.Datum
