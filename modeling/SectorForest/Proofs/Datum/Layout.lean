import SectorForest.Proofs.Datum.Fields

/-!
# What readings accept

For the scalars, which data they are read from; for a layout, which data it unpacks and to which
fields. `Layout.unpack_eq_ok` says the latter for records and lists at once: the items of a list
are fields under the declared names. Of a record, only the fields that the type has count, and not
their order: `Layout.unpack_record_congr`.
-/

namespace SectorForest

theorem Reading.bind_eq_ok {α β : Type} {x : Reading α} {f : α → Reading β} {b : β} :
    x >>= f = .ok b ↔ ∃ a, x = .ok a ∧ f a = .ok b := by
  cases x with
  | error e => exact ⟨nofun, nofun⟩
  | ok a => exact ⟨fun h => ⟨a, rfl, h⟩, fun ⟨_, ha, h⟩ => Except.ok.inj ha ▸ h⟩

theorem Reading.map_eq_ok {α β : Type} {x : Reading α} {f : α → β} {b : β} :
    x.map f = .ok b ↔ ∃ a, x = .ok a ∧ f a = b := by
  cases x with
  | error e => exact ⟨nofun, nofun⟩
  | ok a => simp [Except.map]

namespace Datum

variable {α : Type} {d : Datum} {fields kept : List (String × Datum)}

/-! ## Scalars -/

theorem asText_eq_ok {expected text : String} :
    d.asText expected = .ok text ↔ d = .text text := by
  cases d <;> simp [asText]

theorem asBoolean_eq_ok {value : Bool} : d.asBoolean = .ok value ↔ d = .boolean value := by
  cases d <;> simp [asBoolean]

theorem asBounded_eq_ok {low high i : Int} {expected : String} :
    d.asBounded low high expected = .ok i ↔ d = .integer i ∧ low ≤ i ∧ i ≤ high := by
  cases d with
  | integer n =>
    rw [asBounded, Datum.integer.injEq]
    constructor
    · intro h
      split at h
      · obtain rfl := Except.ok.inj h
        exact ⟨rfl, ‹_›⟩
      · cases h
    · rintro ⟨rfl, hbounds⟩
      rw [if_pos hbounds]
  | _ => simp [asBounded]

theorem asInt64_eq_ok {n : Int64} : d.asInt64 = .ok n ↔ d = .integer n.toInt := by
  rw [asInt64, Reading.map_eq_ok]
  constructor
  · rintro ⟨i, hi, rfl⟩
    obtain ⟨rfl, hlow, hhigh⟩ := asBounded_eq_ok.mp hi
    rw [Int64.toInt_ofInt_of_le hlow (Int.lt_of_le_of_lt hhigh (by decide))]
  · rintro rfl
    exact ⟨n.toInt, asBounded_eq_ok.mpr ⟨rfl, Int64.le_toInt n, Int64.toInt_le n⟩,
      Int64.ofInt_toInt n⟩

theorem asUInt32_eq_ok {n : UInt32} : d.asUInt32 = .ok n ↔ d = .integer n.toNat := by
  rw [asUInt32, Reading.map_eq_ok]
  constructor
  · rintro ⟨i, hi, rfl⟩
    obtain ⟨rfl, hlow, hhigh⟩ := asBounded_eq_ok.mp hi
    have hsize : i.toNat < UInt32.size := by omega
    rw [UInt32.toNat_ofNat_of_lt' hsize, Int.toNat_of_nonneg hlow]
  · rintro rfl
    have hsize := n.toNat_lt_size
    refine ⟨n.toNat, asBounded_eq_ok.mpr ⟨rfl, by omega, by omega⟩, ?_⟩
    rw [Int.toNat_natCast, UInt32.ofNat_toNat]

/-- An absent value is null, if no other value is. -/
theorem asOption_eq_ok {read : Datum → Reading α} {write : α → Datum}
    (hread : ∀ {d a}, read d = .ok a ↔ d = write a) (hnull : ∀ a, write a ≠ .null)
    {value : Option α} : d.asOption read = .ok value ↔ d = value.elim .null write := by
  by_cases hd : d = .null
  · subst hd
    cases value with
    | none => simp [asOption]
    | some a => simpa [asOption] using (hnull a).symm
  · have hsome : d.asOption read = (read d).map some := by
      cases d with
      | null => exact absurd rfl hd
      | _ => rfl
    rw [hsome, Reading.map_eq_ok]
    cases value with
    | none => simpa using hd
    | some a => simpa using hread

/-- A named value is read from its name, alone or as the only field of a record. -/
theorem asVariant_eq_ok {named : List (String × α)} {a : α} :
    d.asVariant named = .ok a ↔ ∃ name, variantNamed named name = .ok a ∧
      (d = .text name ∨ d = .record [(name, .null)]) := by
  constructor
  · intro h
    unfold asVariant at h
    split at h
    · exact ⟨_, h, .inl rfl⟩
    · obtain ⟨value, hvalue, h⟩ := Reading.bind_eq_ok.mp h
      split at h
      · exact ⟨_, Except.ok.inj h ▸ hvalue, .inr rfl⟩
      · cases h
    · cases h
    · cases h
  · rintro ⟨name, hname, rfl | rfl⟩
    · exact hname
    · rw [asVariant, hname]
      rfl

/-! ## Fields that are there or not -/

theorem required_eq_ok {name : String} {read : Datum → Reading α} {a : α} :
    required fields name read = .ok a ↔ ∃ x, field? fields name = some x ∧ read x = .ok a := by
  unfold required
  cases field? fields name <;> simp

theorem optional_eq_ok {name : String} {read : Datum → Reading α} {absent a : α} :
    optional fields name read absent = .ok a ↔
      (∃ x, field? fields name = some x ∧ read x = .ok a) ∨
        field? fields name = none ∧ a = absent := by
  unfold optional
  cases field? fields name <;> simp [eq_comm]

theorem rule_accepts {name : String} {read : Datum → Reading α} {isOptional : Bool} {a : α}
    (h : read d = .ok a) : (rule name read isOptional).accepts d = .ok () := by
  exact Reading.map_eq_ok.mpr ⟨a, h, rfl⟩

/-! ## Layouts -/

/-- The fields that a datum gives: a record its own, a list its items under the declared names. -/
def given? (own : List String) : Datum → Option (List (String × Datum))
  | .record fields => some fields
  | .list items => if items.length ≤ own.length then some (own.zip items) else none
  | _ => none

namespace Layout

variable {layout : Layout} {rules : List FieldRule} {items : List Datum} {seen : List String}

/-- The names of the fields that a type has. -/
def ownNames (layout : Layout) : List String :=
  layout.rules.map (·.name)

/-- The fields of a record that the type has. -/
def own (layout : Layout) (fields : List (String × Datum)) : List (String × Datum) :=
  fields.filter (·.1 ∈ layout.ownNames)

/-- The field has a rule, and its value fits. -/
def Accepts (layout : Layout) (f : String × Datum) : Prop :=
  ∃ r ∈ layout.rules, r.name = f.1 ∧ r.accepts f.2 = .ok ()

/-- A type that lets records have further fields, and lists no further items. -/
structure Plain (layout : Layout) : Prop where
  ignoresUnknown : layout.ignoresUnknown = true
  ignoresSurplus : layout.ignoresSurplus = false
  nodup : layout.ownNames.Nodup

theorem find?_rules_eq_none {name : String} :
    layout.rules.find? (·.name == name) = none ↔ name ∉ layout.ownNames := by
  simp [ownNames, List.find?_eq_none]

theorem own_cons_of_none {f : String × Datum} (h : layout.rules.find? (·.name == f.1) = none) :
    layout.own (f :: fields) = layout.own fields :=
  List.filter_cons_of_neg (by simpa using find?_rules_eq_none.mp h)

theorem own_cons_of_some {f : String × Datum} {r : FieldRule}
    (h : layout.rules.find? (·.name == f.1) = some r) :
    layout.own (f :: fields) = f :: layout.own fields := by
  refine List.filter_cons_of_pos (decide_eq_true ?_)
  by_contra hnot
  exact Option.some_ne_none r (h.symm.trans (find?_rules_eq_none.mpr hnot))

/-- The rule that is found is the one that decides. -/
theorem Plain.accepts_iff (hplain : layout.Plain) {f : String × Datum} {r : FieldRule}
    (h : layout.rules.find? (·.name == f.1) = some r) :
    layout.Accepts f ↔ r.accepts f.2 = .ok () := by
  have hname : r.name = f.1 := by simpa using List.find?_some h
  constructor
  · rintro ⟨r', hr', hname', hok⟩
    have heq := List.inj_on_of_nodup_map hplain.nodup hr' (List.mem_of_find?_eq_some h)
      (hname'.trans hname.symm)
    exact heq ▸ hok
  · exact fun hok => ⟨r, List.mem_of_find?_eq_some h, hname, hok⟩

/-- Fields that the type does not have are passed over, whatever becomes of the others. -/
theorem Plain.visitRecord_own (hplain : layout.Plain) :
    layout.visitRecord (layout.own fields) seen = layout.visitRecord fields seen := by
  induction fields generalizing seen with
  | nil => rfl
  | cons f fields ih =>
    cases hfind : layout.rules.find? (·.name == f.1) with
    | none => rw [own_cons_of_none hfind, visitRecord, hfind, ih]; simp [hplain.ignoresUnknown]
    | some r => simp only [own_cons_of_some hfind, visitRecord, hfind, ih]

theorem visitRecord_cons_of_some {f : String × Datum} {r : FieldRule}
    (h : layout.rules.find? (·.name == f.1) = some r) :
    layout.visitRecord (f :: fields) seen = .ok kept ↔
      f.1 ∉ seen ∧ r.accepts f.2 = .ok () ∧
        ∃ rest, layout.visitRecord fields (f.1 :: seen) = .ok rest ∧ kept = f :: rest := by
  simp only [visitRecord, h, List.contains_iff_mem]
  by_cases hseen : f.1 ∈ seen
  · simp only [if_pos hseen, Reading.bind_eq_ok]
    exact ⟨nofun, fun hnot => absurd hseen hnot.1⟩
  · simp only [if_neg hseen, Reading.bind_eq_ok]
    constructor
    · rintro ⟨_, haccepts, rest, hrest, hkept⟩
      exact ⟨hseen, haccepts, rest, hrest, (Except.ok.inj hkept).symm⟩
    · rintro ⟨-, haccepts, rest, hrest, rfl⟩
      exact ⟨⟨⟩, haccepts, rest, hrest, rfl⟩

/-- A record is accepted if no field of the type is given twice and every one fits. -/
theorem Plain.visitRecord_eq_ok (hplain : layout.Plain) :
    layout.visitRecord fields seen = .ok kept ↔
      kept = layout.own fields ∧ (names kept).Nodup ∧
        ∀ f ∈ kept, f.1 ∉ seen ∧ layout.Accepts f := by
  induction fields generalizing seen kept with
  | nil =>
    constructor
    · rintro ⟨⟩
      exact ⟨rfl, List.nodup_nil, nofun⟩
    · rintro ⟨rfl, -, -⟩
      rfl
  | cons f fields ih =>
    cases hfind : layout.rules.find? (·.name == f.1) with
    | none =>
      have hskip : layout.visitRecord (f :: fields) seen = layout.visitRecord fields seen := by
        simp [visitRecord, hfind, hplain.ignoresUnknown]
      rw [hskip, own_cons_of_none hfind, ih]
    | some r =>
      rw [visitRecord_cons_of_some hfind, own_cons_of_some hfind, ← hplain.accepts_iff hfind]
      constructor
      · rintro ⟨hseen, haccepts, rest, hrest, rfl⟩
        obtain ⟨rfl, hnodup, hall⟩ := ih.mp hrest
        refine ⟨rfl, List.nodup_cons.mpr ⟨?_, hnodup⟩, List.forall_mem_cons.mpr
          ⟨⟨hseen, haccepts⟩, fun g hg => ⟨?_, (hall g hg).2⟩⟩⟩
        · intro hmem
          obtain ⟨g, hg, heq⟩ := List.mem_map.mp hmem
          exact (hall g hg).1 (List.mem_cons.mpr (.inl heq))
        · exact fun hmem => (hall g hg).1 (List.mem_cons_of_mem _ hmem)
      · rintro ⟨rfl, hnodup, hall⟩
        obtain ⟨⟨hseen, haccepts⟩, hall⟩ := List.forall_mem_cons.mp hall
        obtain ⟨hnew, hnodup⟩ := List.nodup_cons.mp hnodup
        refine ⟨hseen, haccepts, _, ih.mpr ⟨rfl, hnodup, fun g hg => ⟨?_, (hall g hg).2⟩⟩, rfl⟩
        intro hmem
        rcases List.mem_cons.mp hmem with heq | hmem
        · exact hnew (List.mem_map.mpr ⟨g, hg, heq⟩)
        · exact (hall g hg).1 hmem

/-- A list is accepted if every item fits the field in whose place it stands, and the fields that it
does not reach may be left out. -/
theorem visitList_eq_ok {position : Nat} :
    layout.visitList rules items position = .ok kept ↔
      kept = (rules.map (·.name)).zip items ∧
        (∀ p ∈ rules.zip items, p.1.accepts p.2 = .ok ()) ∧
        ∀ r ∈ rules.drop items.length, r.optional = true := by
  induction rules generalizing items position kept with
  | nil =>
    constructor
    · rintro ⟨⟩
      exact ⟨rfl, nofun, fun r hr => absurd hr (by simp)⟩
    · rintro ⟨rfl, -, -⟩
      rfl
  | cons r rules ih =>
    cases items with
    | nil =>
      cases hoptional : r.optional with
      | false => simp [visitList, hoptional]
      | true => simp [visitList, hoptional, ih]
    | cons item items =>
      simp only [visitList, Reading.bind_eq_ok, ih, List.map_cons, List.zip_cons_cons,
        List.forall_mem_cons, List.length_cons, List.drop_succ_cons]
      constructor
      · rintro ⟨_, haccepts, rest, ⟨rfl, hrest, hoptional⟩, hkept⟩
        exact ⟨(Except.ok.inj hkept).symm, ⟨haccepts, hrest⟩, hoptional⟩
      · rintro ⟨rfl, ⟨haccepts, hrest⟩, hoptional⟩
        exact ⟨⟨⟩, haccepts, _, ⟨rfl, hrest, hoptional⟩, rfl⟩

/-! ## Unpacking -/

theorem names_own (layout : Layout) (fields : List (String × Datum)) :
    names (layout.own fields) = (names fields).filter (· ∈ layout.ownNames) := by
  rw [names, names, List.filter_map]
  rfl

theorem field?_own {name : String} (hname : name ∈ layout.ownNames) :
    field? (layout.own fields) name = field? fields name :=
  field?_filter layout.ownNames hname

theorem own_perm (layout : Layout) {given : List (String × Datum)} (h : fields.Perm given) :
    (layout.own fields).Perm (layout.own given) :=
  h.filter _

theorem Plain.unpack_record (hplain : layout.Plain) :
    layout.unpack (ordered (.record fields)) = .ok kept ↔
      kept = layout.own (sortFields fields) ∧ (names (layout.own fields)).Nodup ∧
        ∀ f ∈ layout.own fields, layout.Accepts f := by
  have hperm := layout.own_perm (sortFields_perm fields)
  rw [ordered, unpack, hplain.visitRecord_eq_ok]
  constructor
  · rintro ⟨rfl, hnodup, hall⟩
    exact ⟨rfl, (hperm.map _).nodup_iff.mp hnodup, fun f hf => (hall f (hperm.mem_iff.mpr hf)).2⟩
  · rintro ⟨rfl, hnodup, hall⟩
    exact ⟨rfl, (hperm.map _).nodup_iff.mpr hnodup,
      fun f hf => ⟨List.not_mem_nil, hall f (hperm.mem_iff.mp hf)⟩⟩

/-- An item fits the rule in whose place it stands exactly if it fits as a field of that name. -/
theorem Plain.accepts_zip (hplain : layout.Plain) :
    (∀ p ∈ layout.rules.zip items, p.1.accepts p.2 = .ok ()) ↔
      ∀ f ∈ layout.ownNames.zip items, layout.Accepts f := by
  rw [ownNames, List.zip_map_left, List.forall_mem_map]
  refine forall₂_congr fun p hp => ?_
  have hrule := (List.of_mem_zip hp).1
  constructor
  · exact fun hok => ⟨p.1, hrule, rfl, hok⟩
  · rintro ⟨r, hr, hname, hok⟩
    exact List.inj_on_of_nodup_map hplain.nodup hr hrule hname ▸ hok

theorem Plain.unpack_list (hplain : layout.Plain) :
    layout.unpack (ordered (.list items)) = .ok kept ↔
      kept = layout.ownNames.zip items ∧ items.length ≤ layout.ownNames.length ∧
        (∀ f ∈ layout.ownNames.zip items, layout.Accepts f) ∧
        ∀ r ∈ layout.rules.drop items.length, r.optional = true := by
  have hlength : layout.ownNames.length = layout.rules.length := List.length_map _
  simp only [ordered, unpack, Reading.bind_eq_ok, visitList_eq_ok, hplain.ignoresSurplus, and_true,
    ← hplain.accepts_zip, hlength]
  constructor
  · rintro ⟨given, ⟨rfl, haccepts, hoptional⟩, h⟩
    split at h
    · obtain ⟨_, ⟨⟩, _⟩ := Reading.bind_eq_ok.mp h
    · exact ⟨(Except.ok.inj h).symm, Nat.le_of_not_lt ‹_›, haccepts, hoptional⟩
  · rintro ⟨rfl, hle, haccepts, hoptional⟩
    refine ⟨_, ⟨rfl, haccepts, hoptional⟩, ?_⟩
    rw [if_neg (Nat.not_lt.mpr hle)]
    rfl

theorem names_zip (own : List String) (items : List Datum) :
    names (own.zip items) = own.take items.length := by
  induction own generalizing items with
  | nil => rw [List.zip_nil_left, List.take_nil]; rfl
  | cons name own ih =>
    cases items with
    | nil => rfl
    | cons item items => rw [List.length_cons, List.take_succ_cons, ← ih items]; rfl

theorem own_zip (layout : Layout) (items : List Datum) :
    layout.own (layout.ownNames.zip items) = layout.ownNames.zip items :=
  List.filter_eq_self.mpr fun _ hf => decide_eq_true (List.of_mem_zip hf).1

/-- What was unpacked is what was given, as far as the type has fields for it. -/
theorem Plain.given_of_unpack (hplain : layout.Plain) (h : layout.unpack d.ordered = .ok kept) :
    ∃ given, d.given? layout.ownNames = some given ∧ (names (layout.own given)).Nodup ∧
      ∀ name ∈ layout.ownNames, field? kept name = field? given name := by
  cases d with
  | record fields =>
    obtain ⟨rfl, hnodup, -⟩ := hplain.unpack_record.mp h
    refine ⟨fields, rfl, hnodup, fun name hname => ?_⟩
    exact (field?_perm hnodup (layout.own_perm (sortFields_perm fields).symm) name).symm.trans
      (field?_own hname)
  | list items =>
    obtain ⟨rfl, hle, -, -⟩ := hplain.unpack_list.mp h
    refine ⟨_, if_pos hle, ?_, fun _ _ => rfl⟩
    rw [own_zip, names_zip]
    exact hplain.nodup.sublist (List.take_sublist _ _)
  | _ => cases h

/-- What is given can be unpacked if it fits, and if a list leaves out only what it may. -/
theorem Plain.unpack_of_given (hplain : layout.Plain) {given : List (String × Datum)}
    (hgiven : d.given? layout.ownNames = some given) (hnodup : (names (layout.own given)).Nodup)
    (haccepts : ∀ f ∈ layout.own given, layout.Accepts f)
    (hoptional : ∀ n, (∀ r ∈ layout.rules.drop n, field? given r.name = none) →
      ∀ r ∈ layout.rules.drop n, r.optional = true) :
    ∃ kept, layout.unpack d.ordered = .ok kept ∧
      ∀ name ∈ layout.ownNames, field? kept name = field? given name := by
  cases d with
  | record fields =>
    obtain rfl := Option.some.inj hgiven
    have hunpack := hplain.unpack_record.mpr ⟨rfl, hnodup, haccepts⟩
    obtain ⟨given, hgiven, -, hfound⟩ := hplain.given_of_unpack hunpack
    obtain rfl := Option.some.inj hgiven
    exact ⟨_, hunpack, hfound⟩
  | list items =>
    rw [given?] at hgiven
    split at hgiven
    case isFalse => cases hgiven
    rename_i hle
    obtain rfl := Option.some.inj hgiven
    rw [own_zip] at haccepts
    refine ⟨_, hplain.unpack_list.mpr ⟨rfl, hle, haccepts, hoptional _ fun r hr => ?_⟩,
      fun _ _ => rfl⟩
    -- The fields that the items do not reach are not among those that they do reach.
    rw [field?_eq_none_iff, names_zip]
    have hdrop : r.name ∈ layout.ownNames.drop items.length := by
      rw [ownNames, ← List.map_drop]
      exact List.mem_map_of_mem hr
    exact fun htake => List.disjoint_take_drop hplain.nodup (Nat.le_refl _) htake hdrop
  | _ => cases hgiven

/-- Neither the order of a record's fields nor fields that the type does not have make a
difference, also where the record is refused. -/
theorem Plain.unpack_record_congr (hplain : layout.Plain) {given : List (String × Datum)}
    (hfields : (names fields).Nodup) (hgiven : (names given).Nodup)
    (h : ∀ name ∈ layout.ownNames, field? fields name = field? given name) :
    layout.unpack (ordered (.record fields)) = layout.unpack (ordered (.record given)) := by
  have hnodup {fields : List (String × Datum)} (h : (names fields).Nodup) :
      (names (layout.own fields)).Nodup := by
    rw [names_own]
    exact h.filter _
  have hperm : (layout.own fields).Perm (layout.own given) := by
    refine perm_of_field?_eq (hnodup hfields) (hnodup hgiven) fun name => ?_
    by_cases hname : name ∈ layout.ownNames
    · rw [field?_own hname, field?_own hname, h name hname]
    · have hnone (fields : List (String × Datum)) : field? (layout.own fields) name = none := by
        rw [field?_eq_none_iff, names_own, List.mem_filter, decide_eq_true_iff]
        exact fun hmem => hname hmem.2
      rw [hnone, hnone]
  have hown : layout.own (sortFields fields) = layout.own (sortFields given) := by
    have hsorted := layout.own_perm (sortFields_perm fields)
    refine eq_of_perm_of_sorted ((hsorted.map _).nodup_iff.mpr (hnodup hfields)) ?_
      ((pairwise_sortFields fields).filter _) ((pairwise_sortFields given).filter _)
    exact hsorted.trans (hperm.trans (layout.own_perm (sortFields_perm given)).symm)
  rw [ordered, ordered, unpack, unpack, ← hplain.visitRecord_own, hown, hplain.visitRecord_own]

end Layout

end Datum

end SectorForest
