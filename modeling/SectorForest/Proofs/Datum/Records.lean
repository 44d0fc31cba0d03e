import SectorForest.Proofs.Datum.Layout
import SectorForest.Sector

/-!
# Records written and read

Organizations, sectors and the drafts of both are written as records and read back from them. Which
data mean a value is said by `Means`: fields are found by name, in a record of any order and among
others, or by place, in a list; every field that is there spells the value's own datum, and a field
that is not there is spare. `RoundTrips` says that reading goes by this meaning, and what follows
for data that were written. It is shown once, for a type whose fields are read one by one as
`Recorded` has it, and `records_written_and_read` says it of all four types.
-/

namespace SectorForest

open Datum

variable {α T : Type} {written given kept : List (String × Datum)} {spare : String → Prop}
  {name : String} {d w x : Datum} {a : α}

/-! ## What a datum means -/

/-- The fields of a record; any other datum has none. -/
def Datum.recordFields : Datum → List (String × Datum)
  | .record fields => fields
  | _ => []

/-- The fields that hold one of a few named values. -/
def variantFields : List String :=
  ["type", "status"]

/-- The datum `x` stands for the written `w`: it is the same, or, where one of a few named values is
asked for, it is a record whose only field has the name that is written. -/
def Spells (name : String) (w x : Datum) : Prop :=
  x = w ∨ name ∈ variantFields ∧ ∃ text, w = .text text ∧ x = .record [(text, .null)]

/-- A rule is that of a written field and accepts whatever spells it. -/
def Fits (r : FieldRule) (f : String × Datum) : Prop :=
  r.name = f.1 ∧ ∀ x, Spells f.1 f.2 x → r.accepts x = .ok ()

/-- A field of a written record is given, or it is not and is spare. -/
def Gives (given : List (String × Datum)) (spare : String → Prop) (f : String × Datum) : Prop :=
  (∃ x, field? given f.1 = some x ∧ Spells f.1 f.2 x) ∨ field? given f.1 = none ∧ spare f.1

/-- A datum gives the fields of a written record, none of them twice. -/
def Means (written : List (String × Datum)) (spare : String → Prop) (d : Datum) : Prop :=
  ∃ given, d.given? (names written) = some given ∧
    ((names given).filter (· ∈ names written)).Nodup ∧ ∀ f ∈ written, Gives given spare f

/-- How values of a type are written and read: a record has the fields `own`, of which the record of
a value may leave out those that are `spare`. -/
structure RoundTrips (write : T → Datum) (read : Datum → Reading T) (own : List String)
    (spare : T → String → Prop) : Prop where
  written : ∀ v, ∃ fields, write v = .record fields ∧ names fields = own
  distinct : own.Nodup
  read_write : ∀ v, read (write v) = .ok v
  /-- Neither the order of fields nor fields of other names make a difference, also where reading
  fails. -/
  insensitive : ∀ fields given, (names fields).Nodup → (names given).Nodup →
    (∀ name ∈ own, field? fields name = field? given name) →
    read (.record fields) = read (.record given)
  /-- A record may leave out what is spare. -/
  spared : ∀ v given, (names given).Nodup →
    (∀ f ∈ (write v).recordFields,
      field? given f.1 = some f.2 ∨ field? given f.1 = none ∧ spare v f.1) →
    read (.record given) = .ok v
  /-- A list of the values in the order of their fields may end before what is spare. -/
  listed : ∀ v front back, (write v).recordFields = front ++ back → (∀ f ∈ back, spare v f.1) →
    read (.list (front.map (·.2))) = .ok v
  /-- A value is read from what means it, and from nothing else. -/
  read_iff : ∀ d v, read d = .ok v ↔ Means (write v).recordFields (spare v) d
  /-- Writing what was read brings a datum into a form that stays. -/
  settled : ∀ d v, read d = .ok v → read (write v) = .ok v

/-! ## Single fields -/

theorem spells_self (name : String) (w : Datum) : Spells name w w :=
  .inl rfl

/-- A reading that has one datum for a value goes by what spells it. -/
theorem spells_iff {read : Datum → Reading α} (hread : read x = .ok a ↔ x = w)
    (hname : name ∉ variantFields) : read x = .ok a ↔ Spells name w x :=
  hread.trans ⟨.inl, fun h => h.elim id fun h => absurd h.1 hname⟩

theorem asInt64_spells {n : Int64} (hname : name ∉ variantFields := by decide) :
    x.asInt64 = .ok n ↔ Spells name (.integer n.toInt) x :=
  spells_iff asInt64_eq_ok hname

theorem asUInt32_spells {n : UInt32} (hname : name ∉ variantFields := by decide) :
    x.asUInt32 = .ok n ↔ Spells name (.integer n.toNat) x :=
  spells_iff asUInt32_eq_ok hname

theorem asText_spells {expected text : String} (hname : name ∉ variantFields := by decide) :
    x.asText expected = .ok text ↔ Spells name (.text text) x :=
  spells_iff asText_eq_ok hname

theorem asBoolean_spells {value : Bool} (hname : name ∉ variantFields := by decide) :
    x.asBoolean = .ok value ↔ Spells name (.boolean value) x :=
  spells_iff asBoolean_eq_ok hname

theorem asParent_spells {parent : Option SectorId} (hname : name ∉ variantFields := by decide) :
    x.asOption asInt64 = .ok parent ↔ Spells name (Sector.parentDatum parent) x :=
  spells_iff (asOption_eq_ok asInt64_eq_ok nofun) hname

theorem asParentCode_spells {expected : String} {code : Option String}
    (hname : name ∉ variantFields := by decide) :
    x.asOption (asText expected) = .ok code ↔ Spells name (code.elim .null .text) x :=
  spells_iff (asOption_eq_ok asText_eq_ok nofun) hname

theorem variantNamed_eq_ok {named : List (String × α)} (h : (named.map (·.1)).Nodup) :
    variantNamed named name = .ok a ↔ (name, a) ∈ named := by
  unfold variantNamed
  cases hfind : named.find? (·.1 == name) with
  | none =>
    refine ⟨nofun, fun hmem => ?_⟩
    exact absurd (List.find?_eq_none.mp hfind _ hmem) (by simp)
  | some found =>
    have hmem := List.mem_of_find?_eq_some hfind
    have hname : found.1 = name := by simpa using List.find?_some hfind
    constructor
    · rintro ⟨⟩
      exact hname ▸ hmem
    · intro hgiven
      exact congrArg (Except.ok ·.2) (List.inj_on_of_nodup_map h hmem hgiven hname)

theorem asVariant_spells {named : List (String × α)} (h : (named.map (·.1)).Nodup) {text : String}
    (htext : ∀ name, (name, a) ∈ named ↔ name = text) (hname : name ∈ variantFields) :
    x.asVariant named = .ok a ↔ Spells name (.text text) x := by
  simp only [asVariant_eq_ok, variantNamed_eq_ok h, htext, exists_eq_left, Spells, hname,
    true_and, Datum.text.injEq, exists_eq_left']

theorem OrganizationKind.ofDatum_spells {kind : OrganizationKind} :
    OrganizationKind.ofDatum x = .ok kind ↔ Spells "type" kind.toDatum x := by
  refine asVariant_spells (by decide) (fun name => ?_) (by decide)
  cases kind <;> simp [OrganizationKind.named, OrganizationKind.name]

theorem Status.ofDatum_spells {status : Status} :
    Status.ofDatum x = .ok status ↔ Spells "status" status.toDatum x := by
  refine asVariant_spells (by decide) (fun name => ?_) (by decide)
  cases status <;> simp [Status.named, Status.name]

theorem required_gives {read : Datum → Reading α} (hread : ∀ {x}, read x = .ok a ↔ Spells name w x)
    (hspare : ¬spare name) : required kept name read = .ok a ↔ Gives kept spare (name, w) := by
  simp only [required_eq_ok, hread, Gives, hspare, and_false, or_false]

theorem optional_gives {read : Datum → Reading α} (hread : ∀ {x}, read x = .ok a ↔ Spells name w x)
    {absent : α} (hspare : spare name ↔ a = absent) :
    optional kept name read absent = .ok a ↔ Gives kept spare (name, w) := by
  simp only [optional_eq_ok, hread, Gives, hspare]

theorem rule_fits {read : Datum → Reading α} {isOptional : Bool}
    (hread : ∀ {x}, read x = .ok a ↔ Spells name w x) :
    Fits (rule name read isOptional) (name, w) :=
  ⟨rfl, fun _ hx => rule_accepts (hread.mpr hx)⟩

theorem exists_fits {rules : List FieldRule} (h : List.Forall₂ Fits rules written)
    {f : String × Datum} (hf : f ∈ written) : ∃ r ∈ rules, Fits r f := by
  induction h with
  | nil => cases hf
  | cons hfits _ ih =>
    rcases List.mem_cons.mp hf with rfl | hf
    · exact ⟨_, List.mem_cons_self, hfits⟩
    · obtain ⟨r, hr, hfits⟩ := ih hf
      exact ⟨r, List.mem_cons_of_mem _ hr, hfits⟩

/-! ## Types whose fields are read one by one -/

/-- A type is read from what its layout unpacks, field by field. -/
structure Recorded (layout : Layout) (write : T → Datum) (read : Datum → Reading T)
    (spare : T → String → Prop) : Prop where
  plain : layout.Plain
  record : ∀ v, write v = .record (write v).recordFields
  fits : ∀ v, List.Forall₂ Fits layout.rules (write v).recordFields
  /-- A list that ends before spare fields ends before optional ones. -/
  spare_back : ∀ v n, (∀ r ∈ layout.rules.drop n, spare v r.name) →
    ∀ r ∈ layout.rules.drop n, r.optional = true
  factors : ∀ {d e : Datum}, layout.unpack d.ordered = layout.unpack e.ordered → read d = read e
  reads : ∀ {d v}, read d = .ok v ↔ ∃ kept, layout.unpack d.ordered = .ok kept ∧
    ∀ f ∈ (write v).recordFields, Gives kept (spare v) f

namespace Recorded

variable {layout : Layout} {write : T → Datum} {read : Datum → Reading T}
  {spare : T → String → Prop}

theorem names_written (h : Recorded layout write read spare) (v : T) :
    names (write v).recordFields = layout.ownNames := by
  rw [names, Layout.ownNames, ← List.forall₂_eq_eq_eq, List.forall₂_map_left_iff,
    List.forall₂_map_right_iff]
  exact (h.fits v).flip.imp fun _ _ hfits => hfits.1.symm

theorem accepts (h : Recorded layout write read spare) {v : T} {f : String × Datum}
    (hf : f ∈ (write v).recordFields) (hx : Spells f.1 f.2 x) : layout.Accepts (f.1, x) := by
  obtain ⟨r, hr, hfits⟩ := exists_fits (h.fits v) hf
  exact ⟨r, hr, hfits.1, hfits.2 x hx⟩

theorem mem_ownNames (h : Recorded layout write read spare) {v : T} {f : String × Datum}
    (hf : f ∈ (write v).recordFields) : f.1 ∈ layout.ownNames :=
  h.names_written v ▸ List.mem_map_of_mem hf

theorem gives_congr {f : String × Datum} {spare : String → Prop}
    (h : field? kept f.1 = field? given f.1) : Gives kept spare f ↔ Gives given spare f := by
  rw [Gives, Gives, h]

theorem read_iff (h : Recorded layout write read spare) (d : Datum) (v : T) :
    read d = .ok v ↔ Means (write v).recordFields (spare v) d := by
  rw [h.reads, Means, h.names_written v]
  constructor
  · rintro ⟨kept, hunpack, hgives⟩
    obtain ⟨given, hgiven, hnodup, hfound⟩ := h.plain.given_of_unpack hunpack
    exact ⟨given, hgiven, layout.names_own given ▸ hnodup,
      fun f hf => (gives_congr (hfound f.1 (h.mem_ownNames hf))).mp (hgives f hf)⟩
  · rintro ⟨given, hgiven, hnodup, hgives⟩
    rw [← layout.names_own given] at hnodup
    have hwritten {name : String} (hname : name ∈ layout.ownNames) :
        ∃ f ∈ (write v).recordFields, f.1 = name := by
      rw [← h.names_written v] at hname
      exact List.mem_map.mp hname
    have haccepts : ∀ g ∈ layout.own given, layout.Accepts g := by
      rintro ⟨name, x⟩ hg
      have hname : name ∈ layout.ownNames := by simpa using (List.mem_filter.mp hg).2
      have hx : field? given name = some x := by
        rw [← Layout.field?_own hname]
        exact (field?_eq_some_iff hnodup).mpr hg
      obtain ⟨f, hf, rfl⟩ := hwritten hname
      rcases hgives f hf with ⟨y, hy, hspells⟩ | ⟨hnone, -⟩
      · obtain rfl := Option.some.inj (hx.symm.trans hy)
        exact h.accepts hf hspells
      · cases hx.symm.trans hnone
    have hoptional : ∀ n, (∀ r ∈ layout.rules.drop n, field? given r.name = none) →
        ∀ r ∈ layout.rules.drop n, r.optional = true := by
      intro n hnone
      refine h.spare_back v n fun r hr => ?_
      obtain ⟨f, hf, hname⟩ := hwritten (List.mem_map_of_mem (List.mem_of_mem_drop hr))
      rcases hgives f hf with ⟨y, hy, -⟩ | ⟨-, hspare⟩
      · rw [hname, hnone r hr] at hy
        cases hy
      · exact hname ▸ hspare
    obtain ⟨kept, hunpack, hfound⟩ := h.plain.unpack_of_given hgiven hnodup haccepts hoptional
    exact ⟨kept, hunpack,
      fun f hf => (gives_congr (hfound f.1 (h.mem_ownNames hf))).mpr (hgives f hf)⟩

theorem read_record (h : Recorded layout write read spare) {v : T}
    (hnodup : (names given).Nodup)
    (hgiven : ∀ f ∈ (write v).recordFields,
      field? given f.1 = some f.2 ∨ field? given f.1 = none ∧ spare v f.1) :
    read (.record given) = .ok v := by
  refine (h.read_iff _ v).mpr ⟨given, rfl, hnodup.filter _, fun f hf => ?_⟩
  rcases hgiven f hf with hsome | hnone
  · exact .inl ⟨f.2, hsome, spells_self f.1 f.2⟩
  · exact .inr hnone

theorem read_write (h : Recorded layout write read spare) (v : T) : read (write v) = .ok v := by
  have hnodup : (names (write v).recordFields).Nodup := h.names_written v ▸ h.plain.nodup
  rw [h.record v]
  exact h.read_record hnodup fun f hf => .inl ((field?_eq_some_iff hnodup).mpr hf)

theorem read_list (h : Recorded layout write read spare) {v : T}
    {front back : List (String × Datum)} (hwritten : (write v).recordFields = front ++ back)
    (hback : ∀ f ∈ back, spare v f.1) : read (.list (front.map (·.2))) = .ok v := by
  have hnodup : (names (front ++ back)).Nodup := by
    rw [← hwritten, h.names_written v]
    exact h.plain.nodup
  rw [names_append] at hnodup
  obtain ⟨hfront, -, hdisjoint⟩ := List.nodup_append.mp hnodup
  refine (h.read_iff _ v).mpr ?_
  rw [hwritten]
  refine ⟨front, ?_, hfront.filter _, fun f hf => ?_⟩
  · have hle : (front.map (·.2)).length ≤ (names (front ++ back)).length := by
      simp [names]
    rw [given?, if_pos hle, zip_names_append]
  · rcases List.mem_append.mp hf with hf | hf
    · exact .inl ⟨f.2, (field?_eq_some_iff hfront).mpr hf, spells_self f.1 f.2⟩
    · refine .inr ⟨field?_eq_none_iff.mpr fun hmem => ?_, hback f hf⟩
      exact hdisjoint _ hmem _ (List.mem_map_of_mem hf) rfl

theorem roundTrips (h : Recorded layout write read spare) :
    RoundTrips write read layout.ownNames spare where
  written := fun v => ⟨_, h.record v, h.names_written v⟩
  distinct := h.plain.nodup
  read_write := h.read_write
  insensitive := fun _ _ hfields hgiven hsame =>
    h.factors (h.plain.unpack_record_congr hfields hgiven hsame)
  spared := fun _ _ => h.read_record
  listed := fun _ _ _ => h.read_list
  read_iff := h.read_iff
  settled := fun _ v _ => h.read_write v

end Recorded

/-! ## The four types -/

namespace Organization

theorem recorded : Recorded layout toDatum ofDatum fun _ _ => False where
  plain := ⟨rfl, rfl, by decide⟩
  record := fun _ => rfl
  fits := fun o => .cons (rule_fits asInt64_spells) <| .cons (rule_fits asInt64_spells) <|
    .cons (rule_fits asText_spells) <| .cons (rule_fits asText_spells) <|
    .cons (rule_fits OrganizationKind.ofDatum_spells) <|
    .cons (rule_fits Status.ofDatum_spells) .nil
  spare_back := fun _ _ h r hr => (h r hr).elim
  factors := fun h => by simp only [ofDatum, h]
  reads := by
    intro d o
    simp only [ofDatum, Reading.bind_eq_ok, toDatum, recordFields, List.forall_mem_cons]
    constructor
    · rintro ⟨kept, hunpack, id, hid, tenant, htenant, code, hcode, label, hlabel, kind, hkind,
        status, hstatus, ⟨⟩⟩
      exact ⟨kept, hunpack, (required_gives asInt64_spells not_false).mp hid,
        (required_gives asInt64_spells not_false).mp htenant,
        (required_gives asText_spells not_false).mp hcode,
        (required_gives asText_spells not_false).mp hlabel,
        (required_gives OrganizationKind.ofDatum_spells not_false).mp hkind,
        (required_gives Status.ofDatum_spells not_false).mp hstatus, nofun⟩
    · rintro ⟨kept, hunpack, hid, htenant, hcode, hlabel, hkind, hstatus, -⟩
      exact ⟨kept, hunpack, _, (required_gives asInt64_spells not_false).mpr hid,
        _, (required_gives asInt64_spells not_false).mpr htenant,
        _, (required_gives asText_spells not_false).mpr hcode,
        _, (required_gives asText_spells not_false).mpr hlabel,
        _, (required_gives OrganizationKind.ofDatum_spells not_false).mpr hkind,
        _, (required_gives Status.ofDatum_spells not_false).mpr hstatus, rfl⟩

end Organization

namespace OrganizationDraft

/-- What the record of a draft may leave out. -/
def Spare (o : OrganizationDraft) (name : String) : Prop :=
  name = "status" ∧ o.status = .active

theorem recorded : Recorded layout toDatum ofDatum Spare where
  plain := ⟨rfl, rfl, by decide⟩
  record := fun _ => rfl
  fits := fun o => .cons (rule_fits asText_spells) <| .cons (rule_fits asText_spells) <|
    .cons (rule_fits OrganizationKind.ofDatum_spells) <|
    .cons (rule_fits Status.ofDatum_spells) .nil
  spare_back := by
    intro o n hspare r hr
    have hrules : ∀ r ∈ layout.rules, r.name = "status" → r.optional = true := by
      simp [layout, rule]
    exact hrules r (List.mem_of_mem_drop hr) (hspare r hr).1
  factors := fun h => by simp only [ofDatum, h]
  reads := by
    intro d o
    have hkept {name : String} (hname : name ≠ "status") : ¬o.Spare name := fun h => hname h.1
    have hstatus : o.Spare "status" ↔ o.status = .active := and_iff_right rfl
    simp only [ofDatum, Reading.bind_eq_ok, toDatum, recordFields, List.forall_mem_cons]
    constructor
    · rintro ⟨kept, hunpack, code, hcode, label, hlabel, kind, hkind, status, hs, ⟨⟩⟩
      exact ⟨kept, hunpack, (required_gives asText_spells (hkept (by decide))).mp hcode,
        (required_gives asText_spells (hkept (by decide))).mp hlabel,
        (required_gives OrganizationKind.ofDatum_spells (hkept (by decide))).mp hkind,
        (optional_gives Status.ofDatum_spells hstatus).mp hs, nofun⟩
    · rintro ⟨kept, hunpack, hcode, hlabel, hkind, hs, -⟩
      exact ⟨kept, hunpack, _, (required_gives asText_spells (hkept (by decide))).mpr hcode,
        _, (required_gives asText_spells (hkept (by decide))).mpr hlabel,
        _, (required_gives OrganizationKind.ofDatum_spells (hkept (by decide))).mpr hkind,
        _, (optional_gives Status.ofDatum_spells hstatus).mpr hs, rfl⟩

end OrganizationDraft

namespace Sector

/-- What the record of a sector may leave out. -/
def Spare (s : Sector) (name : String) : Prop :=
  name = "parent_id" ∧ s.parent = none

theorem recorded : Recorded layout toDatum ofDatum Spare where
  plain := ⟨rfl, rfl, by decide⟩
  record := fun _ => rfl
  fits := fun s => .cons (rule_fits asInt64_spells) <| .cons (rule_fits asInt64_spells) <|
    .cons (rule_fits asInt64_spells) <| .cons (rule_fits asText_spells) <|
    .cons (rule_fits asText_spells) <| .cons (rule_fits asParent_spells) <|
    .cons (rule_fits asBoolean_spells) <| .cons (rule_fits asUInt32_spells) <|
    .cons (rule_fits Status.ofDatum_spells) .nil
  spare_back := by
    intro s n hspare r hr
    -- A list that leaves anything out leaves out the status, which is never spare.
    have hrest := List.ne_nil_of_mem hr
    have hlast := List.getLast_mem hrest
    rw [List.getLast_drop] at hlast
    have hname : "status" = "parent_id" := (hspare _ hlast).1
    exact absurd hname (by decide)
  factors := fun h => by simp only [ofDatum, h]
  reads := by
    intro d s
    have hkept {name : String} (hname : name ≠ "parent_id") : ¬s.Spare name := fun h => hname h.1
    have hparent : s.Spare "parent_id" ↔ s.parent = none := and_iff_right rfl
    simp only [ofDatum, Reading.bind_eq_ok, toDatum, recordFields, List.forall_mem_cons]
    constructor
    · rintro ⟨kept, hunpack, id, hid, tenant, htenant, org, horg, code, hcode, label, hlabel,
        parent, hp, hasParent, hhas, depth, hdepth, status, hstatus, ⟨⟩⟩
      exact ⟨kept, hunpack, (required_gives asInt64_spells (hkept (by decide))).mp hid,
        (required_gives asInt64_spells (hkept (by decide))).mp htenant,
        (required_gives asInt64_spells (hkept (by decide))).mp horg,
        (required_gives asText_spells (hkept (by decide))).mp hcode,
        (required_gives asText_spells (hkept (by decide))).mp hlabel,
        (optional_gives asParent_spells hparent).mp hp,
        (required_gives asBoolean_spells (hkept (by decide))).mp hhas,
        (required_gives asUInt32_spells (hkept (by decide))).mp hdepth,
        (required_gives Status.ofDatum_spells (hkept (by decide))).mp hstatus, nofun⟩
    · rintro ⟨kept, hunpack, hid, htenant, horg, hcode, hlabel, hp, hhas, hdepth, hstatus, -⟩
      exact ⟨kept, hunpack, _, (required_gives asInt64_spells (hkept (by decide))).mpr hid,
        _, (required_gives asInt64_spells (hkept (by decide))).mpr htenant,
        _, (required_gives asInt64_spells (hkept (by decide))).mpr horg,
        _, (required_gives asText_spells (hkept (by decide))).mpr hcode,
        _, (required_gives asText_spells (hkept (by decide))).mpr hlabel,
        _, (optional_gives asParent_spells hparent).mpr hp,
        _, (required_gives asBoolean_spells (hkept (by decide))).mpr hhas,
        _, (required_gives asUInt32_spells (hkept (by decide))).mpr hdepth,
        _, (required_gives Status.ofDatum_spells (hkept (by decide))).mpr hstatus, rfl⟩

end Sector

namespace SectorDraft

/-- What the record of a draft may leave out. -/
def Spare (s : SectorDraft) (name : String) : Prop :=
  name = "parentCode" ∧ s.parentCode = none ∨ name = "status" ∧ s.status = .active

theorem recorded : Recorded layout toDatum ofDatum Spare where
  plain := ⟨rfl, rfl, by decide⟩
  record := fun _ => rfl
  fits := fun s => .cons (rule_fits asText_spells) <| .cons (rule_fits asParentCode_spells) <|
    .cons (rule_fits Status.ofDatum_spells) .nil
  spare_back := by
    intro s n hspare r hr
    have hrules : ∀ r ∈ layout.rules, r.name = "label" ∨ r.optional = true := by
      simp [layout, rule]
    rcases hrules r (List.mem_of_mem_drop hr) with hname | hoptional
    · exact absurd (hspare r hr) (by simp [Spare, hname])
    · exact hoptional
  factors := fun h => by simp only [ofDatum, h]
  reads := by
    intro d s
    have hlabel : ¬s.Spare "label" := by simp [Spare]
    have hparent : s.Spare "parentCode" ↔ s.parentCode = none := by simp [Spare]
    have hstatus : s.Spare "status" ↔ s.status = .active := by simp [Spare]
    simp only [ofDatum, Reading.bind_eq_ok, toDatum, recordFields, List.forall_mem_cons]
    constructor
    · rintro ⟨kept, hunpack, label, hl, parentCode, hp, status, hs, ⟨⟩⟩
      exact ⟨kept, hunpack, (required_gives asText_spells hlabel).mp hl,
        (optional_gives asParentCode_spells hparent).mp hp,
        (optional_gives Status.ofDatum_spells hstatus).mp hs, nofun⟩
    · rintro ⟨kept, hunpack, hl, hp, hs, -⟩
      exact ⟨kept, hunpack, _, (required_gives asText_spells hlabel).mpr hl,
        _, (optional_gives asParentCode_spells hparent).mpr hp,
        _, (optional_gives Status.ofDatum_spells hstatus).mpr hs, rfl⟩

end SectorDraft

/-- The four types are written as records that are read back as the same values, whatever the order
of fields and whatever else a record holds, also from a list and where a default is left out; and
nothing is read as a value that does not mean it. -/
theorem records_written_and_read :
    RoundTrips Organization.toDatum Organization.ofDatum
        ["id", "tenant_id", "code", "label", "type", "status"] (fun _ _ => False) ∧
      RoundTrips OrganizationDraft.toDatum OrganizationDraft.ofDatum
        ["code", "label", "type", "status"] OrganizationDraft.Spare ∧
      RoundTrips Sector.toDatum Sector.ofDatum
        ["id", "tenant_id", "org_id", "code", "label", "parent_id", "has_parent", "depth", "status"]
        Sector.Spare ∧
      RoundTrips SectorDraft.toDatum SectorDraft.ofDatum ["label", "parentCode", "status"]
        SectorDraft.Spare :=
  ⟨Organization.recorded.roundTrips, OrganizationDraft.recorded.roundTrips,
    Sector.recorded.roundTrips, SectorDraft.recorded.roundTrips⟩

example : (SectorDraft.ofDatum (.list [.text "North"])).toOption = some { label := "North" } := by
  decide +kernel

end SectorForest
