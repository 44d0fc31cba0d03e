import SectorForest.Proofs.Datum.Fields
import SectorForest.Proofs.Tree.Nodes

/-!
# Trees as data

A tree is written as a datum without the numbers of its nodes and without empty lists of children.
Every other part of it can be told from the datum, in whatever order the fields of its records
stand: `canonical_toDatum_eq_iff`. The records in the datum are the nodes of the tree in preorder,
the order in which `find?` looks for a code and which `descendantCount` counts.
-/

namespace SectorForest

/-! ## Records in data -/

namespace Datum

mutual

/-- All records in a datum, each before those in its fields. -/
def records : Datum → List (List (String × Datum))
  | .list items => recordsOfItems items
  | .record fields => fields :: recordsOfFields fields
  | _ => []

/-- All records in the items of a list. -/
def recordsOfItems : List Datum → List (List (String × Datum))
  | [] => []
  | d :: rest => records d ++ recordsOfItems rest

/-- All records in the fields of a record. -/
def recordsOfFields : List (String × Datum) → List (List (String × Datum))
  | [] => []
  | (_, d) :: rest => records d ++ recordsOfFields rest

end

theorem recordsOfItems_eq (items : List Datum) : recordsOfItems items = items.flatMap records := by
  induction items with
  | nil => rfl
  | cons d items ih => rw [recordsOfItems, ih, List.flatMap_cons]

theorem recordsOfFields_eq (fields : List (String × Datum)) :
    recordsOfFields fields = fields.flatMap fun f => f.2.records := by
  induction fields with
  | nil => rfl
  | cons f fields ih => rw [recordsOfFields, ih, List.flatMap_cons]

end Datum

/-- Two lists agree under one function exactly if they do under another, where the functions tell
the same members apart. -/
theorem map_eq_map_iff_of_forall {α β γ : Type} {f : α → β} {g : α → γ} {xs ys : List α}
    (h : ∀ x ∈ xs, ∀ y, f x = f y ↔ g x = g y) : xs.map f = ys.map f ↔ xs.map g = ys.map g := by
  induction xs generalizing ys with
  | nil => simp [eq_comm, List.map_eq_nil_iff]
  | cons x xs ih =>
    cases ys with
    | nil => simp
    | cons y ys =>
      simp only [List.map_cons, List.cons.injEq, h x List.mem_cons_self y,
        ih fun z hz => h z (List.mem_cons_of_mem x hz)]

theorem Status.name_injective {a b : Status} (h : a.name = b.name) : a = b := by
  cases a <;> cases b <;> first | rfl | exact absurd h (by decide)

namespace SectorTree

open Datum

variable {t u : SectorTree}

mutual

/-- The tree with zero for the number of every node. -/
def unnumbered : SectorTree → SectorTree
  | .node _ code label depth status children =>
    .node 0 code label depth status (unnumberedAll children)

/-- Several trees with zero for the numbers of their nodes. -/
def unnumberedAll : List SectorTree → List SectorTree
  | [] => []
  | t :: rest => unnumbered t :: unnumberedAll rest

end

theorem unnumberedAll_eq (ts : List SectorTree) : unnumberedAll ts = ts.map unnumbered := by
  induction ts with
  | nil => rfl
  | cons t ts ih => rw [unnumberedAll, ih, List.map_cons]

/-- The fields of a node's record under which its own parts stand. -/
def ownFields (t : SectorTree) : List (String × Datum) :=
  [("code", .text t.code), ("label", .text t.label), ("depth", .integer t.depth.toNat),
    ("status", t.status.toDatum)]

/-- The field of a node's record under which the nodes below it stand, if there are any. -/
def childFields : List Datum → List (String × Datum)
  | [] => []
  | d :: rest => [("children", .list (d :: rest))]

/-- The fields of a node's record. -/
def fields (t : SectorTree) : List (String × Datum) :=
  t.ownFields ++ childFields (t.children.map toDatum)

/-- The names of the fields of a node's record. -/
def fieldNames (t : SectorTree) : List String :=
  ["code", "label", "depth", "status"] ++ if t.children = [] then [] else ["children"]

theorem toData_eq (ts : List SectorTree) : toData ts = ts.map toDatum := by
  induction ts with
  | nil => rfl
  | cons t ts ih => rw [toData, ih, List.map_cons]

theorem toDatum_eq (t : SectorTree) :
    t.toDatum = .record t.fields := by
  obtain ⟨_, code, label, depth, status, children⟩ := t
  cases children with
  | nil => rfl
  | cons c cs => rw [toDatum, toData_eq]; rfl

theorem names_fields (t : SectorTree) : names t.fields = t.fieldNames := by
  rw [fields, names_append, fieldNames]
  cases t.children <;> rfl

/-! ## What the datum tells -/

theorem canonical_toDatum (t : SectorTree) : t.toDatum.canonical =
    .record (sortFields
      (t.ownFields ++ childFields (t.children.map fun c => c.toDatum.canonical))) := by
  have hchildren (ds : List Datum) : (childFields ds).map (fun f => (f.1, f.2.canonical)) =
      childFields (ds.map canonical) := by
    cases ds with
    | nil => rfl
    | cons d ds => rw [childFields, List.map_singleton, canonical, canonicalItems_eq]; rfl
  rw [toDatum_eq, canonical, canonicalFields_eq, fields, List.map_append, hchildren, List.map_map]
  rfl

theorem nodup_names_own (t : SectorTree) (children : List Datum) :
    (names (t.ownFields ++ childFields children)).Nodup := by
  rw [names_append]
  have hown : names t.ownFields = ["code", "label", "depth", "status"] := rfl
  cases children with
  | nil => rw [hown]; decide
  | cons d rest => rw [hown]; exact of_decide_eq_true rfl

theorem children_of_field? {children others : List Datum}
    (h : field? (t.ownFields ++ childFields children) "children" =
      field? (u.ownFields ++ childFields others) "children") : children = others := by
  cases children with
  | nil =>
    cases others with
    | nil => rfl
    | cons d rest => cases h
  | cons d rest =>
    cases others with
    | nil => cases h
    | cons e more => exact Datum.list.inj (Option.some.inj h)

/-- Two nodes have the same parts but for their numbers and what is below them. -/
structure Alike (t u : SectorTree) : Prop where
  code : t.code = u.code
  label : t.label = u.label
  depth : t.depth = u.depth
  status : t.status = u.status

theorem canonical_eq_iff : t.toDatum.canonical = u.toDatum.canonical ↔
    Alike t u ∧ (t.children.map fun c => c.toDatum.canonical) =
      u.children.map fun c => c.toDatum.canonical := by
  rw [canonical_toDatum, canonical_toDatum, Datum.record.injEq,
    sortFields_eq_iff (nodup_names_own _ _) (nodup_names_own _ _)]
  constructor
  · intro h
    have hcode : t.code = u.code := Datum.text.inj (Option.some.inj (h "code"))
    have hlabel : t.label = u.label := Datum.text.inj (Option.some.inj (h "label"))
    have hdepth := Datum.integer.inj (Option.some.inj (h "depth"))
    have hstatus := Datum.text.inj (Option.some.inj (h "status"))
    exact ⟨⟨hcode, hlabel, UInt32.toNat_inj.mp (Int.ofNat.inj hdepth),
      Status.name_injective hstatus⟩, children_of_field? (h "children")⟩
  · rintro ⟨⟨hcode, hlabel, hdepth, hstatus⟩, hchildren⟩ name
    rw [ownFields, ownFields, hcode, hlabel, hdepth, hstatus, hchildren]

theorem unnumbered_eq_iff : t.unnumbered = u.unnumbered ↔
    Alike t u ∧ t.children.map unnumbered = u.children.map unnumbered := by
  obtain ⟨_, code, label, depth, status, children⟩ := t
  obtain ⟨_, code', label', depth', status', children'⟩ := u
  simp only [unnumbered, unnumberedAll_eq, SectorTree.node.injEq, true_and]
  constructor
  · rintro ⟨hcode, hlabel, hdepth, hstatus, hchildren⟩
    exact ⟨⟨hcode, hlabel, hdepth, hstatus⟩, hchildren⟩
  · rintro ⟨⟨hcode, hlabel, hdepth, hstatus⟩, hchildren⟩
    exact ⟨hcode, hlabel, hdepth, hstatus, hchildren⟩

/-- Written in whatever order of fields, two trees are the same datum exactly if they differ in
numbers only. -/
theorem canonical_toDatum_eq_iff (t u : SectorTree) :
    t.toDatum.canonical = u.toDatum.canonical ↔ t.unnumbered = u.unnumbered := by
  induction t using induction_below generalizing u with
  | h t ih =>
    rw [canonical_eq_iff, unnumbered_eq_iff]
    exact and_congr_right fun _ => map_eq_map_iff_of_forall ih

theorem toDatum_unnumbered (t : SectorTree) : t.unnumbered.toDatum = t.toDatum := by
  induction t using induction_below with
  | h t ih =>
    obtain ⟨_, code, label, depth, status, children⟩ := t
    have hchildren : (children.map unnumbered).map toDatum = children.map toDatum := by
      rw [List.map_map]
      exact List.map_congr_left ih
    rw [unnumbered, toDatum_eq, toDatum_eq, unnumberedAll_eq]
    exact congrArg (Datum.record <| _ ++ childFields ·) hchildren

theorem toDatum_eq_iff (t u : SectorTree) :
    t.toDatum = u.toDatum ↔ t.unnumbered = u.unnumbered := by
  constructor
  · exact fun h => (canonical_toDatum_eq_iff t u).mp (congrArg canonical h)
  · intro h
    rw [← toDatum_unnumbered t, h, toDatum_unnumbered]

/-! ## Records and nodes -/

/-- Of the fields of a node's record, only the one of the children has records in it. -/
theorem flatMap_records_fields (t : SectorTree) (children : List Datum) :
    (t.ownFields ++ childFields children).flatMap (fun f => f.2.records) =
      children.flatMap records := by
  have hown : t.ownFields.flatMap (fun f => f.2.records) = [] := rfl
  rw [List.flatMap_append, hown, List.nil_append]
  cases children with
  | nil => rfl
  | cons d rest => rw [childFields, List.flatMap_singleton, records, recordsOfItems_eq]

theorem records_toDatum (t : SectorTree) :
    t.toDatum.records = t.fields :: t.children.flatMap fun c => c.toDatum.records := by
  rw [toDatum_eq, records, recordsOfFields_eq, fields, flatMap_records_fields, List.flatMap_map]

/-- The records in the datum of a tree are those of its nodes in preorder. -/
theorem records_eq (t : SectorTree) : t.toDatum.records = t.preorder.map fields := by
  induction t using induction_below with
  | h t ih =>
    rw [records_toDatum, preorder_eq, List.map_cons, List.map_flatMap]
    exact congrArg (t.fields :: ·) (List.flatMap_congr ih)

/-- A tree is searched and counted in preorder, and written with one record for each node in that
order. The records tell everything but the numbers of the nodes, which none of them holds. -/
theorem preorder_and_datum (t u : SectorTree) (wanted : String) :
    (∀ n, t.find? wanted = some n ↔ ∃ before after, t.preorder = before ++ n :: after ∧
        n.code = wanted ∧ ∀ m ∈ before, m.code ≠ wanted) ∧
      (t.find? wanted = none ↔ ∀ n ∈ t.preorder, n.code ≠ wanted) ∧
      t.preorder.length ≠ 0 ∧ t.descendantCount = t.preorder.length - 1 ∧
      (t.toDatum.canonical = u.toDatum.canonical ↔ t.unnumbered = u.unnumbered) ∧
      (t.toDatum = u.toDatum ↔ t.unnumbered = u.unnumbered) ∧
      List.Forall₂ (fun n fields => n.toDatum = .record fields ∧
        names fields = ["code", "label", "depth", "status"] ++
          if n.children = [] then [] else ["children"]) t.preorder t.toDatum.records := by
  refine ⟨fun n => ?_, ?_, ?_, ?_, canonical_toDatum_eq_iff t u, toDatum_eq_iff t u, ?_⟩
  · rw [find?_eq, List.find?_eq_some_iff_append]
    constructor
    · rintro ⟨hcode, before, after, hpreorder, hbefore⟩
      exact ⟨before, after, hpreorder, of_decide_eq_true hcode,
        fun m hm => by simpa using hbefore m hm⟩
    · rintro ⟨before, after, hpreorder, hcode, hbefore⟩
      exact ⟨decide_eq_true hcode, before, after, hpreorder,
        fun m hm => by simpa using hbefore m hm⟩
  · simp [find?_eq, List.find?_eq_none]
  · rw [length_preorder]
    exact Nat.succ_ne_zero _
  · rw [length_preorder, Nat.add_sub_cancel]
  · rw [records_eq, List.forall₂_map_right_iff]
    exact List.forall₂_same.mpr fun n _ => ⟨n.toDatum_eq, n.names_fields⟩

end SectorTree

end SectorForest
