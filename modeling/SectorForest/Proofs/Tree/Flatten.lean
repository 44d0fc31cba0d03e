import SectorForest.Proofs.Tree.Depict

/-!
# Trees flattened to sectors

`flatten` lists the sectors of a tree's nodes, each with the number of the node above it. Building
undoes it for every tree that could have been built, and in whatever order the sectors stand, as
long as those below one node stand in the order of its children: `build_flatten`.
-/

namespace SectorForest.SectorTree

variable {unshown : SectorId → Sector} {parent : Option SectorId} {t n c : SectorTree}
  {sectors : List Sector} {s : Sector}

/-! ## Flattening -/

/-- The sector of a node below `parent`. What a tree does not show of its sectors is as in the
sector that `unshown` gives for the number of the node. -/
def sectorAt (unshown : SectorId → Sector) (parent : Option SectorId) (t : SectorTree) : Sector :=
  { unshown t.id with
    id := t.id, code := t.code, label := t.label, parent, depth := t.depth, status := t.status }

mutual

/-- The sectors of the nodes of a tree that stands below `parent`, in preorder. -/
def flattenBelow (unshown : SectorId → Sector) (parent : Option SectorId) :
    SectorTree → List Sector
  | .node id code label depth status children =>
    sectorAt unshown parent (.node id code label depth status children) ::
      flattenAll unshown id children

/-- The sectors of the nodes of several trees below a node, one tree after the other. -/
def flattenAll (unshown : SectorId → Sector) (parent : SectorId) : List SectorTree → List Sector
  | [] => []
  | t :: rest => flattenBelow unshown (some parent) t ++ flattenAll unshown parent rest

end

/-- The sectors of the nodes of a tree; that of the root has no parent. -/
def flatten (unshown : SectorId → Sector) (t : SectorTree) : List Sector :=
  flattenBelow unshown none t

theorem copies_sectorAt (unshown : SectorId → Sector) (parent : Option SectorId) (t : SectorTree) :
    Copies (sectorAt unshown parent t) t := by
  cases t
  rfl

theorem flattenAll_eq {parent : SectorId} (ts : List SectorTree) :
    flattenAll unshown parent ts = ts.flatMap (flattenBelow unshown (some parent)) := by
  induction ts with
  | nil => rfl
  | cons t ts ih => rw [flattenAll, ih, List.flatMap_cons]

theorem flattenBelow_eq (t : SectorTree) : flattenBelow unshown parent t =
    sectorAt unshown parent t :: t.children.flatMap (flattenBelow unshown (some t.id)) := by
  cases t
  rw [flattenBelow, flattenAll_eq, children, id]

theorem map_id_flattenBelow (t : SectorTree) :
    (flattenBelow unshown parent t).map (fun s => s.id) = t.ids := by
  induction t using induction_below generalizing parent with
  | h t ih =>
    rw [flattenBelow_eq, ids_eq, List.map_cons, List.map_flatMap]
    congr 1
    exact List.flatMap_congr fun c hc => ih c hc

/-- A tree is flattened to the sector of its root and those of the children of its nodes. -/
theorem mem_flattenBelow : s ∈ flattenBelow unshown parent t ↔ s = sectorAt unshown parent t ∨
    ∃ n ∈ t.preorder, ∃ c ∈ n.children, s = sectorAt unshown (some n.id) c := by
  induction t using induction_below generalizing parent with
  | h t ih =>
    rw [flattenBelow_eq, List.mem_cons, List.mem_flatMap]
    refine or_congr_right ⟨?_, ?_⟩
    · rintro ⟨c, hc, hs⟩
      rcases (ih c hc).mp hs with rfl | ⟨n, hn, hbelow⟩
      · exact ⟨t, t.self_mem_preorder, c, hc, rfl⟩
      · exact ⟨n, mem_preorder_of_child hc hn, hbelow⟩
    · rintro ⟨n, hn, c, hc, rfl⟩
      rcases mem_preorder.mp hn with rfl | ⟨d, hd, hn⟩
      · exact ⟨c, hc, (ih c hc).mpr (.inl rfl)⟩
      · exact ⟨d, hd, (ih d hd).mpr (.inr ⟨n, hn, c, hc, rfl⟩)⟩

/-! ## Flattened trees in other orders -/

/-- Distinct numbers, and depth zero at the root and at no node below it. -/
structure Proper (t : SectorTree) : Prop where
  nodup : t.ids.Nodup
  depth_eq : t.depth = 0
  depth_ne : ∀ n ∈ t.children.flatMap preorder, n.depth ≠ 0

/-- The sectors that a tree is flattened to, in any order in which those below one node stand in the
order of its children. -/
structure Scatters (unshown : SectorId → Sector) (t : SectorTree) (sectors : List Sector) :
    Prop where
  perm : sectors.Perm (t.flatten unshown)
  siblings : ∀ n ∈ t.preorder, (n.children.map (sectorAt unshown (some n.id))).Sublist sectors

section Scatters

variable (h : Scatters unshown t sectors)
include h

theorem Scatters.mem_iff : s ∈ sectors ↔ s = sectorAt unshown none t ∨
    ∃ n ∈ t.preorder, ∃ c ∈ n.children, s = sectorAt unshown (some n.id) c :=
  h.perm.mem_iff.trans mem_flattenBelow

theorem Scatters.nodup (ht : t.Proper) : (sectors.map fun s => s.id).Nodup := by
  rw [(h.perm.map fun s => s.id).nodup_iff, flatten, map_id_flattenBelow]
  exact ht.nodup

theorem Scatters.rootOf? (ht : t.Proper) :
    SectorTree.rootOf? sectors = some (sectorAt unshown none t) := by
  cases hroot : SectorTree.rootOf? sectors with
  | none =>
    have hnone := List.find?_eq_none.mp hroot _ (h.mem_iff.mpr (.inl rfl))
    simp [sectorAt, ht.depth_eq] at hnone
  | some root =>
    obtain ⟨hmem, hdepth⟩ := rootOf?_eq_some hroot
    rcases h.mem_iff.mp hmem with rfl | ⟨n, hn, c, hc, rfl⟩
    · rfl
    · exact absurd hdepth (ht.depth_ne c (child_mem_below hn hc))

/-- Those that name a node as their parent are the sectors of its children. -/
theorem Scatters.childrenOf (ht : t.Proper) (hn : n ∈ t.preorder) :
    SectorTree.childrenOf sectors n.id = n.children.map (sectorAt unshown (some n.id)) := by
  have hown : (n.children.map (sectorAt unshown (some n.id))).filter
      (·.parent == some n.id) = n.children.map (sectorAt unshown (some n.id)) := by
    rw [List.filter_eq_self, List.forall_mem_map]
    exact fun c _ => beq_self_eq_true _
  have hsub : (n.children.map (sectorAt unshown (some n.id))).Sublist
      (SectorTree.childrenOf sectors n.id) := hown ▸ (h.siblings n hn).filter _
  have hall : SectorTree.childrenOf sectors n.id ⊆
      n.children.map (sectorAt unshown (some n.id)) := by
    intro s hs
    obtain ⟨hmem, hparent⟩ := mem_childrenOf.mp hs
    rcases h.mem_iff.mp hmem with rfl | ⟨m, hm, c, hc, rfl⟩
    · cases hparent
    · have hsame : m = n := eq_of_id_eq ht.nodup hm hn (Option.some.inj hparent)
      rw [← hsame]
      exact List.mem_map_of_mem hc
  exact (eq_of_sublist_of_subset hsub ((h.nodup ht).of_map.filter _) hall).symm

theorem Scatters.depicts (ht : t.Proper) : Depicts sectors (sectorAt unshown none t) t where
  copies := copies_sectorAt unshown none t
  faithful := by
    intro n hn
    rw [h.childrenOf ht hn, List.forall₂_map_left_iff, List.forall₂_same]
    exact fun c _ => copies_sectorAt unshown (some n.id) c

end Scatters

/-- A tree is built again from the sectors that it is flattened to, in any order that keeps the
children of each node in theirs. -/
theorem build_flatten (ht : t.Proper) (h : Scatters unshown t sectors) :
    build? sectors = some t :=
  build?_eq_of_depicts (h.nodup ht) (h.rootOf? ht) rfl (h.depicts ht)

/-- A tree whose numbers do not follow its order. -/
def crossed : SectorTree :=
  branch 4 "a" 0 [branch 2 "b" 1 [branch 7 "c" 2 []], branch 9 "d" 1 []]
where
  /-- A node of the tree. -/
  branch (id : SectorId) (code : String) (depth : UInt32) (children : List SectorTree) :
      SectorTree :=
    .node id code code depth .active children

/-- The sectors of `crossed`: children come before their parents, and the root last. -/
def crossedSectors : List Sector :=
  [row 7 "c" (some 2) 2, row 2 "b" (some 4) 1, row 9 "d" (some 4) 1, row 4 "a" none 0]
where
  /-- A sector of the list. -/
  row (id : SectorId) (code : String) (parent : Option SectorId) (depth : UInt32) : Sector :=
    { id, tenant := 1, org := 1, code, label := code, parent, hasParent := true, depth,
      status := .active }

/-- The root is found behind all the sectors below it. -/
theorem build_flatten_crossed : crossed.Proper ∧
    Scatters (crossedSectors.row · "" none 0) crossed crossedSectors ∧
    build? crossedSectors = some crossed := by
  have hproper : crossed.Proper := by
    constructor <;> decide
  have hscatters : Scatters (crossedSectors.row · "" none 0) crossed crossedSectors := by
    constructor <;> decide
  exact ⟨hproper, hscatters, build_flatten hproper hscatters⟩

end SectorForest.SectorTree
