import SectorForest.Proofs.Tree.Depict

/-!
# Changes of a tree

Three changes of a tree: a new last child below a node, a node cut off with all below it, and a node
with another label. Each follows a change of the list that the tree depicts: a new sector at its
end, a sector gone together with those directly below it, and a sector with another label.
-/

namespace SectorForest.SectorTree

variable {sectors : List Sector} {s new : Sector} {t n : SectorTree} {ts : List SectorTree}
  {number : SectorId} {label : String}

/-! ## The changes -/

mutual

/-- The tree with one more leaf, for a new sector, behind those below the node with a number. -/
def append (number : SectorId) (new : Sector) : SectorTree → SectorTree
  | .node id code label depth status children =>
    .node id code label depth status
      (appendAll number new children ++ if id = number then [ofSector new []] else [])

/-- The trees with one more leaf behind those below the node with a number. -/
def appendAll (number : SectorId) (new : Sector) : List SectorTree → List SectorTree
  | [] => []
  | t :: rest => append number new t :: appendAll number new rest

end

mutual

/-- The tree without the node with a number, below the root, and all that is below that node. -/
def prune (number : SectorId) : SectorTree → SectorTree
  | .node id code label depth status children =>
    .node id code label depth status (pruneAll number children)

/-- The trees without the node with a number and all that is below it. -/
def pruneAll (number : SectorId) : List SectorTree → List SectorTree
  | [] => []
  | t :: rest =>
    if t.id = number then pruneAll number rest else prune number t :: pruneAll number rest

end

mutual

/-- The tree with another label at the node with a number. -/
def relabel (number : SectorId) (label : String) : SectorTree → SectorTree
  | .node id code old depth status children =>
    .node id code (if id = number then label else old) depth status
      (relabelAll number label children)

/-- The trees with another label at the node with a number. -/
def relabelAll (number : SectorId) (label : String) : List SectorTree → List SectorTree
  | [] => []
  | t :: rest => relabel number label t :: relabelAll number label rest

end

theorem appendAll_eq : appendAll number new ts = ts.map (append number new) := by
  induction ts with
  | nil => rfl
  | cons t ts ih => rw [appendAll, ih, List.map_cons]

theorem pruneAll_eq :
    pruneAll number ts = (ts.filter fun t => t.id != number).map (prune number) := by
  induction ts with
  | nil => rfl
  | cons t ts ih => by_cases h : t.id = number <;> simp [pruneAll, ih, h]

theorem relabelAll_eq : relabelAll number label ts = ts.map (relabel number label) := by
  induction ts with
  | nil => rfl
  | cons t ts ih => rw [relabelAll, ih, List.map_cons]

@[simp] theorem id_append : (append number new t).id = t.id := by
  cases t
  rfl

@[simp] theorem id_prune : (prune number t).id = t.id := by
  cases t
  rfl

@[simp] theorem id_relabel : (relabel number label t).id = t.id := by
  cases t
  rfl

theorem children_append : (append number new t).children =
    t.children.map (append number new) ++ if t.id = number then [ofSector new []] else [] := by
  cases t
  rw [append, children, appendAll_eq]
  rfl

theorem children_prune : (prune number t).children =
    (t.children.filter fun c => c.id != number).map (prune number) := by
  cases t
  rw [prune, children, pruneAll_eq]
  rfl

theorem children_relabel : (relabel number label t).children =
    t.children.map (relabel number label) := by
  cases t
  rw [relabel, children, relabelAll_eq]
  rfl

/-! ## Trees that a change leaves alone -/

/-- Nothing is added where no node has the number. -/
theorem append_of_not_mem (h : number ∉ t.ids) : append number new t = t := by
  induction t using induction_below with
  | h t ih =>
    have hchildren : t.children.map (append number new) = t.children := by
      refine (List.map_congr_left fun c hc => ?_).trans (List.map_id _)
      exact ih c hc fun hmem => h (ids_child_subset hc hmem)
    have hne : t.id ≠ number := fun heq => h (heq ▸ t.id_mem_ids)
    cases t with
    | node id code label depth status children =>
      have hid : id ≠ number := hne
      rw [append, appendAll_eq, if_neg hid, List.append_nil]
      exact congrArg _ hchildren

/-- Nothing is cut off where no node has the number. -/
theorem prune_of_not_mem (h : number ∉ t.ids) : prune number t = t := by
  induction t using induction_below with
  | h t ih =>
    have hfilter : (t.children.filter fun c => c.id != number) = t.children := by
      refine List.filter_eq_self.mpr fun c hc => bne_iff_ne.mpr fun heq => h ?_
      exact ids_child_subset hc (heq ▸ c.id_mem_ids)
    have hchildren : t.children.map (prune number) = t.children := by
      refine (List.map_congr_left fun c hc => ?_).trans (List.map_id _)
      exact ih c hc fun hmem => h (ids_child_subset hc hmem)
    cases t with
    | node id code label depth status children =>
      rw [prune, pruneAll_eq]
      exact congrArg _ ((congrArg _ hfilter).trans hchildren)

/-! ## What the changed trees depict -/

theorem Copies.append (h : Copies s t) : Copies s (append number new t) := by
  rw [h]
  rfl

theorem Copies.prune (h : Copies s t) : Copies s (prune number t) := by
  rw [h]
  rfl

/-- A sector with another label if it has a number. -/
def relabelled (number : SectorId) (label : String) (s : Sector) : Sector :=
  if s.id = number then { s with label } else s

theorem Copies.relabel (h : Copies s t) :
    Copies (relabelled number label s) (relabel number label t) := by
  rw [h, relabelled]
  by_cases hs : s.id = number <;> simp [hs, Copies, SectorTree.relabel, ofSector, children]

/-- A new sector at the end of the list is a new last child of its parent. -/
theorem Faithful.append (h : Faithful sectors t) {parent : SectorId}
    (hparent : new.parent = some parent) (hnew : ∀ s ∈ sectors ++ [new], s.parent ≠ some new.id) :
    Faithful (sectors ++ [new]) (append parent new t) := by
  -- no sector names the new one as its parent yet
  have hleaf : Faithful (sectors ++ [new]) (ofSector new []) := by
    refine faithful_iff.mpr ⟨?_, fun c hc => absurd hc List.not_mem_nil⟩
    have hnone : childrenOf (sectors ++ [new]) new.id = [] := by
      refine List.filter_eq_nil_iff.mpr fun s hs => ?_
      simpa using hnew s hs
    rw [(copies_ofSector new []).id_eq, hnone]
    exact .nil
  induction t using induction_below with
  | h t ih =>
    obtain ⟨htop, hbelow⟩ := faithful_iff.mp h
    refine faithful_iff.mpr ⟨?_, ?_⟩
    · have hsectors : childrenOf (sectors ++ [new]) t.id =
          childrenOf sectors t.id ++ if t.id = parent then [new] else [] := by
        simp only [childrenOf, List.filter_append]
        refine congrArg _ ?_
        by_cases hid : t.id = parent
        · simp [hparent, hid]
        · simp [hparent, hid, Ne.symm hid]
      rw [id_append, children_append, hsectors]
      refine List.rel_append (List.forall₂_map_right_iff.mpr ?_) ?_
      · exact htop.imp fun _ _ hcopies => hcopies.append
      · split
        · exact .cons (copies_ofSector new []) .nil
        · exact .nil
    · intro c hc
      rw [children_append, List.mem_append] at hc
      rcases hc with hc | hc
      · obtain ⟨old, hold, rfl⟩ := List.mem_map.mp hc
        exact ih old hold (hbelow old hold)
      · split at hc
        · rwa [List.mem_singleton.mp hc]
        · cases hc

/-- A sector that is gone with those directly below it is a node cut off with all below it. -/
theorem Faithful.prune (h : Faithful sectors t) (ht : t.id ≠ number) :
    Faithful (sectors.filter fun s => !(s.id == number || s.parent == some number))
      (prune number t) := by
  induction t using induction_below with
  | h t ih =>
    obtain ⟨htop, hbelow⟩ := faithful_iff.mp h
    refine faithful_iff.mpr ⟨?_, ?_⟩
    · have hsectors : childrenOf
          (sectors.filter fun s => !(s.id == number || s.parent == some number)) t.id =
          (childrenOf sectors t.id).filter fun s => s.id != number := by
        simp only [childrenOf, List.filter_filter]
        refine List.filter_congr fun s _ => ?_
        rw [Bool.eq_iff_iff]
        simp only [Bool.and_eq_true, Bool.not_eq_true', Bool.or_eq_false_iff, beq_eq_false_iff_ne,
          beq_iff_eq, bne_iff_ne]
        -- a child of `t` is not one of the node that is cut off
        constructor
        · rintro ⟨hp, hid, -⟩
          exact ⟨hid, hp⟩
        · rintro ⟨hid, hp⟩
          exact ⟨hp, hid, fun heq => ht (Option.some.inj (hp.symm.trans heq))⟩
      rw [id_prune, children_prune, hsectors]
      refine List.forall₂_map_right_iff.mpr ?_
      refine (List.rel_filter (fun x c hcopies => ?_) htop).imp fun _ _ hcopies => hcopies.prune
      show (x.id != number) = true ↔ (c.id != number) = true
      rw [hcopies.id_eq]
    · intro c hc
      rw [children_prune] at hc
      obtain ⟨old, hold, rfl⟩ := List.mem_map.mp hc
      obtain ⟨hold, hne⟩ := List.mem_filter.mp hold
      exact ih old hold (hbelow old hold) (bne_iff_ne.mp hne)

/-- A sector with another label is a node with another label. -/
theorem Faithful.relabel (h : Faithful sectors t) :
    Faithful (sectors.map (relabelled number label)) (relabel number label t) := by
  induction t using induction_below with
  | h t ih =>
    obtain ⟨htop, hbelow⟩ := faithful_iff.mp h
    refine faithful_iff.mpr ⟨?_, ?_⟩
    · have hkeep (s : Sector) : (relabelled number label s).parent = s.parent := by
        rw [relabelled]
        split <;> rfl
      have hsectors : childrenOf (sectors.map (relabelled number label)) t.id =
          (childrenOf sectors t.id).map (relabelled number label) := by
        rw [childrenOf, List.filter_map, childrenOf]
        refine congrArg _ (List.filter_congr fun s _ => ?_)
        rw [Function.comp_apply, hkeep]
      rw [id_relabel, children_relabel, hsectors]
      rw [List.forall₂_map_left_iff, List.forall₂_map_right_iff]
      exact htop.imp fun _ _ hcopies => hcopies.relabel
    · intro c hc
      rw [children_relabel] at hc
      obtain ⟨old, hold, rfl⟩ := List.mem_map.mp hc
      exact ih old hold (hbelow old hold)

end SectorForest.SectorTree
