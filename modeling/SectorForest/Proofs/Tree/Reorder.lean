import SectorForest.Proofs.Tree.Flatten

/-!
# What the order of sectors counts for

Where numbers are distinct and one sector has depth zero, the order of the list counts for the order
of children and for nothing else: `build_reordered`. The links to parents may be any, for a node has
one parent at most: what a loop leads back to is the root, which is placed before anything else.
-/

namespace SectorForest.SectorTree

variable {sectors sectors' : List Sector} {root s : Sector} {t t' : SectorTree}

/-- Two trees that differ in the order of children only, on whatever levels. -/
inductive Reordered : SectorTree → SectorTree → Prop
  | node {id : SectorId} {code label : String} {depth : UInt32} {status : Status}
    {children matched children' : List SectorTree}
    (hbelow : List.Forall₂ Reordered children matched) (horder : matched.Perm children') :
    Reordered (.node id code label depth status children)
      (.node id code label depth status children')

/-- Nodes that copy the same sector are reordered if their children are. -/
theorem reordered_of_copies {matched : List SectorTree} (h : Copies s t) (h' : Copies s t')
    (hbelow : List.Forall₂ Reordered t.children matched) (horder : matched.Perm t'.children) :
    Reordered t t' := by
  rw [h, h']
  exact .node hbelow horder

/-! ## What does not depend on the order of children -/

theorem flatMap_perm_of_forall₂ {α β γ : Type} {R : α → β → Prop} {f : α → List γ} {g : β → List γ}
    {xs : List α} {ys : List β} (h : List.Forall₂ R xs ys)
    (hR : ∀ x ∈ xs, ∀ y, R x y → (f x).Perm (g y)) : (xs.flatMap f).Perm (ys.flatMap g) := by
  induction h with
  | nil => exact .refl _
  | cons hxy _ ih =>
    rw [List.flatMap_cons, List.flatMap_cons]
    exact (hR _ List.mem_cons_self _ hxy).append
      (ih fun x hx => hR x (List.mem_cons_of_mem _ hx))

/-- Reordered trees have the same nodes below the same parents. -/
theorem Reordered.flattenBelow_perm (h : Reordered t t') (unshown : SectorId → Sector)
    (parent : Option SectorId) :
    (flattenBelow unshown parent t).Perm (flattenBelow unshown parent t') := by
  induction t using induction_below generalizing parent t' with
  | h t ih =>
    cases h with
    | node hbelow horder =>
      rw [flattenBelow, flattenBelow, flattenAll_eq, flattenAll_eq]
      refine .cons _ ((flatMap_perm_of_forall₂ hbelow fun c hc c' hreordered => ?_).trans
        (horder.flatMap_right _))
      exact ih c hc hreordered _

/-- Reordered trees have the same number of nodes. -/
theorem Reordered.descendantCount_eq (h : Reordered t t') :
    t.descendantCount = t'.descendantCount := by
  have hlength (t : SectorTree) : (t.flatten fun _ => default).length = t.descendantCount + 1 := by
    rw [← length_preorder, ← List.length_map (·.id), flatten, map_id_flattenBelow, ids,
      List.length_map]
  have hsame := (h.flattenBelow_perm (fun _ => default) none).length_eq
  rw [← flatten, ← flatten, hlength, hlength] at hsame
  exact Nat.add_right_cancel hsame

/-! ## Building from a list in another order -/

/-- The same sector is found as the root. -/
theorem rootOf?_perm (hone : sectors.countP (·.depth == 0) = 1) (horder : sectors.Perm sectors') :
    ∃ root, rootOf? sectors = some root ∧ rootOf? sectors' = some root := by
  rw [List.countP_eq_length_filter, List.length_eq_one_iff] at hone
  obtain ⟨root, hroot⟩ := hone
  have hroot' := horder.filter (·.depth == 0)
  rw [hroot, List.singleton_perm] at hroot'
  refine ⟨root, ?_, ?_⟩
  · rw [rootOf?, ← List.head?_filter, hroot, List.head?_cons]
  · rw [rootOf?, ← List.head?_filter, ← hroot', List.head?_cons]

/-- Trees are reordered whose nodes have as children copies of the same sectors in other orders. -/
theorem reordered_of_perm {hanging hanging' : SectorId → List Sector}
    (horder : ∀ id, (hanging id).Perm (hanging' id)) (h : Copies s t) (h' : Copies s t')
    (hbelow : ∀ n ∈ t.preorder, List.Forall₂ Copies (hanging n.id) n.children)
    (hbelow' : ∀ n ∈ t'.preorder, List.Forall₂ Copies (hanging' n.id) n.children) :
    Reordered t t' := by
  induction t using induction_below generalizing s t' with
  | h t ih =>
    obtain ⟨htop, hdown⟩ := forall_mem_preorder.mp hbelow
    obtain ⟨htop', hdown'⟩ := forall_mem_preorder.mp hbelow'
    rw [h.id_eq] at htop
    rw [h'.id_eq] at htop'
    -- the children on the right, in the order of those on the left
    obtain ⟨matched, hmatched, hperm⟩ := List.perm_comp_forall₂ (horder s.id) htop'
    refine reordered_of_copies h h' (forall₂_of_common htop hmatched ?_) hperm
    intro x c hc hcopies c' hc' hcopies'
    exact ih c hc hcopies hcopies' (hdown c hc) (hdown' c' (hperm.mem_iff.mp hc'))

/-- From a list of sectors with distinct numbers, of which one has depth zero, a tree is built,
whatever the order of the list is. From one order to another nothing changes but the order of
children: every node stays below the same parent. -/
theorem build_reordered (hids : (sectors.map fun s => s.id).Nodup)
    (hone : sectors.countP (·.depth == 0) = 1) (horder : sectors.Perm sectors') :
    ∃ t t', build? sectors = some t ∧ build? sectors' = some t' ∧ Reordered t t' ∧
      (∀ unshown, (t.flatten unshown).Perm (t'.flatten unshown)) ∧
      t.descendantCount = t'.descendantCount := by
  obtain ⟨root, hroot, hroot'⟩ := rootOf?_perm hone horder
  obtain ⟨t, hbuild, hbuilt⟩ := exists_built hroot
  obtain ⟨t', hbuild', hbuilt'⟩ := exists_built hroot'
  have hids' : (sectors'.map fun s => s.id).Nodup := (horder.map _).nodup_iff.mp hids
  have hhanging (id : SectorId) :
      (hangingOn sectors root id).Perm (hangingOn sectors' root id) := (horder.filter _).filter _
  have hreordered : Reordered t t' :=
    reordered_of_perm hhanging hbuilt.copies hbuilt'.copies
      (fun n hn => hbuilt.children hids hn) fun n hn => hbuilt'.children hids' hn
  exact ⟨t, t', hbuild, hbuild', hreordered,
    fun unshown => hreordered.flattenBelow_perm unshown none, hreordered.descendantCount_eq⟩

/-- Sectors whose links loop through the root, with an orphan and one that is its own parent. -/
def looped : List Sector :=
  [crossedSectors.row 1 "a" (some 2) 0, crossedSectors.row 7 "lost" (some 6) 3,
    crossedSectors.row 4 "d" (some 1) 1, crossedSectors.row 2 "b" (some 4) 2,
    crossedSectors.row 8 "self" (some 8) 1, crossedSectors.row 3 "c" (some 1) 1]

/-- The root of `looped` is no child in either order, and its children change places. -/
theorem build_reordered_looped : ∃ t t', build? looped = some t ∧
    build? looped.reverse = some t' ∧ t.preorder.map code = ["a", "d", "b", "c"] ∧
    t'.preorder.map code = ["a", "c", "d", "b"] ∧ Reordered t t' ∧
    (∀ unshown, (t.flatten unshown).Perm (t'.flatten unshown)) ∧
    t.descendantCount = t'.descendantCount := by
  have hids : (looped.map fun s => s.id).Nodup := by decide
  have hone : looped.countP (·.depth == 0) = 1 := by decide
  obtain ⟨t, t', hbuild, hbuild', hreordered⟩ :=
    build_reordered hids hone looped.reverse_perm.symm
  refine ⟨t, t', hbuild, hbuild', ?_, ?_, hreordered⟩
  · cases hbuild
    rfl
  · cases hbuild'
    rfl

end SectorForest.SectorTree
