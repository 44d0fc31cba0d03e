import Mathlib.Data.List.Perm.Subperm
import SectorForest.Proofs.Change
import SectorForest.Proofs.Tree.Growth

/-!
# Trees that depict their sectors

In an orderly list of sectors, where numbers are distinct and a parent has a smaller number, no
number is met twice on the way down, and a tree can be described without saying how it was grown:
`Depicts` says that the children of every node copy, in order, all the sectors below it. There is
only one such tree, so that whatever depicts the sectors is the tree that is built from them.
-/

namespace SectorForest

/-- Numbers are distinct, and parents have smaller numbers than their children. -/
structure Orderly (sectors : List Sector) : Prop where
  increasing : sectors.Pairwise fun a b => a.id < b.id
  parent_lt : ∀ s ∈ sectors, ∀ p, s.parent = some p → p < s.id

theorem Orderly.distinct {sectors : List Sector} (h : Orderly sectors) :
    DistinctBy (fun s => s.id) sectors :=
  distinctBy_number h.increasing

theorem Orderly.nodup {sectors : List Sector} (h : Orderly sectors) :
    (sectors.map fun s => s.id).Nodup :=
  nodup_numbers h.increasing

namespace SectorTree

variable {sectors : List Sector} {root s : Sector} {t t' n c : SectorTree}

/-! ## Depicting -/

/-- Two lists that stand in relations to the same third one stand in a relation themselves, if
single members do. -/
theorem forall₂_of_common {α β γ : Type} {R : α → β → Prop} {S : α → γ → Prop} {T : β → γ → Prop}
    {xs : List α} {ys : List β} {zs : List γ} (hy : List.Forall₂ R xs ys)
    (hz : List.Forall₂ S xs zs) (h : ∀ x, ∀ y ∈ ys, R x y → ∀ z ∈ zs, S x z → T y z) :
    List.Forall₂ T ys zs := by
  induction hy generalizing zs with
  | nil =>
    cases hz
    exact .nil
  | cons hxy _ ih =>
    cases hz with
    | cons hxz hz =>
      exact .cons (h _ _ List.mem_cons_self hxy _ List.mem_cons_self hxz) (ih hz
        fun x y hy hr z hz => h x y (List.mem_cons_of_mem _ hy) hr z (List.mem_cons_of_mem _ hz))

/-- A sublist that has all members is the whole list. -/
theorem eq_of_sublist_of_subset {α : Type} {xs ys : List α} (hsub : xs.Sublist ys)
    (hnodup : ys.Nodup) (hall : ys ⊆ xs) : xs = ys :=
  hsub.eq_of_length_le (List.subperm_of_subset hnodup hall).length_le

/-- The children of every node copy all the sectors below it, in their order. -/
def Faithful (sectors : List Sector) (t : SectorTree) : Prop :=
  ∀ n ∈ t.preorder, List.Forall₂ Copies (childrenOf sectors n.id) n.children

/-- The tree below a sector shows all that hangs on it. -/
structure Depicts (sectors : List Sector) (root : Sector) (t : SectorTree) : Prop where
  copies : Copies root t
  faithful : Faithful sectors t

theorem faithful_iff : Faithful sectors t ↔
    List.Forall₂ Copies (childrenOf sectors t.id) t.children ∧
      ∀ c ∈ t.children, Faithful sectors c :=
  forall_mem_preorder

/-- Sectors are depicted by one tree only. -/
theorem Depicts.unique (h : Depicts sectors root t) (h' : Depicts sectors root t') : t = t' := by
  induction t using induction_below generalizing root t' with
  | h t ih =>
    obtain ⟨htop, hbelow⟩ := faithful_iff.mp h.faithful
    obtain ⟨htop', hbelow'⟩ := faithful_iff.mp h'.faithful
    rw [h.copies.id_eq] at htop
    rw [h'.copies.id_eq] at htop'
    -- the children on either side copy the same sectors
    have hchildren : t.children = t'.children := by
      rw [← List.forall₂_eq_eq_eq]
      refine forall₂_of_common htop htop' fun s c hc hcopies c' hc' hcopies' => ?_
      exact ih c hc ⟨hcopies, hbelow c hc⟩ ⟨hcopies', hbelow' c' hc'⟩
    rw [h.copies, h'.copies, hchildren]

theorem Faithful.linked (h : Faithful sectors t) : Linked sectors t :=
  fun n hn => ⟨_, List.Sublist.refl _, h n hn⟩

/-- A sector whose parent is a node is copied directly below that node. -/
theorem Faithful.exists_copy (h : Faithful sectors t) (hn : n ∈ t.preorder) (hs : s ∈ sectors)
    (hparent : s.parent = some n.id) : ∃ c ∈ n.children, Copies s c :=
  exists_right_of_forall₂ (h n hn) (mem_childrenOf.mpr ⟨hs, hparent⟩)

theorem Depicts.exists_copied (h : Depicts sectors root t) (hroot : root ∈ sectors)
    (hn : n ∈ t.preorder) : ∃ s ∈ sectors, Copies s n := by
  rcases exists_above hn with rfl | ⟨m, hm, hnm⟩
  · exact ⟨root, hroot, h.copies⟩
  · obtain ⟨s, hs, -, hcopies⟩ := h.faithful.linked.exists_child hm hnm
    exact ⟨s, hs, hcopies⟩

/-- The node that has the number of a sector copies the sector. -/
theorem Depicts.copies_of_id_eq (h : Depicts sectors root t) (horder : Orderly sectors)
    (hroot : root ∈ sectors) (hn : n ∈ t.preorder) (hs : s ∈ sectors) (hid : n.id = s.id) :
    Copies s n := by
  obtain ⟨s', hs', hcopies⟩ := h.exists_copied hroot hn
  rw [horder.distinct s hs s' hs' (hid.symm.trans hcopies.id_eq)]
  exact hcopies

/-- The children of a node stand in the order of their numbers. -/
theorem Faithful.increasing (h : Faithful sectors t) (horder : Orderly sectors)
    (hn : n ∈ t.preorder) : n.children.Pairwise fun a b => a.id < b.id := by
  have hids : n.children.map id = (childrenOf sectors n.id).map fun s => s.id := by
    rw [eq_comm, ← List.forall₂_eq_eq_eq, List.forall₂_map_left_iff, List.forall₂_map_right_iff]
    exact (h n hn).imp fun _ _ hcopies => hcopies.id_eq.symm
  have hsectors : ((childrenOf sectors n.id).map fun s => s.id).Pairwise (· < ·) :=
    List.pairwise_map.mpr (horder.increasing.filter _)
  rw [← hids, List.pairwise_map] at hsectors
  exact hsectors

/-! ## The tree that is built -/

/-- The sectors that hang on a node: those that name it as their parent. The root hangs on none. -/
def hangingOn (sectors : List Sector) (root : Sector) (parent : SectorId) : List Sector :=
  (childrenOf sectors parent).filter fun s => s.id != root.id

theorem mem_hangingOn {parent : SectorId} : s ∈ hangingOn sectors root parent ↔
    s ∈ sectors ∧ s.parent = some parent ∧ s.id ≠ root.id := by
  simp [hangingOn, mem_childrenOf, and_assoc]

section Built

variable (hids : (sectors.map fun s => s.id).Nodup)
include hids

/-- A sector whose parent is a node stands directly below that node, unless it is the root. -/
theorem Built.exists_copy (h : Built sectors root t) (hn : n ∈ t.preorder) (hs : s ∈ sectors)
    (hother : s.id ≠ root.id) (hparent : s.parent = some n.id) :
    ∃ c ∈ n.children, Copies s c := by
  obtain ⟨m, hm, hid⟩ := mem_ids.mp (h.closed n hn s (mem_childrenOf.mpr ⟨hs, hparent⟩))
  rcases exists_above hm with rfl | ⟨above, habove, hbelow⟩
  · exact absurd (hid.symm.trans h.copies.id_eq) hother
  · -- the node above is the one that has the number of the parent
    obtain ⟨s', hs', hparent', hcopies⟩ := h.linked.exists_child habove hbelow
    have hsame : s' = s := List.inj_on_of_nodup_map hids hs' hs (hcopies.id_eq.symm.trans hid)
    rw [hsame, hparent] at hparent'
    have habove' : above = n := eq_of_id_eq h.nodup habove hn (Option.some.inj hparent').symm
    exact ⟨m, habove' ▸ hbelow, hsame ▸ hcopies⟩

/-- Where numbers are distinct, the children of a node copy, in order, the sectors that name it as
their parent, but for the root. -/
theorem Built.children (h : Built sectors root t) (hn : n ∈ t.preorder) :
    List.Forall₂ Copies (hangingOn sectors root n.id) n.children := by
  obtain ⟨xs, hsub, hcopies⟩ := h.linked n hn
  have hxs : xs.filter (fun s => s.id != root.id) = xs := by
    refine List.filter_eq_self.mpr fun x hx => ?_
    obtain ⟨c, hc, hcopy⟩ := exists_right_of_forall₂ hcopies hx
    rw [bne_iff_ne, ← hcopy.id_eq, ← h.copies.id_eq]
    exact child_id_ne h.nodup hn hc
  have hsub' : xs.Sublist (hangingOn sectors root n.id) := hxs ▸ hsub.filter _
  have hall : hangingOn sectors root n.id ⊆ xs := by
    intro s hs
    obtain ⟨hmem, hparent, hother⟩ := mem_hangingOn.mp hs
    obtain ⟨c, hc, hcopy⟩ := h.exists_copy hids hn hmem hother hparent
    obtain ⟨x, hx, hcopy'⟩ := exists_left_of_forall₂ hcopies hc
    have hid : x.id = s.id := hcopy'.id_eq.symm.trans hcopy.id_eq
    rwa [List.inj_on_of_nodup_map hids (mem_childrenOf.mp (hsub.subset hx)).1 hmem hid] at hx
  rw [← eq_of_sublist_of_subset hsub' ((hids.of_map.filter _).filter _) hall]
  exact hcopies

/-- Below a root without a parent, a tree is built that depicts the list. -/
theorem Built.depicts (h : Built sectors root t) (hroot : root ∈ sectors)
    (hnone : root.parent = none) : Depicts sectors root t := by
  refine ⟨h.copies, fun n hn => ?_⟩
  have hall : hangingOn sectors root n.id = childrenOf sectors n.id := by
    refine List.filter_eq_self.mpr fun s hs => ?_
    obtain ⟨hmem, hparent⟩ := mem_childrenOf.mp hs
    rw [bne_iff_ne]
    intro hid
    rw [List.inj_on_of_nodup_map hids hmem hroot hid, hnone] at hparent
    cases hparent
  rw [← hall]
  exact h.children hids hn

/-- A tree that depicts the sectors below the first one of depth zero is the tree that is built. -/
theorem build?_eq_of_depicts (hroot : rootOf? sectors = some root) (hnone : root.parent = none)
    (h : Depicts sectors root t) : build? sectors = some t := by
  obtain ⟨t', hbuild, hbuilt⟩ := exists_built hroot
  rw [hbuild, (hbuilt.depicts hids (rootOf?_eq_some hroot).1 hnone).unique h]

/-- The numbers in a tree that depicts a list of distinct numbers are distinct. -/
theorem Depicts.nodup (h : Depicts sectors root t) (hroot : rootOf? sectors = some root)
    (hnone : root.parent = none) : t.ids.Nodup := by
  obtain ⟨_, -, hbuilt⟩ := build?_eq_some (build?_eq_of_depicts hids hroot hnone h)
  exact hbuilt.nodup

end Built

end SectorTree

end SectorForest
