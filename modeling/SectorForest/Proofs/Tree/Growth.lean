import SectorForest.Proofs.Tree.Nodes

/-!
# What is grown from a list of sectors

The recursion behind `build?`, for any list of sectors: what it places and that it leaves nothing
out. `Planted` tells how the trees grown for some candidates and the numbers placed before and after
belong together; it does not depend on the bound of the recursion. `Closed` tells that everything
below a node is placed; there the bound counts, and `unplaced` is what it is measured by.

`build?_eq_some` puts both together for the whole tree.
-/

namespace SectorForest.SectorTree

variable {sectors : List Sector} {s : Sector} {t n : SectorTree} {ts : List SectorTree}

/-! ## Lists side by side -/

theorem exists_left_of_forall₂ {α β : Type} {R : α → β → Prop} {xs : List α} {ys : List β}
    (h : List.Forall₂ R xs ys) {y : β} (hy : y ∈ ys) : ∃ x ∈ xs, R x y := by
  induction h with
  | nil => cases hy
  | cons hxy _ ih =>
    rcases List.mem_cons.mp hy with rfl | hy
    · exact ⟨_, List.mem_cons_self, hxy⟩
    · obtain ⟨x, hx, hr⟩ := ih hy
      exact ⟨x, List.mem_cons_of_mem _ hx, hr⟩

theorem exists_right_of_forall₂ {α β : Type} {R : α → β → Prop} {xs : List α} {ys : List β}
    (h : List.Forall₂ R xs ys) {x : α} (hx : x ∈ xs) : ∃ y ∈ ys, R x y :=
  exists_left_of_forall₂ (R := fun y x => R x y) h.flip hx

/-! ## Copies -/

/-- A node copies a sector. -/
def Copies (s : Sector) (t : SectorTree) : Prop :=
  t = ofSector s t.children

theorem copies_ofSector (s : Sector) (children : List SectorTree) :
    Copies s (ofSector s children) := rfl

theorem Copies.id_eq (h : Copies s t) : t.id = s.id := by
  rw [h]
  rfl

theorem Copies.code_eq (h : Copies s t) : t.code = s.code := by
  rw [h]
  rfl

theorem Copies.depth_eq (h : Copies s t) : t.depth = s.depth := by
  rw [h]
  rfl

theorem mem_childrenOf {parent : SectorId} :
    s ∈ childrenOf sectors parent ↔ s ∈ sectors ∧ s.parent = some parent := by
  simp [childrenOf]

/-- The children of every node copy some of the sectors below it, in their order. -/
def Linked (sectors : List Sector) (t : SectorTree) : Prop :=
  ∀ n ∈ t.preorder, ∃ xs, xs.Sublist (childrenOf sectors n.id) ∧ List.Forall₂ Copies xs n.children

theorem linked_iff : Linked sectors t ↔
    (∃ xs, xs.Sublist (childrenOf sectors t.id) ∧ List.Forall₂ Copies xs t.children) ∧
      ∀ c ∈ t.children, Linked sectors c :=
  forall_mem_preorder

/-- Every node but the root copies a sector that names the node above it as its parent. -/
theorem Linked.exists_child {c : SectorTree} (h : Linked sectors t) (hn : n ∈ t.preorder)
    (hc : c ∈ n.children) : ∃ s ∈ sectors, s.parent = some n.id ∧ Copies s c := by
  obtain ⟨xs, hxs, hcopies⟩ := h n hn
  obtain ⟨s, hs, hcopy⟩ := exists_left_of_forall₂ hcopies hc
  obtain ⟨hmem, hparent⟩ := mem_childrenOf.mp (hxs.subset hs)
  exact ⟨s, hmem, hparent, hcopy⟩

/-! ## Placing -/

/-- The trees `ts` were grown for some of the candidates, and their numbers placed. -/
structure Planted (sectors candidates : List Sector) (placed : List SectorId)
    (ts : List SectorTree) (placed' : List SectorId) : Prop where
  copies : ∃ xs, xs.Sublist candidates ∧ List.Forall₂ Copies xs ts
  linked : ∀ t ∈ ts, Linked sectors t
  mem_placed : ∀ x, x ∈ placed' ↔ x ∈ placed ∨ x ∈ ts.flatMap ids
  fresh : ∀ x ∈ ts.flatMap ids, x ∉ placed
  nodup : (ts.flatMap ids).Nodup

variable {candidates : List Sector} {placed placed' : List SectorId}

theorem planted_nil : Planted sectors candidates placed [] placed where
  copies := ⟨[], List.nil_sublist _, .nil⟩
  linked := fun _ ht => absurd ht List.not_mem_nil
  mem_placed := by simp
  fresh := by simp
  nodup := List.nodup_nil

theorem Planted.subset (h : Planted sectors candidates placed ts placed') : placed ⊆ placed' :=
  fun x hx => (h.mem_placed x).mpr (.inl hx)

theorem Planted.skip (h : Planted sectors candidates placed ts placed') (s : Sector) :
    Planted sectors (s :: candidates) placed ts placed' where
  __ := h
  copies := by
    obtain ⟨xs, hxs, hcopies⟩ := h.copies
    exact ⟨xs, hxs.cons s, hcopies⟩

/-- A tree whose root has just been placed, and the trees grown after it. -/
theorem Planted.cons {others : List SectorTree} {after : List SectorId}
    (hcopies : Copies s t) (hs : s.id ∉ placed)
    (hbelow : Planted sectors (childrenOf sectors s.id) (s.id :: placed) t.children placed')
    (hothers : Planted sectors candidates placed' others after) :
    Planted sectors (s :: candidates) placed (t :: others) after := by
  have hids : (t :: others).flatMap ids =
      s.id :: (t.children.flatMap ids ++ others.flatMap ids) := by
    rw [List.flatMap_cons, ids_eq, hcopies.id_eq, List.cons_append]
  have hsub : s.id :: placed ⊆ placed' := hbelow.subset
  constructor
  case copies =>
    obtain ⟨xs, hxs, hall⟩ := hothers.copies
    exact ⟨s :: xs, hxs.cons_cons s, .cons hcopies hall⟩
  case linked =>
    refine List.forall_mem_cons.mpr ⟨linked_iff.mpr ⟨?_, hbelow.linked⟩, hothers.linked⟩
    rw [hcopies.id_eq]
    exact hbelow.copies
  case mem_placed =>
    intro x
    rw [hothers.mem_placed, hbelow.mem_placed, hids]
    simp only [List.mem_cons, List.mem_append]
    tauto
  case fresh =>
    intro x hx
    rw [hids, List.mem_cons, List.mem_append] at hx
    -- the root, a node below it or a node of a later tree
    rcases hx with rfl | hx | hx
    · exact hs
    · exact fun hplaced => hbelow.fresh x hx (List.mem_cons_of_mem _ hplaced)
    · exact fun hplaced => hothers.fresh x hx (hsub (List.mem_cons_of_mem _ hplaced))
  case nodup =>
    rw [hids, List.nodup_cons, List.mem_append, List.nodup_append]
    refine ⟨?_, hbelow.nodup, hothers.nodup, ?_⟩
    · rintro (hx | hx)
      · exact hbelow.fresh _ hx List.mem_cons_self
      · exact hothers.fresh _ hx (hsub List.mem_cons_self)
    · rintro x hx y hy rfl
      exact hothers.fresh x hy ((hbelow.mem_placed x).mpr (.inr hx))

theorem planted_placeAll {plant : List SectorId → Sector → SectorTree × List SectorId}
    (hplant : ∀ placed s, Copies s (plant placed s).1 ∧
      Planted sectors (childrenOf sectors s.id) placed (plant placed s).1.children
        (plant placed s).2)
    (candidates : List Sector) (placed : List SectorId) :
    Planted sectors candidates placed (placeAll plant placed candidates).1
      (placeAll plant placed candidates).2 := by
  -- what is placed by one candidate is passed on to the next
  induction candidates generalizing placed with
  | nil => exact planted_nil
  | cons s rest ih =>
    rw [placeAll]
    split
    · exact (ih placed).skip s
    · rename_i hs
      obtain ⟨hcopies, hbelow⟩ := hplant (s.id :: placed) s
      exact .cons hcopies (by simpa using hs) hbelow (ih _)

/-- What is grown below a sector copies sectors of the list, each number at most once. -/
theorem planted_grow (sectors : List Sector) (fuel : Nat) (placed : List SectorId) (s : Sector) :
    Copies s (grow sectors fuel placed s).1 ∧
      Planted sectors (childrenOf sectors s.id) placed (grow sectors fuel placed s).1.children
        (grow sectors fuel placed s).2 := by
  -- a tree without children is right as well, so that the bound does not count
  induction fuel generalizing placed s with
  | zero => exact ⟨copies_ofSector s _, planted_nil⟩
  | succ fuel ih => exact ⟨copies_ofSector s _, planted_placeAll ih _ _⟩

/-! ## Leaving nothing out -/

/-- The number of sectors whose number has not been placed. -/
def unplaced (sectors : List Sector) (placed : List SectorId) : Nat :=
  sectors.countP fun s => !placed.contains s.id

theorem unplaced_anti (sectors : List Sector) (h : placed ⊆ placed') :
    unplaced sectors placed' ≤ unplaced sectors placed := by
  refine List.countP_mono_left fun s _ hs => ?_
  simp only [Bool.not_eq_true', List.contains_eq_mem, decide_eq_false_iff_not] at hs ⊢
  exact fun hplaced => hs (h hplaced)

/-- Placing a number leaves fewer to be placed. -/
theorem unplaced_cons (hmem : s ∈ sectors) (hs : s.id ∉ placed) :
    unplaced sectors (s.id :: placed) < unplaced sectors placed := by
  obtain ⟨front, back, rfl⟩ := List.append_of_mem hmem
  have hsub : placed ⊆ s.id :: placed := List.subset_cons_self _ _
  have hfront := unplaced_anti front hsub
  have hback := unplaced_anti back hsub
  simp only [unplaced, List.countP_append, List.countP_cons] at hfront hback ⊢
  simp [hs] at hfront hback ⊢
  omega

/-- Everything below a node of a tree is placed. -/
def Closed (sectors : List Sector) (placed : List SectorId) (t : SectorTree) : Prop :=
  ∀ n ∈ t.preorder, ∀ s ∈ childrenOf sectors n.id, s.id ∈ placed

theorem Closed.mono (h : Closed sectors placed t) (hsub : placed ⊆ placed') :
    Closed sectors placed' t :=
  fun n hn s hs => hsub (h n hn s hs)

theorem closed_placeAll {fuel : Nat}
    (hgrow : ∀ placed s, unplaced sectors placed ≤ fuel →
      Closed sectors (grow sectors fuel placed s).2 (grow sectors fuel placed s).1)
    {candidates : List Sector} (hcandidates : candidates ⊆ sectors) {placed : List SectorId}
    (hfuel : unplaced sectors placed ≤ fuel + 1) :
    (∀ s ∈ candidates, s.id ∈ (placeAll (grow sectors fuel) placed candidates).2) ∧
      ∀ t ∈ (placeAll (grow sectors fuel) placed candidates).1,
        Closed sectors (placeAll (grow sectors fuel) placed candidates).2 t := by
  induction candidates generalizing placed with
  | nil => exact ⟨fun _ hs => absurd hs List.not_mem_nil, fun _ ht => absurd ht List.not_mem_nil⟩
  | cons s rest ih =>
    have hrest : rest ⊆ sectors := fun x hx => hcandidates (List.mem_cons_of_mem _ hx)
    have hplanted := planted_placeAll (planted_grow sectors fuel) rest
    rw [placeAll]
    split
    · rename_i hs
      obtain ⟨hids, hclosed⟩ := ih hrest hfuel
      refine ⟨List.forall_mem_cons.mpr ⟨?_, hids⟩, hclosed⟩
      exact (hplanted placed).subset (by simpa using hs)
    · rename_i hs
      -- placing the candidate makes up for the smaller bound below it
      have hless := unplaced_cons (hcandidates List.mem_cons_self)
        (show s.id ∉ placed by simpa using hs)
      have hnew := hgrow (s.id :: placed) s (by omega)
      have hsub := (planted_grow sectors fuel (s.id :: placed) s).2.subset
      have hafter := unplaced_anti sectors
        (fun x hx => hsub (List.mem_cons_of_mem _ hx) : placed ⊆ _)
      obtain ⟨hids, hclosed⟩ := ih hrest (Nat.le_trans hafter hfuel)
      have hsub' := (hplanted (grow sectors fuel (s.id :: placed) s).2).subset
      exact ⟨List.forall_mem_cons.mpr ⟨hsub' (hsub List.mem_cons_self), hids⟩,
        List.forall_mem_cons.mpr ⟨hnew.mono hsub', hclosed⟩⟩

/-- With a bound that the unplaced sectors do not exceed, nothing below a node is left out. -/
theorem closed_grow (fuel : Nat) (placed : List SectorId) (s : Sector)
    (hfuel : unplaced sectors placed ≤ fuel) :
    Closed sectors (grow sectors fuel placed s).2 (grow sectors fuel placed s).1 := by
  induction fuel generalizing placed s with
  | zero =>
    intro n _ c hc
    -- nothing is unplaced any more
    have hnone := List.countP_eq_zero.mp (Nat.le_zero.mp hfuel) c (mem_childrenOf.mp hc).1
    simpa [grow] using hnone
  | succ fuel ih =>
    have hcandidates : childrenOf sectors s.id ⊆ sectors := fun c hc => (mem_childrenOf.mp hc).1
    exact forall_mem_preorder.mpr (closed_placeAll ih hcandidates hfuel)

/-! ## The whole tree -/

/-- What is known of a tree built from any list of sectors. -/
structure Built (sectors : List Sector) (root : Sector) (t : SectorTree) : Prop where
  copies : Copies root t
  linked : Linked sectors t
  nodup : t.ids.Nodup
  closed : Closed sectors t.ids t

theorem rootOf?_eq_some (h : rootOf? sectors = some s) : s ∈ sectors ∧ s.depth = 0 :=
  ⟨List.mem_of_find?_eq_some h, by simpa using List.find?_some h⟩

theorem build?_eq_some (h : build? sectors = some t) :
    ∃ root, rootOf? sectors = some root ∧ Built sectors root t := by
  obtain ⟨root, hroot, rfl⟩ := Option.map_eq_some_iff.mp h
  obtain ⟨hcopies, hplanted⟩ := planted_grow sectors sectors.length [root.id] root
  have hids := ids_eq (grow sectors sectors.length [root.id] root).1
  rw [hcopies.id_eq] at hids
  have hplaced : ∀ x, x ∈ (grow sectors sectors.length [root.id] root).2 ↔
      x ∈ (grow sectors sectors.length [root.id] root).1.ids := by
    intro x
    rw [hplanted.mem_placed, hids, List.mem_singleton, List.mem_cons]
  refine ⟨root, hroot, hcopies, linked_iff.mpr ⟨?_, hplanted.linked⟩, ?_, ?_⟩
  · rw [hcopies.id_eq]
    exact hplanted.copies
  · rw [hids, List.nodup_cons]
    exact ⟨fun hx => hplanted.fresh _ hx List.mem_cons_self, hplanted.nodup⟩
  · refine (closed_grow sectors.length [root.id] root List.countP_le_length).mono ?_
    exact fun x hx => (hplaced x).mp hx

theorem exists_built (h : rootOf? sectors = some s) :
    ∃ t, build? sectors = some t ∧ Built sectors s t := by
  have hbuild : build? sectors = some (grow sectors sectors.length [s.id] s).1 := by
    rw [build?, h, Option.map_some]
  obtain ⟨root, hroot, hbuilt⟩ := build?_eq_some hbuild
  cases h.symm.trans hroot
  exact ⟨_, hbuild, hbuilt⟩

theorem build?_eq_none : build? sectors = none ↔ ∀ s ∈ sectors, s.depth ≠ 0 := by
  rw [build?, Option.map_eq_none_iff, rootOf?, List.find?_eq_none]
  simp

end SectorForest.SectorTree
