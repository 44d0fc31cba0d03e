import Mathlib.Logic.Relation
import SectorForest.Proofs.Tree.Growth

/-!
# Trees from any list of sectors

What `build?` makes of a list whose parent links are in no order at all: numbers may occur twice,
several sectors may have depth zero, and links may dangle, loop or lead from a sector to itself.

`Unfolds` is the recursion behind `build?` without its bound. It always comes to an end, in the tree
that is built and in no other: the bound never cuts it short. The tree spans what chains of parents
tie to its root: `build_spans`.
-/

namespace SectorForest.SectorTree

variable {sectors candidates : List Sector} {placed after : List SectorId} {root s : Sector}
  {t : SectorTree} {ts : List SectorTree}

/-! ## The recursion without a bound -/

/-- The candidates are gone through in order: one whose number is placed already is passed over, any
other is placed and becomes a node, with the sectors that name it as their parent for the next
candidates. `ts` are the nodes, and `after` are the numbers placed in the end. -/
inductive Unfolds (sectors : List Sector) :
    List SectorId → List Sector → List SectorTree → List SectorId → Prop
  | done (placed : List SectorId) : Unfolds sectors placed [] [] placed
  | skip {s : Sector} {rest : List Sector} {placed after : List SectorId} {ts : List SectorTree}
    (hs : s.id ∈ placed) (h : Unfolds sectors placed rest ts after) :
    Unfolds sectors placed (s :: rest) ts after
  | place {s : Sector} {rest : List Sector} {placed between after : List SectorId}
    {below ts : List SectorTree} (hs : s.id ∉ placed)
    (hbelow : Unfolds sectors (s.id :: placed) (childrenOf sectors s.id) below between)
    (hrest : Unfolds sectors between rest ts after) :
    Unfolds sectors placed (s :: rest) (ofSector s below :: ts) after

/-- There is only one way to go through the candidates. -/
theorem Unfolds.unique {ts' : List SectorTree} {after' : List SectorId}
    (h : Unfolds sectors placed candidates ts after)
    (h' : Unfolds sectors placed candidates ts' after') : ts = ts' ∧ after = after' := by
  induction h generalizing ts' after' with
  | done placed =>
    cases h'
    exact ⟨rfl, rfl⟩
  | skip hs _ ih =>
    cases h' with
    | skip _ h' => exact ih h'
    | place hs' _ _ => exact absurd hs hs'
  | place hs _ _ ihbelow ihrest =>
    cases h' with
    | skip hs' _ => exact absurd hs' hs
    | place _ hbelow' hrest' =>
      obtain ⟨rfl, rfl⟩ := ihbelow hbelow'
      obtain ⟨rfl, rfl⟩ := ihrest hrest'
      exact ⟨rfl, rfl⟩

/-- Candidates that are all placed become no nodes. -/
theorem unfolds_placed (h : ∀ s ∈ candidates, s.id ∈ placed) :
    Unfolds sectors placed candidates [] placed := by
  induction candidates with
  | nil => exact .done placed
  | cons s rest ih =>
    obtain ⟨hs, hrest⟩ := List.forall_mem_cons.mp h
    exact .skip hs (ih hrest)

theorem unfolds_placeAll {fuel : Nat}
    (hgrow : ∀ placed s, unplaced sectors placed ≤ fuel →
      Unfolds sectors placed (childrenOf sectors s.id) (grow sectors fuel placed s).1.children
        (grow sectors fuel placed s).2)
    (hcandidates : candidates ⊆ sectors) (hfuel : unplaced sectors placed ≤ fuel + 1) :
    Unfolds sectors placed candidates (placeAll (grow sectors fuel) placed candidates).1
      (placeAll (grow sectors fuel) placed candidates).2 := by
  induction candidates generalizing placed with
  | nil => exact .done placed
  | cons s rest ih =>
    obtain ⟨hs, hrest⟩ := List.cons_subset.mp hcandidates
    rw [placeAll]
    split
    · rename_i hplaced
      exact .skip (by simpa using hplaced) (ih hrest hfuel)
    · rename_i hnew
      have hnew : s.id ∉ placed := by simpa using hnew
      -- placing the candidate makes up for the smaller bound below it
      have hless := unplaced_cons hs hnew
      obtain ⟨hcopies, hplanted⟩ := planted_grow sectors fuel (s.id :: placed) s
      have hafter := unplaced_anti sectors (List.cons_subset.mp hplanted.subset).2
      have hbelow := hgrow (s.id :: placed) s (by omega)
      dsimp only
      rw [hcopies]
      exact .place hnew hbelow (ih hrest (Nat.le_trans hafter hfuel))

/-- With a bound that the unplaced sectors do not exceed, the bound does not count. -/
theorem unfolds_grow (fuel : Nat) (placed : List SectorId) (s : Sector)
    (hfuel : unplaced sectors placed ≤ fuel) :
    Unfolds sectors placed (childrenOf sectors s.id) (grow sectors fuel placed s).1.children
      (grow sectors fuel placed s).2 := by
  induction fuel generalizing placed s with
  | zero =>
    refine unfolds_placed fun c hc => ?_
    have hnone := List.countP_eq_zero.mp (Nat.le_zero.mp hfuel) c (mem_childrenOf.mp hc).1
    simpa using hnone
  | succ fuel ih => exact unfolds_placeAll ih (fun c hc => (mem_childrenOf.mp hc).1) hfuel

/-! ## What is tied to the root -/

/-- A sector with the number `child` names `parent` as its parent. -/
def Ties (sectors : List Sector) (parent child : SectorId) : Prop :=
  ∃ s ∈ sectors, s.parent = some parent ∧ s.id = child

/-- The numbers in a tree that is built are those that chains of parents tie to its root. -/
theorem Built.mem_ids_iff (h : Built sectors root t) {id : SectorId} :
    id ∈ t.ids ↔ Relation.ReflTransGen (Ties sectors) root.id id := by
  constructor
  · intro hid
    obtain ⟨n, hn, rfl⟩ := mem_ids.mp hid
    -- from the root down, each node is tied to the one above it
    refine preorder_induction (P := fun n => Relation.ReflTransGen (Ties sectors) root.id n.id)
      ?_ (fun n hn htied c hc => ?_) n hn
    · rw [h.copies.id_eq]
    · obtain ⟨s, hs, hparent, hcopies⟩ := h.linked.exists_child hn hc
      exact htied.tail ⟨s, hs, hparent, hcopies.id_eq.symm⟩
  · intro htied
    induction htied with
    | refl => exact h.copies.id_eq ▸ t.id_mem_ids
    | tail _ hlink ih =>
      obtain ⟨s, hs, hparent, rfl⟩ := hlink
      obtain ⟨n, hn, rfl⟩ := mem_ids.mp ih
      exact h.closed n hn s (mem_childrenOf.mpr ⟨hs, hparent⟩)

/-! ## The whole tree -/

/-- The tree below the sector `root` of a list, whatever the other sectors are. -/
structure Spans (sectors : List Sector) (root : Sector) (t : SectorTree) : Prop where
  /-- The root is the first sector of depth zero. -/
  first : ∃ before after, sectors = before ++ root :: after ∧ (∀ s ∈ before, s.depth ≠ 0) ∧
    root.depth = 0
  copies : Copies root t
  /-- Going through the sectors below the root comes to an end, and only in the children of the
  tree. -/
  unfolds : ∃ after, ∀ ts after', Unfolds sectors [root.id] (childrenOf sectors root.id) ts after' ↔
    ts = t.children ∧ after' = after
  nodup : t.ids.Nodup
  mem_ids_iff : ∀ id, id ∈ t.ids ↔ Relation.ReflTransGen (Ties sectors) root.id id
  /-- The children of a node copy sectors that name it as their parent, in the order of the list. -/
  children : ∀ n ∈ t.preorder, ∃ copied : List Sector, copied.Sublist sectors ∧
    (∀ s ∈ copied, s.parent = some n.id) ∧ List.Forall₂ Copies copied n.children

theorem Linked.children (h : Linked sectors t) : ∀ n ∈ t.preorder, ∃ copied : List Sector,
    copied.Sublist sectors ∧ (∀ s ∈ copied, s.parent = some n.id) ∧
      List.Forall₂ Copies copied n.children := by
  intro n hn
  obtain ⟨copied, hsub, hcopies⟩ := h n hn
  exact ⟨copied, hsub.trans List.filter_sublist,
    fun s hs => (mem_childrenOf.mp (hsub.subset hs)).2, hcopies⟩

/-- A tree is built unless no sector has depth zero, and then it spans what is tied to the first one
that has. -/
theorem build_spans (sectors : List Sector) :
    (build? sectors = none ↔ ∀ s ∈ sectors, s.depth ≠ 0) ∧
      ∀ t, build? sectors = some t → ∃ root, Spans sectors root t := by
  refine ⟨build?_eq_none, fun t h => ?_⟩
  obtain ⟨root, hroot, hbuilt⟩ := build?_eq_some h
  have hgrown : (grow sectors sectors.length [root.id] root).1 = t := by
    rw [build?, hroot] at h
    exact Option.some.inj h
  have hunfolds := unfolds_grow sectors.length [root.id] root
    (List.countP_le_length : unplaced sectors [root.id] ≤ sectors.length)
  rw [hgrown] at hunfolds
  obtain ⟨hdepth, before, after, heq, hbefore⟩ := List.find?_eq_some_iff_append.mp hroot
  exact ⟨root, {
    first := ⟨before, after, heq, by simpa using hbefore, by simpa using hdepth⟩
    copies := hbuilt.copies
    unfolds := ⟨_, fun ts after' => ⟨fun hother => hother.unique hunfolds, by
      rintro ⟨rfl, rfl⟩
      exact hunfolds⟩⟩
    nodup := hbuilt.nodup
    mem_ids_iff := fun _ => hbuilt.mem_ids_iff
    children := hbuilt.linked.children }⟩

/-- Sectors whose links loop through the root, with an orphan, a second sector of depth zero and a
number that occurs twice. -/
def tangled : List Sector :=
  [tangle 7 "lost" (some 6) 3, tangle 1 "a" (some 2) 0, tangle 4 "d" (some 1) 1,
    tangle 2 "b" (some 4) 2, tangle 5 "e" none 0, tangle 4 "again" (some 1) 1,
    tangle 3 "c" (some 1) 1, tangle 3 "self" (some 3) 1]
where
  /-- A sector of the list. -/
  tangle (id : SectorId) (code : String) (parent : Option SectorId) (depth : UInt32) : Sector :=
    { id, tenant := 1, org := 1, code, label := code, parent, hasParent := parent.isSome, depth,
      status := .active }

/-- The loop is cut where it would close, and the first of two sectors with one number is shown. -/
theorem build_spans_tangled : ∃ root t, build? tangled = some t ∧ Spans tangled root t ∧
    t.preorder.map code = ["a", "d", "b", "c"] := by
  obtain ⟨-, hspans⟩ := build_spans tangled
  obtain ⟨t, hbuild, hcodes⟩ : ∃ t, build? tangled = some t ∧
      t.preorder.map code = ["a", "d", "b", "c"] := ⟨_, rfl, rfl⟩
  obtain ⟨root, hroot⟩ := hspans t hbuild
  exact ⟨root, t, hbuild, hroot, hcodes⟩

end SectorForest.SectorTree
