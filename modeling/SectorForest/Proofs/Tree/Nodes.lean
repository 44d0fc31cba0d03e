import Mathlib.Data.List.Nodup
import SectorForest.SectorTree.Build

/-!
# Nodes of a tree

The nodes of a tree are the members of `preorder`: the root and the nodes of the trees below it. The
lemmas here go from a tree to its children and back, and read `find?` as a search of `preorder`.

`Lies t k n` says that the node `n` lies `k` levels below the root of `t`.
-/

namespace SectorForest.SectorTree

variable {t n m : SectorTree} {ts : List SectorTree}

/-! ## Induction on the nodes below -/

section Induction

variable {P : SectorTree → Prop}

mutual

/-- What a node has if all directly below it have it, every tree has. -/
theorem induction_below (h : ∀ t : SectorTree, (∀ c ∈ t.children, P c) → P t) :
    ∀ t : SectorTree, P t
  | .node id code label depth status children =>
    h (.node id code label depth status children) (induction_below_all h children)

theorem induction_below_all (h : ∀ t : SectorTree, (∀ c ∈ t.children, P c) → P t) :
    ∀ ts : List SectorTree, ∀ c ∈ ts, P c
  | [], _, hc => absurd hc List.not_mem_nil
  | t :: ts, c, hc => (List.mem_cons.mp hc).elim (fun heq => heq ▸ induction_below h t)
      (induction_below_all h ts c)

end

end Induction

/-! ## Preorder -/

theorem preorderAll_eq : preorderAll ts = ts.flatMap preorder := by
  induction ts with
  | nil => rfl
  | cons t ts ih => rw [preorderAll, ih, List.flatMap_cons]

theorem preorder_eq (t : SectorTree) : t.preorder = t :: t.children.flatMap preorder := by
  cases t
  rw [preorder, preorderAll_eq, children]

theorem mem_preorder : n ∈ t.preorder ↔ n = t ∨ ∃ c ∈ t.children, n ∈ c.preorder := by
  rw [preorder_eq, List.mem_cons, List.mem_flatMap]

/-- All nodes have what the root has and all nodes below it have. -/
theorem forall_mem_preorder {P : SectorTree → Prop} : (∀ n ∈ t.preorder, P n) ↔
    P t ∧ ∀ c ∈ t.children, ∀ n ∈ c.preorder, P n := by
  constructor
  · intro h
    exact ⟨h t (mem_preorder.mpr (.inl rfl)),
      fun c hc n hn => h n (mem_preorder.mpr (.inr ⟨c, hc, hn⟩))⟩
  · rintro ⟨htop, hbelow⟩ n hn
    rcases mem_preorder.mp hn with rfl | ⟨c, hc, hn⟩
    · exact htop
    · exact hbelow c hc n hn

theorem self_mem_preorder (t : SectorTree) : t ∈ t.preorder :=
  mem_preorder.mpr (.inl rfl)

theorem mem_preorder_of_child {c : SectorTree} (hc : c ∈ t.children) (hn : n ∈ c.preorder) :
    n ∈ t.preorder :=
  mem_preorder.mpr (.inr ⟨c, hc, hn⟩)

theorem child_mem_preorder {c : SectorTree} (hc : c ∈ t.children) : c ∈ t.preorder :=
  mem_preorder_of_child hc c.self_mem_preorder

theorem mem_preorder_trans (hn : n ∈ t.preorder) (hm : m ∈ n.preorder) : m ∈ t.preorder := by
  induction t using induction_below with
  | h t ih =>
    rcases mem_preorder.mp hn with rfl | ⟨c, hc, hn⟩
    · exact hm
    · exact mem_preorder_of_child hc (ih c hc hn)

/-- Every node but the root stands directly below another. -/
theorem exists_above (hn : n ∈ t.preorder) : n = t ∨ ∃ m ∈ t.preorder, n ∈ m.children := by
  induction t using induction_below with
  | h t ih =>
    rcases mem_preorder.mp hn with rfl | ⟨c, hc, hn⟩
    · exact .inl rfl
    · rcases ih c hc hn with rfl | ⟨m, hm, hnm⟩
      · exact .inr ⟨t, t.self_mem_preorder, hc⟩
      · exact .inr ⟨m, mem_preorder_of_child hc hm, hnm⟩

/-- What the root has, and every node passes on to those directly below it, all nodes have. -/
theorem preorder_induction {P : SectorTree → Prop} (htop : P t)
    (hdown : ∀ n ∈ t.preorder, P n → ∀ c ∈ n.children, P c) : ∀ n ∈ t.preorder, P n := by
  induction t using induction_below with
  | h t ih =>
    intro n hn
    rcases mem_preorder.mp hn with rfl | ⟨c, hc, hn⟩
    · exact htop
    · exact ih c hc (hdown t t.self_mem_preorder htop c hc)
        (fun m hm => hdown m (mem_preorder_of_child hc hm)) n hn

mutual

/-- All nodes but the root stand below it. -/
theorem length_preorder : ∀ t : SectorTree, t.preorder.length = t.descendantCount + 1
  | .node id code label depth status children => by
    rw [preorder, List.length_cons, length_preorderAll children, descendantCount]

theorem length_preorderAll : ∀ ts : List SectorTree, (preorderAll ts).length = nodeCount ts
  | [] => rfl
  | t :: ts => by
    rw [preorderAll, List.length_append, length_preorder t, length_preorderAll ts, nodeCount]
    omega

end

/-! ## Numbers -/

/-- The numbers of a tree's nodes, in preorder. -/
def ids (t : SectorTree) : List SectorId :=
  t.preorder.map id

theorem ids_eq (t : SectorTree) : t.ids = t.id :: t.children.flatMap ids := by
  rw [ids, preorder_eq, List.map_cons, List.map_flatMap]
  rfl

theorem id_mem_ids (t : SectorTree) : t.id ∈ t.ids := by
  rw [ids_eq]
  exact List.mem_cons_self

theorem mem_ids {id : SectorId} : id ∈ t.ids ↔ ∃ n ∈ t.preorder, n.id = id :=
  List.mem_map

theorem ids_child_subset {c : SectorTree} (hc : c ∈ t.children) : c.ids ⊆ t.ids := by
  rw [t.ids_eq]
  exact fun id hid => List.mem_cons_of_mem _ (List.mem_flatMap.mpr ⟨c, hc, hid⟩)

/-- Where numbers are distinct, a number tells the nodes apart. -/
theorem eq_of_id_eq (h : t.ids.Nodup) (hn : n ∈ t.preorder) (hm : m ∈ t.preorder)
    (hid : n.id = m.id) : n = m :=
  List.inj_on_of_nodup_map h hn hm hid

/-- Below the root stand the nodes that are children. -/
theorem child_mem_below {c : SectorTree} (hn : n ∈ t.preorder) (hc : c ∈ n.children) :
    c ∈ t.children.flatMap preorder := by
  rcases mem_preorder.mp hn with rfl | ⟨d, hd, hn⟩
  · exact List.mem_flatMap.mpr ⟨c, hc, c.self_mem_preorder⟩
  · exact List.mem_flatMap.mpr ⟨d, hd, mem_preorder_trans hn (child_mem_preorder hc)⟩

/-- Where numbers are distinct, no child has the number of the root. -/
theorem child_id_ne {c : SectorTree} (h : t.ids.Nodup) (hn : n ∈ t.preorder)
    (hc : c ∈ n.children) : c.id ≠ t.id := by
  rw [ids, preorder_eq, List.map_cons, List.nodup_cons] at h
  intro hid
  exact h.1 (List.mem_map.mpr ⟨c, child_mem_below hn hc, hid⟩)

/-! ## Searching -/

mutual

/-- Searching a tree is searching its nodes in preorder. -/
theorem find?_eq (wanted : String) :
    ∀ t : SectorTree, t.find? wanted = t.preorder.find? fun n => n.code = wanted
  | .node id code label depth status children => by
    rw [find?, preorder, List.find?_cons, findIn?_eq wanted children]
    by_cases h : code = wanted <;> simp [SectorTree.code, h]

theorem findIn?_eq (wanted : String) :
    ∀ ts : List SectorTree, findIn? wanted ts = (preorderAll ts).find? fun n => n.code = wanted
  | [] => rfl
  | t :: ts => by
    rw [findIn?, preorderAll, List.find?_append, find?_eq wanted t, findIn?_eq wanted ts]

end

/-! ## Levels -/

/-- A node lies some levels below the root of a tree. -/
inductive Lies : SectorTree → Nat → SectorTree → Prop
  | here (t : SectorTree) : Lies t 0 t
  | under {t c n : SectorTree} {k : Nat} (hc : c ∈ t.children) (h : Lies c k n) :
    Lies t (k + 1) n

theorem Lies.mem_preorder {k : Nat} (h : t.Lies k n) : n ∈ t.preorder := by
  induction h with
  | here t => exact t.self_mem_preorder
  | under hc _ ih => exact mem_preorder_of_child hc ih

theorem exists_lies (hn : n ∈ t.preorder) : ∃ k, t.Lies k n := by
  induction t using induction_below with
  | h t ih =>
    rcases SectorTree.mem_preorder.mp hn with rfl | ⟨c, hc, hn⟩
    · exact ⟨0, .here n⟩
    · obtain ⟨k, hk⟩ := ih c hc hn
      exact ⟨k + 1, .under hc hk⟩

end SectorForest.SectorTree
