import SectorForest.Proofs.Lineage
import SectorForest.Proofs.Tree.Depict

/-!
# The tree as a view of the records

The sectors of one organization, as they stand in the records of the service, are an orderly list
with one root at most, and the tree that `sectorTree` answers depicts them. `Records.Mirrors` spells
out what that means in terms of the records: which sectors are nodes, where they stand, and how they
are found.
-/

namespace SectorForest

open SectorTree

namespace Records

variable {r : Records} {o : Organization} {root s : Sector} {t : SectorTree}

/-! ## The sectors of an organization -/

theorem Sound.orderly_sectorsOf (hr : r.Sound) (hl : r.Lineage) (tenant : TenantId)
    (org : OrganizationId) : Orderly (r.sectorsOf tenant org) where
  increasing := hr.sectors_increasing.filter _
  parent_lt := fun s hs => hl.parent_lt s (mem_sectorsOf.mp hs).1

/-- A sector of an organization is of the organization's tenant. -/
theorem Lineage.mem_sectorsOf_iff (hl : r.Lineage) (ho : o ∈ r.organizations) :
    s ∈ r.sectorsOf o.tenant o.id ↔ s ∈ r.sectors ∧ s.org = o.id := by
  rw [mem_sectorsOf]
  refine ⟨fun ⟨hs, _, horg⟩ => ⟨hs, horg⟩, fun ⟨hs, horg⟩ => ⟨hs, ?_, horg⟩⟩
  exact (hl.tenant_eq s hs o ho horg.symm).symm

/-- A stored sector is the root of an organization. -/
structure IsRoot (r : Records) (o : Organization) (root : Sector) : Prop where
  mem : root ∈ r.sectors
  org_eq : root.org = o.id
  hasParent_eq : root.hasParent = false

theorem IsRoot.mem_sectorsOf (h : r.IsRoot o root) (hl : r.Lineage) (ho : o ∈ r.organizations) :
    root ∈ r.sectorsOf o.tenant o.id :=
  (hl.mem_sectorsOf_iff ho).mpr ⟨h.mem, h.org_eq⟩

theorem IsRoot.parent_eq (h : r.IsRoot o root) (hr : r.Sound) : root.parent = none := by
  have hparent := (hr.shaped root h.mem).hasParent_eq
  rw [h.hasParent_eq] at hparent
  cases hroot : root.parent with
  | none => rfl
  | some p => rw [hroot] at hparent; cases hparent

theorem IsRoot.depth_eq (h : r.IsRoot o root) (hr : r.Sound) : root.depth = 0 :=
  (hr.shaped root h.mem).depth_eq_zero_iff.mpr h.hasParent_eq

theorem IsRoot.eq (h : r.IsRoot o root) (h' : r.IsRoot o s) (hl : r.Lineage) : root = s :=
  hl.root_unique root h.mem s h'.mem h.hasParent_eq h'.hasParent_eq (h.org_eq.trans h'.org_eq.symm)

/-- The first sector of depth zero is the root. -/
theorem rootOf?_sectorsOf (hr : r.Sound) (hl : r.Lineage) (ho : o ∈ r.organizations) :
    rootOf? (r.sectorsOf o.tenant o.id) = some root ↔ r.IsRoot o root := by
  have hzero : ∀ s ∈ r.sectorsOf o.tenant o.id, s.depth = 0 → r.IsRoot o s := by
    intro s hs hdepth
    obtain ⟨hmem, horg⟩ := (hl.mem_sectorsOf_iff ho).mp hs
    exact ⟨hmem, horg, (hr.shaped s hmem).depth_eq_zero_iff.mp hdepth⟩
  constructor
  · intro h
    obtain ⟨hs, hdepth⟩ := rootOf?_eq_some h
    exact hzero root hs hdepth
  · intro h
    cases hfind : rootOf? (r.sectorsOf o.tenant o.id) with
    | none =>
      have hnone := List.find?_eq_none.mp hfind root (h.mem_sectorsOf hl ho)
      simp [h.depth_eq hr] at hnone
    | some s =>
      obtain ⟨hs, hdepth⟩ := rootOf?_eq_some hfind
      rw [h.eq (hzero s hs hdepth) hl]

/-- The tree of an organization is built exactly if its root is stored, and depicts its sectors. -/
theorem exists_depicts (hr : r.Sound) (hl : r.Lineage) (ho : o ∈ r.organizations)
    (hroot : r.IsRoot o root) : ∃ t, build? (r.sectorsOf o.tenant o.id) = some t ∧
      Depicts (r.sectorsOf o.tenant o.id) root t := by
  obtain ⟨t, hbuild, hbuilt⟩ := exists_built ((rootOf?_sectorsOf hr hl ho).mpr hroot)
  exact ⟨t, hbuild, hbuilt.depicts (hr.orderly_sectorsOf hl _ _).nodup (hroot.mem_sectorsOf hl ho)
    (hroot.parent_eq hr)⟩

theorem build?_sectorsOf_eq_none (hr : r.Sound) (hl : r.Lineage) (ho : o ∈ r.organizations) :
    build? (r.sectorsOf o.tenant o.id) = none ↔ ∀ root, ¬ r.IsRoot o root := by
  constructor
  · intro h root hroot
    obtain ⟨t, hbuild, -⟩ := exists_depicts hr hl ho hroot
    rw [h] at hbuild
    cases hbuild
  · intro h
    refine build?_eq_none.mpr fun s hs hdepth => ?_
    obtain ⟨hmem, horg⟩ := (hl.mem_sectorsOf_iff ho).mp hs
    exact h s ⟨hmem, horg, (hr.shaped s hmem).depth_eq_zero_iff.mp hdepth⟩

/-! ## Attached sectors -/

/-- All that a sector hangs on is stored: its parent, the parent of that, and so on. -/
def Attached (r : Records) (s : Sector) : Prop :=
  ∀ p, Relation.TransGen r.Links s.id p → ∃ x ∈ r.sectors, x.id = p

/-- A link leads from a sector to its own parent. -/
theorem Sound.links_iff (hr : r.Sound) (hs : s ∈ r.sectors) {p : SectorId} :
    r.Links s.id p ↔ s.parent = some p := by
  constructor
  · rintro ⟨x, hx, hid, hp⟩
    rwa [distinctBy_number hr.sectors_increasing x hx s hs hid] at hp
  · exact fun hp => ⟨s, hs, rfl, hp⟩

theorem Sound.attached_of_parent_none (hr : r.Sound) (hs : s ∈ r.sectors)
    (hnone : s.parent = none) : r.Attached s := by
  intro p hp
  obtain ⟨q, hq, -⟩ := Relation.TransGen.head'_iff.mp hp
  rw [hr.links_iff hs, hnone] at hq
  cases hq

/-- A sector is attached exactly if its parent is stored and attached. -/
theorem Sound.attached_iff (hr : r.Sound) (hs : s ∈ r.sectors) {p : SectorId}
    (hp : s.parent = some p) : r.Attached s ↔ ∃ x ∈ r.sectors, x.id = p ∧ r.Attached x := by
  have hlink := (hr.links_iff hs).mpr hp
  constructor
  · intro h
    obtain ⟨x, hx, rfl⟩ := h p (.single hlink)
    exact ⟨x, hx, rfl, fun q hq => h q (.head hlink hq)⟩
  · rintro ⟨x, hx, rfl, hattached⟩ q hq
    obtain ⟨y, hy, hrest⟩ := Relation.TransGen.head'_iff.mp hq
    rw [hr.links_iff hs, hp] at hy
    cases hy
    -- an ancestor is the parent or an ancestor of it
    rcases Relation.reflTransGen_iff_eq_or_transGen.mp hrest with rfl | hrest
    · exact ⟨x, hx, rfl⟩
    · exact hattached q hrest

/-- Going down from the root, every node is a sector that is attached. -/
theorem attached_of_mem_preorder (hr : r.Sound) (hl : r.Lineage) (ho : o ∈ r.organizations)
    (hroot : r.IsRoot o root) (hd : Depicts (r.sectorsOf o.tenant o.id) root t) :
    ∀ n ∈ t.preorder, ∃ s ∈ r.sectors, s.org = o.id ∧ r.Attached s ∧ Copies s n := by
  refine preorder_induction ?_ fun n hn ⟨s, hs, _, hattached, hcopies⟩ c hc => ?_
  · exact ⟨root, hroot.mem, hroot.org_eq,
      hr.attached_of_parent_none hroot.mem (hroot.parent_eq hr), hd.copies⟩
  · obtain ⟨x, hx, hparent, hcopies'⟩ := hd.faithful.linked.exists_child hn hc
    obtain ⟨hx, horg'⟩ := (hl.mem_sectorsOf_iff ho).mp hx
    refine ⟨x, hx, horg', (hr.attached_iff hx hparent).mpr ?_, hcopies'⟩
    exact ⟨s, hs, hcopies.id_eq.symm, hattached⟩

/-- What is true of roots, and handed on by a parent to its children, is true of every sector that
is attached. -/
theorem attached_induction (hr : r.Sound) (hl : r.Lineage) {P : Sector → Prop}
    (hroot : ∀ s ∈ r.sectors, s.hasParent = false → P s)
    (hchild : ∀ s ∈ r.sectors, ∀ p ∈ r.sectors, s.parent = some p.id → P p → P s)
    (hs : s ∈ r.sectors) (hattached : r.Attached s) : P s := by
  -- by induction on the number, for a parent has a smaller one
  induction hnumber : s.id.toInt.toNat using Nat.strongRecOn generalizing s with
  | ind number ih =>
    rcases hr.shaped s hs with ⟨hno, -⟩ | ⟨-, hsome, -⟩
    · exact hroot s hs hno
    · obtain ⟨p, hp⟩ := Option.isSome_iff_exists.mp hsome
      obtain ⟨x, hx, rfl, hattached'⟩ := (hr.attached_iff hs hp).mp hattached
      have hlt := Int64.lt_iff_toInt_lt.mp (hl.parent_lt s hs _ hp)
      have hpos := Int64.lt_iff_toInt_lt.mp (hr.sectors_le x hx).1
      rw [Int64.toInt_zero] at hpos
      exact hchild s hs x hx hp (ih _ (by omega) hx hattached' rfl)

/-- The organization of an attached sector has its root. -/
theorem exists_root_of_attached (hr : r.Sound) (hl : r.Lineage) (hs : s ∈ r.sectors)
    (hattached : r.Attached s) (horg : s.org = o.id) : ∃ root, r.IsRoot o root := by
  refine attached_induction hr hl (P := fun s => s.org = o.id → ∃ root, r.IsRoot o root)
    ?_ ?_ hs hattached horg
  · exact fun s hs hno horg => ⟨s, hs, horg, hno⟩
  · exact fun s hs p hp hparent ih horg =>
      ih ((hl.parent_above s hs p hp hparent).2.1.trans horg)

/-- An attached sector of an organization is a node of its tree. -/
theorem mem_ids_of_attached (hr : r.Sound) (hl : r.Lineage) (ho : o ∈ r.organizations)
    (hroot : r.IsRoot o root) (hd : Depicts (r.sectorsOf o.tenant o.id) root t)
    (hs : s ∈ r.sectors) (horg : s.org = o.id) (hattached : r.Attached s) : s.id ∈ t.ids := by
  refine attached_induction hr hl (P := fun s => s.org = o.id → s.id ∈ t.ids) ?_ ?_
    hs hattached horg
  · intro s hs hno horg
    rw [IsRoot.eq ⟨hs, horg, hno⟩ hroot hl, ← hd.copies.id_eq]
    exact t.id_mem_ids
  · intro s hs p hp hparent ih horg
    obtain ⟨n, hn, hid⟩ := mem_ids.mp (ih ((hl.parent_above s hs p hp hparent).2.1.trans horg))
    rw [← hid] at hparent
    obtain ⟨c, hc, hcopies⟩ :=
      hd.faithful.exists_copy hn ((hl.mem_sectorsOf_iff ho).mpr ⟨hs, horg⟩) hparent
    rw [← hcopies.id_eq]
    exact mem_ids.mpr ⟨c, mem_preorder_trans hn (child_mem_preorder hc), rfl⟩

/-! ## What a tree shows -/

/-- A tree shows the sectors of an organization as they are stored. -/
structure Mirrors (r : Records) (o : Organization) (root : Sector) (t : SectorTree) : Prop where
  /-- The root of the tree is the root sector. -/
  root_copies : Copies root t
  /-- No sector is shown twice. -/
  nodup : t.ids.Nodup
  /-- What is shown are sectors of the organization that are attached. -/
  node_copies : ∀ n ∈ t.preorder, ∃ s ∈ r.sectors, s.org = o.id ∧ r.Attached s ∧ Copies s n
  /-- All attached sectors of the organization are shown. -/
  shown_iff : ∀ s ∈ r.sectors, s.org = o.id → (s.id ∈ t.ids ↔ r.Attached s)
  /-- What is missing are the sectors with an ancestor that is not stored. -/
  missing_iff : ∀ s ∈ r.sectors, s.org = o.id → (s.id ∉ t.ids ↔
    ∃ p, Relation.TransGen r.Links s.id p ∧ ∀ x ∈ r.sectors, x.id ≠ p)
  /-- A node stands below the node of its parent. -/
  parent_eq : ∀ n ∈ t.preorder, ∀ c ∈ n.children, ∃ s ∈ r.sectors, Copies s c ∧
    s.parent = some n.id
  /-- The depth that a node tells is its distance from the root. -/
  lies_iff : ∀ n ∈ t.preorder, ∀ k, t.Lies k n ↔ n.depth.toNat = k
  /-- Siblings stand in the order in which they were created. -/
  increasing : ∀ n ∈ t.preorder, n.children.Pairwise fun a b => a.id < b.id
  /-- A code is found in the tree exactly if an attached sector has it. -/
  found_iff : ∀ code, (t.find? code).isSome ↔
    ∃ s ∈ r.sectors, s.org = o.id ∧ r.Attached s ∧ s.code = code
  /-- What is found is the sector that has the code. -/
  found_copies : ∀ code n, t.find? code = some n →
    n ∈ t.preorder ∧ ∀ s ∈ r.sectors, s.code = code → Copies s n

/-- Each level down adds one to the depth. -/
theorem depth_of_lies (hl : r.Lineage) (ho : o ∈ r.organizations)
    (hfaithful : Faithful (r.sectorsOf o.tenant o.id) t) (hs : s ∈ r.sectors) (hcopies : Copies s t)
    {k : Nat} {n : SectorTree} (h : t.Lies k n) : n.depth.toNat = s.depth.toNat + k := by
  -- on the way down, the sector that is copied becomes another
  induction h generalizing s with
  | here t => rw [hcopies.depth_eq]; rfl
  | @under t c n k hc _ ih =>
    obtain ⟨x, hx, hparent, hcopies'⟩ := hfaithful.linked.exists_child t.self_mem_preorder hc
    have hx := ((hl.mem_sectorsOf_iff ho).mp hx).1
    rw [hcopies.id_eq] at hparent
    have hdepth := (hl.parent_above x hx s hs hparent).2.2
    rw [ih ((faithful_iff.mp hfaithful).2 c hc) hx hcopies', hdepth]
    omega

theorem mirrors_of_depicts (hr : r.Sound) (hl : r.Lineage) (ho : o ∈ r.organizations)
    (hroot : r.IsRoot o root) (hd : Depicts (r.sectorsOf o.tenant o.id) root t) :
    r.Mirrors o root t := by
  have horder := hr.orderly_sectorsOf hl o.tenant o.id
  have hattached := attached_of_mem_preorder hr hl ho hroot hd
  have hshown : ∀ s ∈ r.sectors, s.org = o.id → (s.id ∈ t.ids ↔ r.Attached s) := by
    refine fun s hs horg => ⟨fun hid => ?_, mem_ids_of_attached hr hl ho hroot hd hs horg⟩
    obtain ⟨n, hn, hid⟩ := mem_ids.mp hid
    obtain ⟨x, hx, -, hx', hcopies⟩ := hattached n hn
    rwa [distinctBy_number hr.sectors_increasing s hs x hx (hid.symm.trans hcopies.id_eq)]
  have hfound : ∀ code n, t.find? code = some n → n ∈ t.preorder ∧ n.code = code := by
    intro code n hn
    rw [find?_eq] at hn
    exact ⟨List.mem_of_find?_eq_some hn, by simpa using List.find?_some hn⟩
  constructor
  case root_copies => exact hd.copies
  case nodup =>
    exact hd.nodup horder.nodup ((rootOf?_sectorsOf hr hl ho).mpr hroot) (hroot.parent_eq hr)
  case node_copies => exact hattached
  case shown_iff => exact hshown
  case missing_iff =>
    intro s hs horg
    rw [hshown s hs horg]
    simp only [Attached, not_forall, not_exists, not_and, exists_prop, ne_eq]
  case parent_eq =>
    intro n hn c hc
    obtain ⟨s, hs, hparent, hcopies⟩ := hd.faithful.linked.exists_child hn hc
    exact ⟨s, ((hl.mem_sectorsOf_iff ho).mp hs).1, hcopies, hparent⟩
  case lies_iff =>
    have hdepth : ∀ k n, t.Lies k n → n.depth.toNat = k := by
      intro k n hn
      rw [depth_of_lies hl ho hd.faithful hroot.mem hd.copies hn, hroot.depth_eq hr]
      exact Nat.zero_add k
    intro n hn k
    refine ⟨hdepth k n, ?_⟩
    rintro rfl
    obtain ⟨k, hk⟩ := exists_lies hn
    rwa [hdepth k n hk]
  case increasing => exact fun n hn => hd.faithful.increasing horder hn
  case found_iff =>
    intro code
    constructor
    · intro hsome
      obtain ⟨n, hn⟩ := Option.isSome_iff_exists.mp hsome
      obtain ⟨hmem, hcode⟩ := hfound code n hn
      obtain ⟨s, hs, horg, hs', hcopies⟩ := hattached n hmem
      exact ⟨s, hs, horg, hs', hcopies.code_eq.symm.trans hcode⟩
    · rintro ⟨s, hs, horg, hs', rfl⟩
      obtain ⟨n, hn, hid⟩ := mem_ids.mp ((hshown s hs horg).mpr hs')
      have hcopies := hd.copies_of_id_eq horder (hroot.mem_sectorsOf hl ho) hn
        ((hl.mem_sectorsOf_iff ho).mpr ⟨hs, horg⟩) hid
      rw [find?_eq, List.find?_isSome]
      exact ⟨n, hn, by simp [hcopies.code_eq]⟩
  case found_copies =>
    intro code n hn
    obtain ⟨hmem, hcode⟩ := hfound code n hn
    refine ⟨hmem, fun s hs hs' => ?_⟩
    obtain ⟨x, hx, -, -, hcopies⟩ := hattached n hmem
    -- no other sector has the code, of any organization
    have hsame : s = x :=
      hr.sector_codes s hs x hx (hs'.trans (hcode.symm.trans hcopies.code_eq))
    rwa [hsame]

end Records

/-! ## What the service answers -/

/-- The tree of an organization's sectors, or the failure that its root is gone. -/
def Records.treeOf (r : Records) (o : Organization) : Except Failure SectorTree :=
  match build? (r.sectorsOf o.tenant o.id) with
  | some t => .ok t
  | none => .error (.refused .rootNotFound)

namespace Session

variable {s : Session} {r : Records} {o : Organization} {t : SectorTree}

/-- What the service answers to one who asks for the tree of an organization. -/
def treeOf (s : Session) (o : Organization) : Except Failure SectorTree :=
  (s.run (backend.sectorTree o.tenant o.code)).1

/-- Asking for the tree of a stored organization changes nothing, and the answer is the tree of the
records. -/
theorem Holds.run_sectorTree (h : s.Holds r) (ho : o ∈ r.organizations) :
    s.run (backend.sectorTree o.tenant o.code) = (r.treeOf o, s) := by
  have hfind := OrganizationRequest.answer_findByCode h.database o.tenant o.code
  rw [h.sound.organization?_of_mem ho] at hfind
  have hfound : s.run (backend.findOrganization o.tenant o.code) = (.ok o, s) := by
    rw [Backend.findOrganization, run_bind_ok (run_askOrganizations_ok hfind)]
    rfl
  have hsectors := SectorRequest.answer_findAllForOrganization h.database h.sound.readable
    o.tenant o.id
  rw [Backend.sectorTree, run_bind_ok hfound, run_bind_ok (run_askSectors_ok hsectors),
    Records.treeOf]
  cases build? (r.sectorsOf o.tenant o.id) <;> rfl

theorem Holds.treeOf_eq (h : s.Holds r) (ho : r.Stores o) : s.treeOf o = r.treeOf o := by
  obtain ⟨x, hx, hid, htenant, hcode⟩ := ho
  have hrun := h.run_sectorTree hx
  rw [Records.treeOf, htenant, hid, hcode] at hrun
  rw [Session.treeOf, hrun, Records.treeOf]

/-- In a reachable session the tree of an organization whose root is stored is answered, changes
nothing, and shows the sectors of the organization as they are stored. -/
theorem Reachable.sectorTree_mirrors (h : s.Reachable) (ho : o ∈ s.records.organizations)
    {root : Sector} (hroot : s.records.IsRoot o root) :
    ∃ t, s.run (backend.sectorTree o.tenant o.code) = (.ok t, s) ∧ s.records.Mirrors o root t := by
  have hr := h.holds.sound
  obtain ⟨t, hbuild, hdepicts⟩ := Records.exists_depicts hr h.lineage ho hroot
  refine ⟨t, ?_, Records.mirrors_of_depicts hr h.lineage ho hroot hdepicts⟩
  rw [h.holds.run_sectorTree ho, Records.treeOf, hbuild]

open Records in
/-- The tree of an organization with a sector that is left without its parent. -/
theorem sectorTree_mirrors_orphaned : (orphaned.session "").Reachable ∧
    acme ∈ orphaned.organizations ∧ orphaned.IsRoot acme acmeRoot ∧
    ∃ t, (orphaned.session "").run (backend.sectorTree 1 "acme") =
      (.ok t, orphaned.session "") ∧ orphaned.Mirrors acme acmeRoot t := by
  have hreachable := reached_orphaned.reachable ""
  have horganization : acme ∈ orphaned.organizations := by decide
  have hroot : orphaned.IsRoot acme acmeRoot := ⟨by decide, rfl, rfl⟩
  have hrecords : (orphaned.session "").records = orphaned :=
    reached_orphaned.sound.records_session
  obtain ⟨t, hrun, hmirrors⟩ := hreachable.sectorTree_mirrors
    (hrecords.symm ▸ horganization) (hrecords.symm ▸ hroot)
  exact ⟨hreachable, horganization, hroot, t, hrun, hrecords ▸ hmirrors⟩

end Session

end SectorForest
