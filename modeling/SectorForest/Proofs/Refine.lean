import SectorForest.Proofs.Tree.Edit
import SectorForest.Proofs.View

/-!
# Calls as changes of trees

What a call makes of the records of one organization, seen in the tree that is built from them. A
new sector is a new leaf, a deleted one takes everything below it out of sight although all but its
children stay in the table, and whatever a call is not about keeps its tree:
`Session.Reachable.tree_refines`.
-/

namespace SectorForest

open SectorTree (build? rootOf? rootOf?_eq_some build?_eq_some build?_eq_of_depicts ofSector Copies
  Depicts relabelled)

/-- A call is about an organization or about one of its sectors. -/
def Mutation.Addresses (r : Records) (o : Organization) : Mutation → Prop
  | .createOrganization .. => False
  | .createSector _ org .. => org = o.id
  | .createSectorIn tenant code _ => tenant = o.tenant ∧ code = o.code
  | .renameSector tenant id _ => ∃ x ∈ r.sectors, x.tenant = tenant ∧ x.id = id ∧ x.org = o.id
  | .deleteSector tenant id => ∃ x ∈ r.sectors, x.tenant = tenant ∧ x.id = id ∧ x.org = o.id
  | .renameOrganization tenant code _ => tenant = o.tenant ∧ code = o.code
  | .deleteOrganization tenant code => tenant = o.tenant ∧ code = o.code

namespace Records

variable {r r' : Records} {newCode : String} {o : Organization} {root : Sector} {t : SectorTree}

/-! ## Trees and what they depict -/

theorem exists_root_of_treeOf (hr : r.Sound) (hl : r.Lineage) (ho : o ∈ r.organizations)
    (ht : r.treeOf o = .ok t) :
    ∃ root, r.IsRoot o root ∧ Depicts (r.sectorsOf o.tenant o.id) root t := by
  rw [treeOf] at ht
  cases hbuild : build? (r.sectorsOf o.tenant o.id) with
  | none =>
    rw [hbuild] at ht
    cases ht
  | some built =>
    rw [hbuild] at ht
    cases ht
    obtain ⟨root, hroot, hbuilt⟩ := build?_eq_some hbuild
    have hroot := (rootOf?_sectorsOf hr hl ho).mp hroot
    exact ⟨root, hroot, hbuilt.depicts (hr.orderly_sectorsOf hl _ _).nodup
      (hroot.mem_sectorsOf hl ho) (hroot.parent_eq hr)⟩

theorem treeOf_of_depicts (hr : r.Sound) (hl : r.Lineage) (ho : o ∈ r.organizations)
    (hroot : r.IsRoot o root) (hd : Depicts (r.sectorsOf o.tenant o.id) root t) :
    r.treeOf o = .ok t := by
  rw [treeOf, build?_eq_of_depicts (hr.orderly_sectorsOf hl _ _).nodup
    ((rootOf?_sectorsOf hr hl ho).mpr hroot) (hroot.parent_eq hr) hd]

theorem treeOf_of_no_root (hr : r.Sound) (hl : r.Lineage) (ho : o ∈ r.organizations)
    (hnone : ∀ root, ¬ r.IsRoot o root) : r.treeOf o = .error (.refused .rootNotFound) := by
  rw [treeOf, (build?_sectorsOf_eq_none hr hl ho).mpr hnone]

theorem treeOf_congr (h : r'.sectorsOf o.tenant o.id = r.sectorsOf o.tenant o.id) :
    r'.treeOf o = r.treeOf o := by
  rw [treeOf, h, treeOf]

/-! ## Changes in the organization -/

/-- A new sector is a new last leaf below its parent. -/
theorem treeOf_addSector (hr : r.Sound) (hl : r.Lineage) (ho : o ∈ r.organizations)
    {tenant : TenantId} {label : String} {parentCode : Option String} {status : Status}
    {parent : Sector} {child : NewSector}
    (h : r.Grows newCode tenant o.id label parentCode status parent child)
    (ht : r.treeOf o = .ok t) :
    (r.addSector child).treeOf o =
      .ok (t.append parent.id (child.stored (r.lastSector + 1))) := by
  obtain ⟨htenant, horg, -, hparent, -⟩ := h.fields
  obtain ⟨hmem, hparentTenant, hparentOrg, -⟩ := r.parentFor_eq_ok h.parentFor_eq
  have hsame : tenant = o.tenant :=
    hparentTenant.symm.trans (hl.tenant_eq parent hmem o ho hparentOrg.symm).symm
  have hsectors : (r.addSector child).sectorsOf o.tenant o.id =
      r.sectorsOf o.tenant o.id ++ [child.stored (r.lastSector + 1)] := by
    rw [sectorsOf_addSector, if_pos ⟨(htenant.trans hsame).symm, horg.symm⟩]
  obtain ⟨root, hroot, hd⟩ := exists_root_of_treeOf hr hl ho ht
  have hroot' : (r.addSector child).IsRoot o root :=
    ⟨List.mem_append_left _ hroot.mem, hroot.org_eq, hroot.hasParent_eq⟩
  refine treeOf_of_depicts (hr.grow h) (hl.grow hr h) ho hroot' ?_
  rw [hsectors]
  refine ⟨hd.copies.append, hd.faithful.append hparent fun s hs => ?_⟩
  rcases List.mem_append.mp hs with hs | hs
  · exact hl.parent_ne_next hr h.room s (mem_sectorsOf.mp hs).1
  · rw [List.mem_singleton.mp hs]
    intro heq
    exact hr.id_ne_next h.room parent hmem (Option.some.inj (hparent.symm.trans heq))

/-- Which sectors of an organization go when one of them is deleted. -/
theorem sectorsOf_removeSectors (tenant : TenantId) (org : OrganizationId) (id : SectorId) :
    (r.removeSectors (goesWith tenant id)).sectorsOf tenant org =
      (r.sectorsOf tenant org).filter fun s => !(s.id == id || s.parent == some id) := by
  rw [sectorsOf, removeSectors, sectorsOf, List.filter_filter, List.filter_filter]
  refine List.filter_congr fun s _ => ?_
  cases htenant : s.tenant == tenant <;> simp [goesWith, htenant, Bool.and_comm]

/-- A deleted sector below the root is cut off with everything below it. -/
theorem treeOf_deleteSector (hr : r.Sound) (hl : r.Lineage) (ho : o ∈ r.organizations)
    {id : SectorId} (hid : id ≠ t.id) (ht : r.treeOf o = .ok t) :
    (r.removeSectors (goesWith o.tenant id)).treeOf o = .ok (t.prune id) := by
  obtain ⟨root, hroot, hd⟩ := exists_root_of_treeOf hr hl ho ht
  have hkept : goesWith o.tenant id root = false := by
    rw [Bool.eq_false_iff, ne_eq, goesWith_iff, hroot.parent_eq hr]
    -- the root goes only by its own number, for it has no parent
    rintro ⟨-, heq | heq⟩
    · exact hid (heq.symm.trans hd.copies.id_eq.symm)
    · cases heq
  have hroot' : (r.removeSectors (goesWith o.tenant id)).IsRoot o root :=
    ⟨List.mem_filter.mpr ⟨hroot.mem, by rw [hkept]; rfl⟩, hroot.org_eq, hroot.hasParent_eq⟩
  refine treeOf_of_depicts (hr.removeSectors _) (hl.removeSectors _) ho hroot' ?_
  rw [sectorsOf_removeSectors]
  exact ⟨hd.copies.prune, hd.faithful.prune hid.symm⟩

/-- Without its root, an organization has no tree. -/
theorem treeOf_deleteRoot (hr : r.Sound) (hl : r.Lineage) (ho : o ∈ r.organizations)
    (ht : r.treeOf o = .ok t) :
    (r.removeSectors (goesWith o.tenant t.id)).treeOf o = .error (.refused .rootNotFound) := by
  obtain ⟨root, hroot, hd⟩ := exists_root_of_treeOf hr hl ho ht
  refine treeOf_of_no_root (hr.removeSectors _) (hl.removeSectors _) ho fun other hother => ?_
  obtain ⟨hmem, hkept⟩ := List.mem_filter.mp hother.mem
  have hsame : other = root := IsRoot.eq ⟨hmem, hother.org_eq, hother.hasParent_eq⟩ hroot hl
  have hgone : goesWith o.tenant t.id root = true :=
    goesWith_iff.mpr ⟨(hl.tenant_eq root hroot.mem o ho hroot.org_eq.symm).symm,
      .inl hd.copies.id_eq.symm⟩
  rw [hsame, hgone] at hkept
  cases hkept

/-- The sectors of an organization stay the same but for a label. -/
theorem sectorsOf_relabelSector (tenant tenant' : TenantId) (org : OrganizationId) (id : SectorId)
    (label : String) : (r.relabelSector tenant' id label).sectorsOf tenant org =
      (r.sectorsOf tenant org).map fun s =>
        if s.tenant = tenant' ∧ s.id = id then { s with label } else s := by
  have hkeep : ((fun s : Sector => s.tenant == tenant && s.org == org) ∘ fun s : Sector =>
      if s.tenant = tenant' ∧ s.id = id then { s with label } else s) =
        fun s => s.tenant == tenant && s.org == org := by
    funext s
    rw [Function.comp_apply]
    split <;> rfl
  rw [sectorsOf, relabelSector, List.filter_map, hkeep, sectorsOf]

/-- A sector with another label is a node with another label. -/
theorem treeOf_relabelSector (hr : r.Sound) (hl : r.Lineage) (ho : o ∈ r.organizations)
    {id : SectorId} {label : String}
    (hfree : ∀ x ∈ r.sectors, x.tenant = o.tenant → x.label = label → x.id = id)
    (ht : r.treeOf o = .ok t) :
    (r.relabelSector o.tenant id label).treeOf o = .ok (t.relabel id label) := by
  obtain ⟨root, hroot, hd⟩ := exists_root_of_treeOf hr hl ho ht
  have hsectors : (r.relabelSector o.tenant id label).sectorsOf o.tenant o.id =
      (r.sectorsOf o.tenant o.id).map (relabelled id label) := by
    rw [sectorsOf_relabelSector]
    refine List.map_congr_left fun s hs => ?_
    have htenant : s.tenant = o.tenant := (mem_sectorsOf.mp hs).2.1
    simp only [htenant, true_and, relabelled]
  have hroot' : (r.relabelSector o.tenant id label).IsRoot o (relabelled id label root) := by
    have htenant := (hl.tenant_eq root hroot.mem o ho hroot.org_eq.symm).symm
    have hfields : (relabelled id label root).org = root.org ∧
        (relabelled id label root).hasParent = root.hasParent := by
      rw [relabelled]
      split <;> exact ⟨rfl, rfl⟩
    refine ⟨List.mem_map.mpr ⟨root, hroot.mem, ?_⟩, hfields.1.trans hroot.org_eq,
      hfields.2.trans hroot.hasParent_eq⟩
    simp only [htenant, true_and, relabelled]
  refine treeOf_of_depicts (hr.relabelSector hfree) (hl.relabelSector _ _ _) ho hroot' ?_
  rw [hsectors]
  exact ⟨hd.copies.relabel, hd.faithful.relabel⟩

/-! ## Changes elsewhere -/

theorem sectorsOf_addSector_of_ne (tenant : TenantId) {org : OrganizationId} {child : NewSector}
    (h : child.org ≠ org) : (r.addSector child).sectorsOf tenant org = r.sectorsOf tenant org := by
  rw [sectorsOf_addSector, if_neg fun hsame => h hsame.2.symm, List.append_nil]

theorem sectorsOf_removeSectors_of_kept {tenant : TenantId} {org : OrganizationId}
    {gone : Sector → Bool} (h : ∀ s ∈ r.sectorsOf tenant org, gone s = false) :
    (r.removeSectors gone).sectorsOf tenant org = r.sectorsOf tenant org := by
  rw [sectorsOf, removeSectors, List.filter_comm]
  exact List.filter_eq_self.mpr fun s hs => by rw [h s hs]; rfl

theorem sectorsOf_relabelSector_of_kept {tenant tenant' : TenantId} {org : OrganizationId}
    {id : SectorId} {label : String}
    (h : ∀ s ∈ r.sectorsOf tenant org, ¬ (s.tenant = tenant' ∧ s.id = id)) :
    (r.relabelSector tenant' id label).sectorsOf tenant org = r.sectorsOf tenant org := by
  rw [sectorsOf_relabelSector]
  exact (List.map_congr_left fun s hs => if_neg (h s hs)).trans (List.map_id _)

/-- A call keeps an organization that it is not about, and its sectors. -/
theorem Effect.untouched {mutation : Mutation} {a : mutation.Answer}
    (h : r.Effect newCode mutation a r') (hr : r.Sound) (hl : r.Lineage)
    (ho : o ∈ r.organizations) (helse : ¬ mutation.Addresses r o) :
    r'.sectorsOf o.tenant o.id = r.sectorsOf o.tenant o.id ∧ r'.Stores o := by
  have hstored := stores_of_mem ho
  refine ⟨?_, h.stores hstored ?_⟩
  · cases h with
    | @createOrganization tenant draft code label _ _ hfounds =>
      refine sectorsOf_addSector_of_ne (r := r.addOrganization (draft.named tenant code label)) _ ?_
      exact (hr.organization_id_ne_next hfounds.organization_room o ho).symm
    | createSector hgrows =>
      exact sectorsOf_addSector_of_ne _ fun heq => helse (hgrows.fields.2.1.symm.trans heq)
    | createSectorIn hx hgrows =>
      refine sectorsOf_addSector_of_ne _ fun heq => helse ?_
      exact hstored.key_eq hr hx (hgrows.fields.2.1.symm.trans heq)
    | renameSector _ _ _ =>
      refine sectorsOf_relabelSector_of_kept fun s hs ⟨htenant, hid⟩ => helse ?_
      obtain ⟨hmem, -, horg⟩ := mem_sectorsOf.mp hs
      exact ⟨s, hmem, htenant, hid, horg⟩
    | deleteSector hx =>
      refine sectorsOf_removeSectors_of_kept fun s hs => ?_
      obtain ⟨hmem, -, horg⟩ := mem_sectorsOf.mp hs
      obtain ⟨hgone, hgoneTenant, rfl⟩ := sector?_eq_some hx
      rw [Bool.eq_false_iff, ne_eq, goesWith_iff]
      -- a sector that goes is the deleted one or a child, of the same organization
      rintro ⟨htenant, hid | hparent⟩
      · exact helse ⟨s, hmem, htenant, hid, horg⟩
      · obtain ⟨-, hsame, -⟩ := hl.parent_above s hmem _ hgone hparent
        exact helse ⟨_, hgone, hgoneTenant, rfl, hsame.trans horg⟩
    | keepLabel _ _ => rfl
    | renameOrganization _ _ _ => rfl
    | @deleteOrganization tenant code x hx =>
      have hne : x.id ≠ o.id := fun hid => helse (hstored.key_eq hr hx hid)
      have hkept : ∀ s ∈ r.sectorsOf o.tenant o.id, (s.org == x.id) = false := by
        intro s hs
        rw [(mem_sectorsOf.mp hs).2.2]
        exact beq_false_of_ne hne.symm
      exact sectorsOf_removeSectors_of_kept hkept
  · rintro rfl
    exact helse ⟨rfl, rfl⟩

end Records

/-! ## Calls -/

namespace Session

variable {s s' : Session} {o : Organization} {t : SectorTree}

/-- A call has added a sector below a parent, and the tree of its organization shows it if it shows
the parent. -/
structure Grown (s s' : Session) (o : Organization) (t : SectorTree) (parent new : Sector) :
    Prop where
  parent_mem : parent ∈ s.records.sectors
  sectors_eq : s'.records.sectors = s.records.sectors ++ [new]
  code_eq : new.code = s.codes s.codesTaken
  parent_eq : new.parent = some parent.id
  org_eq : new.org = o.id
  depth_eq : new.depth.toNat = parent.depth.toNat + 1
  shown : parent.id ∈ t.ids → s'.treeOf o = .ok (t.append parent.id new)
  hidden : parent.id ∉ t.ids → s'.treeOf o = .ok t

theorem grown_of_grows {r : Records} (h : s.Holds r) (hl : r.Lineage) (ho : o ∈ r.organizations)
    (ht : r.treeOf o = .ok t) {tenant : TenantId} {label : String} {parentCode : Option String}
    {status : Status} {parent : Sector} {child : NewSector}
    (hgrows : r.Grows (s.codes s.codesTaken) tenant o.id label parentCode status parent child)
    (h' : s'.Holds (r.addSector child)) :
    Grown s s' o t parent (child.stored (r.lastSector + 1)) := by
  obtain ⟨-, horg, hcode, hparent, -⟩ := hgrows.fields
  have htree := Records.treeOf_addSector h.sound hl ho hgrows ht
  rw [← h'.treeOf_eq (Records.stores_of_mem ho)] at htree
  refine ⟨?_, ?_, hcode, hparent, horg, hgrows.toNat_depth, fun _ => htree, fun hnot => ?_⟩
  · rw [h.records]
    exact (r.parentFor_eq_ok hgrows.parentFor_eq).1
  · rw [h'.records, h.records]
    rfl
  · rw [htree, SectorTree.append_of_not_mem hnot]

/-- In a reachable session, let `t` be the tree of an organization. A call that succeeds changes it
as follows. A new sector of the organization is a new last leaf below its parent, if that is shown.
A deleted sector takes everything below it out of the tree, although only the sectors directly below
it leave the table; without its root the organization has no tree. A sector with another label is a
node with another label. An organization's label, and whatever is done about other organizations,
changes nothing. -/
theorem Reachable.tree_refines (h : s.Reachable) (ho : o ∈ s.records.organizations)
    (ht : s.treeOf o = .ok t) :
    (∀ tenant label parentCode id, s.call (.createSector tenant o.id label parentCode) =
      (.ok id, s') → ∃ parent new, Grown s s' o t parent new ∧ new.id = id ∧
        new.status = .active ∧ normalize .label label = .ok new.label ∧
        s.records.parentFor o.tenant o.id parentCode = .ok parent) ∧
    (∀ draft new, s.call (.createSectorIn o.tenant o.code draft) = (.ok new, s') →
      ∃ parent, Grown s s' o t parent new ∧ new.status = draft.status ∧
        normalize .label draft.label = .ok new.label ∧
        s.records.parentFor o.tenant o.id draft.parentCode = .ok parent) ∧
    (∀ id count, s.call (.deleteSector o.tenant id) = (.ok count, s') →
      s'.records.sectors = s.records.sectors.filter (fun x => !Records.goesWith o.tenant id x) ∧
      (id = t.id → s'.treeOf o = .error (.refused .rootNotFound)) ∧
      (id ≠ t.id → id ∈ t.ids → s'.treeOf o = .ok (t.prune id)) ∧
      (id ∉ t.ids → s'.treeOf o = .ok t)) ∧
    (∀ id label, s.call (.renameSector o.tenant id label) = (.ok (), s') →
      ∃ text, normalize .label label = .ok text ∧ s'.treeOf o = .ok (t.relabel id text)) ∧
    (∀ tenant code label, s.call (.renameOrganization tenant code label) = (.ok (), s') →
      s'.treeOf o = .ok t) ∧
    ∀ mutation a, s.call mutation = (.ok a, s') → ¬ mutation.Addresses s.records o →
      s'.treeOf o = .ok t := by
  have hholds := h.holds
  have hl := h.lineage
  have hr := hholds.sound
  have hstores := Records.stores_of_mem ho
  rw [hholds.treeOf_eq hstores] at ht
  refine ⟨?_, ?_, ?_, ?_, ?_, ?_⟩
  · intro tenant label parentCode id hcall
    obtain ⟨r', heffect, h'⟩ := hholds.call_ok hcall
    cases heffect with
    | @createSector _ _ _ _ parent child hgrows =>
      obtain ⟨hmem, htenant, horg, -⟩ := s.records.parentFor_eq_ok hgrows.parentFor_eq
      have hsame := hl.tenant_eq parent hmem o ho horg.symm
      refine ⟨parent, _, grown_of_grows hholds hl ho ht hgrows h', rfl, hgrows.fields.2.2.2.2.2.2,
        hgrows.label_eq, ?_⟩
      rw [hsame, htenant]
      exact hgrows.parentFor_eq
  · intro draft new hcall
    obtain ⟨r', heffect, h'⟩ := hholds.call_ok hcall
    cases heffect with
    | @createSectorIn _ _ _ x parent child hx hgrows =>
      have hsame : x = o := Option.some.inj (hx.symm.trans (hr.organization?_of_mem ho))
      rw [hsame] at hgrows
      exact ⟨parent, grown_of_grows hholds hl ho ht hgrows h', hgrows.fields.2.2.2.2.2.2,
        hgrows.label_eq, hgrows.parentFor_eq⟩
  · intro id count hcall
    obtain ⟨r', heffect, h'⟩ := hholds.call_ok hcall
    cases heffect with
    | deleteSector hx =>
      have hsectors := h'.records
      have htree := h'.treeOf_eq hstores
      refine ⟨by rw [hsectors]; rfl, ?_, ?_, ?_⟩
      · rintro rfl
        exact htree.trans (Records.treeOf_deleteRoot hr hl ho ht)
      · exact fun hne _ => htree.trans (Records.treeOf_deleteSector hr hl ho hne ht)
      · intro hnot
        have hne : id ≠ t.id := fun heq => hnot (heq ▸ t.id_mem_ids)
        rw [htree, Records.treeOf_deleteSector hr hl ho hne ht, SectorTree.prune_of_not_mem hnot]
  · intro id label hcall
    obtain ⟨r', heffect, h'⟩ := hholds.call_ok hcall
    cases heffect with
    | @renameSector _ _ _ text _ _ hlabel hfree =>
      exact ⟨text, hlabel,
        (h'.treeOf_eq hstores).trans (Records.treeOf_relabelSector hr hl ho hfree ht)⟩
  · intro tenant code label hcall
    obtain ⟨r', heffect, h'⟩ := hholds.call_ok hcall
    have hstores' := heffect.stores hstores Mutation.noConfusion
    rw [h'.treeOf_eq hstores']
    -- the sectors are the same either way
    cases heffect with
    | keepLabel _ _ => exact ht
    | renameOrganization _ _ _ => exact ht
  · intro mutation a hcall helse
    obtain ⟨r', heffect, h'⟩ := hholds.call_ok hcall
    obtain ⟨hsectors, hstores'⟩ := heffect.untouched hr hl ho helse
    rw [h'.treeOf_eq hstores', Records.treeOf_congr hsectors, ht]

open Records in
/-- Of four sectors, one under the other, the last three are not shown any more once the second is
deleted. -/
theorem tree_refines_chain : (chain.session "").Reachable ∧ acme ∈ chain.organizations ∧
    ∃ t, (chain.session "").treeOf acme = .ok t ∧ t.ids = [1, 2, 3, 4] ∧
      ((chain.session "").call (.deleteSector 1 2)).2.treeOf acme = .ok (t.prune 2) := by
  have hreachable := reached_chain.reachable ""
  have horganization : acme ∈ chain.organizations := by decide
  have hrecords : (chain.session "").records = chain := reached_chain.sound.records_session
  have hids : ((chain.session "").treeOf acme).map SectorTree.ids = .ok [1, 2, 3, 4] := by
    rw [(reached_chain.sound.session_holds "").treeOf_eq (stores_of_mem horganization)]
    decide
  have hcall : (chain.session "").call (.deleteSector 1 2) =
      (.ok 2, ((chain.session "").call (.deleteSector 1 2)).2) :=
    Prod.ext (reached_chain.sound.call_session plan_orphaned).1 rfl
  cases htree : (chain.session "").treeOf acme with
  | error failure =>
    rw [htree] at hids
    cases hids
  | ok t =>
    rw [htree] at hids
    have hids : t.ids = [1, 2, 3, 4] := Except.ok.inj hids
    have hroot : t.id = 1 := (List.cons.inj (t.ids_eq.symm.trans hids)).1
    obtain ⟨-, -, hdelete, -⟩ := hreachable.tree_refines (hrecords.symm ▸ horganization) htree
    obtain ⟨-, -, hprune, -⟩ := hdelete 2 2 hcall
    refine ⟨hreachable, horganization, t, rfl, hids, hprune ?_ ?_⟩
    · rw [hroot]
      decide
    · rw [hids]
      decide

end Session

end SectorForest
