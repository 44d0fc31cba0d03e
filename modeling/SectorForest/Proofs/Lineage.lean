import Mathlib.Logic.Relation
import SectorForest.Proofs.Organizations

/-!
# Parents and owners

What the service keeps of its records beyond what the tables guarantee: `Records.Lineage`. A sector
belongs to the tenant of its organization. A parent has a smaller number than its children, and as
long as it is stored it lies one level above them in the same organization. At most one sector of an
organization has no parent.

Parents are not references of the tables, and deleting a sector leaves the sectors two levels below
with the number of a parent that is gone. Such a number never names a sector again, for numbers are
given out once: `Records.Retired`.
-/

namespace SectorForest

namespace Records

/-- What the service keeps of its records beyond `Sound`. -/
structure Lineage (r : Records) : Prop where
  tenant_eq : ∀ s ∈ r.sectors, ∀ o ∈ r.organizations, o.id = s.org → o.tenant = s.tenant
  parent_lt : ∀ s ∈ r.sectors, ∀ p, s.parent = some p → p < s.id
  parent_above : ∀ s ∈ r.sectors, ∀ p ∈ r.sectors, s.parent = some p.id →
    p.tenant = s.tenant ∧ p.org = s.org ∧ s.depth.toNat = p.depth.toNat + 1
  root_like : ∀ s ∈ r.sectors, s.hasParent = false →
    s.status = .active ∧ ∀ o ∈ r.organizations, o.id = s.org → o.code = s.code
  root_unique : ∀ a ∈ r.sectors, ∀ b ∈ r.sectors, a.hasParent = false → b.hasParent = false →
    a.org = b.org → a = b

theorem lineage_empty : Lineage {} := by
  constructor <;> simp

variable {r r' : Records} {newCode : String}

/-! ## Adding -/

/-- A new number is above that of every stored sector. -/
theorem Sound.id_lt_next (hr : r.Sound) (hroom : r.lastSector ≠ Int64.maxValue) :
    ∀ s ∈ r.sectors, s.id < r.lastSector + 1 :=
  fun s hs => Int64.lt_of_le_of_lt (hr.sectors_le s hs).2 (lt_next hroom)

/-- A new number is not that of a stored sector. -/
theorem Sound.id_ne_next (hr : r.Sound) (hroom : r.lastSector ≠ Int64.maxValue) :
    ∀ s ∈ r.sectors, s.id ≠ r.lastSector + 1 :=
  fun s hs => Int64.ne_of_lt (hr.id_lt_next hroom s hs)

/-- No stored sector belongs to an organization with a new number. -/
theorem Sound.org_ne_next (hr : r.Sound) (hroom : r.lastOrganization ≠ Int64.maxValue) :
    ∀ s ∈ r.sectors, s.org ≠ r.lastOrganization + 1 := by
  intro s hs heq
  obtain ⟨o, ho, hid⟩ := hr.owned s hs
  exact hr.organization_id_ne_next hroom o ho (hid.trans heq)

/-- No stored sector names a new number as its parent. -/
theorem Lineage.parent_ne_next (hl : r.Lineage) (hr : r.Sound)
    (hroom : r.lastSector ≠ Int64.maxValue) :
    ∀ s ∈ r.sectors, s.parent ≠ some (r.lastSector + 1) := by
  intro s hs heq
  have hlt := hl.parent_lt s hs _ heq
  have hle := (hr.sectors_le s hs).2
  exact Int64.lt_irrefl
    (Int64.lt_of_lt_of_le (Int64.lt_trans (lt_next hroom) hlt) hle)

theorem Lineage.addOrganization (hl : r.Lineage) (hr : r.Sound) {o : NewOrganization}
    (hroom : r.lastOrganization ≠ Int64.maxValue) : (r.addOrganization o).Lineage where
  __ := hl
  tenant_eq := by
    intro s hs x hx hid
    rcases List.mem_append.mp hx with hx | hx
    · exact hl.tenant_eq s hs x hx hid
    · rw [List.mem_singleton.mp hx] at hid
      exact absurd hid.symm (hr.org_ne_next hroom s hs)
  root_like := by
    intro s hs hroot
    refine ⟨(hl.root_like s hs hroot).1, fun x hx hid => ?_⟩
    rcases List.mem_append.mp hx with hx | hx
    · exact (hl.root_like s hs hroot).2 x hx hid
    · rw [List.mem_singleton.mp hx] at hid
      exact absurd hid.symm (hr.org_ne_next hroom s hs)

/-- A sector may be added below a stored sector of its organization, or as a first root. -/
theorem Lineage.addSector (hl : r.Lineage) (hr : r.Sound) {new : NewSector}
    (hroom : r.lastSector ≠ Int64.maxValue)
    (htenant : ∀ o ∈ r.organizations, o.id = new.org → o.tenant = new.tenant)
    (hparent : ∀ p, new.parent = some p → ∃ x ∈ r.sectors, x.id = p ∧ x.tenant = new.tenant ∧
      x.org = new.org ∧ new.depth.toNat = x.depth.toNat + 1)
    (hactive : new.hasParent = false → new.status = .active)
    (hcode : new.hasParent = false → ∀ o ∈ r.organizations, o.id = new.org → o.code = new.code)
    (hfirst : new.hasParent = false → ∀ x ∈ r.sectors, x.hasParent = false → x.org ≠ new.org) :
    (r.addSector new).Lineage where
  tenant_eq := by
    intro s hs o ho hid
    rcases List.mem_append.mp hs with hs | hs
    · exact hl.tenant_eq s hs o ho hid
    · rw [List.mem_singleton.mp hs] at hid ⊢
      exact htenant o ho hid
  parent_lt := by
    intro s hs p hp
    rcases List.mem_append.mp hs with hs | hs
    · exact hl.parent_lt s hs p hp
    · rw [List.mem_singleton.mp hs] at hp ⊢
      obtain ⟨x, hx, rfl, -⟩ := hparent p hp
      exact hr.id_lt_next hroom x hx
  parent_above := by
    intro s hs p hp hsp
    rcases List.mem_append.mp hs with hs | hs <;> rcases List.mem_append.mp hp with hp | hp
    · exact hl.parent_above s hs p hp hsp
    · -- a number that is new is nobody's parent
      rw [List.mem_singleton.mp hp] at hsp
      exact absurd hsp (hl.parent_ne_next hr hroom s hs)
    · rw [List.mem_singleton.mp hs] at hsp ⊢
      obtain ⟨x, hx, hid, habove⟩ := hparent p.id hsp
      rwa [distinctBy_number hr.sectors_increasing x hx p hp hid] at habove
    · rw [List.mem_singleton.mp hs, List.mem_singleton.mp hp] at hsp
      obtain ⟨x, hx, hid, -⟩ := hparent _ hsp
      exact absurd hid (hr.id_ne_next hroom x hx)
  root_like := by
    intro s hs hroot
    rcases List.mem_append.mp hs with hs | hs
    · exact hl.root_like s hs hroot
    · rw [List.mem_singleton.mp hs] at hroot ⊢
      exact ⟨hactive hroot, hcode hroot⟩
  root_unique := by
    intro a ha b hb hroota hrootb heq
    -- a new root is the first one
    rcases List.mem_append.mp ha with ha | ha <;> rcases List.mem_append.mp hb with hb | hb
    · exact hl.root_unique a ha b hb hroota hrootb heq
    · rw [List.mem_singleton.mp hb] at hrootb heq
      exact absurd heq (hfirst hrootb a ha hroota)
    · rw [List.mem_singleton.mp ha] at hroota heq
      exact absurd heq.symm (hfirst hroota b hb hrootb)
    · rw [List.mem_singleton.mp ha, List.mem_singleton.mp hb]

theorem Lineage.grow (hl : r.Lineage) (hr : r.Sound) {tenant : TenantId} {org : OrganizationId}
    {label : String} {parentCode : Option String} {status : Status} {parent : Sector}
    {child : NewSector} (h : r.Grows newCode tenant org label parentCode status parent child) :
    (r.addSector child).Lineage := by
  obtain ⟨htenant, horg, -, hparent, hhas, -⟩ := h.fields
  obtain ⟨hmem, hparentTenant, hparentOrg, -⟩ := r.parentFor_eq_ok h.parentFor_eq
  have hnot : child.hasParent ≠ false := by
    rw [hhas]
    decide
  refine hl.addSector hr h.room ?_ ?_ (absurd · hnot) (absurd · hnot) (absurd · hnot)
  · intro o ho hid
    rw [htenant, ← hparentTenant]
    exact hl.tenant_eq parent hmem o ho (hid.trans (horg.trans hparentOrg.symm))
  · intro p hp
    rw [hparent, Option.some.injEq] at hp
    exact ⟨parent, hmem, hp, hparentTenant.trans htenant.symm, hparentOrg.trans horg.symm,
      h.toNat_depth⟩

theorem Lineage.found (hl : r.Lineage) (hr : r.Sound) {o : NewOrganization} (h : r.Founds o) :
    (r.found o).Lineage := by
  have hroom := h.organization_room
  have hsound : (r.addOrganization o).Sound :=
    hr.addOrganization hroom h.organization_code_free h.organization_label_free
  -- the number of the new organization is that of no other one
  have hself : ∀ x ∈ (r.addOrganization o).organizations, x.id = r.lastOrganization + 1 →
      x = o.stored (r.lastOrganization + 1) := by
    intro x hx hid
    rcases List.mem_append.mp hx with hx | hx
    · exact absurd hid (hr.organization_id_ne_next hroom x hx)
    · exact List.mem_singleton.mp hx
  refine (hl.addOrganization hr hroom).addSector hsound h.sector_room ?_ ?_ ?_ ?_ ?_
  · intro x hx hid
    rw [hself x hx hid]
    rfl
  · rintro p ⟨⟩
  · exact fun _ => rfl
  · intro _ x hx hid
    rw [hself x hx hid]
    rfl
  · exact fun _ x hx _ => hr.org_ne_next hroom x hx

/-! ## Relabelling and removing -/

theorem Lineage.relabelSector (hl : r.Lineage) (tenant : TenantId) (id : SectorId)
    (label : String) : (r.relabelSector tenant id label).Lineage where
  tenant_eq := by
    refine List.forall_mem_map.mpr fun s hs => ?_
    split <;> exact hl.tenant_eq s hs
  parent_lt := by
    refine List.forall_mem_map.mpr fun s hs => ?_
    split <;> exact hl.parent_lt s hs
  parent_above := by
    refine List.forall_mem_map.mpr fun s hs => List.forall_mem_map.mpr fun p hp => ?_
    split <;> split <;> exact hl.parent_above s hs p hp
  root_like := by
    refine List.forall_mem_map.mpr fun s hs => ?_
    split <;> exact hl.root_like s hs
  root_unique := by
    refine List.forall_mem_map.mpr fun a ha => List.forall_mem_map.mpr fun b hb => ?_
    intro hroota hrootb heq
    -- roots are told by what a label does not touch
    have hsame : a = b := by
      refine hl.root_unique a ha b hb ?_ ?_ ?_
      · split at hroota <;> exact hroota
      · split at hrootb <;> exact hrootb
      · split at heq <;> split at heq <;> exact heq
    rw [hsame]

theorem Lineage.relabelOrganization (hl : r.Lineage) (tenant : TenantId) (code label : String) :
    (r.relabelOrganization tenant code label).Lineage where
  __ := hl
  tenant_eq := fun s hs => by
    refine List.forall_mem_map.mpr fun o ho => ?_
    split <;> exact hl.tenant_eq s hs o ho
  root_like := fun s hs hroot => by
    refine ⟨(hl.root_like s hs hroot).1, List.forall_mem_map.mpr fun o ho => ?_⟩
    split <;> exact (hl.root_like s hs hroot).2 o ho

theorem Lineage.removeSectors (hl : r.Lineage) (gone : Sector → Bool) :
    (r.removeSectors gone).Lineage where
  tenant_eq := fun s hs => hl.tenant_eq s (List.mem_of_mem_filter hs)
  parent_lt := fun s hs => hl.parent_lt s (List.mem_of_mem_filter hs)
  parent_above := fun s hs p hp =>
    hl.parent_above s (List.mem_of_mem_filter hs) p (List.mem_of_mem_filter hp)
  root_like := fun s hs => hl.root_like s (List.mem_of_mem_filter hs)
  root_unique := fun a ha b hb =>
    hl.root_unique a (List.mem_of_mem_filter ha) b (List.mem_of_mem_filter hb)

theorem Lineage.removeOrganization (hl : r.Lineage) (tenant : TenantId) (code : String) :
    (r.removeOrganization tenant code).Lineage where
  __ := hl
  tenant_eq := fun s hs o ho => hl.tenant_eq s hs o (List.mem_of_mem_filter ho)
  root_like := fun s hs hroot => ⟨(hl.root_like s hs hroot).1,
    fun o ho => (hl.root_like s hs hroot).2 o (List.mem_of_mem_filter ho)⟩

/-- Every effect keeps parents and owners in order. -/
theorem Effect.lineage {mutation : Mutation} {a : mutation.Answer}
    (h : r.Effect newCode mutation a r') (hr : r.Sound) (hl : r.Lineage) : r'.Lineage := by
  cases h with
  | createOrganization _ _ hfounds => exact hl.found hr hfounds
  | createSector hgrows => exact hl.grow hr hgrows
  | createSectorIn _ hgrows => exact hl.grow hr hgrows
  | renameSector _ _ _ => exact hl.relabelSector _ _ _
  | deleteSector _ => exact hl.removeSectors _
  | keepLabel _ _ => exact hl
  | renameOrganization _ _ _ => exact hl.relabelOrganization _ _ _
  | deleteOrganization _ => exact (hl.removeSectors _).removeOrganization _ _

/-! ## Numbers that are gone -/

/-- A number that was given out and that no stored sector has. -/
def Retired (r : Records) (id : SectorId) : Prop :=
  id ≤ r.lastSector ∧ ∀ s ∈ r.sectors, s.id ≠ id

theorem Retired.add {s : NewSector} {id : SectorId} (h : r.Retired id)
    (hroom : r.lastSector ≠ Int64.maxValue) : (r.addSector s).Retired id := by
  have hlt : id < r.lastSector + 1 := Int64.lt_of_le_of_lt h.1 (lt_next hroom)
  refine ⟨Int64.le_of_lt hlt, fun x hx heq => ?_⟩
  rcases List.mem_append.mp hx with hx | hx
  · exact h.2 x hx heq
  · rw [List.mem_singleton.mp hx] at heq
    rw [← heq] at hlt
    exact Int64.lt_irrefl hlt

/-- A number that is gone never comes back. -/
theorem Effect.retired {mutation : Mutation} {a : mutation.Answer}
    (h : r.Effect newCode mutation a r') {id : SectorId} (hid : r.Retired id) : r'.Retired id := by
  cases h with
  | @createOrganization tenant draft code label _ _ hfounds =>
    exact Retired.add (r := r.addOrganization (draft.named tenant code label)) hid
      hfounds.sector_room
  | createSector hgrows => exact hid.add hgrows.room
  | createSectorIn _ hgrows => exact hid.add hgrows.room
  | renameSector _ _ _ =>
    refine ⟨hid.1, List.forall_mem_map.mpr fun s hs => ?_⟩
    split <;> exact hid.2 s hs
  | deleteSector _ => exact ⟨hid.1, fun s hs => hid.2 s (List.mem_of_mem_filter hs)⟩
  | keepLabel _ _ => exact hid
  | renameOrganization _ _ _ => exact hid
  | deleteOrganization _ => exact ⟨hid.1, fun s hs => hid.2 s (List.mem_of_mem_filter hs)⟩

/-! ## Parent links -/

/-- A stored sector has the number `child` and names `parent` as its parent. -/
def Links (r : Records) (child parent : SectorId) : Prop :=
  ∃ s ∈ r.sectors, s.id = child ∧ s.parent = some parent

/-- Along parent links numbers decrease. -/
theorem Lineage.lt_of_links (hl : r.Lineage) {child ancestor : SectorId}
    (h : Relation.TransGen r.Links child ancestor) : ancestor < child := by
  have hstep {child parent : SectorId} (hlink : r.Links child parent) : parent < child := by
    obtain ⟨s, hs, rfl, hp⟩ := hlink
    exact hl.parent_lt s hs _ hp
  induction h with
  | single hlink => exact hstep hlink
  | tail _ hlink ih => exact Int64.lt_trans (hstep hlink) ih

end Records

/-! ## Reachable sessions -/

namespace Session

variable {s s' : Session} {calls : List Call}

theorem Reachable.lineage (h : s.Reachable) : s.records.Lineage :=
  (h.records_induction Records.lineage_empty
    fun _ _ _ _ _ hr hl heffect => heffect.lineage hr hl).2

/-- A number that is gone stays gone in whatever the session becomes. -/
theorem Run.retired (hrun : s.Run calls s') {r : Records} (hholds : s.Holds r) {id : SectorId}
    (hid : r.Retired id) : s'.records.Retired id := by
  obtain ⟨r', hholds', hid'⟩ := hrun.records_induction (P := fun _ r => r.Retired id) hholds hid
    (fun _ _ _ _ hp => hp) fun _ _ _ _ _ _ _ hp heffect => heffect.retired hp
  rw [hholds'.records]
  exact hid'

/-- In a reachable session the database is that of its records, every sector belongs to the tenant
of its organization, and a sector that has a parent names it by a smaller number; as long as that
parent is stored it is of the same tenant and organization, one level above. Parent links do not
loop, and the number of a parent that is gone names no sector that is created later. -/
theorem Reachable.parents_in_order (h : s.Reachable) :
    s.connection.database = s.records.database ∧
    (∀ x ∈ s.records.sectors, ∃ o ∈ s.records.organizations, o.id = x.org ∧ o.tenant = x.tenant) ∧
    (∀ x ∈ s.records.sectors, x.hasParent = true → ∃ p, x.parent = some p ∧ p < x.id ∧
      1 ≤ x.depth.toNat ∧ ∀ y ∈ s.records.sectors, y.id = p →
        y.tenant = x.tenant ∧ y.org = x.org ∧ x.depth.toNat = y.depth.toNat + 1) ∧
    (∀ id, ¬ Relation.TransGen s.records.Links id id) ∧
    ∀ x ∈ s.records.sectors, ∀ p, x.parent = some p → (∀ y ∈ s.records.sectors, y.id ≠ p) →
      ∀ calls s', s.Run calls s' → ∀ y ∈ s'.records.sectors, y.id ≠ p := by
  have hholds := h.holds
  have hl := h.lineage
  refine ⟨hholds.database, fun x hx => ?_, fun x hx hhas => ?_, fun id hloop => ?_, ?_⟩
  · obtain ⟨o, ho, hid⟩ := hholds.sound.owned x hx
    exact ⟨o, ho, hid, hl.tenant_eq x hx o ho hid⟩
  · rcases hholds.sound.shaped x hx with ⟨hroot, -⟩ | ⟨-, hparent, hdepth⟩
    · exact absurd (hhas.symm.trans hroot) (by decide)
    · obtain ⟨p, hp⟩ := Option.isSome_iff_exists.mp hparent
      have hpos : x.depth.toNat ≠ 0 := fun hzero => hdepth (UInt32.toNat_inj.mp hzero)
      refine ⟨p, hp, hl.parent_lt x hx p hp, Nat.pos_of_ne_zero hpos, ?_⟩
      rintro y hy rfl
      exact hl.parent_above x hx y hy hp
  · exact Int64.lt_irrefl (hl.lt_of_links hloop)
  · intro x hx p hp hgone calls s' hrun
    -- the number of the parent was given out before that of the sector
    have hle : p ≤ s.records.lastSector :=
      Int64.le_of_lt (Int64.lt_of_lt_of_le (hl.parent_lt x hx p hp)
        (hholds.sound.sectors_le x hx).2)
    exact (hrun.retired hholds ⟨hle, hgone⟩).2

open Records in
/-- A sector is left with the number of a parent that no sector will have. -/
theorem parents_in_order_orphaned : (orphaned.session "").Reachable ∧
    pole ∈ orphaned.sectors ∧ pole.parent = some 3 ∧
    ∀ calls s', (orphaned.session "").Run calls s' → ∀ y ∈ s'.records.sectors, y.id ≠ 3 := by
  have hreachable := reached_orphaned.reachable ""
  have hpole : pole ∈ orphaned.sectors := by decide
  have hgone : ∀ y ∈ orphaned.sectors, y.id ≠ 3 := by decide
  obtain ⟨-, -, -, -, hdangling⟩ := hreachable.parents_in_order
  rw [reached_orphaned.sound.records_session] at hdangling
  exact ⟨hreachable, hpole, rfl, hdangling pole hpole 3 rfl hgone⟩

end Session

end SectorForest
