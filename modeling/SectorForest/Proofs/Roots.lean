import SectorForest.Proofs.View

/-!
# The life of a root

An organization is created together with its root. From then on the root stays, with the code that
the organization has, until it is deleted or the organization is; once it is deleted, the
organization never gets another. `Records.Stage` tells, from the calls since then, in which of these
three stages an organization is, and `Session.Reachable.root_until_deleted` what that means to those
who ask.
-/

namespace SectorForest

namespace Call

/-- The call has deleted the sector with a number. -/
def DeletesSector (c : Call) (id : SectorId) : Prop :=
  ∃ tenant count, c = ⟨.deleteSector tenant id, .ok count⟩

/-- The call has deleted the organization with a code. -/
def DeletesOrganization (c : Call) (tenant : TenantId) (code : String) : Prop :=
  c = ⟨.deleteOrganization tenant code, .ok ()⟩

variable {mutation : Mutation} {a : mutation.Answer} {failure : Failure} {id : SectorId}
  {tenant : TenantId} {code : String}

theorem deletesSector_ok : DeletesSector ⟨mutation, .ok a⟩ id ↔
    ∃ tenant, mutation = .deleteSector tenant id := by
  constructor
  · rintro ⟨tenant, count, h⟩
    cases h
    exact ⟨tenant, rfl⟩
  · rintro ⟨tenant, rfl⟩
    exact ⟨tenant, a, rfl⟩

theorem deletesOrganization_ok : DeletesOrganization ⟨mutation, .ok a⟩ tenant code ↔
    mutation = .deleteOrganization tenant code := by
  constructor
  · intro h
    cases h
    rfl
  · rintro rfl
    rfl

theorem not_deletesSector_error : ¬ DeletesSector ⟨mutation, .error failure⟩ id := by
  rintro ⟨tenant, count, h⟩
  cases h

theorem not_deletesOrganization_error :
    ¬ DeletesOrganization ⟨mutation, .error failure⟩ tenant code := by
  intro h
  cases h

end Call

namespace Records

variable {r r' : Records} {newCode : String} {o : Organization}

/-! ## Which sectors are roots -/

/-- The sector with a number is the root of an organization. -/
def HasRoot (r : Records) (o : Organization) (id : SectorId) : Prop :=
  ∃ x, r.IsRoot o x ∧ x.id = id

theorem hasRoot_congr (h : r'.sectors = r.sectors) {id : SectorId} :
    r'.HasRoot o id ↔ r.HasRoot o id := by
  constructor
  · rintro ⟨x, ⟨hx, horg, hroot⟩, hid⟩
    exact ⟨x, ⟨h ▸ hx, horg, hroot⟩, hid⟩
  · rintro ⟨x, ⟨hx, horg, hroot⟩, hid⟩
    exact ⟨x, ⟨h ▸ hx, horg, hroot⟩, hid⟩

@[simp] theorem hasRoot_addOrganization {new : NewOrganization} {id : SectorId} :
    (r.addOrganization new).HasRoot o id ↔ r.HasRoot o id :=
  hasRoot_congr (by rfl)

@[simp] theorem hasRoot_relabelOrganization {tenant : TenantId} {code label : String}
    {id : SectorId} : (r.relabelOrganization tenant code label).HasRoot o id ↔ r.HasRoot o id :=
  hasRoot_congr (by rfl)

@[simp] theorem hasRoot_removeOrganization {tenant : TenantId} {code : String} {id : SectorId} :
    (r.removeOrganization tenant code).HasRoot o id ↔ r.HasRoot o id :=
  hasRoot_congr (by rfl)

/-- A new sector with a parent, or of another organization, is not a root. -/
theorem hasRoot_addSector {child : NewSector} (h : child.hasParent = true ∨ child.org ≠ o.id)
    {id : SectorId} : (r.addSector child).HasRoot o id ↔ r.HasRoot o id := by
  constructor
  · rintro ⟨x, ⟨hx, horg, hroot⟩, hid⟩
    rcases List.mem_append.mp hx with hx | hx
    · exact ⟨x, ⟨hx, horg, hroot⟩, hid⟩
    · rw [List.mem_singleton.mp hx] at horg hroot
      rcases h with h | h
      · exact absurd (h.symm.trans hroot) (by decide)
      · exact absurd horg h
  · rintro ⟨x, ⟨hx, horg, hroot⟩, hid⟩
    exact ⟨x, ⟨List.mem_append_left _ hx, horg, hroot⟩, hid⟩

@[simp] theorem hasRoot_relabelSector {tenant : TenantId} {label : String} {id id' : SectorId} :
    (r.relabelSector tenant id' label).HasRoot o id ↔ r.HasRoot o id := by
  constructor
  · rintro ⟨x, ⟨hx, horg, hroot⟩, hid⟩
    obtain ⟨y, hy, rfl⟩ := List.mem_map.mp hx
    refine ⟨y, ⟨hy, ?_, ?_⟩, ?_⟩
    · split at horg <;> exact horg
    · split at hroot <;> exact hroot
    · split at hid <;> exact hid
  · rintro ⟨x, ⟨hx, horg, hroot⟩, hid⟩
    refine ⟨_, ⟨List.mem_map_of_mem hx, ?_, ?_⟩, ?_⟩
    · split <;> exact horg
    · split <;> exact hroot
    · split <;> exact hid

theorem hasRoot_removeSectors {gone : Sector → Bool} {id : SectorId} :
    (r.removeSectors gone).HasRoot o id ↔ ∃ x, r.IsRoot o x ∧ x.id = id ∧ gone x = false := by
  constructor
  · rintro ⟨x, ⟨hx, horg, hroot⟩, hid⟩
    obtain ⟨hx, hkept⟩ := List.mem_filter.mp hx
    exact ⟨x, ⟨hx, horg, hroot⟩, hid, by simpa using hkept⟩
  · rintro ⟨x, ⟨hx, horg, hroot⟩, hid, hkept⟩
    exact ⟨x, ⟨List.mem_filter.mpr ⟨hx, by rw [hkept]; rfl⟩, horg, hroot⟩, hid⟩

/-- As long as an organization is not deleted, its root is whatever was its root before, unless
that is deleted. -/
theorem Effect.hasRoot_iff {mutation : Mutation} {a : mutation.Answer}
    (h : r.Effect newCode mutation a r') (hr : r.Sound) (ho : r.Stores o)
    (hkeep : mutation ≠ .deleteOrganization o.tenant o.code) (id : SectorId) :
    r'.HasRoot o id ↔ r.HasRoot o id ∧ ¬ ∃ tenant, mutation = .deleteSector tenant id := by
  cases h with
  | @createOrganization tenant draft code label _ _ hfounds =>
    obtain ⟨y, hy, hid, -, -⟩ := ho
    have hother : r.lastOrganization + 1 ≠ o.id :=
      hid ▸ (hr.organization_id_ne_next hfounds.organization_room y hy).symm
    have hadded : (r.found (draft.named tenant code label)).HasRoot o id ↔ r.HasRoot o id :=
      (hasRoot_addSector (.inr hother)).trans hasRoot_addOrganization
    simpa using hadded
  | createSector hgrows => simpa using hasRoot_addSector (.inl hgrows.fields.2.2.2.2.1)
  | createSectorIn _ hgrows => simpa using hasRoot_addSector (.inl hgrows.fields.2.2.2.2.1)
  | renameSector _ _ _ => simp
  | @deleteSector tenant gone x hx =>
    obtain ⟨hmem, rfl, rfl⟩ := sector?_eq_some hx
    rw [hasRoot_removeSectors]
    constructor
    · rintro ⟨y, hroot, rfl, hkept⟩
      refine ⟨⟨y, hroot, rfl⟩, ?_⟩
      rintro ⟨_, heq⟩
      obtain ⟨-, hid⟩ := Mutation.deleteSector.inj heq
      rw [← distinctBy_number hr.sectors_increasing x hmem y hroot.mem hid] at hkept
      simp [goesWith] at hkept
    · rintro ⟨⟨y, hroot, rfl⟩, hother⟩
      refine ⟨y, hroot, rfl, ?_⟩
      rw [Bool.eq_false_iff, ne_eq, goesWith_iff, hroot.parent_eq hr]
      rintro ⟨-, hid | hparent⟩
      · exact hother ⟨_, by rw [hid]⟩
      · cases hparent
  | keepLabel _ _ => simp
  | renameOrganization _ _ _ => simp
  | @deleteOrganization tenant code x hx =>
    -- the sectors that go are those of another organization
    have hother : ∀ y, r.IsRoot o y → (y.org == x.id) = false := by
      intro y hroot
      refine beq_false_of_ne fun horg => hkeep ?_
      obtain ⟨htenant, hcode⟩ := ho.key_eq hr hx (horg.symm.trans hroot.org_eq)
      rw [htenant, hcode]
    have hremoved : (r.dissolve x).HasRoot o id ↔
        ∃ y, r.IsRoot o y ∧ y.id = id ∧ (y.org == x.id) = false :=
      hasRoot_removeOrganization.trans hasRoot_removeSectors
    rw [hremoved]
    constructor
    · rintro ⟨y, hroot, hid, -⟩
      exact ⟨⟨y, hroot, hid⟩, by simp⟩
    · rintro ⟨⟨y, hroot, hid⟩, -⟩
      exact ⟨y, hroot, hid, hother y hroot⟩

/-! ## Stages -/

/-- The stages in the life of an organization that was created with a root, after the calls since
then. -/
inductive Stage (o : Organization) (root : SectorId) (calls : List Call) (r : Records) : Prop
  /-- Neither the organization nor its root has been deleted. -/
  | rooted (hkept : ∀ c ∈ calls, ¬ c.DeletesSector root)
    (hlasting : ∀ c ∈ calls, ¬ c.DeletesOrganization o.tenant o.code) (ho : r.Stores o)
    (hroot : r.HasRoot o root)
  /-- The root has been deleted. -/
  | uprooted (hdeleted : ∃ c ∈ calls, c.DeletesSector root)
    (hlasting : ∀ c ∈ calls, ¬ c.DeletesOrganization o.tenant o.code) (ho : r.Stores o)
    (hnone : ∀ id, ¬ r.HasRoot o id)
  /-- The organization has been deleted. -/
  | dissolved (hdeleted : ∃ c ∈ calls, c.DeletesOrganization o.tenant o.code)
    (hgone : r.Dissolved o.id)

variable {root : SectorId} {calls : List Call}

/-- An organization has one root at most. -/
theorem HasRoot.eq {id id' : SectorId} (h : r.HasRoot o id) (h' : r.HasRoot o id')
    (hl : r.Lineage) : id = id' := by
  obtain ⟨x, hx, rfl⟩ := h
  obtain ⟨y, hy, rfl⟩ := h'
  rw [hx.eq hy hl]

theorem forall_mem_calls {P : Call → Prop} {c : Call} :
    (∀ d ∈ calls ++ [c], ¬ P d) ↔ (∀ d ∈ calls, ¬ P d) ∧ ¬ P c := by
  simp [or_imp, forall_and]

theorem exists_mem_calls {P : Call → Prop} {c : Call} :
    (∃ d ∈ calls ++ [c], P d) ↔ (∃ d ∈ calls, P d) ∨ P c := by
  simp [or_and_right, exists_or]

/-- A call that fails is not the end of a stage. -/
theorem Stage.refused (h : Stage o root calls r) (mutation : Mutation) (failure : Failure) :
    Stage o root (calls ++ [⟨mutation, .error failure⟩]) r := by
  cases h with
  | rooted hkept hlasting ho hroot =>
    exact .rooted (forall_mem_calls.mpr ⟨hkept, Call.not_deletesSector_error⟩)
      (forall_mem_calls.mpr ⟨hlasting, Call.not_deletesOrganization_error⟩) ho hroot
  | uprooted hdeleted hlasting ho hnone =>
    exact .uprooted (exists_mem_calls.mpr (.inl hdeleted))
      (forall_mem_calls.mpr ⟨hlasting, Call.not_deletesOrganization_error⟩) ho hnone
  | dissolved hdeleted hgone => exact .dissolved (exists_mem_calls.mpr (.inl hdeleted)) hgone

/-- A call that succeeds ends a stage exactly if it deletes the root or the organization. -/
theorem Stage.step (h : Stage o root calls r) (hr : r.Sound) (hl : r.Lineage)
    {mutation : Mutation} {a : mutation.Answer} (heffect : r.Effect newCode mutation a r') :
    Stage o root (calls ++ [⟨mutation, .ok a⟩]) r' := by
  have hended (ho : r.Stores o) (hdelete : mutation = .deleteOrganization o.tenant o.code) :
      Stage o root (calls ++ [⟨mutation, .ok a⟩]) r' :=
    .dissolved (exists_mem_calls.mpr (.inr (Call.deletesOrganization_ok.mpr hdelete)))
      (heffect.dissolves hr ho hdelete)
  have hlasts (hlasting : ∀ c ∈ calls, ¬ c.DeletesOrganization o.tenant o.code)
      (hkeep : mutation ≠ .deleteOrganization o.tenant o.code) :
      ∀ c ∈ calls ++ [⟨mutation, .ok a⟩], ¬ c.DeletesOrganization o.tenant o.code :=
    forall_mem_calls.mpr ⟨hlasting, mt Call.deletesOrganization_ok.mp hkeep⟩
  cases h with
  | rooted hkept hlasting ho hroot =>
    by_cases hdelete : mutation = .deleteOrganization o.tenant o.code
    · exact hended ho hdelete
    have hiff := heffect.hasRoot_iff hr ho hdelete
    have ho' := heffect.stores ho hdelete
    by_cases hgone : ∃ tenant, mutation = .deleteSector tenant root
    · have hdeleted : ∃ c ∈ calls ++ [⟨mutation, .ok a⟩], c.DeletesSector root :=
        exists_mem_calls.mpr (.inr (Call.deletesSector_ok.mpr hgone))
      refine .uprooted hdeleted (hlasts hlasting hdelete) ho' fun id hid => ?_
      -- it could only be the root that was there before
      obtain ⟨hid, hother⟩ := (hiff id).mp hid
      exact hother (hid.eq hroot hl ▸ hgone)
    · have hkept' : ∀ c ∈ calls ++ [⟨mutation, .ok a⟩], ¬ c.DeletesSector root :=
        forall_mem_calls.mpr ⟨hkept, mt Call.deletesSector_ok.mp hgone⟩
      exact .rooted hkept' (hlasts hlasting hdelete) ho' ((hiff root).mpr ⟨hroot, hgone⟩)
  | uprooted hdeleted hlasting ho hnone =>
    by_cases hdelete : mutation = .deleteOrganization o.tenant o.code
    · exact hended ho hdelete
    have hiff := heffect.hasRoot_iff hr ho hdelete
    exact .uprooted (exists_mem_calls.mpr (.inl hdeleted)) (hlasts hlasting hdelete)
      (heffect.stores ho hdelete) fun id hid => hnone id ((hiff id).mp hid).1
  | dissolved hdeleted hgone =>
    exact .dissolved (exists_mem_calls.mpr (.inl hdeleted)) (heffect.dissolved hgone)

/-- An organization that has just been created stands on its root. -/
theorem stage_found (new : NewOrganization) :
    Stage (new.stored (r.lastOrganization + 1)) (r.lastSector + 1) [] (r.found new) := by
  have horganization : new.stored (r.lastOrganization + 1) ∈ (r.found new).organizations :=
    mem_addOrganization
  have hsector : (NewSector.root new.tenant (r.lastOrganization + 1) new.code new.label).stored
      (r.lastSector + 1) ∈ (r.found new).sectors :=
    mem_addSector
  exact .rooted (by simp) (by simp) (stores_of_mem horganization) ⟨_, ⟨hsector, rfl, rfl⟩, rfl⟩

/-! ## The root of an organization -/

/-- The one sector of an organization that has no parent. -/
structure SoleRoot (r : Records) (tenant : TenantId) (org : OrganizationId) (code : String)
    (x : Sector) : Prop where
  mem : x ∈ r.sectors
  tenant_eq : x.tenant = tenant
  org_eq : x.org = org
  code_eq : x.code = code
  hasParent_eq : x.hasParent = false
  parent_eq : x.parent = none
  depth_eq : x.depth = 0
  status_eq : x.status = .active
  only : ∀ y ∈ r.sectors, y.org = org → y.hasParent = false → y = x

theorem HasRoot.soleRoot (h : r.HasRoot o root) (hr : r.Sound) (hl : r.Lineage) (ho : r.Stores o) :
    ∃ x, r.SoleRoot o.tenant o.id o.code x ∧ x.id = root := by
  obtain ⟨x, hroot, hid⟩ := h
  obtain ⟨y, hy, hid', htenant, hcode⟩ := ho
  have howner : y.id = x.org := hid'.trans hroot.org_eq.symm
  obtain ⟨hstatus, hsame⟩ := hl.root_like x hroot.mem hroot.hasParent_eq
  refine ⟨x, ?_, hid⟩
  exact {
    mem := hroot.mem
    tenant_eq := (hl.tenant_eq x hroot.mem y hy howner).symm.trans htenant
    org_eq := hroot.org_eq
    code_eq := (hsame y hy howner).symm.trans hcode
    hasParent_eq := hroot.hasParent_eq
    parent_eq := hroot.parent_eq hr
    depth_eq := hroot.depth_eq hr
    status_eq := hstatus
    only := fun z hz horg hnone => (IsRoot.mk hz horg hnone).eq hroot hl }

theorem isRoot_of_hasRoot_none (hnone : ∀ id, ¬ r.HasRoot o id) (x : Sector) : ¬ r.IsRoot o x :=
  fun hroot => hnone x.id ⟨x, hroot, rfl⟩

end Records

/-- A code names no parent if there is none or it is blank. -/
theorem parentCode?_eq_none {parentCode : Option String} :
    parentCode? parentCode = none ↔ ∀ code ∈ parentCode, (Text.trim code).isEmpty = true := by
  cases parentCode <;> simp [parentCode?, Option.filter]

namespace Session

open Records

variable {s s' : Session} {r : Records} {o : Organization} {root : SectorId} {calls : List Call}

/-- The stages follow each other along a run. -/
theorem Run.stage (hrun : s.Run calls s') (hholds : s.Holds r) (hl : r.Lineage)
    (h : Stage o root [] r) : ∃ r', s'.Holds r' ∧ r'.Lineage ∧ Stage o root calls r' := by
  refine hrun.records_induction (P := fun calls r => r.Lineage ∧ Stage o root calls r) hholds
    ⟨hl, h⟩ ?_ ?_
  · exact fun _ _ mutation failure ⟨hl, h⟩ => ⟨hl, h.refused mutation failure⟩
  · exact fun _ _ _ _ _ _ hr ⟨hl, h⟩ heffect => ⟨heffect.lineage hr hl, h.step hr hl heffect⟩

/-- Without a root there is no parent for a sector that names none, and looking for it is all that
is done. -/
theorem Holds.run_addSector_rootless (h : s.Holds r) {tenant : TenantId} {org : OrganizationId}
    {label text : String} {parentCode : Option String} (status : Status)
    (hroot : r.root? tenant org = none) (hparent : parentCode? parentCode = none)
    (hlabel : normalize .label label = .ok text) (hfree : r.sectorByLabel? tenant text = none) :
    s.run (backend.addSector tenant org label parentCode status) =
      (.error (.refused (.notFound .rootSector (toString org.toInt))), s) := by
  have howner := SectorRequest.answer_findByLabel h.database tenant text
  have hfind := SectorRequest.answer_findRoot h.database h.sound.readable tenant org
  rw [hfree] at howner
  rw [hroot] at hfind
  have hparentSought : s.run (backend.findParent tenant org parentCode) =
      (.error (.refused (.notFound .rootSector (toString org.toInt))), s) := by
    rw [Backend.findParent, hparent, Backend.findRoot, run_bind_ok (run_askSectors_ok hfind)]
    rfl
  rw [Backend.addSector, Backend.normalized, hlabel, pure_bind,
    run_bind_ok (run_askSectors_ok howner)]
  exact run_bind_error hparentSought _

/-- The service tells that an organization is without a root: there is no tree, and a sector that
names no parent cannot be created. -/
structure Rootless (s : Session) (tenant : TenantId) (org : OrganizationId) (code : String) :
    Prop where
  all_below : ∀ x ∈ s.records.sectors, x.org = org → x.hasParent = true
  no_tree : (s.run (backend.sectorTree tenant code)).1 = .error (.refused .rootNotFound)
  no_parent : ∀ label text parentCode, (∀ parent ∈ parentCode, (Text.trim parent).isEmpty = true) →
    normalize .label label = .ok text →
    (∀ x ∈ s.records.sectors, x.tenant = tenant → x.label ≠ text) →
    (s.call (.createSector tenant org label parentCode)).1 =
      .error (.refused (.notFound .rootSector (toString org.toInt)))

theorem Holds.rootless (h : s.Holds r) (hl : r.Lineage) (ho : r.Stores o)
    (hnone : ∀ id, ¬ r.HasRoot o id) : s.Rootless o.tenant o.id o.code := by
  have hroot := isRoot_of_hasRoot_none hnone
  have hbelow : ∀ x ∈ r.sectors, x.org = o.id → x.hasParent = true := fun x hx horg =>
    Bool.of_not_eq_false fun hroot' => hroot x ⟨hx, horg, hroot'⟩
  constructor
  case all_below => rwa [h.records]
  case no_tree =>
    obtain ⟨y, hy, hid, htenant, hcode⟩ := ho
    have hnone' : ∀ x, ¬ r.IsRoot y x :=
      fun x hx => hroot x ⟨hx.mem, hx.org_eq.trans hid, hx.hasParent_eq⟩
    rw [← htenant, ← hcode, h.run_sectorTree hy, Records.treeOf,
      (build?_sectorsOf_eq_none h.sound hl hy).mpr hnone']
  case no_parent =>
    intro label text parentCode hparent hlabel hfree
    rw [h.records] at hfree
    have hrun := h.run_addSector_rootless .active
      (root?_eq_none.mpr fun x hx _ horg => hbelow x hx horg) (parentCode?_eq_none.mpr hparent)
      hlabel (sectorByLabel?_eq_none.mpr hfree)
    rw [Session.call, Mutation.perform, Backend.createSector, run_reported, reporting_fst, hrun]

/-- From its creation on, an organization stands on one root, which keeps its number and has the
code of the organization, until the root is deleted or the organization is. After its root an
organization is without one for as long as it is stored, and its number is not used again. -/
theorem Reachable.root_until_deleted (h : s.Reachable) {tenant : TenantId}
    {draft : OrganizationDraft} {org : OrganizationId}
    (hcall : s.call (.createOrganization tenant draft) = (.ok org, s')) :
    ∃ code root, normalize .code draft.code = .ok code ∧ ∀ calls s'', s'.Run calls s'' →
      ((∀ c ∈ calls, ¬ c.DeletesOrganization tenant code) →
        ∃ o ∈ s''.records.organizations, o.id = org ∧ o.tenant = tenant ∧ o.code = code) ∧
      ((∀ c ∈ calls, ¬ c.DeletesOrganization tenant code) →
        (∀ c ∈ calls, ¬ c.DeletesSector root) →
        ∃ x, s''.records.SoleRoot tenant org code x ∧ x.id = root) ∧
      ((∀ c ∈ calls, ¬ c.DeletesOrganization tenant code) →
        (∃ c ∈ calls, c.DeletesSector root) → s''.Rootless tenant org code) ∧
      ((∃ c ∈ calls, c.DeletesOrganization tenant code) →
        (∀ o ∈ s''.records.organizations, o.id ≠ org) ∧
          ∀ x ∈ s''.records.sectors, x.org ≠ org) := by
  obtain ⟨r, heffect, h'⟩ := h.holds.call_ok hcall
  have hl := heffect.lineage h.holds.sound h.lineage
  cases heffect with
  | @createOrganization _ _ code label hcode _ hfounds =>
    refine ⟨code, s.records.lastSector + 1, hcode, fun calls s'' hrun => ?_⟩
    obtain ⟨r', hholds, hl', hstage⟩ :=
      hrun.stage h' hl (stage_found (draft.named tenant code label))
    rw [hholds.records]
    cases hstage with
    | rooted hkept hlasting ho hroot =>
      refine ⟨fun _ => ho, fun _ _ => hroot.soleRoot hholds.sound hl' ho, ?_, ?_⟩
      · exact fun _ ⟨c, hc, hdeletes⟩ => absurd hdeletes (hkept c hc)
      · exact fun ⟨c, hc, hdeletes⟩ => absurd hdeletes (hlasting c hc)
    | uprooted hdeleted hlasting ho hnone =>
      refine ⟨fun _ => ho, ?_, fun _ _ => hholds.rootless hl' ho hnone, ?_⟩
      · obtain ⟨c, hc, hdeletes⟩ := hdeleted
        exact fun _ hkept => absurd hdeletes (hkept c hc)
      · exact fun ⟨c, hc, hdeletes⟩ => absurd hdeletes (hlasting c hc)
    | dissolved hdeleted hgone =>
      obtain ⟨c, hc, hdeletes⟩ := hdeleted
      refine ⟨fun hlasting => absurd hdeletes (hlasting c hc),
        fun hlasting => absurd hdeletes (hlasting c hc),
        fun hlasting => absurd hdeletes (hlasting c hc), fun _ => ⟨hgone.2, fun x hx horg => ?_⟩⟩
      obtain ⟨y, hy, hid⟩ := hholds.sound.owned x hx
      exact hgone.2 y hy (hid.trans horg)

/-- An organization is created and loses its root. -/
theorem root_until_deleted_founded : (session {} "").Reachable ∧
    founded.SoleRoot 1 1 "acme" acmeRoot ∧
    ((founded.session "").call (.deleteSector 1 1)).2.Rootless 1 1 "acme" := by
  have hreachable := reached_empty.reachable ""
  have hplan : founded.plan "" (.deleteSector 1 1) = .ok (1, ofAcme [] 1) := rfl
  obtain ⟨hcreated, hfounded⟩ := sound_empty.call_session plan_founded
  obtain ⟨hdeleted, -⟩ := hfounded.sound.call_session hplan
  obtain ⟨code, root, hcode, hlife⟩ := hreachable.root_until_deleted (Prod.ext hcreated rfl)
  have hnormal : normalize .code "acme" = .ok "acme" := rfl
  obtain rfl : "acme" = code := Except.ok.inj (hnormal.symm.trans hcode)
  -- from here on the session is one that stores the same records
  have hrun : Run _ [] (founded.session "") :=
    .meanwhile .start hfounded.database.symm hfounded.idle.symm
  obtain ⟨-, hroot, -⟩ := hlife [] _ hrun
  obtain ⟨x, hx, hid⟩ := hroot (by simp) (by simp)
  rw [hfounded.sound.records_session] at hx
  obtain rfl : x = acmeRoot := List.mem_singleton.mp hx.mem
  obtain rfl : root = 1 := hid.symm
  obtain ⟨-, -, hrootless, -⟩ := hlife _ _ (hrun.call (.deleteSector 1 1))
  refine ⟨hreachable, hx, hrootless ?_ ?_⟩
  · rw [hdeleted]
    simp [Call.DeletesOrganization]
  · rw [hdeleted]
    exact ⟨_, List.mem_singleton_self _, 1, 1, rfl⟩

end Session

end SectorForest
