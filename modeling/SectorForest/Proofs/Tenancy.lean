import SectorForest.Proofs.LifeCycle
import SectorForest.Proofs.Refusals

/-!
# The records of one tenant

`Records.within` leaves out the records of all other tenants. What the service answers to a tenant,
and what it makes of that tenant's records, can be told from these: `Records.plan_within` for calls
that change records and `Records.reply_within` for those that read them.

There is one exception. The codes of sectors are unique among all tenants, so that a sector may not
be let in for the sake of one that its tenant cannot see. `Records.Unclaimed` says that this does
not happen to a call: no other tenant has a sector with the code that the call gives to a new one.
The numbers of new records are common to all tenants, too, and are kept in `Records.within`.
-/

namespace SectorForest

open Storage

variable {α β : Type}

/-! ## Lists without some of their members -/

section Lists

variable {picked p : α → Bool} {xs : List α}

/-- Looking for members that are picked does not need the others. -/
theorem List.find?_filter_picked (h : ∀ x, p x = true → picked x = true) :
    (xs.filter picked).find? p = xs.find? p := by
  rw [List.find?_filter]
  congr 1
  funext x
  cases hx : p x with
  | false => simp
  | true => simp [h x hx]

theorem List.any_filter_picked (h : ∀ x ∈ xs, p x = true → picked x = true) :
    (xs.filter picked).any p = xs.any p := by
  rw [Bool.eq_iff_iff, List.any_eq_true, List.any_eq_true]
  refine exists_congr fun x => and_congr_left fun hx => ?_
  rw [List.mem_filter]
  exact and_iff_left_of_imp fun hmem => h x hmem hx

theorem List.countP_filter_picked (h : ∀ x, p x = true → picked x = true) :
    (xs.filter picked).countP p = xs.countP p := by
  rw [List.countP_filter]
  refine List.countP_congr fun x _ => ?_
  simpa using h x

/-- Changing members does not bring any in or out where being picked stays. -/
theorem List.filter_map_picked {change : α → α} (h : ∀ x, picked (change x) = picked x) :
    (xs.map change).filter picked = (xs.filter picked).map change := by
  rw [List.filter_map]
  congr 1
  exact List.filter_congr fun x _ => h x

end Lists

/-! ## Plans -/

/-- Two ways of going on agree where they do after every answer that there is. -/
theorem Except.bind_congr_ok {ε : Type} {x : Except ε α} {f g : α → Except ε β}
    (h : ∀ a, x = .ok a → f a = g a) : x >>= f = x >>= g := by
  cases x with
  | error e => rfl
  | ok a => exact h a rfl

theorem carryOut_map (f : α × Records → β × Records) (change : Except Fault (α × Records))
    (onError : StoreError → ServiceError) :
    carryOut (f <$> change) onError = f <$> carryOut change onError := by
  cases change <;> rfl

/-! ## What a table finds wrong -/

/-- What is wrong with a new organization does not depend on those of other tenants. -/
theorem Organization.fault?_filter (o : Organization) (others : List Organization) :
    o.fault? (others.filter (·.tenant == o.tenant)) = o.fault? others := by
  have hlabel : (others.filter (·.tenant == o.tenant)).any
      (fun x => o.tenant == x.tenant && o.label == x.label) =
        others.any fun x => o.tenant == x.tenant && o.label == x.label :=
    List.any_filter_picked (by simp +contextual)
  have hcode : (others.filter (·.tenant == o.tenant)).any
      (fun x => o.tenant == x.tenant && o.code == x.code) =
        others.any fun x => o.tenant == x.tenant && o.code == x.code :=
    List.any_filter_picked (by simp +contextual)
  simp only [fault?, hlabel, hcode]

/-- What is wrong with a new sector does not depend on those of other tenants, but for their
codes. -/
theorem Sector.fault?_filter {others : List Sector} {s : Sector}
    (hunclaimed : ∀ x ∈ others, x.tenant ≠ s.tenant → x.code ≠ s.code) :
    s.fault? (others.filter (·.tenant == s.tenant)) = s.fault? others := by
  have hlabel : (others.filter (·.tenant == s.tenant)).any
      (fun x => s.tenant == x.tenant && s.label == x.label) =
        others.any fun x => s.tenant == x.tenant && s.label == x.label :=
    List.any_filter_picked (by simp +contextual)
  have hcode : (others.filter (·.tenant == s.tenant)).any (fun x => s.code == x.code) =
      others.any fun x => s.code == x.code := by
    refine List.any_filter_picked fun x hx hsame => ?_
    rw [beq_iff_eq] at hsame ⊢
    by_contra htenant
    exact hunclaimed x hx htenant hsame.symm
  simp only [fault?, hlabel, hcode]

namespace Records

variable {r r' : Records} {tenant : TenantId} {newCode : String}

/-- The records of a tenant. The numbers given out so far are kept, whoever has got them. -/
def within (r : Records) (tenant : TenantId) : Records :=
  { r with
    organizations := r.organizations.filter (·.tenant == tenant)
    sectors := r.sectors.filter (·.tenant == tenant) }

/-- An answer, and the records of a tenant among those that come with it. -/
def confined (tenant : TenantId) (answer : α × Records) : α × Records :=
  (answer.1, answer.2.within tenant)

/-! ## What is found -/

section Found

variable (r tenant)

@[simp] theorem within_organization? (code : String) :
    (r.within tenant).organization? tenant code = r.organization? tenant code :=
  List.find?_filter_picked (by simp +contextual)

@[simp] theorem within_hasOrganizationCode (code : String) :
    (r.within tenant).hasOrganizationCode tenant code = r.hasOrganizationCode tenant code :=
  List.any_filter_picked (by simp +contextual)

@[simp] theorem within_hasOrganizationLabel (label : String) :
    (r.within tenant).hasOrganizationLabel tenant label = r.hasOrganizationLabel tenant label :=
  List.any_filter_picked (by simp +contextual)

@[simp] theorem within_organizationsOf :
    (r.within tenant).organizationsOf tenant = r.organizationsOf tenant := by
  simp [within, organizationsOf]

@[simp] theorem within_sector? (id : SectorId) :
    (r.within tenant).sector? tenant id = r.sector? tenant id :=
  List.find?_filter_picked (by simp +contextual)

@[simp] theorem within_sectorByCode? (code : String) :
    (r.within tenant).sectorByCode? tenant code = r.sectorByCode? tenant code :=
  List.find?_filter_picked (by simp +contextual)

@[simp] theorem within_sectorByLabel? (label : String) :
    (r.within tenant).sectorByLabel? tenant label = r.sectorByLabel? tenant label :=
  List.find?_filter_picked (by simp +contextual)

@[simp] theorem within_root? (org : OrganizationId) :
    (r.within tenant).root? tenant org = r.root? tenant org :=
  List.find?_filter_picked (by simp +contextual)

@[simp] theorem within_sectorsOf (org : OrganizationId) :
    (r.within tenant).sectorsOf tenant org = r.sectorsOf tenant org := by
  simp only [within, sectorsOf, List.filter_filter]
  refine List.filter_congr fun x _ => ?_
  cases x.tenant == tenant <;> simp

@[simp] theorem within_parentFor (org : OrganizationId) (code : Option String) :
    (r.within tenant).parentFor tenant org code = r.parentFor tenant org code := by
  simp only [parentFor, within_sectorByCode?, within_root?]

end Found

/-! ## What is changed -/

theorem Sound.within (hr : r.Sound) (hl : r.Lineage) : (r.within tenant).Sound where
  organizations_increasing := hr.organizations_increasing.filter _
  organizations_le o ho := hr.organizations_le o (List.mem_of_mem_filter ho)
  lastOrganization_nonneg := hr.lastOrganization_nonneg
  sectors_increasing := hr.sectors_increasing.filter _
  sectors_le s hs := hr.sectors_le s (List.mem_of_mem_filter hs)
  lastSector_nonneg := hr.lastSector_nonneg
  organization_codes := hr.organization_codes.filter _
  organization_labels := hr.organization_labels.filter _
  sector_codes := hr.sector_codes.filter _
  sector_labels := hr.sector_labels.filter _
  owned := by
    intro s hs
    obtain ⟨hmem, htenant⟩ := List.mem_filter.mp hs
    obtain ⟨o, ho, hid⟩ := hr.owned s hmem
    -- the owner of a sector belongs to the same tenant
    refine ⟨o, List.mem_filter.mpr ⟨ho, ?_⟩, hid⟩
    rwa [hl.tenant_eq s hmem o ho hid]
  shaped s hs := hr.shaped s (List.mem_of_mem_filter hs)

theorem within_addOrganization {o : NewOrganization} (htenant : o.tenant = tenant) :
    (r.addOrganization o).within tenant = (r.within tenant).addOrganization o := by
  have hnew : ((o.stored (r.lastOrganization + 1)).tenant == tenant) = true := by
    simp [NewOrganization.stored, htenant]
  simp [within, addOrganization, List.filter_append, hnew]

theorem within_addSector {s : NewSector} (htenant : s.tenant = tenant) :
    (r.addSector s).within tenant = (r.within tenant).addSector s := by
  have hnew : ((s.stored (r.lastSector + 1)).tenant == tenant) = true := by
    simp [NewSector.stored, htenant]
  simp [within, addSector, List.filter_append, hnew]

theorem within_relabelOrganization (code label : String) :
    (r.relabelOrganization tenant code label).within tenant =
      (r.within tenant).relabelOrganization tenant code label := by
  simp only [within, relabelOrganization]
  rw [List.filter_map_picked fun o => by split <;> rfl]

theorem within_relabelSector (id : SectorId) (label : String) :
    (r.relabelSector tenant id label).within tenant =
      (r.within tenant).relabelSector tenant id label := by
  simp only [within, relabelSector]
  rw [List.filter_map_picked fun s => by split <;> rfl]

theorem within_removeSectors (gone : Sector → Bool) :
    (r.removeSectors gone).within tenant = (r.within tenant).removeSectors gone := by
  simp only [within, removeSectors, List.filter_filter, Bool.and_comm]

theorem within_dissolve (o : Organization) :
    (r.dissolve o).within tenant = (r.within tenant).dissolve o := by
  simp only [within, dissolve, removeSectors, removeOrganization, List.filter_filter,
    Bool.and_comm]

/-! ## Changes that may be refused -/

theorem insertOrganization_within {o : NewOrganization} (htenant : o.tenant = tenant) :
    (r.within tenant).insertOrganization o = confined tenant <$> r.insertOrganization o := by
  subst htenant
  have hfault : (o.stored (r.lastOrganization + 1)).fault? (r.within o.tenant).organizations =
      (o.stored (r.lastOrganization + 1)).fault? r.organizations :=
    (o.stored (r.lastOrganization + 1)).fault?_filter r.organizations
  have hlast : (r.within o.tenant).lastOrganization = r.lastOrganization := rfl
  rw [insertOrganization, insertOrganization, hlast, hfault, ← within_addOrganization rfl]
  split
  · rfl
  · split <;> rfl

/-- A sector is let in or not for the records of its tenant alone, where no other tenant has its
code, and its owner is not that of another tenant. -/
theorem insertSector_within {s : NewSector} (htenant : s.tenant = tenant)
    (hunclaimed : ∀ x ∈ r.sectors, x.tenant ≠ tenant → x.code ≠ s.code)
    (howner : ∀ o ∈ r.organizations, o.id = s.org → o.tenant = tenant) :
    (r.within tenant).insertSector s = confined tenant <$> r.insertSector s := by
  subst htenant
  have hfault : (s.stored (r.lastSector + 1)).fault? (r.within s.tenant).sectors =
      (s.stored (r.lastSector + 1)).fault? r.sectors :=
    Sector.fault?_filter hunclaimed
  have howned : (r.within s.tenant).organizations.any (fun o => o.id == s.org) =
      r.organizations.any fun o => o.id == s.org :=
    List.any_filter_picked fun o ho hid => beq_iff_eq.mpr (howner o ho (beq_iff_eq.mp hid))
  have hlast : (r.within s.tenant).lastSector = r.lastSector := rfl
  rw [insertSector, insertSector, hlast, hfault, howned, ← within_addSector rfl]
  split
  · rfl
  · split
    · rfl
    · split <;> rfl

theorem renameOrganization_within (code label : String) :
    (r.within tenant).renameOrganization tenant code label =
      confined tenant <$> r.renameOrganization tenant code label := by
  have hclash : (r.within tenant).organizations.any
      (fun o => !(o.tenant == tenant && o.code == code) &&
        (tenant == o.tenant && label == o.label)) =
      r.organizations.any fun o => !(o.tenant == tenant && o.code == code) &&
        (tenant == o.tenant && label == o.label) :=
    List.any_filter_picked (by simp +contextual)
  simp only [renameOrganization, within_organization?, hclash, ← within_relabelOrganization]
  cases r.organization? tenant code with
  | none => rfl
  | some _ =>
    dsimp only
    split <;> rfl

theorem renameSector_within (id : SectorId) (label : String) :
    (r.within tenant).renameSector tenant id label =
      confined tenant <$> r.renameSector tenant id label := by
  have hclash : (r.within tenant).sectors.any
      (fun s => !(s.tenant == tenant && s.id == id) &&
        (tenant == s.tenant && label == s.label)) =
      r.sectors.any fun s => !(s.tenant == tenant && s.id == id) &&
        (tenant == s.tenant && label == s.label) :=
    List.any_filter_picked (by simp +contextual)
  simp only [renameSector, within_sector?, hclash, ← within_relabelSector]
  cases r.sector? tenant id with
  | none => rfl
  | some _ =>
    dsimp only
    split <;> rfl

theorem deleteSectors_within (id : SectorId) :
    (r.within tenant).deleteSectors (goesWith tenant id) =
      confined tenant <$> r.deleteSectors (goesWith tenant id) := by
  have hcount : (r.within tenant).sectors.countP (goesWith tenant id) =
      r.sectors.countP (goesWith tenant id) :=
    List.countP_filter_picked (by simp +contextual [goesWith])
  rw [deleteSectors, deleteSectors, hcount, ← within_removeSectors]
  rfl

/-! ## Calls -/

/-- Whether a new sector finds its place: its label is free, and its parent is there. -/
def places (r : Records) (tenant : TenantId) (org : OrganizationId) (label : String)
    (parentCode : Option String) : Bool :=
  match normalize .label label with
  | .ok label =>
    (r.sectorByLabel? tenant label).isNone && (r.parentFor tenant org parentCode).isOk
  | .error _ => false

/-- Whether a call takes a code for a new sector. -/
def takesCode (r : Records) : Mutation → Bool
  | .createSector tenant org label parentCode => r.places tenant org label parentCode
  | .createSectorIn tenant code draft =>
    (r.organization? tenant code).any fun o =>
      r.places tenant o.id draft.label draft.parentCode
  | _ => false

/-- The code that a new root gets: that of its organization, where this finds its place. -/
def rootCode? (r : Records) (tenant : TenantId) (draft : OrganizationDraft) : Option String :=
  match normalize .code draft.code, normalize .label draft.label with
  | .ok code, .ok label =>
    if r.hasOrganizationCode tenant code || r.hasOrganizationLabel tenant label then none
    else some code
  | _, _ => none

/-- The code that a call gives to a new sector. -/
def codeGiven? (r : Records) (newCode : String) : Mutation → Option String
  | .createOrganization tenant draft => r.rootCode? tenant draft
  | mutation => if r.takesCode mutation then some newCode else none

/-- No other tenant has a sector with the code that a call gives to a new one. -/
def Unclaimed (r : Records) (newCode : String) (mutation : Mutation) : Prop :=
  ∀ code, r.codeGiven? newCode mutation = some code →
    ∀ x ∈ r.sectors, x.tenant ≠ mutation.tenant → x.code ≠ code

theorem within_places (org : OrganizationId) (label : String) (parentCode : Option String) :
    (r.within tenant).places tenant org label parentCode =
      r.places tenant org label parentCode := by
  simp only [places, within_sectorByLabel?, within_parentFor]

theorem within_takesCode (mutation : Mutation) :
    (r.within mutation.tenant).takesCode mutation = r.takesCode mutation := by
  cases mutation <;> simp only [takesCode, Mutation.tenant, within_places, within_organization?]

theorem planSector_within (hl : r.Lineage) {org : OrganizationId} {label : String}
    {parentCode : Option String} {status : Status}
    (hunclaimed : r.places tenant org label parentCode = true →
      ∀ x ∈ r.sectors, x.tenant ≠ tenant → x.code ≠ newCode) :
    (r.within tenant).planSector newCode tenant org label parentCode status =
      confined tenant <$> r.planSector newCode tenant org label parentCode status := by
  simp only [planSector, within_sectorByLabel?, within_parentFor, map_bind]
  refine Except.bind_congr_ok fun text htext => Except.bind_congr_ok fun _ hfree => ?_
  refine Except.bind_congr_ok fun parent hparent => Except.bind_congr_ok fun child hchild => ?_
  have hplaces : r.places tenant org label parentCode = true := by
    have hnone := unlessTaken_eq_ok hfree
    rw [places, chosenText_eq_ok htext, hparent]
    simpa [Except.isOk, Except.toBool] using hnone
  obtain ⟨hmem, hsame, -⟩ := r.parentFor_eq_ok hparent
  obtain ⟨-, rfl⟩ := NewSector.childOf?_eq_some (childBelow_eq_ok hchild)
  -- the owner of the parent belongs to the tenant of the parent
  rw [insertSector_within hsame (hunclaimed hplaces) fun o ho hid =>
    (hl.tenant_eq parent hmem o ho hid).trans hsame, carryOut_map]

theorem planOrganization_within (hr : r.Sound) {draft : OrganizationDraft}
    (hunclaimed : ∀ code, r.rootCode? tenant draft = some code →
      ∀ x ∈ r.sectors, x.tenant ≠ tenant → x.code ≠ code) :
    (r.within tenant).planOrganization tenant draft =
      confined tenant <$> r.planOrganization tenant draft := by
  simp only [planOrganization, within_hasOrganizationCode, within_hasOrganizationLabel, map_bind]
  refine Except.bind_congr_ok fun code hcode => Except.bind_congr_ok fun label hlabel => ?_
  refine Except.bind_congr_ok fun _ hcodeFree => Except.bind_congr_ok fun _ hlabelFree => ?_
  have hroot : r.rootCode? tenant draft = some code := by
    simp [rootCode?, chosenText_eq_ok hcode, chosenText_eq_ok hlabel,
      unlessTaken_eq_ok hcodeFree, unlessTaken_eq_ok hlabelFree]
  have hadds : (r.within tenant).insertOrganization
      { tenant, code, label, kind := draft.kind, status := draft.status } = _ :=
    insertOrganization_within rfl
  rw [hadds, carryOut_map, bind_map_left]
  refine Except.bind_congr_ok ?_
  rintro ⟨org, added⟩ hadded
  obtain ⟨hroom, -, rfl, rfl⟩ := insertOrganization_eq_ok (carryOut_eq_ok hadded)
  -- the new number is the number of the new organization only
  have howner : ∀ o ∈ (r.addOrganization
      { tenant, code, label, kind := draft.kind, status := draft.status }).organizations,
      o.id = r.lastOrganization + 1 → o.tenant = tenant := by
    intro o ho hid
    rcases List.mem_append.mp ho with ho | ho
    · exact absurd hid (hr.organization_id_ne_next hroom o ho)
    · rw [List.mem_singleton.mp ho]
      rfl
  have hroots : (confined tenant (r.lastOrganization + 1, r.addOrganization _)).2.insertSector
      (NewSector.root tenant (r.lastOrganization + 1) code label) = _ :=
    insertSector_within rfl (hunclaimed code hroot) howner
  dsimp only [confined] at hroots ⊢
  rw [hroots, carryOut_map, bind_map_left]
  rfl

/-- What a call comes to for its tenant is told by the records of that tenant. -/
theorem plan_within (hr : r.Sound) (hl : r.Lineage) {mutation : Mutation}
    (hunclaimed : r.Unclaimed newCode mutation) :
    (r.within mutation.tenant).plan newCode mutation =
      confined mutation.tenant <$> r.plan newCode mutation := by
  cases mutation with
  | createOrganization tenant draft => exact planOrganization_within hr hunclaimed
  | createSector tenant org label parentCode =>
    exact planSector_within hl fun hplaces => hunclaimed _ (if_pos hplaces)
  | createSectorIn tenant code draft =>
    simp only [plan, planSectorIn, Mutation.tenant, within_organization?, map_bind]
    refine Except.bind_congr_ok fun o ho => ?_
    have hunclaimed' : r.places tenant o.id draft.label draft.parentCode = true →
        ∀ x ∈ r.sectors, x.tenant ≠ tenant → x.code ≠ newCode := by
      intro hplaces
      refine hunclaimed _ (if_pos ?_)
      rw [takesCode, need_eq_ok ho]
      exact hplaces
    rw [planSector_within hl hunclaimed', bind_map_left]
    simp only [confined, within_sector?]
    rfl
  | renameSector tenant id label =>
    simp only [plan, planRenameSector, Mutation.tenant, within_sector?, within_sectorByLabel?,
      renameSector_within, carryOut_map, map_bind, bind_map_left]
    rfl
  | deleteSector tenant id =>
    simp only [plan, planDeleteSector, Mutation.tenant, within_sector?, deleteSectors_within,
      carryOut_map, map_bind]
  | renameOrganization tenant code label =>
    simp only [plan, planRenameOrganization, Mutation.tenant, within_organization?,
      within_hasOrganizationLabel, renameOrganization_within, carryOut_map, map_bind]
    refine Except.bind_congr_ok fun text _ => Except.bind_congr_ok fun o _ => ?_
    split
    · rfl
    · simp only [map_bind, bind_map_left]
      rfl
  | deleteOrganization tenant code =>
    cases ho : r.organization? tenant code with
    | none =>
      simp only [plan, planDeleteOrganization, Mutation.tenant, within_organization?, ho]
      rfl
    | some o =>
      have hwithin := (within_organization? r tenant code).trans ho
      rw [hr.plan_deleteOrganization ho, Mutation.tenant,
        (hr.within hl).plan_deleteOrganization hwithin, ← within_dissolve]
      rfl

end Records

/-- The tenant that a query is made for. -/
def Query.tenant : Query → TenantId
  | .findOrganization tenant _ => tenant
  | .listOrganizations tenant => tenant
  | .findSector tenant _ => tenant
  | .findSectorByCode tenant _ => tenant
  | .findRoot tenant _ => tenant
  | .listSectors tenant _ => tenant
  | .sectorTree tenant _ => tenant

/-- What a tenant is answered is told by the records of that tenant. -/
theorem Records.reply_within (r : Records) (query : Query) :
    (r.within query.tenant).reply query = r.reply query := by
  cases query <;> simp only [reply, Query.tenant, within_organization?, within_organizationsOf,
    within_sector?, within_sectorByCode?, within_root?, within_sectorsOf]

end SectorForest
