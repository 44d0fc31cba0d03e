import SectorForest.Proofs.Perform

/-!
# What a call does

`Records.Effect` lists, one constructor for each way in which a call succeeds, what is known of the
records when it does, what it answers and what it makes of them. A call that fails changes nothing:
`Session.Holds.call`. Every invariant of the service is shown by going through the constructors.
-/

namespace SectorForest

open Storage

/-- The organization that a draft becomes under a code and a label in their normal form. -/
def OrganizationDraft.named (draft : OrganizationDraft) (tenant : TenantId) (code label : String) :
    NewOrganization where
  tenant := tenant
  code := code
  label := label
  kind := draft.kind
  status := draft.status

namespace Records

/-- A sector may be added below `parent`: what the service and the tables have looked at when they
let it in. -/
structure Grows (r : Records) (newCode : String) (tenant : TenantId) (org : OrganizationId)
    (label : String) (parentCode : Option String) (status : Status) (parent : Sector)
    (child : NewSector) : Prop where
  label_eq : normalize .label label = .ok child.label
  parentFor_eq : r.parentFor tenant org parentCode = .ok parent
  depth_lt : parent.depth.toNat + 1 < UInt32.size
  child_eq : child = {
    tenant, org
    code := newCode
    label := child.label
    parent := some parent.id
    hasParent := true
    depth := parent.depth + 1
    status }
  room : r.lastSector ≠ Int64.maxValue
  code_free : ∀ x ∈ r.sectors, x.code ≠ newCode
  label_free : ∀ x ∈ r.sectors, x.tenant = tenant → x.label ≠ child.label

/-- An organization and its root may be added. -/
structure Founds (r : Records) (o : NewOrganization) : Prop where
  organization_room : r.lastOrganization ≠ Int64.maxValue
  sector_room : r.lastSector ≠ Int64.maxValue
  organization_code_free : ∀ x ∈ r.organizations, x.tenant = o.tenant → x.code ≠ o.code
  organization_label_free : ∀ x ∈ r.organizations, x.tenant = o.tenant → x.label ≠ o.label
  sector_code_free : ∀ x ∈ r.sectors, x.code ≠ o.code
  sector_label_free : ∀ x ∈ r.sectors, x.tenant = o.tenant → x.label ≠ o.label

/-- The records with one more organization and its root. -/
def found (r : Records) (o : NewOrganization) : Records :=
  (r.addOrganization o).addSector
    (NewSector.root o.tenant (r.lastOrganization + 1) o.code o.label)

/-- The records without an organization and its sectors. -/
def dissolve (r : Records) (o : Organization) : Records :=
  (r.removeSectors fun s => s.org == o.id).removeOrganization o.tenant o.code

/-- What a call that succeeds finds, answers and leaves behind. -/
inductive Effect (r : Records) (newCode : String) :
    (mutation : Mutation) → mutation.Answer → Records → Prop
  | createOrganization {tenant : TenantId} {draft : OrganizationDraft} {code label : String}
    (hcode : normalize .code draft.code = .ok code)
    (hlabel : normalize .label draft.label = .ok label)
    (hfounds : r.Founds (draft.named tenant code label)) :
    Effect r newCode (.createOrganization tenant draft) (r.lastOrganization + 1)
      (r.found (draft.named tenant code label))
  | createSector {tenant : TenantId} {org : OrganizationId} {label : String}
    {parentCode : Option String} {parent : Sector} {child : NewSector}
    (hgrows : r.Grows newCode tenant org label parentCode .active parent child) :
    Effect r newCode (.createSector tenant org label parentCode) (r.lastSector + 1)
      (r.addSector child)
  | createSectorIn {tenant : TenantId} {code : String} {draft : SectorDraft} {o : Organization}
    {parent : Sector} {child : NewSector} (ho : r.organization? tenant code = some o)
    (hgrows : r.Grows newCode tenant o.id draft.label draft.parentCode draft.status parent child) :
    Effect r newCode (.createSectorIn tenant code draft) (child.stored (r.lastSector + 1))
      (r.addSector child)
  | renameSector {tenant : TenantId} {id : SectorId} {label text : String} {s : Sector}
    (hs : r.sector? tenant id = some s) (hlabel : normalize .label label = .ok text)
    (hfree : ∀ x ∈ r.sectors, x.tenant = tenant → x.label = text → x.id = id) :
    Effect r newCode (.renameSector tenant id label) () (r.relabelSector tenant id text)
  | deleteSector {tenant : TenantId} {id : SectorId} {s : Sector}
    (hs : r.sector? tenant id = some s) :
    Effect r newCode (.deleteSector tenant id) (r.sectors.countP (goesWith tenant id))
      (r.removeSectors (goesWith tenant id))
  /-- The label is the one that the organization has. -/
  | keepLabel {tenant : TenantId} {code label : String} {o : Organization}
    (ho : r.organization? tenant code = some o) (hlabel : normalize .label label = .ok o.label) :
    Effect r newCode (.renameOrganization tenant code label) () r
  | renameOrganization {tenant : TenantId} {code label text : String} {o : Organization}
    (ho : r.organization? tenant code = some o) (hlabel : normalize .label label = .ok text)
    (hfree : ∀ x ∈ r.organizations, x.tenant = tenant → x.label = text → x.code = code) :
    Effect r newCode (.renameOrganization tenant code label) ()
      (r.relabelOrganization tenant code text)
  | deleteOrganization {tenant : TenantId} {code : String} {o : Organization}
    (ho : r.organization? tenant code = some o) :
    Effect r newCode (.deleteOrganization tenant code) () (r.dissolve o)

variable {r r' : Records} {newCode : String}

/-! ## From plans to effects -/

/-- What has been looked at for a sector that its table lets in. -/
theorem grows_of_insertSector {tenant : TenantId} {org : OrganizationId} {label text : String}
    {parentCode : Option String} {status : Status} {parent : Sector} {child : NewSector}
    {id : SectorId} (hlabel : normalize .label label = .ok text)
    (hparent : r.parentFor tenant org parentCode = .ok parent)
    (hchild : NewSector.childOf? parent newCode text status = some child)
    (hinsert : r.insertSector child = .ok (id, r')) :
    r.Grows newCode tenant org label parentCode status parent child ∧ id = r.lastSector + 1 ∧
      r' = r.addSector child := by
  obtain ⟨hroom, hfault, -, rfl, rfl⟩ := insertSector_eq_ok hinsert
  obtain ⟨-, hlabels, hcodes⟩ := Sector.fault?_eq_none _ hfault
  obtain ⟨hdepth, hchild⟩ := NewSector.childOf?_eq_some hchild
  obtain ⟨-, rfl, rfl, -⟩ := r.parentFor_eq_ok hparent
  refine ⟨?_, rfl, rfl⟩
  subst hchild
  exact {
    label_eq := hlabel
    parentFor_eq := hparent
    depth_lt := hdepth
    child_eq := rfl
    room := hroom
    code_free := hcodes
    label_free := hlabels }

theorem grows_of_planSector {tenant : TenantId} {org : OrganizationId} {label : String}
    {parentCode : Option String} {status : Status} {id : SectorId}
    (h : r.planSector newCode tenant org label parentCode status = .ok (id, r')) :
    ∃ parent child, r.Grows newCode tenant org label parentCode status parent child ∧
      id = r.lastSector + 1 ∧ r' = r.addSector child := by
  obtain ⟨text, parent, child, hlabel, -, hparent, hchild, hinsert⟩ := r.planSector_eq_ok h
  exact ⟨parent, child, grows_of_insertSector hlabel hparent hchild hinsert⟩

theorem effect_of_plan (hr : r.Sound) {mutation : Mutation} {a : mutation.Answer}
    (h : r.plan newCode mutation = .ok (a, r')) : r.Effect newCode mutation a r' := by
  cases mutation with
  | createOrganization tenant draft =>
    obtain ⟨code, hcode, h⟩ := Except.bind_eq_ok h
    obtain ⟨label, hlabel, h⟩ := Except.bind_eq_ok h
    obtain ⟨_, -, h⟩ := Except.bind_eq_ok h
    obtain ⟨_, -, h⟩ := Except.bind_eq_ok h
    obtain ⟨⟨org, added⟩, hadded, h⟩ := Except.bind_eq_ok h
    obtain ⟨⟨root, rooted⟩, hrooted, h⟩ := Except.bind_eq_ok h
    obtain ⟨horganization, hfault, rfl, rfl⟩ := insertOrganization_eq_ok (carryOut_eq_ok hadded)
    obtain ⟨hsector, hfault', -, rfl, rfl⟩ := insertSector_eq_ok (carryOut_eq_ok hrooted)
    cases h
    obtain ⟨hlabels, hcodes⟩ := Organization.fault?_eq_none _ hfault
    obtain ⟨-, hlabels', hcodes'⟩ := Sector.fault?_eq_none _ hfault'
    exact .createOrganization (chosenText_eq_ok hcode) (chosenText_eq_ok hlabel)
      ⟨horganization, hsector, hcodes, hlabels, hcodes', hlabels'⟩
  | createSector tenant org label parentCode =>
    obtain ⟨parent, child, hgrows, rfl, rfl⟩ := grows_of_planSector h
    exact .createSector hgrows
  | createSectorIn tenant code draft =>
    obtain ⟨o, ho, h⟩ := Except.bind_eq_ok h
    obtain ⟨⟨id, added⟩, hadded, h⟩ := Except.bind_eq_ok h
    obtain ⟨sector, hsector, h⟩ := Except.bind_eq_ok h
    cases h
    obtain ⟨-, _, hlast, hfound⟩ := hr.planSector hadded
    obtain ⟨parent, child, hgrows, rfl, rfl⟩ := grows_of_planSector hadded
    -- what is answered is the sector that was added
    cases (need_eq_ok hsector).symm.trans hfound
    cases List.append_cancel_left hlast
    exact .createSectorIn (need_eq_ok ho) hgrows
  | renameSector tenant id label =>
    obtain ⟨text, htext, h⟩ := Except.bind_eq_ok h
    obtain ⟨s, hs, h⟩ := Except.bind_eq_ok h
    obtain ⟨_, -, h⟩ := Except.bind_eq_ok h
    obtain ⟨⟨count, relabelled⟩, hrelabelled, h⟩ := Except.bind_eq_ok h
    cases h
    have hs := need_eq_ok hs
    obtain ⟨hfree, -, rfl⟩ := renameSector_eq_ok hs (carryOut_eq_ok hrelabelled)
    exact .renameSector hs (chosenText_eq_ok htext) hfree
  | deleteSector tenant id =>
    obtain ⟨s, hs, h⟩ := Except.bind_eq_ok h
    cases carryOut_eq_ok h
    exact .deleteSector (need_eq_ok hs)
  | renameOrganization tenant code label =>
    obtain ⟨text, htext, h⟩ := Except.bind_eq_ok h
    obtain ⟨o, ho, h⟩ := Except.bind_eq_ok h
    have ho := need_eq_ok ho
    have htext := chosenText_eq_ok htext
    split at h
    · rename_i hsame
      cases h
      exact .keepLabel ho (hsame ▸ htext)
    · obtain ⟨_, -, h⟩ := Except.bind_eq_ok h
      obtain ⟨⟨count, relabelled⟩, hrelabelled, h⟩ := Except.bind_eq_ok h
      cases h
      obtain ⟨hfree, -, rfl⟩ := renameOrganization_eq_ok ho (carryOut_eq_ok hrelabelled)
      exact .renameOrganization ho htext hfree
  | deleteOrganization tenant code =>
    obtain ⟨o, ho, h⟩ := Except.bind_eq_ok h
    obtain ⟨⟨count, emptied⟩, hemptied, h⟩ := Except.bind_eq_ok h
    obtain ⟨⟨count', removed⟩, hremoved, h⟩ := Except.bind_eq_ok h
    cases h
    have ho := need_eq_ok ho
    cases carryOut_eq_ok hemptied
    obtain ⟨-, rfl⟩ := deleteOrganization_eq_ok (carryOut_eq_ok hremoved)
    obtain ⟨-, htenant, hcode⟩ := organization?_eq_some ho
    subst htenant hcode
    exact .deleteOrganization ho

/-! ## What every effect keeps -/

theorem Grows.fields {tenant : TenantId} {org : OrganizationId} {label : String}
    {parentCode : Option String} {status : Status} {parent : Sector} {child : NewSector}
    (h : r.Grows newCode tenant org label parentCode status parent child) :
    child.tenant = tenant ∧ child.org = org ∧ child.code = newCode ∧
      child.parent = some parent.id ∧ child.hasParent = true ∧
      child.depth = parent.depth + 1 ∧ child.status = status := by
  rw [h.child_eq]
  exact ⟨rfl, rfl, rfl, rfl, rfl, rfl, rfl⟩

/-- A child lies one level below its parent. -/
theorem Grows.toNat_depth {tenant : TenantId} {org : OrganizationId} {label : String}
    {parentCode : Option String} {status : Status} {parent : Sector} {child : NewSector}
    (h : r.Grows newCode tenant org label parentCode status parent child) :
    child.depth.toNat = parent.depth.toNat + 1 := by
  rw [h.fields.2.2.2.2.2.1]
  exact toNat_below h.depth_lt

theorem Sound.grow (hr : r.Sound) {tenant : TenantId} {org : OrganizationId} {label : String}
    {parentCode : Option String} {status : Status} {parent : Sector} {child : NewSector}
    (h : r.Grows newCode tenant org label parentCode status parent child) :
    (r.addSector child).Sound := by
  obtain ⟨htenant, horg, hcode, hparent, hhas, hdepth, -⟩ := h.fields
  obtain ⟨hmem, -, hparentOrg, -⟩ := r.parentFor_eq_ok h.parentFor_eq
  refine hr.addSector h.room (hcode ▸ h.code_free) (htenant ▸ h.label_free) ?_ ?_
  · rw [horg, ← hparentOrg]
    exact hr.owned parent hmem
  · rw [hparent, hhas, hdepth]
    exact shaped_below h.depth_lt parent.id

theorem Sound.found (hr : r.Sound) {o : NewOrganization} (h : r.Founds o) : (r.found o).Sound := by
  have hadded := hr.addOrganization h.organization_room h.organization_code_free
    h.organization_label_free
  refine hadded.addSector h.sector_room h.sector_code_free h.sector_label_free ?_ ?_
  · exact ⟨_, mem_addOrganization, rfl⟩
  · exact .inl ⟨rfl, rfl, rfl⟩

theorem Sound.dissolve (hr : r.Sound) {o : Organization} (ho : o ∈ r.organizations) :
    (r.dissolve o).Sound := by
  refine (hr.removeSectors _).removeOrganization fun x hx htenant hcode s hs hid => ?_
  -- the organization that goes is the one whose sectors are gone
  have hsame : x = o := hr.organization_codes x hx o ho (by simp [htenant, hcode])
  have hkept := (List.mem_filter.mp hs).2
  simp [hid, hsame] at hkept

/-- Every effect keeps what the tables guarantee. -/
theorem Effect.sound {mutation : Mutation} {a : mutation.Answer}
    (h : r.Effect newCode mutation a r') (hr : r.Sound) : r'.Sound := by
  cases h with
  | createOrganization _ _ hfounds => exact hr.found hfounds
  | createSector hgrows => exact hr.grow hgrows
  | createSectorIn _ hgrows => exact hr.grow hgrows
  | renameSector _ _ hfree => exact hr.relabelSector hfree
  | deleteSector _ => exact hr.removeSectors _
  | keepLabel _ _ => exact hr
  | renameOrganization _ _ hfree => exact hr.relabelOrganization hfree
  | deleteOrganization ho => exact hr.dissolve (organization?_eq_some ho).1

end Records

/-! ## Calls on a session -/

namespace Session

/-- The session holds sound records and no transaction is open. -/
structure Holds (s : Session) (r : Records) : Prop where
  idle : s.connection.saved = none
  database : s.connection.database = r.database
  sound : r.Sound

theorem Holds.records {s : Session} {r : Records} (h : s.Holds r) : s.records = r := by
  rw [Session.records, h.database]
  exact Records.records_database h.sound.readable

/-- A call either fails and changes nothing, or succeeds with one of the effects. -/
theorem Holds.call {s : Session} {r : Records} (h : s.Holds r) (mutation : Mutation) :
    (∃ failure, (s.call mutation).1 = .error failure ∧ (s.call mutation).2.Holds r) ∨
      ∃ a r', (s.call mutation).1 = .ok a ∧ r.Effect (s.codes s.codesTaken) mutation a r' ∧
        (s.call mutation).2.Holds r' := by
  have hsettled := call_settled h.idle h.database h.sound mutation
  have hsame : (s.call mutation).2.connection = s.connection → (s.call mutation).2.Holds r :=
    fun heq => ⟨heq ▸ h.idle, heq ▸ h.database, h.sound⟩
  generalize hplan : r.plan (s.codes s.codesTaken) mutation = plan at hsettled
  generalize hresult : (s.call mutation).1 = result at hsettled
  generalize hafter : (s.call mutation).2.connection = after at hsettled
  cases hsettled with
  | done a r' =>
    have heffect := Records.effect_of_plan h.sound hplan
    refine .inr ⟨a, r', rfl, heffect, ?_, ?_, heffect.sound h.sound⟩
    · rw [hafter]
      exact h.idle
    · rw [hafter]
  | refused failure _ hrestored => exact .inl ⟨failure, rfl, hsame (hafter.trans hrestored)⟩
  | blocked _ failure _ hrestored _ => exact .inl ⟨failure, rfl, hsame (hafter.trans hrestored)⟩

/-- Where nothing keeps the database from being written, a call carries out its plan. -/
theorem Holds.call_of_plan {s : Session} {r r' : Records} (h : s.Holds r)
    (hfree : s.connection.writeFault? .main = none) {mutation : Mutation} {a : mutation.Answer}
    (hplan : r.plan (s.codes s.codesTaken) mutation = .ok (a, r')) :
    (s.call mutation).1 = .ok a ∧ (s.call mutation).2.Holds r' := by
  have hsettled := call_settled h.idle h.database h.sound mutation
  have hsound := (Records.effect_of_plan h.sound hplan).sound h.sound
  rw [hplan] at hsettled
  generalize hresult : (s.call mutation).1 = result at hsettled
  generalize hafter : (s.call mutation).2.connection = after at hsettled
  cases hsettled with
  | done _ _ => exact ⟨rfl, by rw [hafter]; exact h.idle, by rw [hafter], hsound⟩
  | blocked _ _ _ _ hfault => exact absurd hfree hfault

theorem Holds.call_ok {s s' : Session} {r : Records} (h : s.Holds r) {mutation : Mutation}
    {a : mutation.Answer} (hcall : s.call mutation = (.ok a, s')) :
    ∃ r', r.Effect (s.codes s.codesTaken) mutation a r' ∧ s'.Holds r' := by
  rcases h.call mutation with ⟨failure, hresult, -⟩ | ⟨a', r', hresult, heffect, hafter⟩
  · rw [hcall] at hresult
    cases hresult
  · rw [hcall] at hresult hafter
    cases hresult
    exact ⟨r', heffect, hafter⟩

end Session

end SectorForest
