import SectorForest.Proofs.Mutation
import SectorForest.Proofs.Update

/-!
# What the service makes of records

`Records.plan` gives for every call its answer and the records afterwards, or the failure in which
it ends: what the service looks for, in its order, and the change that it asks for at last, all in
terms of records. The code that the next new sector gets is given beforehand.
-/

namespace SectorForest

open Storage

variable {α : Type}

/-! ## Steps of plans -/

/-- The normal form of a text that a caller chose. -/
def chosenText (field : TextField) (text : String) : Except Failure String :=
  (normalize field text).mapError .refused

/-- What was found, or the failure that it was not. -/
def need (entity : Entity) (key : String) : Option α → Except Failure α
  | some a => .ok a
  | none => .error (.refused (.notFound entity key))

/-- Go on unless something is taken. -/
def unlessTaken (taken : Bool) (error : ServiceError) : Except Failure Unit :=
  if taken then .error (.refused error) else .ok ()

/-- A change of records, with its fault told as `onError` tells it. -/
def carryOut (change : Except Fault (α × Records)) (onError : StoreError → ServiceError) :
    Except Failure (α × Records) :=
  change.mapError fun fault => .refused (onError (.ofFault fault))

theorem Except.bind_eq_ok {ε α β : Type} {x : Except ε α} {f : α → Except ε β} {b : β}
    (h : x >>= f = .ok b) : ∃ a, x = .ok a ∧ f a = .ok b := by
  cases x with
  | error e => cases h
  | ok a => exact ⟨a, rfl, h⟩

theorem chosenText_eq_ok {field : TextField} {text chosen : String}
    (h : chosenText field text = .ok chosen) : normalize field text = .ok chosen := by
  rw [chosenText] at h
  cases hnormal : normalize field text with
  | error error => rw [hnormal] at h; cases h
  | ok found => rw [hnormal] at h; cases h; rfl

theorem need_eq_ok {entity : Entity} {key : String} {found : Option α} {a : α}
    (h : need entity key found = .ok a) : found = some a := by
  cases found with
  | none => cases h
  | some found => cases h; rfl

theorem unlessTaken_eq_ok {taken : Bool} {error : ServiceError} {a : Unit}
    (h : unlessTaken taken error = .ok a) : taken = false := by
  cases taken with
  | true => cases h
  | false => rfl

theorem carryOut_eq_ok {change : Except Fault (α × Records)} {onError : StoreError → ServiceError}
    {a : α × Records} (h : carryOut change onError = .ok a) : change = .ok a := by
  cases change with
  | error fault => cases h
  | ok done => cases h; rfl

/-- What the database says of a column tells labels from codes. -/
theorem writeError_notUnique (entity : Entity) (code label : String) :
    writeError entity code label (.ofFault (.notUnique Schema.sectorLabelDetail)) =
      .conflict entity .label label ∧
    writeError entity code label (.ofFault (.notUnique Schema.organizationLabelDetail)) =
      .conflict entity .label label ∧
    writeError entity code label (.ofFault (.notUnique Schema.sectorCodeDetail)) =
      .conflict entity .code code ∧
    writeError entity code label (.ofFault (.notUnique Schema.organizationCodeDetail)) =
      .conflict entity .code code :=
  ⟨rfl, rfl, rfl, rfl⟩

namespace Records

variable (r : Records)

/-! ## The plans -/

/-- The plan of creating an organization and its root. -/
def planOrganization (tenant : TenantId) (draft : OrganizationDraft) :
    Except Failure (OrganizationId × Records) := do
  let code ← chosenText .code draft.code
  let label ← chosenText .label draft.label
  unlessTaken (r.hasOrganizationCode tenant code) (.conflict .organization .code code)
  unlessTaken (r.hasOrganizationLabel tenant label) (.conflict .organization .label label)
  let (org, added) ← carryOut
    (r.insertOrganization { tenant, code, label, kind := draft.kind, status := draft.status })
    (writeError .organization code label)
  let (_, rooted) ← carryOut (added.insertSector (NewSector.root tenant org code label))
    (writeError .rootSector code label)
  pure (org, rooted)

/-- The parent for a new sector: the one with the given code, or the root where none is given. -/
def parentFor (tenant : TenantId) (org : OrganizationId) (code : Option String) :
    Except Failure Sector :=
  match parentCode? code with
  | some code =>
    need .parentSector code ((r.sectorByCode? tenant code).filter fun parent => parent.org == org)
  | none => need .rootSector (toString org.toInt) (r.root? tenant org)

/-- A sector below a parent, as long as its level can be told. -/
def childBelow (parent : Sector) (code label : String) (status : Status) :
    Except Failure NewSector :=
  match NewSector.childOf? parent code label status with
  | some child => .ok child
  | none => .error .tooDeep

theorem childBelow_eq_ok {parent : Sector} {code label : String} {status : Status}
    {child : NewSector} (h : childBelow parent code label status = .ok child) :
    NewSector.childOf? parent code label status = some child := by
  rw [childBelow] at h
  cases hchild : NewSector.childOf? parent code label status with
  | none => rw [hchild] at h; cases h
  | some found => rw [hchild] at h; cases h; rfl

/-- A parent is a sector of the tenant and of the organization: the one with the code that is given,
or the first root. -/
theorem parentFor_eq_ok {tenant : TenantId} {org : OrganizationId} {code : Option String}
    {parent : Sector} (h : r.parentFor tenant org code = .ok parent) :
    parent ∈ r.sectors ∧ parent.tenant = tenant ∧ parent.org = org ∧
      ∀ text, parentCode? code = some text → parent.code = text := by
  rw [parentFor] at h
  split at h
  · rename_i text htext
    have hfound := need_eq_ok h
    rw [Option.filter_eq_some_iff, beq_iff_eq] at hfound
    obtain ⟨hmem, htenant, hcode⟩ := sectorByCode?_eq_some hfound.1
    refine ⟨hmem, htenant, hfound.2, fun other hother => ?_⟩
    rw [hcode, Option.some.inj (htext.symm.trans hother)]
  · rename_i hnone
    obtain ⟨hmem, htenant, horg, -⟩ := root?_eq_some (need_eq_ok h)
    refine ⟨hmem, htenant, horg, fun text htext => ?_⟩
    rw [hnone] at htext
    cases htext

/-- The plan of creating a sector under a new code. -/
def planSector (newCode : String) (tenant : TenantId) (org : OrganizationId) (label : String)
    (parentCode : Option String) (status : Status) : Except Failure (SectorId × Records) := do
  let label ← chosenText .label label
  unlessTaken (r.sectorByLabel? tenant label).isSome (.conflict .sector .label label)
  let parent ← r.parentFor tenant org parentCode
  let child ← childBelow parent newCode label status
  carryOut (r.insertSector child) (writeError .sector newCode label)

/-- The plan of creating a sector in the organization with a code. -/
def planSectorIn (newCode : String) (tenant : TenantId) (code : String) (draft : SectorDraft) :
    Except Failure (Sector × Records) := do
  let organization ← need .organization code (r.organization? tenant code)
  let (id, added) ←
    r.planSector newCode tenant organization.id draft.label draft.parentCode draft.status
  let sector ← need .sector (toString id.toInt) (added.sector? tenant id)
  pure (sector, added)

theorem planSector_eq_ok {newCode : String} {tenant : TenantId} {org : OrganizationId}
    {label : String} {parentCode : Option String} {status : Status} {id : SectorId} {r' : Records}
    (h : r.planSector newCode tenant org label parentCode status = .ok (id, r')) :
    ∃ text parent child, normalize .label label = .ok text ∧
      r.sectorByLabel? tenant text = none ∧ r.parentFor tenant org parentCode = .ok parent ∧
      NewSector.childOf? parent newCode text status = some child ∧
      r.insertSector child = .ok (id, r') := by
  obtain ⟨text, htext, h⟩ := Except.bind_eq_ok h
  obtain ⟨_, hlabel, h⟩ := Except.bind_eq_ok h
  obtain ⟨parent, hparent, h⟩ := Except.bind_eq_ok h
  obtain ⟨child, hchild, h⟩ := Except.bind_eq_ok h
  refine ⟨text, parent, child, chosenText_eq_ok htext, ?_, hparent, childBelow_eq_ok hchild,
    carryOut_eq_ok h⟩
  simpa using unlessTaken_eq_ok hlabel

variable {r} in
/-- A new sector is found under its number. -/
theorem Sound.planSector (hr : r.Sound) {newCode : String} {tenant : TenantId}
    {org : OrganizationId} {label : String} {parentCode : Option String} {status : Status}
    {id : SectorId} {r' : Records}
    (h : r.planSector newCode tenant org label parentCode status = .ok (id, r')) :
    r'.Sound ∧
      ∃ sector, r'.sectors = r.sectors ++ [sector] ∧ r'.sector? tenant id = some sector := by
  obtain ⟨_, _, child, -, -, hparent, hchild, hinsert⟩ := r.planSector_eq_ok h
  have hr' := hr.insertSector hinsert
  obtain ⟨-, -, -, rfl, rfl⟩ := insertSector_eq_ok hinsert
  have htenant : child.tenant = tenant := by
    rw [(NewSector.childOf?_eq_some hchild).2]
    exact (r.parentFor_eq_ok hparent).2.1
  exact ⟨hr', _, rfl, htenant ▸ hr'.sector?_addSector⟩

/-- The plan of giving a sector another label. -/
def planRenameSector (tenant : TenantId) (id : SectorId) (label : String) :
    Except Failure (Unit × Records) := do
  let label ← chosenText .label label
  let sector ← need .sector (toString id.toInt) (r.sector? tenant id)
  unlessTaken ((r.sectorByLabel? tenant label).any fun owner => owner.code != sector.code)
    (.conflict .sector .label label)
  let renamed ← carryOut (r.renameSector tenant id label) (writeError .sector sector.code label)
  pure ((), renamed.2)

/-- The plan of deleting a sector and those directly below it. -/
def planDeleteSector (tenant : TenantId) (id : SectorId) : Except Failure (Nat × Records) := do
  let _ ← need .sector (toString id.toInt) (r.sector? tenant id)
  carryOut (r.deleteSectors (goesWith tenant id)) .persistence

/-- The plan of giving an organization another label. -/
def planRenameOrganization (tenant : TenantId) (code label : String) :
    Except Failure (Unit × Records) := do
  let label ← chosenText .label label
  let organization ← need .organization code (r.organization? tenant code)
  -- a label that stays the same is not written
  if organization.label = label then
    pure ((), r)
  else
    unlessTaken (r.hasOrganizationLabel tenant label) (.conflict .organization .label label)
    let renamed ←
      carryOut (r.renameOrganization tenant code label) (writeError .organization code label)
    pure ((), renamed.2)

/-- The plan of deleting an organization and all its sectors. -/
def planDeleteOrganization (tenant : TenantId) (code : String) :
    Except Failure (Unit × Records) := do
  let organization ← need .organization code (r.organization? tenant code)
  let (_, emptied) ← carryOut (r.deleteSectors fun s => s.org == organization.id) .persistence
  let (_, removed) ← carryOut (emptied.deleteOrganization tenant code) .persistence
  pure ((), removed)

/-- The plan of deleting the sectors of an organization that was found, and then itself. -/
def planDissolution (tenant : TenantId) (code : String) (org : OrganizationId) :
    Except Failure (Unit × Records) := do
  let (_, emptied) ← carryOut (r.deleteSectors fun s => s.org == org) .persistence
  let (_, removed) ← carryOut (emptied.deleteOrganization tenant code) .persistence
  pure ((), removed)

/-- The plan of a call. -/
def plan (newCode : String) : (mutation : Mutation) → Except Failure (mutation.Answer × Records)
  | .createOrganization tenant draft => r.planOrganization tenant draft
  | .createSector tenant org label parentCode =>
    r.planSector newCode tenant org label parentCode .active
  | .createSectorIn tenant code draft => r.planSectorIn newCode tenant code draft
  | .renameSector tenant id label => r.planRenameSector tenant id label
  | .deleteSector tenant id => r.planDeleteSector tenant id
  | .renameOrganization tenant code label => r.planRenameOrganization tenant code label
  | .deleteOrganization tenant code => r.planDeleteOrganization tenant code

end Records

end SectorForest
