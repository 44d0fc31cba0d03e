import SectorForest.SectorTree.Build
import SectorForest.Service.Backend
import SectorForest.Text.Blank

/-!
# The service

The operations on organizations and their sectors. The service is the only writer of records: it
brings texts into their normal form, looks for what would be in conflict, builds the two shapes of
sectors that keep a tree a tree, and turns the absence of a record into an error. An organization
and its root are created in one transaction.

Each operation that changes records reports its outcome as one event. An error of a store ends the
operation at once.
-/

namespace SectorForest

/-- The normal form of a code or label: without blanks at its ends, not empty, and not too long. -/
def normalize (field : TextField) (text : String) : Except ServiceError String :=
  let trimmed := Text.trim text
  if trimmed.isEmpty then .error (.invalidInput field .blank)
  else if maxTextLength < trimmed.length then .error (.invalidInput field .tooLong)
  else .ok trimmed

/-- Whether the text `part` occurs in the text `whole`. -/
def occursIn (part : List Char) : (whole : List Char) → Bool
  | [] => part.isEmpty
  | c :: rest => part.isPrefixOf (c :: rest) || occursIn part rest

/-- The error of a store that refuses to write a record with the given code and label. A violation
of uniqueness is a conflict: over the label if it tells of one, over the code otherwise. -/
def writeError (entity : Entity) (code label : String) (error : StoreError) : ServiceError :=
  match error.uniqueDetail? with
  | some detail =>
    if occursIn ".label".toList detail.toList then .conflict entity .label label
    else .conflict entity .code code
  | none => .persistence error

/-- Whether an optional code of a parent names one; a blank code names none. -/
def parentCode? (code : Option String) : Option String :=
  (code.map Text.trim).filter fun code => !code.isEmpty

namespace Backend

variable {m : Type → Type} [Monad m] {α : Type} (b : Backend m)

/-! ## Requests -/

/-- The answer that a service gets, with a store's error passed on as it is. -/
def answered (answer : m (Except StoreError α)) (onError : StoreError → ServiceError) :
    Serving m α := do
  match ← answer with
  | .ok value => pure value
  | .error error => refuse (onError error)

/-- Ask for something about organizations. -/
def askOrganizations (request : OrganizationRequest α)
    (onError : StoreError → ServiceError := .persistence) : Serving m α :=
  answered (b.organizations request) onError

/-- Ask for something about sectors. -/
def askSectors (request : SectorRequest α)
    (onError : StoreError → ServiceError := .persistence) : Serving m α :=
  answered (b.sectors request) onError

/-- What was found, or the error that it was not. -/
def found (entity : Entity) (key : String) : Option α → Serving m α
  | some value => pure value
  | none => refuse (.notFound entity key)

/-- The normal form of a text, or the error that it has none. -/
def normalized (field : TextField) (text : String) : Serving m String :=
  match normalize field text with
  | .ok text => pure text
  | .error error => refuse error

/-- Run an operation and report how it ended. -/
def reported (operation : String) (action : Serving m α) : Serving m α := do
  match ← ending action with
  | .ok value =>
    b.emit (.succeeded operation)
    pure value
  | .error (.refused error) =>
    b.emit (.refused operation error)
    refuse error
  | .error .tooDeep => throw .tooDeep

/-! ## Reading -/

/-- The organization with a code. -/
def findOrganization (tenant : TenantId) (code : String) : Serving m Organization := do
  found .organization code (← b.askOrganizations (.findByCode tenant code))

/-- The organizations of a tenant. -/
def listOrganizations (tenant : TenantId) : Serving m (List Organization) :=
  b.askOrganizations (.findAll tenant)

/-- The sector with a number. -/
def findSector (tenant : TenantId) (id : SectorId) : Serving m Sector := do
  found .sector (toString id.toInt) (← b.askSectors (.findById tenant id))

/-- The sector with a code. -/
def findSectorByCode (tenant : TenantId) (code : String) : Serving m Sector := do
  found .sector code (← b.askSectors (.findByCode tenant code))

/-- The root sector of an organization. -/
def findRoot (tenant : TenantId) (org : OrganizationId) : Serving m Sector := do
  found .rootSector (toString org.toInt) (← b.askSectors (.findRoot tenant org))

/-- The sectors of an organization. -/
def listSectors (tenant : TenantId) (org : OrganizationId) : Serving m (List Sector) :=
  b.askSectors (.findAllForOrganization tenant org)

/-- The tree of the sectors of an organization. -/
def sectorTree (tenant : TenantId) (code : String) : Serving m SectorTree := do
  let organization ← b.findOrganization tenant code
  let sectors ← b.askSectors (.findAllForOrganization tenant organization.id)
  match SectorTree.build? sectors with
  | some tree => pure tree
  | none => refuse .rootNotFound

/-! ## Organizations -/

/-- Create an organization and its root sector, which has the same code and label. -/
def createOrganization (tenant : TenantId) (draft : OrganizationDraft) :
    Serving m OrganizationId :=
  b.reported "org_create" do
    let code ← normalized .code draft.code
    let label ← normalized .label draft.label
    b.transaction "org_create" do
      if ← b.askOrganizations (.existsByCode tenant code) then
        refuse (.conflict .organization .code code)
      if ← b.askOrganizations (.existsByLabel tenant label) then
        refuse (.conflict .organization .label label)
      let org ← b.askOrganizations
        (.createInTransaction { tenant, code, label, kind := draft.kind, status := draft.status })
        (writeError .organization code label)
      let _ ← b.askSectors (.createInTransaction (NewSector.root tenant org code label))
        (writeError .rootSector code label)
      pure org

/-- Give an organization another label. Its root keeps its own. -/
def renameOrganization (tenant : TenantId) (code label : String) : Serving m Unit :=
  b.reported "org_rename" do
    let label ← normalized .label label
    let organization ← b.findOrganization tenant code
    if organization.label = label then
      pure ()
    else
      if ← b.askOrganizations (.existsByLabel tenant label) then
        refuse (.conflict .organization .label label)
      let changed ← b.askOrganizations (.rename tenant code label)
        (writeError .organization code label)
      if changed = 0 then
        refuse (.notFound .organization code)

/-- Delete an organization and all its sectors. -/
def deleteOrganization (tenant : TenantId) (code : String) : Serving m Unit :=
  b.reported "org_delete" do
    let organization ← b.findOrganization tenant code
    b.transaction "org_delete" do
      let _ ← b.askSectors (.deleteAllForOrganizationInTransaction organization.id)
      let _ ← b.askOrganizations (.deleteInTransaction tenant code)

/-! ## Sectors -/

/-- The parent for a new sector of an organization: the sector with the given code, or the root
where none is given. -/
def findParent (tenant : TenantId) (org : OrganizationId) (code : Option String) :
    Serving m Sector := do
  match parentCode? code with
  | some code =>
    let parent ← b.askSectors (.findByCode tenant code)
    found .parentSector code (parent.filter fun parent => parent.org == org)
  | none => b.findRoot tenant org

/-- Create a sector below its parent, under a new code. -/
def addSector (tenant : TenantId) (org : OrganizationId) (label : String)
    (parentCode : Option String) (status : Status) : Serving m SectorId := do
  let label ← normalized .label label
  if (← b.askSectors (.findByLabel tenant label)).isSome then
    refuse (.conflict .sector .label label)
  let parent ← b.findParent tenant org parentCode
  let code ← b.newCode
  match NewSector.childOf? parent code label status with
  | none => throw .tooDeep
  | some sector => b.askSectors (.create sector) (writeError .sector code label)

/-- Create an active sector in the organization with a number. -/
def createSector (tenant : TenantId) (org : OrganizationId) (label : String)
    (parentCode : Option String) : Serving m SectorId :=
  b.reported "sector_create" (b.addSector tenant org label parentCode .active)

/-- Create a sector in the organization with a code, and read its record. -/
def createSectorIn (tenant : TenantId) (code : String) (draft : SectorDraft) : Serving m Sector :=
  b.reported "sector_create" do
    let organization ← b.findOrganization tenant code
    let id ← b.addSector tenant organization.id draft.label draft.parentCode draft.status
    b.findSector tenant id

/-- Give a sector another label. -/
def renameSector (tenant : TenantId) (id : SectorId) (label : String) : Serving m Unit :=
  b.reported "sector_rename" do
    let label ← normalized .label label
    let sector ← b.findSector tenant id
    if let some owner ← b.askSectors (.findByLabel tenant label) then
      if owner.code ≠ sector.code then
        refuse (.conflict .sector .label label)
    let changed ← b.askSectors (.rename tenant id label) (writeError .sector sector.code label)
    if changed = 0 then
      refuse (.notFound .sector (toString id.toInt))

/-- Delete a sector and the sectors directly below it; the answer is how many they were. Sectors
further below stay and keep the number of their parent. -/
def deleteSector (tenant : TenantId) (id : SectorId) : Serving m Nat :=
  b.reported "sector_delete" do
    let _ ← b.findSector tenant id
    b.askSectors (.delete tenant id)

end Backend

end SectorForest
