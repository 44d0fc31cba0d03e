import SectorForest.Proofs.Plan
import SectorForest.Proofs.Process

/-!
# Calls as scripts on records

A `Script` is a process over records that looks at them and changes them as a whole, and
`Mutation.script` tells every call in this way, with each look and each change where the service
asks for it. A transaction is one change. Plans say what calls come to; scripts say when they look.
-/

namespace SectorForest

open Storage

variable {α β : Type}

/-- What is done to records step by step until it ends in an answer or a failure. -/
abbrev Script (α : Type) := Process Records (Except Failure α)

namespace Script

/-- End in an answer. -/
def done (a : α) : Script α :=
  .ends (.ok a)

/-- Go on with an answer, or end in a failure. -/
def settle (result : Except Failure β) (next : β → Script α) : Script α :=
  match result with
  | .ok b => next b
  | .error failure => .ends (.error failure)

theorem settle_need (entity : Entity) (key : String) (b : β) (next : β → Script α) :
    settle (need entity key (some b)) next = next b :=
  rfl

/-- Look at the records. -/
def inspect (view : Records → Except Failure β) (next : β → Script α) : Script α :=
  .takes id fun r => settle (view r) next

/-- The records after a change; one that fails leaves them as they are. -/
def altered (r : Records) (change : Except Failure (β × Records)) : Records :=
  match change with
  | .ok (_, r') => r'
  | .error _ => r

/-- Change the records. -/
def alter (change : Records → Except Failure (β × Records)) (next : β → Script α) : Script α :=
  .takes (fun r => altered r (change r)) fun r => settle ((change r).map Prod.fst) next

theorem settle_done (result : Except Failure α) : settle result done = .ends result := by
  cases result <;> rfl

/-- The failure that there was nothing to change. -/
def unlessMissing (count : Nat) (error : ServiceError) : Except Failure Unit :=
  if count = 0 then .error (.refused error) else .ok ()

/-! ## The scripts of the calls -/

section Calls

variable (tenant : TenantId)

def createOrganization (draft : OrganizationDraft) : Script OrganizationId :=
  settle (chosenText .code draft.code) fun _ =>
  settle (chosenText .label draft.label) fun _ =>
  alter (fun r => r.planOrganization tenant draft) done

/-- Insert a sector below a parent that was found, and go on with its number. -/
def insertion (newCode label : String) (status : Status) (next : SectorId → Script α)
    (parent : Sector) : Script α :=
  settle (Records.childBelow parent newCode label status) fun child =>
  alter (fun r => carryOut (r.insertSector child) (writeError .sector newCode label)) next

/-- Look for the parent of a new sector whose label was free. -/
def placement (newCode : String) (org : OrganizationId) (label : String)
    (parentCode : Option String) (status : Status) (next : SectorId → Script α) : Script α :=
  inspect (fun r => r.parentFor tenant org parentCode) (insertion newCode label status next)

/-- Create a sector below its parent, and go on with its number. -/
def addSector (newCode : String) (org : OrganizationId) (label : String)
    (parentCode : Option String) (status : Status) (next : SectorId → Script α) : Script α :=
  settle (chosenText .label label) fun label =>
  inspect (fun r => unlessTaken (r.sectorByLabel? tenant label).isSome
    (.conflict .sector .label label)) fun _ =>
  placement tenant newCode org label parentCode status next

/-- Read the record of a sector that was created. -/
def readBack (id : SectorId) : Script Sector :=
  inspect (fun r => need .sector (toString id.toInt) (r.sector? tenant id)) done

def createSectorIn (newCode code : String) (draft : SectorDraft) : Script Sector :=
  inspect (fun r => need .organization code (r.organization? tenant code)) fun organization =>
  addSector tenant newCode organization.id draft.label draft.parentCode draft.status
    (readBack tenant)

/-- Write the label of a sector. -/
def labelSector (id : SectorId) (code label : String) : Script Unit :=
  alter (fun r => carryOut (r.renameSector tenant id label) (writeError .sector code label))
    fun count => settle (unlessMissing count (.notFound .sector (toString id.toInt))) done

/-- Look for another owner of the label for a sector that was found, by its code. -/
def relabelSector (id : SectorId) (label : String) (sector : Sector) : Script Unit :=
  inspect (fun r => unlessTaken
    ((r.sectorByLabel? tenant label).any fun owner => owner.code != sector.code)
    (.conflict .sector .label label)) fun _ =>
  labelSector tenant id sector.code label

def renameSector (id : SectorId) (label : String) : Script Unit :=
  settle (chosenText .label label) fun label =>
  inspect (fun r => need .sector (toString id.toInt) (r.sector? tenant id))
    (relabelSector tenant id label)

def deleteSector (id : SectorId) : Script Nat :=
  inspect (fun r => need .sector (toString id.toInt) (r.sector? tenant id)) fun _ =>
  alter (fun r => carryOut (r.deleteSectors (Records.goesWith tenant id)) .persistence) done

/-- Write the label of an organization. -/
def labelOrganization (code label : String) : Script Unit :=
  alter (fun r => carryOut (r.renameOrganization tenant code label)
    (writeError .organization code label)) fun count =>
  settle (unlessMissing count (.notFound .organization code)) done

/-- Look for another owner of the label for an organization that was found, unless it is the one
that it has. -/
def relabelOrganization (code label : String) (organization : Organization) : Script Unit :=
  if organization.label = label then done ()
  else
    inspect (fun r => unlessTaken (r.hasOrganizationLabel tenant label)
      (.conflict .organization .label label)) fun _ =>
    labelOrganization tenant code label

def renameOrganization (code label : String) : Script Unit :=
  settle (chosenText .label label) fun label =>
  inspect (fun r => need .organization code (r.organization? tenant code))
    (relabelOrganization tenant code label)

def deleteOrganization (code : String) : Script Unit :=
  inspect (fun r => need .organization code (r.organization? tenant code)) fun organization =>
  alter (fun r => r.planDissolution tenant code organization.id) done

end Calls

end Script

/-- What a call does to records, step by step. The code for a new sector is given beforehand. -/
def Mutation.script (newCode : String) : (mutation : Mutation) → Script mutation.Answer
  | .createOrganization tenant draft => Script.createOrganization tenant draft
  | .createSector tenant org label parentCode =>
    Script.addSector tenant newCode org label parentCode .active Script.done
  | .createSectorIn tenant code draft => Script.createSectorIn tenant newCode code draft
  | .renameSector tenant id label => Script.renameSector tenant id label
  | .deleteSector tenant id => Script.deleteSector tenant id
  | .renameOrganization tenant code label => Script.renameOrganization tenant code label
  | .deleteOrganization tenant code => Script.deleteOrganization tenant code

/-! ## Scripts change records once -/

namespace Script

variable {Rest : Records → Script α → Prop}

theorem changesOnce_settle {result : Except Failure β} {next : β → Script α}
    (h : ∀ b, (next b).ChangesOnce Rest) : (settle result next).ChangesOnce Rest := by
  cases result with
  | error failure => exact .ends _
  | ok b => exact h b

theorem changesOnce_inspect {view : Records → Except Failure β} {next : β → Script α}
    (h : ∀ b, (next b).ChangesOnce Rest) : (inspect view next).ChangesOnce Rest :=
  .takes (fun _ _ => changesOnce_settle h) fun _ hne => absurd rfl hne

theorem changesOnce_alter {change : Records → Except Failure (β × Records)} {next : β → Script α}
    (h : ∀ b, (next b).ChangesOnce Rest)
    (hrest : ∀ r b r', change r = .ok (b, r') → Rest r' (next b)) :
    (alter change next).ChangesOnce Rest := by
  refine .takes (fun _ _ => changesOnce_settle h) fun r hne => ?_
  cases hchange : change r with
  | error failure =>
    rw [hchange] at hne
    exact absurd rfl hne
  | ok changed => exact hrest r changed.1 changed.2 hchange

theorem changesOnce_addSector {tenant : TenantId} {newCode : String} {org : OrganizationId}
    {label : String} {parentCode : Option String} {status : Status} {next : SectorId → Script α}
    (h : ∀ id, (next id).ChangesOnce Rest) (hrest : ∀ r, Rest r (next r.lastSector)) :
    (addSector tenant newCode org label parentCode status next).ChangesOnce Rest := by
  refine changesOnce_settle fun text => changesOnce_inspect fun _ => changesOnce_inspect
    fun parent => changesOnce_settle fun child => changesOnce_alter h fun r id r' hinsert => ?_
  obtain ⟨-, -, -, rfl, rfl⟩ := Records.insertSector_eq_ok (carryOut_eq_ok hinsert)
  exact hrest _

theorem changesOnce_createSectorIn {Rest : Records → Script Sector → Prop} {tenant : TenantId}
    {newCode code : String} {draft : SectorDraft}
    (hrest : ∀ r, Rest r (readBack tenant r.lastSector)) :
    (createSectorIn tenant newCode code draft).ChangesOnce Rest :=
  changesOnce_inspect fun _ =>
    changesOnce_addSector (fun _ => changesOnce_inspect fun _ => .ends _) hrest

end Script

/-- What is left of the script of a call once it has changed the records: to read back the sector
that was created, or nothing. -/
def Mutation.Leaves : (x : Mutation) → Records → Script x.Answer → Prop
  | .createSectorIn tenant _ _, r, rest => rest = Script.readBack tenant r.lastSector
  | _, _, rest => ∃ ending, rest = .ends ending

theorem Mutation.Leaves.calm {x : Mutation} {r : Records} {rest : Script x.Answer}
    (h : x.Leaves r rest) : rest.Calm := by
  cases x with
  | createSectorIn tenant code draft =>
    rw [show rest = Script.readBack tenant r.lastSector from h, Script.readBack]
    intro s
    beta_reduce
    rw [Script.settle_done]
    exact ⟨rfl, trivial⟩
  | _ =>
    obtain ⟨ending, rfl⟩ := h
    exact trivial

/-- Every call changes the records once at most, and has nothing but looks to take afterwards. -/
theorem Mutation.changesOnce_script (x : Mutation) (newCode : String) :
    (x.script newCode).ChangesOnce x.Leaves := by
  have hends {α : Type} {Rest : Records → Script α → Prop} (result : Except Failure α) :
      (Script.settle result Script.done).ChangesOnce Rest := by
    rw [Script.settle_done]
    exact .ends _
  cases x with
  | createOrganization tenant draft =>
    rw [script, Script.createOrganization]
    refine Script.changesOnce_settle fun _ => Script.changesOnce_settle fun _ =>
      Script.changesOnce_alter (fun _ => .ends _) fun _ id _ _ => ?_
    exact ⟨.ok id, rfl⟩
  | createSector tenant org label parentCode =>
    rw [script]
    exact Script.changesOnce_addSector (fun _ => .ends _) fun r => ⟨.ok r.lastSector, rfl⟩
  | createSectorIn tenant code draft =>
    rw [script]
    exact Script.changesOnce_createSectorIn fun _ => rfl
  | renameSector tenant id label =>
    rw [script, Script.renameSector]
    refine Script.changesOnce_settle fun text => Script.changesOnce_inspect fun s => ?_
    rw [Script.relabelSector, Script.labelSector]
    exact Script.changesOnce_inspect fun _ => Script.changesOnce_alter (fun _ => hends _)
      fun _ count _ _ => ⟨_, Script.settle_done _⟩
  | deleteSector tenant id =>
    rw [script, Script.deleteSector]
    exact Script.changesOnce_inspect fun _ =>
      Script.changesOnce_alter (fun _ => .ends _) fun _ count _ _ => ⟨.ok count, rfl⟩
  | renameOrganization tenant code label =>
    rw [script, Script.renameOrganization]
    refine Script.changesOnce_settle fun text => Script.changesOnce_inspect fun o => ?_
    rw [Script.relabelOrganization, Script.labelOrganization]
    split
    · exact .ends _
    · exact Script.changesOnce_inspect fun _ => Script.changesOnce_alter (fun _ => hends _)
        fun _ count _ _ => ⟨_, Script.settle_done _⟩
  | deleteOrganization tenant code =>
    rw [script, Script.deleteOrganization]
    exact Script.changesOnce_inspect fun _ =>
      Script.changesOnce_alter (fun _ => .ends _) fun _ _ _ _ => ⟨.ok (), rfl⟩

end SectorForest
