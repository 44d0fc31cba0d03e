import SectorForest.Session

/-!
# The calls that change records

A `Mutation` names one of the seven operations of the service that change records, with what it is
called with. `Mutation.perform` is the operation itself, over any backend.
-/

namespace SectorForest

/-- A call of the service that changes records. -/
inductive Mutation where
  | createOrganization (tenant : TenantId) (draft : OrganizationDraft)
  | createSector (tenant : TenantId) (org : OrganizationId) (label : String)
      (parentCode : Option String)
  | createSectorIn (tenant : TenantId) (code : String) (draft : SectorDraft)
  | renameSector (tenant : TenantId) (id : SectorId) (label : String)
  | deleteSector (tenant : TenantId) (id : SectorId)
  | renameOrganization (tenant : TenantId) (code label : String)
  | deleteOrganization (tenant : TenantId) (code : String)
  deriving DecidableEq, Repr

namespace Mutation

/-- What the caller gets if the call succeeds. -/
abbrev Answer : Mutation → Type
  | .createOrganization .. => OrganizationId
  | .createSector .. => SectorId
  | .createSectorIn .. => Sector
  | .renameSector .. => Unit
  | .deleteSector .. => Nat
  | .renameOrganization .. => Unit
  | .deleteOrganization .. => Unit

/-- Do what is called for. -/
def perform {m : Type → Type} [Monad m] (b : Backend m) :
    (mutation : Mutation) → Serving m mutation.Answer
  | .createOrganization tenant draft => b.createOrganization tenant draft
  | .createSector tenant org label parentCode => b.createSector tenant org label parentCode
  | .createSectorIn tenant code draft => b.createSectorIn tenant code draft
  | .renameSector tenant id label => b.renameSector tenant id label
  | .deleteSector tenant id => b.deleteSector tenant id
  | .renameOrganization tenant code label => b.renameOrganization tenant code label
  | .deleteOrganization tenant code => b.deleteOrganization tenant code

end Mutation

end SectorForest
