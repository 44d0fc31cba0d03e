import SectorForest.Sector

/-!
# Requests for records

A request names everything that is ever asked of the records of organizations and of sectors, and
its type says what the answer is. What a request does is not fixed here: a store is a function that
answers requests, and the service is written for any such function.
-/

namespace SectorForest

/-- What is asked of the records of organizations. The type is that of the answer; a count is of the
records changed or removed. -/
inductive OrganizationRequest : Type → Type where
  | create (organization : NewOrganization) : OrganizationRequest OrganizationId
  /-- Create inside the transaction that is open. -/
  | createInTransaction (organization : NewOrganization) : OrganizationRequest OrganizationId
  | findByCode (tenant : TenantId) (code : String) : OrganizationRequest (Option Organization)
  | findAll (tenant : TenantId) : OrganizationRequest (List Organization)
  | existsByCode (tenant : TenantId) (code : String) : OrganizationRequest Bool
  | existsByLabel (tenant : TenantId) (label : String) : OrganizationRequest Bool
  | rename (tenant : TenantId) (code label : String) : OrganizationRequest Nat
  /-- Delete inside the transaction that is open. -/
  | deleteInTransaction (tenant : TenantId) (code : String) : OrganizationRequest Nat

/-- What is asked of the records of sectors. The type is that of the answer; a count is of the
records changed or removed. -/
inductive SectorRequest : Type → Type where
  | create (sector : NewSector) : SectorRequest SectorId
  /-- Create inside the transaction that is open. -/
  | createInTransaction (sector : NewSector) : SectorRequest SectorId
  | findByCode (tenant : TenantId) (code : String) : SectorRequest (Option Sector)
  | findById (tenant : TenantId) (id : SectorId) : SectorRequest (Option Sector)
  | findByLabel (tenant : TenantId) (label : String) : SectorRequest (Option LabelOwner)
  | findRoot (tenant : TenantId) (org : OrganizationId) : SectorRequest (Option Sector)
  | findAllForOrganization (tenant : TenantId) (org : OrganizationId) : SectorRequest (List Sector)
  | rename (tenant : TenantId) (id : SectorId) (label : String) : SectorRequest Nat
  /-- Delete a sector and the sectors directly below it. -/
  | delete (tenant : TenantId) (id : SectorId) : SectorRequest Nat
  /-- Delete the sectors of an organization, whatever their tenant. -/
  | deleteAllForOrganization (org : OrganizationId) : SectorRequest Nat
  /-- The same inside the transaction that is open. -/
  | deleteAllForOrganizationInTransaction (org : OrganizationId) : SectorRequest Nat

end SectorForest
