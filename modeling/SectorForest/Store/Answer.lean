import SectorForest.Store.Request
import SectorForest.Store.Row

/-!
# Stores over a database

`OrganizationRequest.answer` and `SectorRequest.answer` answer requests from the tables of a
connection's database. Every request is one statement or one query. All queries and changes but the
deletion of an organization's sectors look at the records of one tenant only.

`openOrganizations` and `openSectors` check beforehand that the database is fit for it.
-/

namespace SectorForest

open Storage

/-- What a store does through a connection. -/
abbrev StoreAction (α : Type) := Connection → Except StoreError α × Connection

namespace StoreAction

/-- Run a statement and keep a part of what it did. -/
def execute {α : Type} (statement : Statement) (part : Outcome → α) : StoreAction α := fun c =>
  let (result, c) := Connection.execute statement c
  ((result.map part).mapError StoreError.ofFault, c)

/-- Look without changing anything. -/
def look {α : Type} (query : Connection → Except StoreError α) : StoreAction α := fun c =>
  (query c, c)

/-- The cells of the rows that meet a condition. -/
def rows (c : Connection) (table : String) (columns : List String) (condition : Condition)
    (orderBy : Option String := none) : Except StoreError (List (List Cell)) :=
  (c.select table columns condition orderBy).mapError StoreError.ofFault

/-- The record of the first of some rows. -/
def first {α : Type} (read : List Cell → Except StoreError α) :
    List (List Cell) → Except StoreError (Option α)
  | [] => .ok none
  | cells :: _ => (read cells).map some

end StoreAction

open StoreAction

/-- The rows of a tenant in which a column holds a text. -/
def textOf (tenant : TenantId) (column text : String) : Condition :=
  .both (.equals "tenant_id" (.int tenant)) (.equals column (.text text))

/-- The rows of a tenant in which a column holds a number. -/
def numberOf (tenant : TenantId) (column : String) (number : Int64) : Condition :=
  .both (.equals "tenant_id" (.int tenant)) (.equals column (.int number))

namespace OrganizationRequest

/-- The answer to a request about organizations. -/
def answer {α : Type} : OrganizationRequest α → StoreAction α
  | .create o => execute (.insert "organizations" o.cells) (·.id)
  | .createInTransaction o => execute (.insert "organizations" o.cells) (·.id)
  | .findByCode tenant code => look fun c => do
    first Organization.ofCells
      (← rows c "organizations" Schema.organizationColumns (textOf tenant "code" code))
  | .findAll tenant => look fun c => do
    (← rows c "organizations" Schema.organizationColumns (.equals "tenant_id" (.int tenant))
      (some "id")).mapM Organization.ofCells
  | .existsByCode tenant code => look fun c =>
    (c.hasRow "organizations" (textOf tenant "code" code)).mapError StoreError.ofFault
  | .existsByLabel tenant label => look fun c =>
    (c.hasRow "organizations" (textOf tenant "label" label)).mapError StoreError.ofFault
  | .rename tenant code label =>
    execute (.update "organizations" "label" (.text label) (textOf tenant "code" code) true)
      (·.count)
  | .deleteInTransaction tenant code =>
    execute (.delete "organizations" (textOf tenant "code" code)) (·.count)

end OrganizationRequest

namespace SectorRequest

/-- The answer to a request about sectors. -/
def answer {α : Type} : SectorRequest α → StoreAction α
  | .create s => execute (.insert "sectors" s.cells) (·.id)
  | .createInTransaction s => execute (.insert "sectors" s.cells) (·.id)
  | .findByCode tenant code => look fun c => do
    first Sector.ofCells (← rows c "sectors" Schema.sectorColumns (textOf tenant "code" code))
  | .findById tenant id => look fun c => do
    first Sector.ofCells (← rows c "sectors" Schema.sectorColumns (numberOf tenant "id" id))
  | .findByLabel tenant label => look fun c => do
    first LabelOwner.ofCells
      (← rows c "sectors" ["id", "code"] (textOf tenant "label" label) (some "id"))
  | .findRoot tenant org => look fun c => do
    first Sector.ofCells
      (← rows c "sectors" Schema.sectorColumns
        (.both (numberOf tenant "org_id" org) (.equals "has_parent" (.int 0))) (some "id"))
  | .findAllForOrganization tenant org => look fun c => do
    (← rows c "sectors" Schema.sectorColumns (numberOf tenant "org_id" org) (some "id")).mapM
      Sector.ofCells
  | .rename tenant id label =>
    execute (.update "sectors" "label" (.text label) (numberOf tenant "id" id) true) (·.count)
  | .delete tenant id =>
    execute (.delete "sectors"
      (.both (.equals "tenant_id" (.int tenant))
        (.either (.equals "id" (.int id)) (.equals "parent_id" (.int id))))) (·.count)
  | .deleteAllForOrganization org =>
    execute (.delete "sectors" (.equals "org_id" (.int org))) (·.count)
  | .deleteAllForOrganizationInTransaction org =>
    execute (.delete "sectors" (.equals "org_id" (.int org))) (·.count)

end SectorRequest

/-- Whether a database is fit for requests about organizations. -/
def openOrganizations (c : Connection) : Except StoreError Unit :=
  Schema.checkReady c "organizations" Schema.organizationColumns

/-- Whether a database is fit for requests about sectors. -/
def openSectors (c : Connection) : Except StoreError Unit :=
  Schema.checkReady c "sectors" Schema.sectorColumns

end SectorForest
