import SectorForest.Schema
import SectorForest.Sector

/-!
# Records and rows

A record is written as the cells of a row and read back from them. Reading looks at the cells that
have a meaning of their own first, and refuses a row whose cells contradict each other.
-/

namespace SectorForest

open Storage

namespace Schema

/-- The columns of an organization, in the order in which a query lists them. -/
def organizationColumns : List String :=
  ["id", "tenant_id", "code", "label", "type", "status"]

/-- The columns of a sector, in the order in which a query lists them. -/
def sectorColumns : List String :=
  ["id", "tenant_id", "org_id", "code", "label", "parent_id", "has_parent", "depth", "status"]

/-- The number under which a truth value is stored. -/
def flagNumber (flag : Bool) : Int64 :=
  if flag then 1 else 0

/-- The truth value stored under a number in the given place. -/
def flag (number : Int64) (place : String) : Except StoreError Bool :=
  if number = 0 then .ok false
  else if number = 1 then .ok true
  else .error (.invalidData
    ("invalid flag value `" ++ toString number.toInt ++ "` in " ++ place))

/-- A cell among those that a query lists, read by `read`. -/
def field {α : Type} (columns : List String) (cells : List Cell) (column : String)
    (read : Nat → String → Cell → Except Fault α) : Except StoreError α :=
  (read (columns.idxOf column) column (cells.getD (columns.idxOf column) .null)).mapError
    StoreError.ofFault

end Schema

namespace NewOrganization

/-- The cells of a new organization under the names of their columns. -/
def cells (o : NewOrganization) : List (String × Cell) :=
  [("tenant_id", .int o.tenant), ("code", .text o.code), ("label", .text o.label),
    ("type", .text o.kind.name), ("status", .int o.status.number)]

end NewOrganization

namespace NewSector

/-- The cells of a new sector under the names of their columns. -/
def cells (s : NewSector) : List (String × Cell) :=
  [("tenant_id", .int s.tenant), ("org_id", .int s.org), ("code", .text s.code),
    ("label", .text s.label), ("parent_id", s.parent.elim .null .int),
    ("has_parent", .int (Schema.flagNumber s.hasParent)),
    ("depth", .int (Int64.ofNat s.depth.toNat)), ("status", .int s.status.number)]

end NewSector

namespace Organization

/-- A cell of an organization's row. -/
def field {α : Type} (cells : List Cell) (column : String)
    (read : Nat → String → Cell → Except Fault α) : Except StoreError α :=
  Schema.field Schema.organizationColumns cells column read

/-- The organization whose row holds the given cells. -/
def ofCells (cells : List Cell) : Except StoreError Organization := do
  let typeName ← field cells "type" Cell.asText
  let kind ← match OrganizationKind.ofName? typeName with
    | some kind => pure kind
    | none => .error (.invalidData
        ("invalid organization type `" ++ typeName ++ "` in organizations.type"))
  let number ← field cells "status" Cell.asInt
  let status ← match Status.ofNumber? number with
    | some status => pure status
    | none => .error (.invalidData
        ("invalid organization status `" ++ toString number.toInt ++ "` in organizations.status"))
  let id ← field cells "id" Cell.asInt
  let tenant ← field cells "tenant_id" Cell.asInt
  let code ← field cells "code" Cell.asText
  let label ← field cells "label" Cell.asText
  pure { id, tenant, code, label, kind, status }

end Organization

namespace Sector

/-- A cell of a sector's row. -/
def field {α : Type} (cells : List Cell) (column : String)
    (read : Nat → String → Cell → Except Fault α) : Except StoreError α :=
  Schema.field Schema.sectorColumns cells column read

/-- A parent's number as a message shows it. -/
def parentText : Option SectorId → String
  | none => "None"
  | some parent => "Some(" ++ toString parent.toInt ++ ")"

/-- The sector whose row holds the given cells. A row has a parent's number exactly if it says that
it has a parent. -/
def ofCells (cells : List Cell) : Except StoreError Sector := do
  let number ← field cells "status" Cell.asInt
  let status ← match Status.ofNumber? number with
    | some status => pure status
    | none => .error (.invalidData
        ("invalid sector status `" ++ toString number.toInt ++ "` in sectors.status"))
  let hasParentNumber ← field cells "has_parent" Cell.asInt
  let hasParent ← Schema.flag hasParentNumber "sectors.has_parent"
  let parent ← field cells "parent_id" Cell.asOptionalInt
  if hasParent != parent.isSome then
    .error (.invalidData
      ("sectors.has_parent=" ++ (if hasParent then "true" else "false") ++
        " disagrees with sectors.parent_id=" ++ parentText parent))
  let id ← field cells "id" Cell.asInt
  let tenant ← field cells "tenant_id" Cell.asInt
  let org ← field cells "org_id" Cell.asInt
  let code ← field cells "code" Cell.asText
  let label ← field cells "label" Cell.asText
  let depth ← field cells "depth" Cell.asUInt32
  pure { id, tenant, org, code, label, parent, hasParent, depth, status }

end Sector

namespace LabelOwner

/-- The owner of a label whose row holds the given number and code. -/
def ofCells (cells : List Cell) : Except StoreError LabelOwner := do
  let id ← Schema.field ["id", "code"] cells "id" Cell.asInt
  let code ← Schema.field ["id", "code"] cells "code" Cell.asText
  pure { id, code }

end LabelOwner

end SectorForest
