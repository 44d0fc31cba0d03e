import SectorForest.Datum.Decode

/-!
# Organizations

An organization belongs to a tenant, is known outside by its code and owns one tree of sectors.
Records and drafts are read from data and written as data; a draft that leaves its status out is
active.
-/

namespace SectorForest

/-- The number of a tenant; every organization and every sector belongs to one. -/
abbrev TenantId := Int64

/-- The number under which an organization is stored. -/
abbrev OrganizationId := Int64

/-- What kind of organization it is. -/
inductive OrganizationKind where
  | lxsi
  | bu
  | community
  | enterprise
  deriving DecidableEq, Repr, Inhabited

namespace OrganizationKind

/-- The name of a kind, in data and in storage. -/
def name : OrganizationKind → String
  | .lxsi => "lxsi"
  | .bu => "bu"
  | .community => "community"
  | .enterprise => "enterprise"

/-- Every kind under its name. -/
def named : List (String × OrganizationKind) :=
  [("lxsi", .lxsi), ("bu", .bu), ("community", .community), ("enterprise", .enterprise)]

/-- The kind of the given name. -/
def ofName? (name : String) : Option OrganizationKind :=
  (named.find? (·.1 == name)).map (·.2)

/-- A kind read from a datum. -/
def ofDatum : Datum → Reading OrganizationKind :=
  Datum.asVariant named

/-- A kind as a datum. -/
def toDatum (kind : OrganizationKind) : Datum :=
  .text kind.name

theorem ofName?_name (kind : OrganizationKind) : ofName? kind.name = some kind := by
  cases kind <;> decide

end OrganizationKind

/-- Where a record stands in its life. Organizations and sectors have the same four stages. -/
inductive Status where
  | draft
  | active
  | inactive
  | deleted
  deriving DecidableEq, Repr, Inhabited

namespace Status

/-- The name of a status in data. -/
def name : Status → String
  | .draft => "draft"
  | .active => "active"
  | .inactive => "inactive"
  | .deleted => "deleted"

/-- Every status under its name. -/
def named : List (String × Status) :=
  [("draft", .draft), ("active", .active), ("inactive", .inactive), ("deleted", .deleted)]

/-- The number under which a status is stored. -/
def number : Status → Int64
  | .draft => 0
  | .active => 1
  | .inactive => 2
  | .deleted => 3

/-- The status stored under a number. -/
def ofNumber? (n : Int64) : Option Status :=
  if n = 0 then some .draft
  else if n = 1 then some .active
  else if n = 2 then some .inactive
  else if n = 3 then some .deleted
  else none

/-- A status read from a datum. -/
def ofDatum : Datum → Reading Status :=
  Datum.asVariant named

/-- A status as a datum. -/
def toDatum (status : Status) : Datum :=
  .text status.name

theorem ofNumber?_number (status : Status) : ofNumber? status.number = some status := by
  cases status <;> decide

end Status

/-- A stored organization. -/
structure Organization where
  id : OrganizationId
  tenant : TenantId
  code : String
  label : String
  kind : OrganizationKind
  status : Status
  deriving DecidableEq, Repr, Inhabited

/-- An organization before it is stored. -/
structure NewOrganization where
  tenant : TenantId
  code : String
  label : String
  kind : OrganizationKind
  status : Status
  deriving DecidableEq, Repr, Inhabited

/-- What a caller gives to have an organization created. -/
structure OrganizationDraft where
  code : String
  label : String
  kind : OrganizationKind
  status : Status := .active
  deriving DecidableEq, Repr, Inhabited

namespace Organization

open Datum

/-- The fields of an organization record. -/
def layout : Layout where
  expected := "struct Organization"
  rules := [rule "id" asInt64, rule "tenant_id" asInt64, rule "code" (asText "a string"),
    rule "label" (asText "a string"), rule "type" OrganizationKind.ofDatum,
    rule "status" Status.ofDatum]

/-- An organization read from a datum. -/
def ofDatum (d : Datum) : Reading Organization := do
  let fields ← layout.unpack d.ordered
  let id ← required fields "id" asInt64
  let tenant ← required fields "tenant_id" asInt64
  let code ← required fields "code" (asText "a string")
  let label ← required fields "label" (asText "a string")
  let kind ← required fields "type" OrganizationKind.ofDatum
  let status ← required fields "status" Status.ofDatum
  pure { id, tenant, code, label, kind, status }

/-- An organization as a datum. -/
def toDatum (o : Organization) : Datum :=
  .record [("id", .integer o.id.toInt), ("tenant_id", .integer o.tenant.toInt),
    ("code", .text o.code), ("label", .text o.label), ("type", o.kind.toDatum),
    ("status", o.status.toDatum)]

end Organization

namespace OrganizationDraft

open Datum

/-- The fields of an organization draft. -/
def layout : Layout where
  expected := "struct OrganizationDraft"
  rules := [rule "code" (asText "a string"), rule "label" (asText "a string"),
    rule "type" OrganizationKind.ofDatum, rule "status" Status.ofDatum true]

/-- An organization draft read from a datum. -/
def ofDatum (d : Datum) : Reading OrganizationDraft := do
  let fields ← layout.unpack d.ordered
  let code ← required fields "code" (asText "a string")
  let label ← required fields "label" (asText "a string")
  let kind ← required fields "type" OrganizationKind.ofDatum
  let status ← optional fields "status" Status.ofDatum .active
  pure { code, label, kind, status }

/-- An organization draft as a datum. -/
def toDatum (o : OrganizationDraft) : Datum :=
  .record [("code", .text o.code), ("label", .text o.label), ("type", o.kind.toDatum),
    ("status", o.status.toDatum)]

end OrganizationDraft

end SectorForest
