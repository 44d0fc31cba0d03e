import SectorForest.Organization

/-!
# Sectors

A sector is one node of an organization's tree, stored as a flat record that names its parent and
its depth. `NewSector.root` and `NewSector.childOf?` build the two shapes that keep a tree a tree: a
root has no parent and depth zero, a child lies one level below its parent.
-/

namespace SectorForest

/-- The number under which a sector is stored. -/
abbrev SectorId := Int64

/-- A stored sector. -/
structure Sector where
  id : SectorId
  tenant : TenantId
  org : OrganizationId
  code : String
  label : String
  parent : Option SectorId
  hasParent : Bool
  depth : UInt32
  status : Status
  deriving DecidableEq, Repr, Inhabited

/-- A sector before it is stored. -/
structure NewSector where
  tenant : TenantId
  org : OrganizationId
  code : String
  label : String
  parent : Option SectorId
  hasParent : Bool
  depth : UInt32
  status : Status
  deriving DecidableEq, Repr, Inhabited

/-- What a caller gives to have a sector created below a parent, or below the root. -/
structure SectorDraft where
  label : String
  parentCode : Option String := none
  status : Status := .active
  deriving DecidableEq, Repr, Inhabited

/-- The sector that owns a label. -/
structure LabelOwner where
  id : SectorId
  code : String
  deriving DecidableEq, Repr, Inhabited

namespace Sector

open Datum

/-- Whether the record has the shape of a root. -/
def isRoot (s : Sector) : Bool :=
  !s.hasParent && s.depth == 0

/-- The fields of a sector record. -/
def layout : Layout where
  expected := "struct Sector"
  rules := [rule "id" asInt64, rule "tenant_id" asInt64, rule "org_id" asInt64,
    rule "code" (asText "a string"), rule "label" (asText "a string"),
    rule "parent_id" (asOption asInt64), rule "has_parent" asBoolean, rule "depth" asUInt32,
    rule "status" Status.ofDatum]

/-- A sector read from a datum. A record may leave out the number of an absent parent. -/
def ofDatum (d : Datum) : Reading Sector := do
  let fields ← layout.unpack d.ordered
  let id ← required fields "id" asInt64
  let tenant ← required fields "tenant_id" asInt64
  let org ← required fields "org_id" asInt64
  let code ← required fields "code" (asText "a string")
  let label ← required fields "label" (asText "a string")
  let parent ← optional fields "parent_id" (asOption asInt64) none
  let hasParent ← required fields "has_parent" asBoolean
  let depth ← required fields "depth" asUInt32
  let status ← required fields "status" Status.ofDatum
  pure { id, tenant, org, code, label, parent, hasParent, depth, status }

/-- A parent's number as a datum. -/
def parentDatum (parent : Option SectorId) : Datum :=
  parent.elim .null fun p => .integer p.toInt

/-- A sector as a datum. -/
def toDatum (s : Sector) : Datum :=
  .record [("id", .integer s.id.toInt), ("tenant_id", .integer s.tenant.toInt),
    ("org_id", .integer s.org.toInt), ("code", .text s.code), ("label", .text s.label),
    ("parent_id", parentDatum s.parent), ("has_parent", .boolean s.hasParent),
    ("depth", .integer s.depth.toNat), ("status", s.status.toDatum)]

end Sector

namespace NewSector

/-- The root of an organization's tree. -/
def root (tenant : TenantId) (org : OrganizationId) (code label : String) : NewSector where
  tenant := tenant
  org := org
  code := code
  label := label
  parent := none
  hasParent := false
  depth := 0
  status := .active

/-- A sector one level below `parent`; none below a parent on the deepest level that can be told. -/
def childOf? (parent : Sector) (code label : String) (status : Status) : Option NewSector :=
  if parent.depth.toNat + 1 < UInt32.size then
    some {
      tenant := parent.tenant
      org := parent.org
      code, label
      parent := some parent.id
      hasParent := true
      depth := parent.depth + 1
      status }
  else none

/-- The record that a sector becomes under its number. -/
def stored (s : NewSector) (id : SectorId) : Sector where
  id := id
  tenant := s.tenant
  org := s.org
  code := s.code
  label := s.label
  parent := s.parent
  hasParent := s.hasParent
  depth := s.depth
  status := s.status

end NewSector

/-- The record that an organization becomes under its number. -/
def NewOrganization.stored (o : NewOrganization) (id : OrganizationId) : Organization where
  id := id
  tenant := o.tenant
  code := o.code
  label := o.label
  kind := o.kind
  status := o.status

namespace SectorDraft

open Datum

/-- The fields of a sector draft. -/
def layout : Layout where
  expected := "struct SectorDraft"
  rules := [rule "label" (asText "a string"), rule "parentCode" (asOption (asText "a string")) true,
    rule "status" Status.ofDatum true]

/-- A sector draft read from a datum. -/
def ofDatum (d : Datum) : Reading SectorDraft := do
  let fields ← layout.unpack d.ordered
  let label ← required fields "label" (asText "a string")
  let parentCode ← optional fields "parentCode" (asOption (asText "a string")) none
  let status ← optional fields "status" Status.ofDatum .active
  pure { label, parentCode, status }

/-- A sector draft as a datum. -/
def toDatum (s : SectorDraft) : Datum :=
  .record [("label", .text s.label), ("parentCode", s.parentCode.elim .null .text),
    ("status", s.status.toDatum)]

end SectorDraft

end SectorForest
