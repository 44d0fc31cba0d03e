import SectorForest.Datum

/-!
# Reading typed values from data

A misfit between a datum and the type that is asked for is a `Misfit`, with one wording for every
type. Scalars are read by one function per type.

A structure type is read from a record, or from the list of its fields' values in their declared
order. `Layout` says which fields it has, what each accepts, and which may be left out of a list;
`Layout.unpack` checks every given field in the order in which it is given and hands back the
accepted ones, so a bad value is reported before a missing field.
-/

namespace SectorForest

/-- Why a datum is not a value of the type that is asked for. -/
inductive Misfit where
  | invalidType (found : Datum) (expected : String)
  | invalidValue (found : Datum) (expected : String)
  | invalidLength (found : Nat) (expected : String)
  | unknownVariant (found : String) (expected : List String)
  | unknownField (found : String) (expected : List String)
  | missingField (name : String)
  | duplicateField (name : String)
  deriving Inhabited, Repr

namespace Misfit

/-- A name between backticks. -/
def ticked (name : String) : String :=
  "`" ++ name ++ "`"

/-- The names that were possible, as a message lists them. -/
def alternatives : List String → String
  | [] => "nothing"
  | [a] => ticked a
  | [a, b] => ticked a ++ " or " ++ ticked b
  | names => "one of " ++ String.intercalate ", " (names.map ticked)

/-- The wording of a misfit; floating point numbers are written in the given style. -/
def message (style : Number.Binary64.Style) : Misfit → String
  | .invalidType found expected =>
    "invalid type: " ++ found.describe style ++ ", expected " ++ expected
  | .invalidValue found expected =>
    "invalid value: " ++ found.describe style ++ ", expected " ++ expected
  | .invalidLength found expected =>
    "invalid length " ++ toString found ++ ", expected " ++ expected
  | .unknownVariant found expected =>
    "unknown variant " ++ ticked found ++ ", expected " ++ alternatives expected
  | .unknownField found expected =>
    "unknown field " ++ ticked found ++ ", expected " ++ alternatives expected
  | .missingField name => "missing field " ++ ticked name
  | .duplicateField name => "duplicate field " ++ ticked name

end Misfit

/-- A value read from a datum, or the reason why the datum does not fit. -/
abbrev Reading (α : Type) := Except Misfit α

namespace Datum

/-! ## Scalars -/

/-- A text. -/
def asText (expected : String) : Datum → Reading String
  | .text s => .ok s
  | d => .error (.invalidType d expected)

/-- A truth value. -/
def asBoolean : Datum → Reading Bool
  | .boolean b => .ok b
  | d => .error (.invalidType d "a boolean")

/-- A whole number between `low` and `high`. -/
def asBounded (low high : Int) (expected : String) : Datum → Reading Int
  | .integer i =>
    if low ≤ i ∧ i ≤ high then .ok i else .error (.invalidValue (.integer i) expected)
  | d => .error (.invalidType d expected)

/-- A signed whole number of 64 bits. -/
def asInt64 (d : Datum) : Reading Int64 :=
  (d.asBounded Int64.minValue.toInt Int64.maxValue.toInt "i64").map Int64.ofInt

/-- An unsigned whole number of 32 bits. -/
def asUInt32 (d : Datum) : Reading UInt32 :=
  (d.asBounded 0 ((UInt32.size : Int) - 1) "u32").map fun i => UInt32.ofNat i.toNat

/-- An unsigned whole number of 64 bits. -/
def asUInt64 (d : Datum) : Reading UInt64 :=
  (d.asBounded 0 ((UInt64.size : Int) - 1) "u64").map fun i => UInt64.ofNat i.toNat

/-- A value that may be absent: null is absence. -/
def asOption {α : Type} (read : Datum → Reading α) : Datum → Reading (Option α)
  | .null => .ok none
  | d => (read d).map some

/-- A list of values, read in order up to the first misfit. -/
def asList {α : Type} (read : Datum → Reading α) : Datum → Reading (List α)
  | .list items => items.mapM read
  | d => .error (.invalidType d "a sequence")

/-- The variant with the given name. -/
def variantNamed {α : Type} (names : List (String × α)) (name : String) : Reading α :=
  match names.find? (·.1 == name) with
  | some (_, value) => .ok value
  | none => .error (.unknownVariant name (names.map (·.1)))

/-- One of a few named values: a text, or a record whose only field has the name and holds null. -/
def asVariant {α : Type} (names : List (String × α)) : Datum → Reading α
  | .text name => variantNamed names name
  | .record [(name, content)] => do
    let value ← variantNamed names name
    match content with
    | .null => pure value
    | d => .error (.invalidType d "unit")
  | .record fields => .error (.invalidValue (.record fields) "map with a single key")
  | d => .error (.invalidType d "string or map")

/-! ## Structures -/

/-- What a structure type says about one of its fields. -/
structure FieldRule where
  /-- The field's name in a record. -/
  name : String
  /-- Whether a list of values may end before this field. -/
  optional : Bool := false
  /-- Whether a datum fits the field. -/
  accepts : Datum → Reading Unit

/-- The shape of a structure type. -/
structure Layout where
  /-- What a message says was expected in place of another kind of datum. -/
  expected : String
  /-- The fields in their declared order. -/
  rules : List FieldRule
  /-- Whether a record may hold fields that the type does not have. -/
  ignoresUnknown : Bool := true
  /-- Whether a list may hold more values than the type has fields. -/
  ignoresSurplus : Bool := false

/-- A rule from the function that reads the field's value. -/
def rule {α : Type} (name : String) (read : Datum → Reading α) (optional : Bool := false) :
    FieldRule :=
  { name, optional, accepts := fun d => (read d).map fun _ => () }

namespace Layout

/-- What a message says about a list that ends too early. -/
def expectedCount (layout : Layout) : String :=
  layout.expected ++ " with " ++ toString layout.rules.length ++
    (if layout.rules.length = 1 then " element" else " elements")

/-- Check a record's fields in the given order; the fields that the type has are kept. -/
def visitRecord (layout : Layout) :
    (fields : List (String × Datum)) → (seen : List String) → Reading (List (String × Datum))
  | [], _ => .ok []
  | (name, value) :: rest, seen =>
    match layout.rules.find? (·.name == name) with
    | none =>
      if layout.ignoresUnknown then layout.visitRecord rest seen
      else .error (.unknownField name (layout.rules.map (·.name)))
    | some r => do
      if seen.contains name then .error (.duplicateField name)
      r.accepts value
      let kept ← layout.visitRecord rest (name :: seen)
      pure ((name, value) :: kept)

/-- Check a list's values against the rules in order. The list may stop before optional fields; the
message about a list that stops before another one names the position of that field. -/
def visitList (layout : Layout) :
    (rules : List FieldRule) → (items : List Datum) → (position : Nat) →
      Reading (List (String × Datum))
  | [], _, _ => .ok []
  | r :: rules, [], position =>
    if r.optional then layout.visitList rules [] (position + 1)
    else .error (.invalidLength position layout.expectedCount)
  | r :: rules, item :: items, position => do
    r.accepts item
    let kept ← layout.visitList rules items (position + 1)
    pure ((r.name, item) :: kept)

/-- The accepted fields of a datum under their names. A record is visited in the order in which it
gives its fields. -/
def unpack (layout : Layout) : Datum → Reading (List (String × Datum))
  | .record fields => layout.visitRecord fields []
  | .list items => do
    let kept ← layout.visitList layout.rules items 0
    if layout.rules.length < items.length ∧ layout.ignoresSurplus = false then
      .error (.invalidLength items.length "fewer elements in array")
    pure kept
  | d => .error (.invalidType d layout.expected)

end Layout

/-- The field of the given name, if there is one. -/
def field? (fields : List (String × Datum)) (name : String) : Option Datum :=
  (fields.find? (·.1 == name)).map (·.2)

/-- The value of a field that has to be there. -/
def required {α : Type} (fields : List (String × Datum)) (name : String)
    (read : Datum → Reading α) : Reading α :=
  match field? fields name with
  | some d => read d
  | none => .error (.missingField name)

/-- The value of a field that may be left out. -/
def optional {α : Type} (fields : List (String × Datum)) (name : String)
    (read : Datum → Reading α) (absent : α) : Reading α :=
  match field? fields name with
  | some d => read d
  | none => .ok absent

/-- The same datum with the fields of its outermost record in the byte order of their names. -/
def ordered : Datum → Datum
  | .record fields => .record (sortFields fields)
  | d => d

end Datum

end SectorForest
