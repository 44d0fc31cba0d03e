import SectorForest.Number.Numeral
import SectorForest.Storage.Fault

/-!
# Cells

A stored cell is null, a whole number of 64 bits, a floating point number or a text. A column's
affinity converts what is put into it: a whole-number column turns a numeral into a number, which is
a whole one where that loses nothing, a floating point column turns that into a floating point
number, and a text column turns a number into its numeral. Whole and floating point numbers are
compared by what they denote.
-/

namespace SectorForest.Storage

/-- A stored value. -/
inductive Cell where
  | null
  | int (value : Int64)
  | real (value : Number.Binary64)
  | text (value : String)
  deriving DecidableEq, Repr, Inhabited

/-- What a column makes of the values put into it. -/
inductive Affinity where
  | none
  | integer
  | real
  | text
  deriving DecidableEq, Repr, Inhabited

/-- The floating point number nearest to a whole number. -/
def nearestReal (i : Int64) : Number.Binary64 :=
  .ofDecimal (i.toInt < 0) i.toInt.natAbs 0

/-- The cell that a column of the given affinity stores for a value. -/
def Affinity.store : Affinity → Cell → Cell
  | .integer, .text s =>
    match Number.wholeNumber? s, Number.floating? s with
    | some i, _ => .int i
    | .none, some x => .real x
    | .none, .none => .text s
  | .integer, .real x =>
    match x.toInt64? with
    | some i => .int i
    | .none => .real x
  | .real, .int i => .real (nearestReal i)
  | .real, .text s =>
    match Number.wholeNumber? s, Number.floating? s with
    | some i, _ => .real (nearestReal i)
    | .none, some x => .real x
    | .none, .none => .text s
  | .text, .int i => .text (toString i.toInt)
  | .text, .real x => .text (Number.storedText x)
  | _, cell => cell

/-- What becomes of a value that is compared with a column of the given affinity. A floating point
column compares numbers of either kind. -/
def Affinity.operand : Affinity → Cell → Cell
  | .real, value => Affinity.integer.store value
  | affinity, value => affinity.store value

namespace Cell

/-- The kind of a cell. -/
def kind : Cell → CellKind
  | .null => .null
  | .int _ => .integer
  | .real _ => .real
  | .text _ => .text

/-- A whole number in the units in which floating point numbers are compared. -/
def units (i : Int64) : Int :=
  i.toInt * Number.Binary64.unit

/-- Cells in the order in which the store sorts them: null, then numbers, then texts. -/
def le : Cell → Cell → Bool
  | .null, _ => true
  | _, .null => false
  | .int a, .int b => a.toInt ≤ b.toInt
  | .int a, .real b => units a ≤ b.units
  | .real a, .int b => a.units ≤ units b
  | .real a, .real b => a.units ≤ b.units
  | .int _, .text _ => true
  | .real _, .text _ => true
  | .text _, .int _ => false
  | .text _, .real _ => false
  | .text a, .text b => a ≤ b

/-- Whether two cells hold the same value. Numbers do if they denote the same number. -/
def agree : Cell → Cell → Bool
  | .int a, .real b => units a == b.units
  | .real a, .int b => a.units == units b
  | .real a, .real b => a.units == b.units
  | a, b => a == b

/-! ## Reading cells as values

The position and the name of the column are for the message of a misfit. -/

/-- A whole number of 64 bits. -/
def asInt (index : Nat) (column : String) : Cell → Except Fault Int64
  | .int i => .ok i
  | cell => .error (.cellKind cell.kind index column)

/-- A text. -/
def asText (index : Nat) (column : String) : Cell → Except Fault String
  | .text s => .ok s
  | cell => .error (.cellKind cell.kind index column)

/-- A whole number of 64 bits, or null. -/
def asOptionalInt (index : Nat) (column : String) : Cell → Except Fault (Option Int64)
  | .null => .ok none
  | cell => (cell.asInt index column).map some

/-- An unsigned whole number of 32 bits. -/
def asUInt32 (index : Nat) (column : String) (cell : Cell) : Except Fault UInt32 := do
  let i ← cell.asInt index column
  if 0 ≤ i.toInt ∧ i.toInt < UInt32.size then pure (UInt32.ofNat i.toInt.toNat)
  else .error (.outOfRange i.toInt index)

end Cell

end SectorForest.Storage
