import SectorForest.Storage.Cell

/-!
# Conditions on rows

A condition compares the columns of one row with constants. Its truth is three-valued: a comparison
with null is unknown, and `none` stands for unknown. A query keeps the rows for which its condition
is true; a check refuses those for which it is false.
-/

namespace SectorForest.Storage

/-- A condition on the columns of a row. -/
inductive Condition where
  | equals (column : String) (value : Cell)
  | oneOf (column : String) (values : List Cell)
  | atLeast (column : String) (value : Cell)
  | atMost (column : String) (value : Cell)
  | isNull (column : String)
  | isNotNull (column : String)
  | both (left right : Condition)
  | either (left right : Condition)
  deriving Repr, Inhabited

namespace Condition

/-- The truth of a comparison of a cell with a constant. -/
def compared (holds : Cell → Cell → Bool) (cell value : Cell) : Option Bool :=
  if cell = .null ∨ value = .null then none else some (holds cell value)

/-- Three-valued conjunction. -/
def conj : Option Bool → Option Bool → Option Bool
  | some false, _ => some false
  | _, some false => some false
  | some true, some true => some true
  | _, _ => none

/-- Three-valued disjunction. -/
def disj : Option Bool → Option Bool → Option Bool
  | some true, _ => some true
  | _, some true => some true
  | some false, some false => some false
  | _, _ => none

/-- The truth of a condition for the row whose columns `cell` gives. -/
def truth (cell : String → Cell) : Condition → Option Bool
  | .equals column value => compared Cell.agree (cell column) value
  | .oneOf column values => compared (fun c _ => values.any (Cell.agree c)) (cell column) (.int 0)
  | .atLeast column value => compared (fun c v => Cell.le v c) (cell column) value
  | .atMost column value => compared (fun c v => Cell.le c v) (cell column) value
  | .isNull column => some (cell column == .null)
  | .isNotNull column => some (cell column != .null)
  | .both left right => conj (left.truth cell) (right.truth cell)
  | .either left right => disj (left.truth cell) (right.truth cell)

/-- Whether the condition is true for the row. -/
def holds (condition : Condition) (cell : String → Cell) : Bool :=
  condition.truth cell == some true

/-- Whether the condition is false for the row. -/
def fails (condition : Condition) (cell : String → Cell) : Bool :=
  condition.truth cell == some false

/-- The condition with its constants as they are compared with columns of the given affinities. -/
def converted (affinity : String → Affinity) : Condition → Condition
  | .equals column value => .equals column ((affinity column).operand value)
  | .oneOf column values => .oneOf column (values.map (affinity column).operand)
  | .atLeast column value => .atLeast column ((affinity column).operand value)
  | .atMost column value => .atMost column ((affinity column).operand value)
  | .isNull column => .isNull column
  | .isNotNull column => .isNotNull column
  | .both left right => .both (left.converted affinity) (right.converted affinity)
  | .either left right => .either (left.converted affinity) (right.converted affinity)

/-- The columns that a condition names, from left to right. -/
def columns : Condition → List String
  | .equals column _ | .oneOf column _ | .atLeast column _ | .atMost column _ | .isNull column
  | .isNotNull column => [column]
  | .both left right | .either left right => left.columns ++ right.columns

end Condition

end SectorForest.Storage
