import SectorForest.Number.Binary64
import SectorForest.Text.Quoted

/-!
# Self-describing values

A `Datum` is what a document in an exchange format denotes: a scalar, a list, or a record whose
fields have names and an order. `describe` names a datum in a message about a misfit.
-/

namespace SectorForest

/-- A value of an exchange document. -/
inductive Datum where
  | null
  | boolean (value : Bool)
  | integer (value : Int)
  | float (value : Number.Binary64)
  | text (value : String)
  | list (items : List Datum)
  | record (fields : List (String × Datum))
  deriving Inhabited, Repr

namespace Datum

/-- JSON writes numbers from 10 ^ 16 on and below 10 ^ -5 with an exponent. -/
def jsonStyle : Number.Binary64.Style where
  tie := .toEven
  plainPlaces := some (-5, 15)

/-- The datum as a message names it: its kind, and a scalar's value, numbers in the given style. -/
def describe (style : Number.Binary64.Style) : Datum → String
  | .null => "null"
  | .boolean b => "boolean `" ++ (if b then "true" else "false") ++ "`"
  | .integer i => "integer `" ++ toString i ++ "`"
  | .float x => "floating point `" ++ x.text style ++ "`"
  | .text s => "string " ++ Text.quoted s
  | .list _ => "sequence"
  | .record _ => "map"

/-- The fields of a record in the byte order of their names. -/
def sortFields (fields : List (String × Datum)) : List (String × Datum) :=
  fields.mergeSort fun a b => decide (a.1 ≤ b.1)

end Datum

end SectorForest
