/-!
# Names of tables and columns

Names that differ only in the case of ASCII letters denote the same table or column; all other
characters count as they are.
-/

namespace SectorForest.Text

/-- A name with its ASCII capitals made small: the form in which names are compared. -/
def foldName (name : String) : List Char :=
  name.toList.map Char.toLower

/-- Whether two names denote the same table or column. -/
def sameName (a b : String) : Bool :=
  foldName a == foldName b

@[simp] theorem sameName_self (a : String) : sameName a a = true := by
  simp [sameName]

end SectorForest.Text
