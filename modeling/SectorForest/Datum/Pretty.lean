import SectorForest.Datum

/-!
# Data as indented JSON text

`pretty` writes a datum as JSON over several lines: two spaces per level, one item or field a line,
empty lists and records closed at once, and the fields of a record in the byte order of their names.
-/

namespace SectorForest.Datum

/-- A character of a JSON string. -/
def jsonChar (c : Char) : List Char :=
  if c = '"' then ['\\', '"']
  else if c = '\\' then ['\\', '\\']
  else if c = '\n' then ['\\', 'n']
  else if c = '\r' then ['\\', 'r']
  else if c = '\t' then ['\\', 't']
  else if c.toNat = 0x08 then ['\\', 'b']
  else if c.toNat = 0x0C then ['\\', 'f']
  else if c.toNat < 0x20 then
    ['\\', 'u', '0', '0', Nat.digitChar (c.toNat / 16), Nat.digitChar (c.toNat % 16)]
  else [c]

/-- A text as a JSON string. -/
def jsonText (s : String) : String :=
  String.ofList ('"' :: (s.toList.flatMap jsonChar ++ ['"']))

/-- A line break and the indentation of a level. -/
def newline (level : Nat) : String :=
  String.ofList ('\n' :: List.replicate (2 * level) ' ')

/-- Items on lines of their own between two brackets. -/
def block (first last : String) (level : Nat) (lines : List String) : String :=
  match lines with
  | [] => first ++ last
  | lines =>
    first ++ String.intercalate "," (lines.map (newline (level + 1) ++ ·)) ++ newline level ++ last

/-- The fields of a printed record, in the byte order of their names. -/
def sortPrinted (fields : List (String × String)) : List (String × String) :=
  fields.mergeSort fun a b => decide (a.1 ≤ b.1)

mutual

/-- The text of a datum that stands at an indentation level. -/
def prettyAt (level : Nat) : Datum → String
  | .null => "null"
  | .boolean b => if b then "true" else "false"
  | .integer i => toString i
  | .float x => x.text jsonStyle
  | .text s => jsonText s
  | .list items => block "[" "]" level (prettyItems (level + 1) items)
  | .record fields =>
    block "\x7b" "\x7d" level
      ((sortPrinted (prettyFields (level + 1) fields)).map fun f => jsonText f.1 ++ ": " ++ f.2)

/-- The texts of the items of a list. -/
def prettyItems (level : Nat) : List Datum → List String
  | [] => []
  | d :: rest => prettyAt level d :: prettyItems level rest

/-- The names and the texts of the fields of a record. -/
def prettyFields (level : Nat) : List (String × Datum) → List (String × String)
  | [] => []
  | (name, d) :: rest => (name, prettyAt level d) :: prettyFields level rest

end

/-- The datum as indented JSON text. -/
def pretty (d : Datum) : String :=
  prettyAt 0 d

end SectorForest.Datum
