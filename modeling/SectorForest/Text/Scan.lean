/-!
# Scanning text

A scanner takes a beginning of the text and hands back what it denotes and what follows it, or
fails. A failure has no wording: a text that is not of its form is refused as a whole.
-/

namespace SectorForest.Text

/-- A function that reads a beginning of a text. -/
abbrev Scan (α : Type) := List Char → Option (α × List Char)

/-- What follows the given character, if the text begins with it. -/
def expect? (wanted : Char) : List Char → Option (List Char)
  | c :: rest => if c = wanted then some rest else none
  | [] => none

/-- One or more items parted by `mark`, at most `fuel` of them. A mark that no item follows is left
in the text. -/
def separated {α : Type} (item : Scan α) (mark : Char) : (fuel : Nat) → Scan (List α)
  | 0, _ => none
  | fuel + 1, cs =>
    match item cs with
    | none => none
    | some (first, rest) =>
      match (expect? mark rest).bind (separated item mark fuel) with
      | some (others, rest) => some (first :: others, rest)
      | none => some ([first], rest)

/-- Put a character in front of a scanned text. -/
def andThen (c : Char) : Option (List Char × List Char) → Option (List Char × List Char) :=
  Option.map fun (text, rest) => (c :: text, rest)

/-! ## Digits -/

/-- The value of a hexadecimal digit. -/
def hexDigit? (c : Char) : Option Nat :=
  if '0' ≤ c ∧ c ≤ '9' then some (c.toNat - '0'.toNat)
  else if 'a' ≤ c ∧ c ≤ 'f' then some (c.toNat - 'a'.toNat + 10)
  else if 'A' ≤ c ∧ c ≤ 'F' then some (c.toNat - 'A'.toNat + 10)
  else none

/-- The number that digits denote in a base. -/
def digitsValue (base : Nat) (digits : List Char) : Nat :=
  digits.foldl (fun n c => base * n + (hexDigit? c).getD 0) 0

/-- The number that hexadecimal digits denote, if all are digits. -/
def hexNumber? (digits : List Char) : Option Nat :=
  if digits.all fun c => (hexDigit? c).isSome then some (digitsValue 16 digits) else none

/-- The character with a code, if there is one. -/
def charOfCode? (code : Nat) : Option Char :=
  if h : code.isValidChar then some (Char.ofNatAux code h) else none

end SectorForest.Text
