import SectorForest.Text.Scan

/-!
# Scanning TOML

Blanks, comments and line ends: what stands around the keys and values of a TOML document.
-/

namespace SectorForest.Toml

open Text

/-- A blank within a line. -/
def isGap (c : Char) : Bool :=
  c = ' ' || c = '\t'

/-- A character that may stand in comments and quotes: no control character but the tab. -/
def isPlain (c : Char) : Bool :=
  c = '\t' || (0x20 ≤ c.toNat && c.toNat ≠ 0x7F)

/-- What follows the blanks of a line. -/
def skipGaps (cs : List Char) : List Char :=
  cs.dropWhile isGap

/-- What follows a line end, if the text begins with one. -/
def lineEnd? : List Char → Option (List Char)
  | '\n' :: rest => some rest
  | '\r' :: '\n' :: rest => some rest
  | _ => none

/-- What follows a comment, if the text begins with one: the rest of the line. -/
def skipComment : List Char → List Char
  | '#' :: rest => rest.dropWhile isPlain
  | cs => cs

/-- What follows the end of a line that holds nothing more but blanks and a comment. The text may
end there instead. -/
def endLine? (cs : List Char) : Option (List Char) :=
  match skipComment (skipGaps cs) with
  | [] => some []
  | rest => lineEnd? rest

/-- Drop blanks, line ends and comments in front of a text; `inComment` tells that the text begins
within a comment. -/
def skipLines : (inComment : Bool) → List Char → List Char
  | _, [] => []
  | _, '\r' :: '\n' :: rest => skipLines false rest
  | inComment, c :: rest =>
    if c = '\n' then skipLines false rest
    else if inComment then if isPlain c then skipLines true rest else c :: rest
    else if isGap c then skipLines false rest
    else if c = '#' then skipLines true rest
    else c :: rest

end SectorForest.Toml
