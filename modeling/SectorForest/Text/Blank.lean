/-!
# Blank characters

`isBlank` holds of the 25 characters with the Unicode property `White_Space`; `trim` removes them at
both ends of a text and nowhere else. Invisible characters without the property, such as the zero
width space, are kept.
-/

namespace SectorForest.Text

/-- The code points with the Unicode property `White_Space`, in increasing order. -/
def blankCodes : List Nat :=
  [0x09, 0x0A, 0x0B, 0x0C, 0x0D, 0x20, 0x85, 0xA0, 0x1680,
   0x2000, 0x2001, 0x2002, 0x2003, 0x2004, 0x2005, 0x2006, 0x2007, 0x2008, 0x2009, 0x200A,
   0x2028, 0x2029, 0x202F, 0x205F, 0x3000]

/-- Whether a character has the Unicode property `White_Space`. -/
def isBlank (c : Char) : Bool :=
  blankCodes.contains c.toNat

/-- Drop the blanks before the first and after the last other character. -/
def trimChars (cs : List Char) : List Char :=
  ((cs.dropWhile isBlank).reverse.dropWhile isBlank).reverse

/-- The text without its leading and trailing blanks. -/
def trim (s : String) : String :=
  String.ofList (trimChars s.toList)

/-- Every character that `Char.isWhitespace` knows is blank. -/
theorem isBlank_of_isWhitespace {c : Char} (h : c.isWhitespace = true) : isBlank c = true := by
  simp only [Char.isWhitespace, Bool.or_eq_true, decide_eq_true_eq] at h
  rcases h with ((rfl | rfl) | rfl) | rfl <;> decide

example : blankCodes.length = 25 := rfl

end SectorForest.Text
