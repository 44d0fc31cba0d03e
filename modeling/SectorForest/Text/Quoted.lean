import SectorForest.Text.Visible

/-!
# Quoted text in messages

`quoted` shows a text between double quotes so that every character of it can be told: quotes and
backslashes are written with a backslash, the usual control characters by their letter, and every
other character without a shape of its own by its code point in hexadecimal.
-/

namespace SectorForest.Text

/-- A code point in lower-case hexadecimal between braces, after a backslash and `u`. -/
def codePoint (c : Char) : List Char :=
  ['\\', 'u', '\x7b'] ++ Nat.toDigits 16 c.toNat ++ ['\x7d']

/-- One character of a quoted text. -/
def quotedChar (c : Char) : List Char :=
  if c = '"' then ['\\', '"']
  else if c = '\\' then ['\\', '\\']
  else if c = '\t' then ['\\', 't']
  else if c = '\n' then ['\\', 'n']
  else if c = '\r' then ['\\', 'r']
  else if c.toNat = 0 then ['\\', '0']
  else if isVisible c then [c]
  else codePoint c

/-- The text between double quotes, every character told apart. -/
def quoted (s : String) : String :=
  String.ofList ('"' :: (s.toList.flatMap quotedChar ++ ['"']))

example : quoted "a\"\\\n\x1f" = "\"a\\\"\\\\\\n\\u\x7b1f\x7d\"" := by decide +kernel

end SectorForest.Text
