/-!
# Text of any bytes

`ofBytes` reads bytes as UTF-8. A piece that is no character, as long as it could have become one,
is shown as one replacement character, so every list of bytes has a text, and the bytes of a text
have that text.
-/

namespace SectorForest.Text

/-- The character that stands for bytes that are none. -/
def replacement : Char := '\ufffd'

/-- The ranges of the bytes that may follow a first byte to make a character of several bytes; there
are none behind a byte that starts no such character. -/
def followers (first : UInt8) : List (UInt8 × UInt8) :=
  if first < 0xC2 then []
  else if first < 0xE0 then [(0x80, 0xBF)]
  else if first = 0xE0 then [(0xA0, 0xBF), (0x80, 0xBF)]
  else if first = 0xED then [(0x80, 0x9F), (0x80, 0xBF)]
  else if first < 0xF0 then [(0x80, 0xBF), (0x80, 0xBF)]
  else if first = 0xF0 then [(0x90, 0xBF), (0x80, 0xBF), (0x80, 0xBF)]
  else if first < 0xF4 then [(0x80, 0xBF), (0x80, 0xBF), (0x80, 0xBF)]
  else if first = 0xF4 then [(0x80, 0x8F), (0x80, 0xBF), (0x80, 0xBF)]
  else []

/-- The bytes at the beginning of a list that lie in the given ranges, one after the other. -/
def following : List (UInt8 × UInt8) → List UInt8 → List UInt8
  | (low, high) :: ranges, b :: rest =>
    if low ≤ b ∧ b ≤ high then b :: following ranges rest else []
  | _, _ => []

/-- The code point of a first byte with the bytes that follow it. -/
def codeOfBytes (first : UInt8) (rest : List UInt8) : Nat :=
  let lead := match rest.length with
    | 0 => first.toNat
    | 1 => first.toNat % 0x20
    | 2 => first.toNat % 0x10
    | _ => first.toNat % 0x08
  rest.foldl (fun code b => code * 0x40 + b.toNat % 0x40) lead

/-- The character at the beginning of some bytes, and what follows it. -/
def firstChar (first : UInt8) (rest : List UInt8) : Char × List UInt8 :=
  if first < 0x80 then (Char.ofNat first.toNat, rest)
  else
    let ranges := followers first
    let found := following ranges rest
    let isWhole := !ranges.isEmpty && found.length == ranges.length
    (if isWhole then Char.ofNat (codeOfBytes first found) else replacement, rest.drop found.length)

/-- The characters of at most `fuel` bytes or pieces. -/
def charsOfBytes : (fuel : Nat) → List UInt8 → List Char
  | 0, _ | _, [] => []
  | fuel + 1, first :: rest =>
    let (c, rest) := firstChar first rest
    c :: charsOfBytes fuel rest

/-- The text of some bytes. -/
def ofBytes (bytes : List UInt8) : String :=
  String.ofList (charsOfBytes bytes.length bytes)

example : ofBytes [0x61, 0xFF, 0xE2, 0x82, 0xAC, 0xC3] = "a\ufffd€\ufffd" := by decide +kernel

end SectorForest.Text
