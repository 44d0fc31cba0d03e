import SectorForest.Datum.Pretty
import SectorForest.Text.Scan

/-!
# JSON

`ofJson?` is the datum that a JSON text denotes, `toJson` a JSON text of a datum on one line. A
whole number that fits into 64 bits, with or without a sign, is an integer; every other number is a
floating point number, and so is a zero with a minus. Of two fields of one name the later one
counts.
-/

namespace SectorForest.Datum

open Text

/-! ## Reading -/

/-- A blank between the parts of a JSON text. -/
def isJsonGap (c : Char) : Bool :=
  c = ' ' || c = '\t' || c = '\n' || c = '\r'

/-- What follows the blanks in front of a text. -/
def skipJsonGaps (cs : List Char) : List Char :=
  cs.dropWhile isJsonGap

/-- The character that a backslash and a letter stand for. -/
def jsonEscape? (c : Char) : Option Char :=
  if c = '"' ∨ c = '\\' ∨ c = '/' then some c
  else if c = 'b' then some '\x08'
  else if c = 'f' then some '\x0C'
  else if c = 'n' then some '\n'
  else if c = 'r' then some '\r'
  else if c = 't' then some '\t'
  else none

/-- The code of the character that two surrogates stand for. -/
def surrogateCode? (high low : Nat) : Option Nat :=
  if 0xD800 ≤ high ∧ high ≤ 0xDBFF ∧ 0xDC00 ≤ low ∧ low ≤ 0xDFFF then
    some (0x10000 + (high - 0xD800) * 0x400 + (low - 0xDC00))
  else none

/-- The rest of a JSON string behind its quote. -/
def jsonStringRest : Scan (List Char)
  | '"' :: rest => some ([], rest)
  | '\\' :: 'u' :: a :: b :: c :: d :: rest => do
    let high ← hexNumber? [a, b, c, d]
    match charOfCode? high with
    | some char => andThen char (jsonStringRest rest)
    | none =>
      match rest with
      | '\\' :: 'u' :: e :: f :: g :: h :: rest => do
        let low ← hexNumber? [e, f, g, h]
        andThen (← charOfCode? (← surrogateCode? high low)) (jsonStringRest rest)
      | _ => none
  | '\\' :: c :: rest => do andThen (← jsonEscape? c) (jsonStringRest rest)
  | c :: rest => if c ≠ '\\' ∧ 0x20 ≤ c.toNat then andThen c (jsonStringRest rest) else none
  | [] => none

/-- A JSON string. -/
def jsonString : Scan String
  | '"' :: rest => (jsonStringRest rest).map fun (chars, rest) => (String.ofList chars, rest)
  | _ => none

/-- An exponent, if there is one. -/
def jsonExponent (cs : List Char) : Option (Option Int × List Char) :=
  match cs with
  | c :: rest =>
    if c = 'e' ∨ c = 'E' then
      let (negative, rest) := match rest with
        | '-' :: rest => (true, rest)
        | '+' :: rest => (false, rest)
        | rest => (false, rest)
      let digits := rest.takeWhile Char.isDigit
      let size : Int := digitsValue 10 digits
      if digits.isEmpty then none
      else some (some (if negative then -size else size), rest.dropWhile Char.isDigit)
    else some (none, cs)
  | [] => some (none, [])

/-- The places behind a point, if there is one. -/
def jsonPlaces : List Char → Option (Option (List Char) × List Char)
  | '.' :: rest =>
    let digits := rest.takeWhile Char.isDigit
    if digits.isEmpty then none else some (some digits, rest.dropWhile Char.isDigit)
  | cs => some (none, cs)

/-- Take further digits into a number as long as it fits into 64 bits; the number of digits taken.
-/
def takeDigits (size : Nat) : List Char → Nat × Nat
  | [] => (size, 0)
  | c :: rest =>
    let grown := digitsValue 10 [c] + 10 * size
    if grown < UInt64.size then
      let (size, count) := takeDigits grown rest
      (size, count + 1)
    else (size, 0)

/-- A positive or negative number times a power of ten, none if it is too great. The number is
multiplied or divided by the floating point number nearest to the power, in two steps for powers
below `10 ^ -308`; of what 64 bits hold, nothing is left below `10 ^ -616`. -/
def scaleByTen (x : Number.Binary64) (exponent : Int) : Option Number.Binary64 :=
  let divided (x : Number.Binary64) (k : Nat) : Number.Binary64 :=
    let (n, d) := Number.Binary64.powerOfTen k
    x.scaled d n
  if x.units = 0 then some x
  else if 0 ≤ exponent then
    let (n, d) := Number.Binary64.powerOfTen exponent.toNat
    match if exponent ≤ 308 then x.scaled n d else .nan with
    | .finite negative mantissa exponent => some (.finite negative mantissa exponent)
    | _ => none
  else if -308 ≤ exponent then some (divided x (-exponent).toNat)
  else some (divided (divided x 308) (min 308 (-exponent - 308).toNat))

/-- The floating point number that is written with the given digits and exponent: the leading digits
that 64 bits hold, rounded, and scaled by a power of ten. -/
def jsonFloat (negative : Bool) (whole places : List Char) (exponent : Int) :
    Option Number.Binary64 :=
  let (size, wholeCount) := takeDigits 0 whole
  let (size, placesCount) := takeDigits size places
  scaleByTen (.ofDecimal negative size 0)
    (exponent + (whole.length - wholeCount : Nat) - placesCount)

/-- Whether a number begins with a minus, and what follows. -/
def jsonSign : List Char → Bool × List Char
  | '-' :: rest => (true, rest)
  | cs => (false, cs)

/-- The digits in front of the point: one zero, or digits of which the first one is none. -/
def jsonWhole : List Char → List Char
  | '0' :: _ => ['0']
  | cs => cs.takeWhile Char.isDigit

/-- A JSON number. -/
def jsonNumber (cs : List Char) : Option (Datum × List Char) := do
  let (negative, cs) := jsonSign cs
  let whole := jsonWhole cs
  if whole.isEmpty then none
  else
    let (places, cs) ← jsonPlaces (cs.drop whole.length)
    let (exponent, cs) ← jsonExponent cs
    let size : Int := digitsValue 10 whole
    if places.isNone && exponent.isNone && !negative && size < UInt64.size then
      some (.integer size, cs)
    else if places.isNone && exponent.isNone && negative && 0 < size &&
        Int64.minValue.toInt ≤ -size then
      some (.integer (-size), cs)
    else
      some (.float (← jsonFloat negative whole (places.getD []) (exponent.getD 0)), cs)

/-- The fields with another one, in place of the one of its name if there is one. -/
def setField (fields : List (String × Datum)) (field : String × Datum) : List (String × Datum) :=
  if fields.any (·.1 == field.1) then
    fields.map fun f => if f.1 == field.1 then field else f
  else fields ++ [field]

/-- A value with blanks around it. -/
def spaced (value : Scan Datum) (cs : List Char) : Option (Datum × List Char) :=
  (value (skipJsonGaps cs)).map fun (d, rest) => (d, skipJsonGaps rest)

/-- A name, a colon and a value. -/
def jsonField (value : Scan Datum) (cs : List Char) : Option ((String × Datum) × List Char) := do
  let (name, cs) ← jsonString (skipJsonGaps cs)
  let cs ← expect? ':' (skipJsonGaps cs)
  let (d, cs) ← spaced value cs
  some ((name, d), cs)

/-- The items up to a closing character, at most `fuel` of them; there may be none. -/
def listed {α : Type} (item : Scan α) (close : Char) (fuel : Nat) (cs : List Char) :
    Option (List α × List Char) :=
  match expect? close (skipJsonGaps cs) with
  | some rest => some ([], rest)
  | none => do
    let (items, rest) ← separated item ',' fuel cs
    some (items, ← expect? close rest)

/-- A JSON value of at most `fuel` characters: its lists and records do not nest deeper than that,
and have no more items. -/
def jsonValue : (fuel : Nat) → Scan Datum
  | fuel + 1, '[' :: rest =>
    (listed (spaced (jsonValue fuel)) ']' fuel rest).map fun (items, rest) => (.list items, rest)
  | fuel + 1, '\x7b' :: rest =>
    (listed (jsonField (jsonValue fuel)) '\x7d' fuel rest).map fun (fields, rest) =>
      (.record (fields.foldl setField []), rest)
  | _, 't' :: 'r' :: 'u' :: 'e' :: rest => some (.boolean true, rest)
  | _, 'f' :: 'a' :: 'l' :: 's' :: 'e' :: rest => some (.boolean false, rest)
  | _, 'n' :: 'u' :: 'l' :: 'l' :: rest => some (.null, rest)
  | _, '"' :: rest => (jsonString ('"' :: rest)).map fun (s, rest) => (.text s, rest)
  | _, cs => jsonNumber cs

/-- The datum that a JSON text denotes, if it is one. -/
def ofJson? (source : String) : Option Datum :=
  let cs := source.toList
  match spaced (jsonValue cs.length) cs with
  | some (d, []) => some d
  | _ => none

/-! ## Writing -/

mutual

/-- A datum as JSON text on one line. -/
def toJson : Datum → String
  | .null => "null"
  | .boolean b => if b then "true" else "false"
  | .integer i => toString i
  | .float x => x.text jsonStyle
  | .text s => jsonText s
  | .list items => "[" ++ String.intercalate "," (jsonItems items) ++ "]"
  | .record fields => "\x7b" ++ String.intercalate "," (jsonFields fields) ++ "\x7d"

/-- The texts of the items of a list. -/
def jsonItems : List Datum → List String
  | [] => []
  | d :: rest => toJson d :: jsonItems rest

/-- The texts of the fields of a record. -/
def jsonFields : List (String × Datum) → List String
  | [] => []
  | (name, d) :: rest => (jsonText name ++ ":" ++ toJson d) :: jsonFields rest

end

end SectorForest.Datum
