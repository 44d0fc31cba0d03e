import SectorForest.Datum
import SectorForest.Toml.Quote

/-!
# Numbers and dates in TOML

A whole number has 64 bits and is written in base ten with an optional sign, or in base sixteen,
eight or two behind a mark. A floating point number has a point or an exponent. Underscores part
digits and count for nothing. A date, a time or both make a record of one field, whose name no key
has.
-/

namespace SectorForest.Toml

open Text

/-- A message about a document writes numbers without an exponent. -/
def style : Number.Binary64.Style where
  tie := .up
  plainPlaces := none

/-- The rest of a run of digits: underscores stand between digits only. -/
def moreDigits (isDigit : Char → Bool) : List Char → List Char × List Char
  | '_' :: c :: rest =>
    if isDigit c then
      let (digits, rest) := moreDigits isDigit rest
      (c :: digits, rest)
    else ([], '_' :: c :: rest)
  | c :: rest =>
    if isDigit c then
      let (digits, rest) := moreDigits isDigit rest
      (c :: digits, rest)
    else ([], c :: rest)
  | [] => ([], [])

/-- A run of digits. -/
def digitRun (isDigit : Char → Bool) : Scan (List Char)
  | c :: rest =>
    if isDigit c then
      let (digits, rest) := moreDigits isDigit rest
      some (c :: digits, rest)
    else none
  | [] => none

/-- An optional sign; whether it is a minus. -/
def signOf : List Char → Bool × List Char
  | '-' :: rest => (true, rest)
  | '+' :: rest => (false, rest)
  | cs => (false, cs)

/-- The digits of a whole number in base ten: none follows a zero in front. -/
def decimalDigits : Scan (List Char)
  | '0' :: rest => some (['0'], rest)
  | cs => digitRun Char.isDigit cs

/-- A number that fits into 64 bits. -/
def wholeDatum? (negative : Bool) (size : Nat) : Option Datum :=
  let i : Int := if negative then -(size : Int) else size
  if Int64.minValue.toInt ≤ i ∧ i ≤ Int64.maxValue.toInt then some (.integer i) else none

/-- A whole number in the base of a mark. -/
def markedNumber (base : Nat) (isDigit : Char → Bool) (cs : List Char) :
    Option (Datum × List Char) := do
  let (digits, rest) ← digitRun isDigit cs
  some (← wholeDatum? false (digitsValue base digits), rest)

/-- A whole number. -/
def wholeNumber : Scan Datum
  | '0' :: 'x' :: rest => markedNumber 16 (fun c => (hexDigit? c).isSome) rest
  | '0' :: 'o' :: rest => markedNumber 8 (fun c => '0' ≤ c && c ≤ '7') rest
  | '0' :: 'b' :: rest => markedNumber 2 (fun c => c = '0' || c = '1') rest
  | cs => do
    let (negative, cs) := signOf cs
    let (digits, rest) ← decimalDigits cs
    some (← wholeDatum? negative (digitsValue 10 digits), rest)

/-- An exponent. -/
def exponent : Scan Int
  | c :: rest =>
    if c = 'e' ∨ c = 'E' then do
      let (negative, rest) := signOf rest
      let (digits, rest) ← digitRun Char.isDigit rest
      let size : Int := digitsValue 10 digits
      some (if negative then -size else size, rest)
    else none
  | [] => none

/-- A floating point number. One that is too large is refused, unless it is negative. -/
def floatDatum? (negative : Bool) (digits : List Char) (exponent : Int) : Option Datum :=
  match Number.Binary64.ofDecimal negative (digitsValue 10 digits) exponent with
  | .infinite false => none
  | x => some (.float x)

/-- A floating point number written in digits. -/
def writtenFloat (cs : List Char) : Option (Datum × List Char) := do
  let (negative, cs) := signOf cs
  let (whole, cs) ← decimalDigits cs
  match cs with
  | '.' :: cs =>
    let (places, cs) ← digitRun Char.isDigit cs
    match exponent cs with
    | some (e, rest) => some (← floatDatum? negative (whole ++ places) (e - places.length), rest)
    | none => some (← floatDatum? negative (whole ++ places) (-(places.length : Int)), cs)
  | cs =>
    let (e, rest) ← exponent cs
    some (← floatDatum? negative whole e, rest)

/-- Infinity, or no number. -/
def namedFloat (cs : List Char) : Option (Datum × List Char) :=
  match signOf cs with
  | (negative, 'i' :: 'n' :: 'f' :: rest) => some (.float (.infinite negative), rest)
  | (_, 'n' :: 'a' :: 'n' :: rest) => some (.float .nan, rest)
  | _ => none

/-! ## Dates and times -/

/-- A number of exactly `count` digits between two bounds. -/
def fixedDigits (count low high : Nat) (cs : List Char) : Option (Nat × List Char) :=
  let digits := cs.take count
  let n := digitsValue 10 digits
  if digits.length = count ∧ digits.all Char.isDigit ∧ low ≤ n ∧ n ≤ high then
    some (n, cs.drop count)
  else none

/-- The number of days of a month. -/
def daysInMonth (year month : Nat) : Nat :=
  if month = 2 then
    if year % 4 = 0 ∧ (year % 100 ≠ 0 ∨ year % 400 = 0) then 29 else 28
  else if month = 4 ∨ month = 6 ∨ month = 9 ∨ month = 11 then 30
  else 31

/-- What follows a date. -/
def afterDate? (cs : List Char) : Option (List Char) := do
  let (year, cs) ← fixedDigits 4 0 9999 cs
  let cs ← expect? '-' cs
  let (month, cs) ← fixedDigits 2 1 12 cs
  let cs ← expect? '-' cs
  let (_, cs) ← fixedDigits 2 1 (daysInMonth year month) cs
  some cs

/-- What follows the fraction of a second, if there is one. -/
def afterFraction : List Char → List Char
  | '.' :: c :: rest => if c.isDigit then rest.dropWhile Char.isDigit else '.' :: c :: rest
  | cs => cs

/-- What follows a time of the day. -/
def afterTime? (cs : List Char) : Option (List Char) := do
  let (_, cs) ← fixedDigits 2 0 23 cs
  let cs ← expect? ':' cs
  let (_, cs) ← fixedDigits 2 0 59 cs
  let cs ← expect? ':' cs
  let (_, cs) ← fixedDigits 2 0 60 cs
  some (afterFraction cs)

/-- What follows the distance from universal time, if there is one. -/
def afterOffset : List Char → List Char
  | c :: rest =>
    if c = 'Z' ∨ c = 'z' then rest
    else if c = '+' ∨ c = '-' then
      let distance? := do
        let (_, cs) ← fixedDigits 2 0 23 rest
        let cs ← expect? ':' cs
        let (_, cs) ← fixedDigits 2 0 59 cs
        some cs
      distance?.getD (c :: rest)
    else c :: rest
  | [] => []

/-- What follows the time behind a date, if there is one. -/
def afterDateTime : List Char → List Char
  | c :: rest =>
    if c = 'T' ∨ c = 't' ∨ c = ' ' then
      ((afterTime? rest).map afterOffset).getD (c :: rest)
    else c :: rest
  | [] => []

/-- The field under which a date or a time stands in its record. -/
def dateField : String :=
  "$__toml_private_datetime"

/-- A date, a time, or both. -/
def dateTime (cs : List Char) : Option (Datum × List Char) := do
  let rest ← ((afterDate? cs).map afterDateTime).or (afterTime? cs)
  let written := cs.take (cs.length - rest.length)
  some (.record [(dateField, .text (String.ofList written))], rest)

/-- A number or a date. -/
def numberOrDate (cs : List Char) : Option (Datum × List Char) :=
  (dateTime cs).or ((writtenFloat cs).or ((namedFloat cs).or (wholeNumber cs)))

end SectorForest.Toml
