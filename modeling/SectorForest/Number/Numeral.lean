import SectorForest.Number.Extended

/-!
# Numerals in stored text

A numeral is a decimal number that fills a text but for blanks at its ends: an optional sign, digits
with an optional point among or beside them, and an optional exponent. `wholeNumber?` is the whole
number of 64 bits that a text denotes, if it denotes one; a numeral with a point or an exponent is
first made a floating point number, which is what `floating?` gives.

Of the digits of a floating point number, only those that fit into a whole number of 64 bits count.
-/

namespace SectorForest.Number

/-- A decimal number as it is written. -/
structure Numeral where
  negative : Bool
  /-- The digits in front of the point. -/
  before : List Char
  /-- The digits behind the point. -/
  after : List Char
  exponent : Int
  /-- Whether there are digits alone, without a point or an exponent. -/
  plain : Bool
  deriving DecidableEq, Repr

namespace Numeral

/-- The blanks that may stand around a numeral. -/
def isGap (c : Char) : Bool :=
  c = ' ' || (0x09 ≤ c.toNat && c.toNat ≤ 0x0D)

/-- The number that a digit denotes. -/
def digitValue (c : Char) : Nat :=
  c.toNat - '0'.toNat

/-- The number that a list of digits denotes. -/
def value (ds : List Char) : Nat :=
  ds.foldl (fun n c => 10 * n + digitValue c) 0

/-- The bound from which on an exponent does not grow any more. -/
def exponentBound : Nat := 10000

/-- The exponent that a list of digits denotes. -/
def exponentValue (ds : List Char) : Nat :=
  ds.foldl (fun n c => if n < exponentBound then 10 * n + digitValue c else exponentBound) 0

/-- A sign in front, and what follows it. -/
def sign : List Char → Bool × List Char
  | '-' :: rest => (true, rest)
  | '+' :: rest => (false, rest)
  | cs => (false, cs)

/-- An exponent that fills the rest of a numeral. -/
def exponent? : List Char → Option Int
  | [] => some 0
  | c :: rest =>
    if c = 'e' || c = 'E' then
      let (negative, ds) := sign rest
      if ds.isEmpty || !ds.all Char.isDigit then none
      else some (if negative then -(exponentValue ds : Int) else exponentValue ds)
    else none

/-- The numeral that a text consists of. -/
def parse? (s : String) : Option Numeral :=
  let inner := ((s.toList.dropWhile isGap).reverse.dropWhile isGap).reverse
  let (negative, cs) := sign inner
  let before := cs.takeWhile Char.isDigit
  match cs.dropWhile Char.isDigit with
  | '.' :: rest =>
    let after := rest.takeWhile Char.isDigit
    if before.isEmpty && after.isEmpty then none
    else
      (exponent? (rest.dropWhile Char.isDigit)).map fun exponent =>
        { negative, before, after, exponent, plain := false }
  | rest =>
    if before.isEmpty then none
    else
      (exponent? rest).map fun exponent =>
        { negative, before, after := [], exponent, plain := rest.isEmpty }

/-- The greatest number behind which every further digit fits into 64 bits; a greater one takes no
digit any more. -/
def openBound : Nat := (Nat.pow 2 64 - 10) / 10

/-- A number with the digits of a list behind it that still fit, and how many those are. -/
def appended (start : Nat) (ds : List Char) : Nat × Nat :=
  ds.foldl (fun (n, count) c => if n < openBound then (10 * n + digitValue c, count + 1)
    else (n, count)) (start, 0)

/-- The floating point number that the store makes of a numeral. -/
def floating (numeral : Numeral) : Binary64 :=
  let (digits, whole) := appended 0 numeral.before
  let (digits, places) := appended digits numeral.after
  Extended.ofDecimal numeral.negative digits
    (numeral.exponent + (numeral.before.length - whole : Nat) - places)

end Numeral

/-- The whole number that a finite number is, if it is one. -/
def Binary64.whole? : Binary64 → Option Int
  | .finite negative mantissa exponent =>
    let (n, d) := Binary64.fraction mantissa exponent
    if n % d = 0 then some (if negative then -(n / d : Int) else (n / d : Int)) else none
  | _ => none

/-- The floating point number that the store makes of the numeral that a text consists of. -/
def floating? (s : String) : Option Binary64 :=
  (Numeral.parse? s).map Numeral.floating

/-- The whole number of 64 bits that a floating point number is, if it is one. The least and the
greatest whole number are none of them. -/
def Binary64.toInt64? (x : Binary64) : Option Int64 :=
  match x.whole? with
  | some i =>
    if Int64.minValue.toInt < i ∧ i < Int64.maxValue.toInt then some (Int64.ofInt i) else none
  | none => none

/-- The whole number of 64 bits that a text denotes. The least and the greatest such number are only
denoted by digits alone. -/
def wholeNumber? (s : String) : Option Int64 :=
  match Numeral.parse? s with
  | none => none
  | some numeral =>
    let low := Int64.minValue.toInt
    let high := Int64.maxValue.toInt
    if numeral.plain then
      let size := Numeral.value numeral.before
      let i : Int := if numeral.negative then -(size : Int) else size
      if low ≤ i ∧ i ≤ high then some (Int64.ofInt i) else none
    else numeral.floating.toInt64?

example : wholeNumber? " -07 " = some (-7) := by decide +kernel
example : wholeNumber? "1e2" = some 100 := by decide +kernel
example : wholeNumber? "1.5" = none := by decide +kernel
example : floating? "1.5" = some (.ofDecimal false 15 (-1)) := by decide +kernel
example : wholeNumber? "x" = none := by decide +kernel

end SectorForest.Number
