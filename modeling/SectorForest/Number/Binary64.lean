/-!
# Binary floating point numbers of 64 bits

A finite number is `mantissa · 2 ^ exponent` with a mantissa below `2 ^ 53` and an exponent of at
least `-1074`. `ofDecimal` gives the number nearest to a decimal, the one with the even mantissa
when two are equally near; `text` writes a number with the fewest digits that still tell it from
every other number, in a `Style` that says where an exponent is written and where ties go.

All arithmetic is exact, on natural numbers.
-/

namespace SectorForest.Number

/-- A binary floating point number of 64 bits. -/
inductive Binary64 where
  | finite (negative : Bool) (mantissa : Nat) (exponent : Int)
  | infinite (negative : Bool)
  | nan
  deriving DecidableEq, Repr, Inhabited

/-- `n / d` rounded to the nearest whole number, a tie going to the even one. -/
def roundEven (n d : Nat) : Nat :=
  let q := n / d
  let r := n % d
  if 2 * r < d then q
  else if d < 2 * r then q + 1
  else if q % 2 = 0 then q else q + 1

/-- `n / d · 2 ^ (-e)` as a fraction. -/
def scaleDown (n d : Nat) (e : Int) : Nat × Nat :=
  if 0 ≤ e then (n, d * Nat.pow 2 e.toNat) else (n * Nat.pow 2 (-e).toNat, d)

/-- `n · 10 ^ k` as a fraction. -/
def scaleTen (n : Nat) (k : Int) : Nat × Nat :=
  if 0 ≤ k then (n * Nat.pow 10 k.toNat, 1) else (n, Nat.pow 10 (-k).toNat)

/-- The exponent at which the positive fraction `n / d` has a mantissa of `width` bits. -/
def exponentOf (width n d : Nat) : Int :=
  let guess : Int := (Nat.log2 n : Int) - (Nat.log2 d : Int) - (width - 1 : Nat)
  let (a, b) := scaleDown n d guess
  if a / b < Nat.pow 2 (width - 1) then guess - 1 else guess

namespace Binary64

/-- The least exponent of a finite number. -/
def minExponent : Int := -1074

/-- The greatest exponent of a finite number. -/
def maxExponent : Int := 971

/-- The least mantissa of full length. -/
def fullMantissa : Nat := Nat.pow 2 52

/-- The number nearest to the positive fraction `n / d`. -/
def ofFraction (negative : Bool) (n d : Nat) : Binary64 :=
  let e := max (exponentOf 53 n d) minExponent
  let (a, b) := scaleDown n d e
  let m := roundEven a b
  let (m, e) := if m = 2 * fullMantissa then (fullMantissa, e + 1) else (m, e)
  if maxExponent < e then .infinite negative else .finite negative m e

/-- The number of decimal digits of `n`, at least one. -/
def digitCount (n : Nat) : Nat :=
  (Nat.toDigits 10 n).length

/-- The number nearest to `digits · 10 ^ exponent`. A value of 10 ^ 310 or more is infinite and one
below 10 ^ -400 is zero, whatever its digits are. -/
def ofDecimal (negative : Bool) (digits : Nat) (exponent : Int) : Binary64 :=
  if digits = 0 then .finite negative 0 minExponent
  else
    let top : Int := digitCount digits + exponent
    if 310 < top then .infinite negative
    else if top < -400 then .finite negative 0 minExponent
    else
      let (n, d) := scaleTen digits exponent
      ofFraction negative n d

/-- The fraction of a finite number's size. -/
def fraction (mantissa : Nat) (exponent : Int) : Nat × Nat :=
  if 0 ≤ exponent then (mantissa * Nat.pow 2 exponent.toNat, 1)
  else (mantissa, Nat.pow 2 (-exponent).toNat)

/-- The interval of reals that round to a positive finite number, in units of a quarter of its last
place, and whether its ends round to it too. -/
def reach (mantissa : Nat) (exponent : Int) : Nat × Nat × Bool :=
  let below := if mantissa = fullMantissa && minExponent < exponent then 1 else 2
  (4 * mantissa - below, 4 * mantissa + 2, mantissa % 2 = 0)

/-- Whether `digits · 10 ^ place` rounds to the number. -/
def readsBack (mantissa : Nat) (exponent : Int) (digits : Nat) (place : Int) : Bool :=
  let (low, high, closed) := reach mantissa exponent
  let (n, d) := scaleTen digits place
  let (a, b) := scaleDown n d (exponent - 2)
  if closed then low * b ≤ a && a ≤ high * b else low * b < a && a < high * b

/-- The least `k` with `n / d < 10 ^ k`, found from the counts of digits. -/
def decimalPlace (n d : Nat) : Int :=
  let guess : Int := (digitCount n : Int) - (digitCount d : Int)
  let (p, q) := scaleTen 1 guess
  if n * q < p * d then guess else guess + 1

/-- Where a decimal goes that lies halfway between two of a grid. -/
inductive Tie where
  | up
  | toEven
  deriving DecidableEq, Repr, Inhabited

/-- The better of the two neighbours of the number on the grid of multiples of `10 ^ place`, if one
of them rounds to it: the nearer one, and on a tie the one that `tie` says. -/
def onGrid (tie : Tie) (mantissa : Nat) (exponent : Int) (place : Int) : Option Nat :=
  let (n, d) := fraction mantissa exponent
  let (p, q) := scaleTen 1 place
  let lower := (n * q) / (d * p)
  let rest := (n * q) % (d * p)
  let lowerIsNearer := 2 * rest < d * p || (2 * rest == d * p && tie == .toEven && lower % 2 == 0)
  let lowerOk := readsBack mantissa exponent lower place
  let upperOk := readsBack mantissa exponent (lower + 1) place
  if lowerOk && (!upperOk || lowerIsNearer) then some lower
  else if upperOk then some (lower + 1)
  else none

/-- The coarsest grid with at most `fuel` further digits on which a neighbour reads back. -/
def shortestFrom (tie : Tie) (mantissa : Nat) (exponent : Int) (top : Int) :
    (fuel count : Nat) → Nat × Int
  | 0, count => (0, top - count)
  | fuel + 1, count =>
    match onGrid tie mantissa exponent (top - count) with
    | some digits => (digits, top - count)
    | none => shortestFrom tie mantissa exponent top fuel (count + 1)

/-- The digits and the place of the last digit in the shortest decimal that reads back. The first
grid is that of the power of ten above the number. -/
def shortest (tie : Tie) (mantissa : Nat) (exponent : Int) : Nat × Int :=
  if mantissa = 0 then (0, 0)
  else
    let (n, d) := fraction mantissa exponent
    shortestFrom tie mantissa exponent (decimalPlace n d) 18 0

/-! ## Text -/

/-- How numbers are written. -/
structure Style where
  /-- Which of two equally near shortest decimals is written. -/
  tie : Tie
  /-- The least and the greatest place of the first digit for which a number is written without an
  exponent; none writes every number so. -/
  plainPlaces : Option (Int × Int)
  deriving DecidableEq, Repr

/-- `digits · 10 ^ place` written without an exponent, with at least one place behind the point. -/
def positional (digits : Nat) (place : Int) : List Char :=
  let written := Nat.toDigits 10 digits
  if digits = 0 then ['0', '.', '0']
  else if 0 ≤ place then written ++ List.replicate place.toNat '0' ++ ['.', '0']
  else
    let after := (-place).toNat
    let padded := List.replicate (after + 1 - written.length) '0' ++ written
    padded.take (padded.length - after) ++ '.' :: padded.drop (padded.length - after)

/-- `digits · 10 ^ place` written with one digit in front of the point and an exponent, which always
has a sign. -/
def scientific (digits : Nat) (place : Int) : List Char :=
  let written := Nat.toDigits 10 digits
  let lead := place + (written.length - 1 : Nat)
  let fraction := if written.length = 1 then [] else '.' :: written.drop 1
  let size := Nat.toDigits 10 lead.natAbs
  written.take 1 ++ fraction ++ 'e' :: (if lead < 0 then '-' else '+') :: size

/-- The number as text: a sign if it is negative, and the shortest digits in the given style. -/
def text (style : Style) : Binary64 → String
  | .nan => "NaN"
  | .infinite negative => if negative then "-inf" else "inf"
  | .finite negative mantissa exponent =>
    let (digits, place) := shortest style.tie mantissa exponent
    let lead := place + (digitCount digits - 1 : Nat)
    let fits := match style.plainPlaces with
      | some (least, greatest) => digits = 0 || (least ≤ lead && lead ≤ greatest)
      | none => true
    let body := if fits then positional digits place else scientific digits place
    String.ofList (if negative then '-' :: body else body)

/-! ## Order and arithmetic -/

/-- Whether a number is neither infinite nor undefined. -/
def isFinite : Binary64 → Bool
  | .finite _ _ _ => true
  | _ => false

/-- The size of a whole number in units of the last place of the smallest number. -/
def unit : Nat := Nat.pow 2 1074

/-- The number in units of the last place of the smallest number: numbers are in the order of these
whole numbers, and the infinite ones lie beyond all others. -/
def units : Binary64 → Int
  | .nan => 0
  | .infinite negative => signed negative (Nat.pow 2 2098)
  | .finite negative mantissa exponent =>
    signed negative (mantissa * Nat.pow 2 (exponent - minExponent).toNat)
where
  /-- A size with a sign. -/
  signed (negative : Bool) (size : Nat) : Int := if negative then -(size : Int) else size

/-- A number of the given sign, multiplied by the fraction `n / d` and rounded. -/
def scaled (x : Binary64) (n d : Nat) : Binary64 :=
  match x with
  | .finite negative mantissa exponent =>
    if mantissa = 0 then x
    else
      let (a, b) := fraction mantissa exponent
      ofFraction negative (a * n) (b * d)
  | other => other

/-- The fraction of the number nearest to `10 ^ k`. -/
def powerOfTen (k : Nat) : Nat × Nat :=
  match ofDecimal false 1 k with
  | .finite _ mantissa exponent => fraction mantissa exponent
  | _ => (1, 1)

example : (ofDecimal false 1 400) = .infinite false := by decide +kernel

end Binary64

end SectorForest.Number
