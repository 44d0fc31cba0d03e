import SectorForest.Number.Binary64

/-!
# Scaling with 64 bits

The store reads and writes decimals by way of numbers with a mantissa of 64 bits: a decimal is read
by multiplying its digits with powers of ten, and a number is written by bringing it to 18 or 19
digits in the same way. Every product is rounded, so what comes out is not always what is nearest;
`Extended.ofDecimal` and `Extended.digits` give what the store makes of a number.
-/

namespace SectorForest.Number

/-- The positive number `mantissa · 2 ^ exponent`, with a mantissa of 64 bits. -/
structure Extended where
  mantissa : Nat
  exponent : Int
  deriving DecidableEq, Repr, Inhabited

namespace Extended

/-- The number of bits of a mantissa. -/
def width : Nat := 64

/-- The number nearest to the positive fraction `n / d`. -/
def ofFraction (n d : Nat) : Extended :=
  let e := exponentOf width n d
  let (a, b) := scaleDown n d e
  let m := roundEven a b
  if m = Nat.pow 2 width then ⟨Nat.pow 2 (width - 1), e + 1⟩ else ⟨m, e⟩

/-- The number nearest to `10 ^ k`. -/
def tenTo (k : Int) : Extended :=
  let (n, d) := scaleTen 1 k
  ofFraction n d

/-- The product, rounded. -/
def mul (x y : Extended) : Extended :=
  let product := ofFraction (x.mantissa * y.mantissa) 1
  { product with exponent := product.exponent + x.exponent + y.exponent }

/-- The number as a fraction. -/
def fraction (x : Extended) : Nat × Nat :=
  Binary64.fraction x.mantissa x.exponent

/-- Whether a number is less than another one. -/
def less (x y : Extended) : Bool :=
  let (a, b) := x.fraction
  let (c, d) := y.fraction
  a * d < c * b

/-! ## Reading decimals -/

/-- A number multiplied by `10 ^ k`, `count` times in a row. -/
def multiplied (x : Extended) (k : Int) (count : Nat) : Extended :=
  count.repeat (mul · (tenTo k)) x

/-- A number multiplied by `10 ^ k`: by hundreds of places first, then by tens and by single
places. -/
def scaled (x : Extended) (k : Int) : Extended :=
  let sign : Int := if k < 0 then -1 else 1
  let places := k.natAbs
  ((x.multiplied (100 * sign) (places / 100)).multiplied (10 * sign) (places % 100 / 10)).multiplied
    sign (places % 10)

/-- The greatest finite number of 64 bits, as a whole number. -/
def greatest : Nat :=
  (Nat.pow 2 53 - 1) * Nat.pow 2 Binary64.maxExponent.toNat

/-- The floating point number nearest to a number; every one above the greatest is infinite. -/
def toBinary64 (x : Extended) (negative : Bool) : Binary64 :=
  let (n, d) := x.fraction
  if greatest * d < n then .infinite negative else .ofFraction negative n d

/-- The bound from which on a whole number of 64 bits has no room for another digit. -/
def digitRoom : Nat := Nat.pow 2 64 / 10

/-- Digits and an exponent of the same value with the exponent closer to zero, where the digits have
room for that or end in zeros; at most `fuel` places closer. -/
def balanced : (fuel : Nat) → (digits : Nat) → (exponent : Int) → Nat × Int
  | 0, digits, exponent => (digits, exponent)
  | fuel + 1, digits, exponent =>
    if 0 < exponent && digits < digitRoom then balanced fuel (digits * 10) (exponent - 1)
    else if exponent < 0 && digits % 10 = 0 then balanced fuel (digits / 10) (exponent + 1)
    else (digits, exponent)

/-- What the store makes of `digits · 10 ^ exponent`, where the digits are a whole number of 64
bits. -/
def ofDecimal (negative : Bool) (digits : Nat) (exponent : Int) : Binary64 :=
  if digits = 0 then .finite negative 0 Binary64.minExponent
  else
    let (digits, exponent) := balanced 20 digits exponent
    ((ofFraction digits 1).scaled exponent).toBinary64 negative

/-! ## Writing decimals -/

/-- A number multiplied by `10 ^ k` until it fulfils a condition, at most `fuel` times; and by how
many places it was moved altogether, beside those of `moved`. -/
def movedUntil (isDone : Extended → Bool) (k : Int) :
    (fuel : Nat) → (x : Extended) → (moved : Int) → Extended × Int
  | 0, x, moved => (x, moved)
  | fuel + 1, x, moved =>
    if isDone x then (x, moved) else movedUntil isDone k fuel (x.mul (tenTo k)) (moved + k)

/-- A number brought into the range from `10 ^ 17` to `10 ^ 19`, and by how many places. -/
def inRange (x : Extended) : Extended × Int :=
  let below (k : Int) (x : Extended) : Bool := x.less (tenTo k)
  let notBelow (k : Int) (x : Extended) : Bool := !x.less (tenTo k)
  if x.less (tenTo 19) then
    let (x, moved) := movedUntil (notBelow (-97)) 100 4 x 0
    let (x, moved) := movedUntil (notBelow 7) 10 12 x moved
    movedUntil (notBelow 17) 1 12 x moved
  else
    let (x, moved) := movedUntil (below 119) (-100) 4 x 0
    let (x, moved) := movedUntil (below 29) (-10) 12 x moved
    movedUntil (below 19) (-1) 12 x moved

/-- The first `count` digits of a number, rounded, and the place of the last of them. A half goes
up. -/
def digits (count : Nat) (x : Extended) : Nat × Int :=
  let (x, moved) := x.inRange
  let (n, d) := x.fraction
  let whole := n / d
  let excess := Binary64.digitCount whole - count
  let unit := Nat.pow 10 excess
  let rounded := whole / unit + if unit ≤ 2 * (whole % unit) then 1 else 0
  (rounded, excess - moved)

end Extended

/-! ## Texts of stored numbers -/

/-- The digits without the zeros at their end, and the place of the last one that is left; at most
`fuel` zeros. -/
def withoutZeros : (fuel : Nat) → (digits : Nat) → (place : Int) → Nat × Int
  | 0, digits, place => (digits, place)
  | fuel + 1, digits, place =>
    if digits % 10 = 0 then withoutZeros fuel (digits / 10) (place + 1) else (digits, place)

/-- The number of digits in which the store writes a floating point number. -/
def storedDigits : Nat := 15

/-- How the store writes a positive finite number: with at least one place behind the point, and
with an exponent of at least two digits where the first digit stands far from the point. -/
def storedSize (mantissa : Nat) (exponent : Int) : List Char :=
  let (n, d) := Binary64.fraction mantissa exponent
  let (digits, place) := (Extended.ofFraction n d).digits storedDigits
  let (digits, place) := withoutZeros 20 digits place
  let lead := place + (Binary64.digitCount digits - 1 : Nat)
  if -4 ≤ lead && lead < storedDigits then Binary64.positional digits place
  else
    let written := Nat.toDigits 10 digits
    let size := Nat.toDigits 10 lead.natAbs
    written.take 1 ++ '.' :: (if written.length = 1 then ['0'] else written.drop 1) ++
      'e' :: (if lead < 0 then '-' else '+') :: (if size.length = 1 then '0' :: size else size)

/-- How the store writes a floating point number. -/
def storedText : Binary64 → String
  | .nan => ""
  | .infinite negative => if negative then "-Inf" else "Inf"
  | .finite negative mantissa exponent =>
    if mantissa = 0 then "0.0"
    else
      let size := storedSize mantissa exponent
      String.ofList (if negative then '-' :: size else size)

example : storedText (.ofDecimal false 30000000000000004 (-17)) = "0.3" := by decide +kernel
example : storedText (.ofDecimal true 2 (-7)) = "-2.0e-07" := by decide +kernel
example : Extended.ofDecimal false 4511466087315880500 (-3) = .finite false 4511466087315880 0 := by
  decide +kernel

end SectorForest.Number
