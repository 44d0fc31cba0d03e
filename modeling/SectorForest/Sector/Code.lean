/-!
# Codes for new sectors

A sector's code is opaque. The code made here is a random number of 122 bits, written in hexadecimal
in five groups with four fixed digits' worth of marks: a `4` in front of the third group, and one of
`8`, `9`, `a`, `b` in front of the fourth.
-/

namespace SectorForest

/-- The hexadecimal digits of a code, from the digits of a random number: the thirteenth and the
seventeenth are marks. -/
def codeDigit (random position : Nat) : Char :=
  let digit := random >>> (4 * position) % 16
  if position = 12 then '4'
  else if position = 16 then Nat.digitChar (8 + digit % 4)
  else Nat.digitChar digit

/-- The code of a random number. -/
def sectorCode (random : Nat) : String :=
  let group (first count : Nat) : List Char :=
    (List.range count).map fun i => codeDigit random (first + i)
  String.ofList (group 0 8 ++ '-' :: group 8 4 ++ '-' :: group 12 4 ++ '-' :: group 16 4 ++
    '-' :: group 20 12)

example : sectorCode 0 = "00000000-0000-4000-8000-000000000000" := by decide +kernel

end SectorForest
