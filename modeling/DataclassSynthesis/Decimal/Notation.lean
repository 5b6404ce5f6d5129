import DataclassSynthesis.Decimal.Shortest

/-!
# Written forms of floating-point numbers

A number is written with its shortest digits. Between one ten-thousandth and ten to the sixteenth
the point stands where it belongs and at least one digit follows it; outside, a power of ten
follows the digits.
-/

namespace DataclassSynthesis.Decimal

/-- A floating-point number of 64 bits, by what its encoding says. -/
inductive Float64 where
  | notANumber
  | infinite (negative : Bool)
  | zero (negative : Bool)
  | finite (negative : Bool) (magnitude : Binary)

/-- The leading bit of a significand, which the encoding leaves out, above 52 that it stores. -/
def implicitBit : Nat := 0x10000000000000

/-- Decode the 64 bits of a floating-point number. -/
def Float64.ofBits (bits : UInt64) : Float64 :=
  let negative := bits.toNat / 0x8000000000000000 == 1
  let exponent : Nat := bits.toNat / implicitBit % 2048
  let fraction := bits.toNat % implicitBit
  if exponent == 2047 then if fraction == 0 then .infinite negative else .notANumber
  else if exponent == 0 then
    if fraction == 0 then .zero negative else .finite negative ⟨fraction, -1074, false⟩
  else
    .finite negative
      ⟨implicitBit + fraction, (exponent : Int) - 1075, fraction == 0 && exponent != 1⟩

/-- The number of digits that a positional form may have before its point. -/
def positionalDigits : Int := 16

/-- The least exponent of a leading digit that is written positionally. -/
def leastPositional : Int := -4

/-- Write digits positionally, with at least one digit on either side of the point. The point
stands after the given number of digits. -/
def positional (digits : List Char) (point : Int) : String :=
  let count : Int := digits.length
  String.ofList <|
    if point ≤ 0 then '0' :: '.' :: (List.replicate (-point).toNat '0' ++ digits)
    else if count ≤ point then digits ++ List.replicate (point - count).toNat '0' ++ ['.', '0']
    else digits.take point.toNat ++ '.' :: digits.drop point.toNat

/-- Write digits with the point after the first one and a power of ten behind. -/
def scientific (digits : List Char) (exponent : Int) : String :=
  let mantissa := match digits with
    | first :: second :: rest => first :: '.' :: second :: rest
    | short => short
  String.ofList mantissa ++ "e" ++ toString exponent

/-- The written form of a positive decimal. -/
def Numeral.display (numeral : Numeral) : String :=
  let normal := numeral.normalize
  let digits := Nat.toDigits 10 normal.digits
  let leading := normal.exponent + (digits.length - 1 : Int)
  if leastPositional ≤ leading ∧ leading < positionalDigits then positional digits (leading + 1)
  else scientific digits leading

/-- The sign that precedes a number. -/
def signText (negative : Bool) : String := if negative then "-" else ""

/-- The written form of a floating-point number. -/
def Float64.display : Float64 → String
  | notANumber => "NaN"
  | infinite negative => signText negative ++ "inf"
  | zero negative => signText negative ++ "0.0"
  | finite negative magnitude => signText negative ++ magnitude.shortest.display

end DataclassSynthesis.Decimal
