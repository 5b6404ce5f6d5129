/-!
# Shortest decimals of binary fractions

A positive binary floating-point number stands for every real that rounds to it. Of the decimals
in that interval, the shortest one has the fewest significant digits and, among those, lies
nearest to the number; of two that are equally near it is the larger.
-/

namespace DataclassSynthesis.Decimal

/-- The positive decimal `digits * 10 ^ exponent`. -/
structure Numeral where
  digits : Nat
  exponent : Int
deriving DecidableEq

/-- The positive number `significand * 2 ^ exponent`. It is narrow below when the numbers just
under it lie at half the distance of those above it. -/
structure Binary where
  significand : Nat
  exponent : Int
  narrowBelow : Bool

/-- Compare `left * 2 ^ binary` with `right * 10 ^ decimal` after clearing negative exponents:
the two products of natural numbers. -/
def crossProducts (left : Nat) (binary : Int) (right : Nat) (decimal : Int) : Nat × Nat :=
  (left * Nat.pow 2 binary.toNat * Nat.pow 10 (-decimal).toNat,
    right * Nat.pow 10 decimal.toNat * Nat.pow 2 (-binary).toNat)

namespace Binary

/-- Whether a decimal rounds to the number. The ends of the interval belong to it when the
significand is even. -/
def roundsFrom (number : Binary) (numeral : Numeral) : Bool :=
  let below := 4 * number.significand - (if number.narrowBelow then 1 else 2)
  let above := 4 * number.significand + 2
  let (low, fromLow) := crossProducts below (number.exponent - 2) numeral.digits numeral.exponent
  let (high, fromHigh) := crossProducts above (number.exponent - 2) numeral.digits numeral.exponent
  if number.significand % 2 == 0 then decide (low ≤ fromLow ∧ fromHigh ≤ high)
  else decide (low < fromLow ∧ fromHigh < high)

/-- The largest multiple of a power of ten that is not above the number. -/
def floorOn (number : Binary) (exponent : Int) : Nat :=
  let (value, unit) := crossProducts number.significand number.exponent 1 exponent
  value / unit

/-- Whether the number lies strictly nearer to `digits * 10 ^ exponent` than to the next multiple
of the power of ten above it. -/
def nearerBelow (number : Binary) (digits : Nat) (exponent : Int) : Bool :=
  let (value, middle) :=
    crossProducts (2 * number.significand) number.exponent (2 * digits + 1) exponent
  decide (value < middle)

/-- The decimal with a given unit that rounds to the number and lies nearest to it. -/
def nearestOn? (number : Binary) (exponent : Int) : Option Numeral :=
  let lower : Numeral := ⟨number.floorOn exponent, exponent⟩
  let upper : Numeral := ⟨lower.digits + 1, exponent⟩
  match number.roundsFrom lower && lower.digits != 0, number.roundsFrom upper with
  | true, true => some (if number.nearerBelow lower.digits exponent then lower else upper)
  | true, false => some lower
  | false, true => some upper
  | false, false => none

/-- The exponent of the leading decimal digit, found by correcting an estimate from the number of
binary digits. -/
def leadingExponent (number : Binary) : Int :=
  let estimate := (number.exponent + number.significand.log2) * 30103 / 100000
  let candidates := [estimate + 2, estimate + 1, estimate, estimate - 1]
  (candidates.find? fun exponent => number.floorOn exponent != 0).getD (estimate - 2)

/-- Try units from the coarsest to the finest. -/
def firstDecimal (number : Binary) : Nat → Int → Numeral
  | 0, exponent => ⟨number.floorOn exponent, exponent⟩
  | steps + 1, exponent =>
    (number.nearestOn? exponent).getD (number.firstDecimal steps (exponent - 1))

/-- The shortest decimal of the number. Seventeen digits always suffice. -/
def shortest (number : Binary) : Numeral := number.firstDecimal 17 number.leadingExponent

end Binary

/-- Drop trailing zeros of the digits into the exponent. -/
def stripZeros : Nat → Numeral → Numeral
  | 0, numeral => numeral
  | steps + 1, numeral =>
    if numeral.digits % 10 == 0 && numeral.digits != 0 then
      stripZeros steps ⟨numeral.digits / 10, numeral.exponent + 1⟩
    else numeral

/-- The same decimal with a last digit that is not zero. -/
def Numeral.normalize (numeral : Numeral) : Numeral :=
  stripZeros (Nat.toDigits 10 numeral.digits).length numeral

end DataclassSynthesis.Decimal
