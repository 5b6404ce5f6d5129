/-!
# Digits

Reading the digits of numbers in positional notation.
-/

namespace DataclassSynthesis.Text

/-- The value of a digit, hexadecimal digits included. -/
def digitValue? (c : Char) : Option Nat :=
  if '0' ≤ c ∧ c ≤ '9' then some (c.toNat - '0'.toNat)
  else if 'a' ≤ c ∧ c ≤ 'f' then some (c.toNat - 'a'.toNat + 10)
  else if 'A' ≤ c ∧ c ≤ 'F' then some (c.toNat - 'A'.toNat + 10)
  else none

/-- Whether a character is a digit to a base of at most sixteen. -/
def isDigitTo (base : Nat) (c : Char) : Bool := (digitValue? c).any (· < base)

/-- The number that digits to a base denote, when there are digits only and at least one. -/
def number? (base : Nat) (digits : List Char) : Option Nat :=
  if digits.isEmpty || !digits.all (isDigitTo base) then none
  else some (digits.foldl (fun value digit => value * base + (digitValue? digit).getD 0) 0)

/-- The character with a given code point, when there is one. -/
def scalar? (code : Nat) : Option Char :=
  if code < 0xD800 ∨ (0xDFFF < code ∧ code < 0x110000) then some (Char.ofNat code) else none

end DataclassSynthesis.Text
