import DataclassSynthesis.Text.Digits
import DataclassSynthesis.Toml.Value

/-!
# TOML scalars without quotes

Numbers, booleans, dates and times are recognised from their literals as a whole. Integers must fit
64 bits, a float must not exceed the largest one, and the parts of dates and times must be in
range.
-/

namespace DataclassSynthesis.Toml

/-- Drop the underscores of a digit group. Each underscore must stand between two digits. -/
def ungroup? (isDigit : Char → Bool) : List Char → Option (List Char)
  | [] => none
  | [last] => if isDigit last then some [last] else none
  | first :: '_' :: rest =>
    if isDigit first then (ungroup? isDigit rest).map (first :: ·) else none
  | first :: rest => if isDigit first then (ungroup? isDigit rest).map (first :: ·) else none

/-- Whether decimal digits have no needless zero in front. -/
def noLeadingZero (digits : List Char) : Bool := digits.length == 1 || digits.head? != some '0'

/-- Split off a sign; the result tells whether it is a minus. -/
def splitSign : List Char → Bool × List Char
  | '-' :: rest => (true, rest)
  | '+' :: rest => (false, rest)
  | rest => (false, rest)

/-- The digits of an unsigned decimal integer. -/
def wholeDigits? (literal : List Char) : Option (List Char) := do
  let digits ← ungroup? Char.isDigit literal
  guard (noLeadingZero digits)
  pure digits

/-- The bound of the magnitude of an integer; only a negative one reaches it. -/
def integerBound : Nat := 0x8000000000000000

/-- An integer that is written with a base. -/
def basedInteger? (base : Nat) (literal : List Char) : Option Int := do
  let digits ← ungroup? (Text.isDigitTo base) literal
  let value ← Text.number? base digits
  guard (value < integerBound)
  pure value

/-- An integer literal. -/
def integer? : List Char → Option Int
  | '0' :: 'x' :: digits => basedInteger? 16 digits
  | '0' :: 'o' :: digits => basedInteger? 8 digits
  | '0' :: 'b' :: digits => basedInteger? 2 digits
  | literal => do
    let (negative, magnitude) := splitSign literal
    let value ← Text.number? 10 (← wholeDigits? magnitude)
    guard (if negative then value ≤ integerBound else value < integerBound)
    pure (if negative then -value else value)

/-- Whether `digits * 10 ^ exponent` is rounded to a finite number: whether it lies below the
middle between the largest finite number and the next power of two. -/
def isFiniteFloat (digits : Nat) (exponent : Int) : Bool :=
  let size := exponent + (Nat.toDigits 10 digits).length
  let limit := 0x3fffffffffffff * Nat.pow 2 970
  if digits == 0 ∨ size ≤ 308 then true
  else if 310 ≤ size then false
  else decide (digits * Nat.pow 10 exponent.toNat < limit * Nat.pow 10 (-exponent).toNat)

/-- The exponent of a float literal, after its mark. -/
def exponent? (literal : List Char) : Option Int := do
  let (negative, digits) := splitSign literal
  let value ← Text.number? 10 (← ungroup? Char.isDigit digits)
  pure (if negative then -value else value)

/-- Whether a character marks an exponent. -/
def isExponentMark (c : Char) : Bool := c == 'e' || c == 'E'

/-- The digits of a fraction and the exponent, from what follows the whole part of a float. One of
them must be there. -/
def fractionAndExponent? : List Char → Option (List Char × Int)
  | '.' :: rest => do
    let digits ← ungroup? Char.isDigit (rest.takeWhile fun c => !isExponentMark c)
    match rest.dropWhile fun c => !isExponentMark c with
    | [] => pure (digits, 0)
    | _ :: scale => do
      let exponent ← exponent? scale
      pure (digits, exponent)
  | mark :: scale => do
    guard (isExponentMark mark)
    let exponent ← exponent? scale
    pure ([], exponent)
  | [] => none

/-- Whether a literal is a float. A number too large for any finite one is refused unless it is
negative. -/
def isFloat (literal : List Char) : Bool :=
  let (negative, magnitude) := splitSign literal
  if magnitude == ['i', 'n', 'f'] || magnitude == ['n', 'a', 'n'] then true
  else
    let isWhole := fun c => c.isDigit || c == '_'
    match wholeDigits? (magnitude.takeWhile isWhole),
      fractionAndExponent? (magnitude.dropWhile isWhole) with
    | some whole, some (fraction, exponent) =>
      let digits := (Text.number? 10 (whole ++ fraction)).getD 0
      negative || isFiniteFloat digits (exponent - fraction.length)
    | _, _ => false

/-- Read two digits that denote a number within bounds. -/
def twoDigits? (low high : Nat) : List Char → Option (Nat × List Char)
  | tens :: ones :: rest => do
    let value ← Text.number? 10 [tens, ones]
    guard (low ≤ value ∧ value ≤ high)
    pure (value, rest)
  | _ => none

/-- The number of days of a month. -/
def daysIn (year month : Nat) : Nat :=
  let leap := year % 4 == 0 && (year % 100 != 0 || year % 400 == 0)
  if month == 2 then (if leap then 29 else 28)
  else if month == 4 || month == 6 || month == 9 || month == 11 then 30
  else 31

/-- Read a date, and give what follows it. -/
def date? : List Char → Option (List Char)
  | a :: b :: c :: d :: '-' :: rest => do
    let year ← Text.number? 10 [a, b, c, d]
    match ← twoDigits? 1 12 rest with
    | (month, '-' :: rest) => do
      let (_, rest) ← twoDigits? 1 (daysIn year month) rest
      pure rest
    | _ => none
  | _ => none

/-- Read a time of day, and give what follows it. -/
def time? (literal : List Char) : Option (List Char) := do
  match ← twoDigits? 0 23 literal with
  | (_, ':' :: rest) =>
    match ← twoDigits? 0 59 rest with
    | (_, ':' :: rest) => do
      let (_, rest) ← twoDigits? 0 60 rest
      match rest with
      | '.' :: fraction => do
        guard (fraction.head?.any Char.isDigit)
        pure (fraction.dropWhile Char.isDigit)
      | rest => pure rest
    | _ => none
  | _ => none

/-- Whether a text is a distance from universal time, or nothing. -/
def isOffset : List Char → Bool
  | [] | ['Z'] | ['z'] => true
  | sign :: rest =>
    (sign == '+' || sign == '-') &&
      match twoDigits? 0 23 rest with
      | some (_, ':' :: rest) => (twoDigits? 0 59 rest).any fun (_, rest) => rest.isEmpty
      | _ => false

/-- Whether a literal is a date. -/
def isDate (literal : List Char) : Bool := (date? literal).any List.isEmpty

/-- Whether a literal is a date, a time, or both. -/
def isMoment (literal : List Char) : Bool :=
  match date? literal with
  | some [] => true
  | some (mark :: rest) =>
    (mark == 'T' || mark == 't' || mark == ' ') && (time? rest).any isOffset
  | none => (time? literal).any List.isEmpty

/-- The value of a literal without quotes. -/
def scalar? (literal : List Char) : Option Value :=
  if literal == ['t', 'r', 'u', 'e'] then some (.boolean true)
  else if literal == ['f', 'a', 'l', 's', 'e'] then some (.boolean false)
  else if isMoment literal then some (.moment (String.ofList literal))
  else if isFloat literal then some (.float (String.ofList literal))
  else (integer? literal).map .integer

end DataclassSynthesis.Toml
