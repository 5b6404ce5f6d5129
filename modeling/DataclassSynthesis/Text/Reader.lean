/-!
# Readers

A reader consumes characters from the front of a text and may fail. Repetition is bounded by the
number of characters that are left, because every useful round consumes at least one.
-/

namespace DataclassSynthesis

/-- A computation that consumes characters and may fail. -/
abbrev Reader := StateT (List Char) Option

namespace Reader

variable {α : Type}

/-- The next character, which is not consumed. -/
def peek : Reader (Option Char) := fun input => some (input.head?, input)

/-- The number of characters that are left. -/
def remaining : Reader Nat := fun input => some (input.length, input)

/-- Consume one character that passes a test. -/
def satisfy (test : Char → Bool) : Reader Char
  | [] => none
  | c :: rest => if test c then some (c, rest) else none

/-- Consume a given character. -/
def char (expected : Char) : Reader Unit := do
  let _ ← satisfy (· == expected)

/-- Consume the longest run of characters that pass a test. -/
def takeWhile (test : Char → Bool) : Reader (List Char) :=
  fun input => some (input.takeWhile test, input.dropWhile test)

/-- Consume a run of characters that pass a test, at least one of them. -/
def takeWhile1 (test : Char → Bool) : Reader (List Char) := do
  let first ← satisfy test
  let rest ← takeWhile test
  pure (first :: rest)

/-- Consume given characters when the text starts with them, and tell whether it does. -/
def startsWith (expected : List Char) : Reader Bool := fun input =>
  if expected.isPrefixOf input then some (true, input.drop expected.length) else some (false, input)

/-- Consume given characters. -/
def exactly (expected : List Char) : Reader Unit := do
  let found ← startsWith expected
  guard found

/-- Succeed at the end of the text only. -/
def atEnd : Reader Unit := do
  let next ← peek
  guard next.isNone

/-- Repeat a reader while it reads something, at most the given number of times. -/
def manyWithin (reader : Reader (Option α)) : Nat → Reader (List α)
  | 0 => pure []
  | rounds + 1 => do
    match ← reader with
    | none => pure []
    | some first => do
      let rest ← manyWithin reader rounds
      pure (first :: rest)

/-- Repeat a reader while it reads something. -/
def many (reader : Reader (Option α)) : Reader (List α) := do
  let rounds ← remaining
  manyWithin reader rounds

/-- Run a reader on a whole text. -/
def read? (reader : Reader α) (text : List Char) : Option α := do
  let (result, _) ← (reader <* atEnd) text
  pure result

end Reader

end DataclassSynthesis
