/-!
# Lines of a source text

A source text is divided into lines at its newlines, and a byte offset is located by its line and
its column. Columns count the characters that end between the start of the line and the offset.
-/

namespace DataclassSynthesis.Text

/-- A source text by its bytes. -/
abbrev Bytes := List UInt8

/-- The code of the newline character. -/
def newline : UInt8 := 10

/-- The bytes of each line, with its newline. A newline at the end is followed by an empty line. -/
def lines : Bytes → List Bytes
  | [] => [[]]
  | byte :: rest =>
    if byte = newline then [byte] :: lines rest
    else
      match lines rest with
      | [] => [[byte]]
      | first :: others => (byte :: first) :: others

/-- A line of a source text: its number, counted from zero, the offset at which it starts, and its
bytes. -/
structure Line where
  number : Nat
  start : Nat
  bytes : Bytes

/-- The last of the lines that starts at or before an offset. -/
def lineAtFrom (offset : Nat) (number start : Nat) : Bytes → List Bytes → Line
  | current, [] => ⟨number, start, current⟩
  | current, next :: rest =>
    if start + current.length ≤ offset then
      lineAtFrom offset (number + 1) (start + current.length) next rest
    else ⟨number, start, current⟩

/-- The line that holds an offset. An offset past the end belongs to the last line. -/
def lineAt (source : Bytes) (offset : Nat) : Line :=
  match lines source with
  | [] => ⟨0, 0, []⟩
  | first :: rest => lineAtFrom offset 0 0 first rest

/-- Whether a byte continues a character. -/
def isContinuation (byte : UInt8) : Bool := byte.toNat / 64 == 2

/-- The number of characters that end within the first `count` bytes of a line. A character ends
where the next byte does not continue it. -/
def charactersWithin : Nat → Bytes → Nat
  | 0, _ | _, [] => 0
  | _ + 1, [_] => 1
  | count + 1, _ :: next :: rest =>
    (if isContinuation next then 0 else 1) + charactersWithin count (next :: rest)

/-- A position in a source text, counted from one. -/
structure Position where
  line : Nat
  column : Nat
deriving DecidableEq

/-- The position of an offset. -/
def position (source : Bytes) (offset : Nat) : Position :=
  let line := lineAt source offset
  ⟨line.number + 1, charactersWithin (offset - line.start) line.bytes + 1⟩

end DataclassSynthesis.Text
