/-!
# Reading UTF-8

A byte sequence is cut into characters and maximal invalid parts. An invalid part is the longest
run of bytes that begins some character but cannot be completed, or else a single byte; reading
leniently puts one replacement character in its place, and reading strictly refuses it.
-/

namespace DataclassSynthesis.Text

/-- The character that stands for an invalid part of a byte sequence. -/
def replacement : Char := Char.ofNat 0xFFFD

/-- What a first byte announces: the number of continuation bytes, the bits it carries itself,
and the range of the byte that follows it. -/
structure LeadByte where
  continuations : Nat
  bits : Nat
  low : Nat
  high : Nat

/-- Read a first byte of a character with continuation bytes. -/
def LeadByte.ofByte? (byte : Nat) : Option LeadByte :=
  if 0xC2 ≤ byte ∧ byte ≤ 0xDF then some ⟨1, byte - 0xC0, 0x80, 0xBF⟩
  else if byte = 0xE0 then some ⟨2, 0, 0xA0, 0xBF⟩
  else if byte = 0xED then some ⟨2, 0xD, 0x80, 0x9F⟩
  else if 0xE1 ≤ byte ∧ byte ≤ 0xEF then some ⟨2, byte - 0xE0, 0x80, 0xBF⟩
  else if byte = 0xF0 then some ⟨3, 0, 0x90, 0xBF⟩
  else if 0xF1 ≤ byte ∧ byte ≤ 0xF3 then some ⟨3, byte - 0xF0, 0x80, 0xBF⟩
  else if byte = 0xF4 then some ⟨3, 4, 0x80, 0x8F⟩
  else none

/-- Read up to `count` continuation bytes, the first of them within a range. The result is the
code point when all are present, and the number of bytes read. -/
def continuations (count value low high : Nat) (bytes : List UInt8) : Option Nat × Nat :=
  match count, bytes with
  | 0, _ => (some value, 0)
  | _ + 1, [] => (none, 0)
  | remaining + 1, byte :: rest =>
    if low ≤ byte.toNat ∧ byte.toNat ≤ high then
      let (result, read) :=
        continuations remaining (value * 64 + (byte.toNat - 0x80)) 0x80 0xBF rest
      (result, read + 1)
    else (none, 0)

/-- Cut bytes into characters and invalid parts; an invalid part yields nothing. The first
argument counts the bytes that belong to a part that was read already. -/
def cutParts : Nat → List UInt8 → List (Option Char)
  | _, [] => []
  | skipped + 1, _ :: rest => cutParts skipped rest
  | 0, byte :: rest =>
    if byte < 0x80 then some (Char.ofNat byte.toNat) :: cutParts 0 rest
    else match LeadByte.ofByte? byte.toNat with
      | none => none :: cutParts 0 rest
      | some lead =>
        let (code, read) := continuations lead.continuations lead.bits lead.low lead.high rest
        code.map Char.ofNat :: cutParts read rest

/-- Read bytes as text, with a replacement character for each invalid part. -/
def decodeLenient (bytes : List UInt8) : String :=
  String.ofList ((cutParts 0 bytes).map fun part => part.getD replacement)

/-- Read bytes as text when every part is a character. -/
def decode? (bytes : List UInt8) : Option String :=
  ((cutParts 0 bytes).mapM id).map String.ofList

end DataclassSynthesis.Text
