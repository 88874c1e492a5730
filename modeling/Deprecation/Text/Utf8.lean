/-
# Bytes as characters

A file may hold bytes that are not UTF-8.  Where the rest of it matters all the same, its
bytes are read as characters and stray bytes, the latter given as `none`.  A stray byte is
one that belongs to no well-formed sequence.
-/

namespace Deprecation.Text

/-- The value of a byte that continues a sequence, if it is within bounds. -/
def continuation (low high : Nat) (b : UInt8) : Option Nat :=
  if low ≤ b.toNat ∧ b.toNat ≤ high then some (b.toNat % 64) else none

/-- The bounds of the byte after the first byte of a sequence: they rule out sequences that
are longer than needed, surrogates, and values beyond the last code point. -/
def secondBounds (first : Nat) : Nat × Nat :=
  if first = 0xE0 then (0xA0, 0xBF)
  else if first = 0xED then (0x80, 0x9F)
  else if first = 0xF0 then (0x90, 0xBF)
  else if first = 0xF4 then (0x80, 0x8F)
  else (0x80, 0xBF)

/-- The bytes of a text as characters and stray bytes.  `skip` bytes belong to the character
before. -/
def charsFrom : Nat → List UInt8 → List (Option Char)
  | _, [] => []
  | skip + 1, _ :: rest => charsFrom skip rest
  | 0, b :: rest =>
    let first := b.toNat
    let (low, high) := secondBounds first
    if first < 0x80 then some (Char.ofNat first) :: charsFrom 0 rest
    else if 0xC2 ≤ first ∧ first ≤ 0xDF then
      match rest.head?.bind (continuation low high) with
      | some x => some (Char.ofNat ((first - 0xC0) * 64 + x)) :: charsFrom 1 rest
      | none => none :: charsFrom 0 rest
    else if 0xE0 ≤ first ∧ first ≤ 0xEF then
      match rest.head?.bind (continuation low high), rest[1]?.bind (continuation 0x80 0xBF) with
      | some x, some y =>
        some (Char.ofNat ((first - 0xE0) * 4096 + x * 64 + y)) :: charsFrom 2 rest
      | _, _ => none :: charsFrom 0 rest
    else if 0xF0 ≤ first ∧ first ≤ 0xF4 then
      match rest.head?.bind (continuation low high), rest[1]?.bind (continuation 0x80 0xBF),
        rest[2]?.bind (continuation 0x80 0xBF) with
      | some x, some y, some z =>
        some (Char.ofNat ((first - 0xF0) * 262144 + x * 4096 + y * 64 + z))
          :: charsFrom 3 rest
      | _, _, _ => none :: charsFrom 0 rest
    else none :: charsFrom 0 rest

/-- The bytes of a text as characters and stray bytes. -/
def charsOfBytes (bytes : ByteArray) : List (Option Char) :=
  match String.fromUTF8? bytes with
  | some s => s.toList.map some
  | none => charsFrom 0 bytes.toList

end Deprecation.Text
