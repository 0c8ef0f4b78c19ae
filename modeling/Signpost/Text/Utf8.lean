/-!
# UTF-8

The bytes of a text, and the text of any bytes. A sequence of bytes that is no character is read
as U+FFFD, one for each longest start of a character that breaks off.

## Main definitions

* `Utf8.encode`: the bytes of a text.
* `Utf8.decode`: the text of a list of bytes.
-/

namespace Signpost.Utf8

/-- The bytes of a text. -/
def encode (cs : List Char) : List UInt8 := cs.flatMap String.utf8EncodeChar

/-- The character that stands for bytes that are no character. -/
def replacement : Char := '\uFFFD'

/-- A character whose first bytes are read. -/
structure Pending where
  /-- How many bytes are still to come, less one. -/
  more : Nat
  /-- The least value of the next byte. -/
  lo : Nat
  /-- The greatest value of the next byte. -/
  hi : Nat
  /-- The bits read so far. -/
  bits : Nat
deriving DecidableEq, Repr

/-- What a byte leads to: finished characters, and a character in progress. -/
abbrev Step := List Char × Option Pending

/-- A byte where a character may start. -/
def lead (b : UInt8) : Step :=
  let n := b.toNat
  if n < 0x80 then ([Char.ofNat n], none)
  else if n < 0xC2 then ([replacement], none)
  else if n < 0xE0 then ([], some ⟨0, 0x80, 0xBF, n - 0xC0⟩)
  else if n = 0xE0 then ([], some ⟨1, 0xA0, 0xBF, 0⟩)
  else if n = 0xED then ([], some ⟨1, 0x80, 0x9F, 13⟩)
  else if n < 0xF0 then ([], some ⟨1, 0x80, 0xBF, n - 0xE0⟩)
  else if n = 0xF0 then ([], some ⟨2, 0x90, 0xBF, 0⟩)
  else if n < 0xF4 then ([], some ⟨2, 0x80, 0xBF, n - 0xF0⟩)
  else if n = 0xF4 then ([], some ⟨2, 0x80, 0x8F, 4⟩)
  else ([replacement], none)

/-- A byte after the first bytes of a character. One that does not fit ends that character and is
read as a first byte itself. -/
def Pending.next (p : Pending) (b : UInt8) : Step :=
  let n := b.toNat
  if p.lo ≤ n ∧ n ≤ p.hi then
    let bits := p.bits * 64 + (n - 0x80)
    match p.more with
    | 0 => ([Char.ofNat bits], none)
    | more + 1 => ([], some ⟨more, 0x80, 0xBF, bits⟩)
  else (replacement :: (lead b).1, (lead b).2)

/-- The characters of the bytes that follow the start of a character, or nothing. -/
def decodeFrom : Option Pending → List UInt8 → List Char
  | none, [] => []
  | some _, [] => [replacement]
  | none, b :: bs => (lead b).1 ++ decodeFrom (lead b).2 bs
  | some p, b :: bs => (p.next b).1 ++ decodeFrom (p.next b).2 bs

/-- The characters of a list of bytes. -/
def decode (bs : List UInt8) : List Char := decodeFrom none bs

end Signpost.Utf8
