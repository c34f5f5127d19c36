import NorFlash.Binary64
import NorFlash.Text.Utf8

/-!
# Reading text in portions

`Portion.read` decodes the bytes of a file for a reader that takes it in portions of so many
characters. For each portion blocks of bytes are decoded until there are enough characters; the size
of a block is guessed by the bytes that a character took in the block before. A portion in which
bytes are no text cannot be read at all.

Each line end is written as one line feed.
-/

namespace NorFlash.Portion

/-- The characters of a portion. -/
def size : Nat := 16384

/-- The state of the reader. -/
structure Progress where
  /-- The number of bytes decoded. -/
  start : Nat
  /-- The bytes at the end of the last block that may start a character. -/
  carry : List UInt8
  /-- Whether the last block ended with a carriage return, which a line feed may follow. -/
  held : Bool
  /-- The characters that are decoded and not yet taken. -/
  waiting : List Char
  /-- The bytes and the characters of the last block. -/
  last : Nat × Nat

/-- The bytes to decode where `wanted` characters are. -/
def blockSize (last : Nat × Nat) (wanted : Nat) : Nat :=
  let (bytes, chars) := if 0 < last.2 ∧ last.2 < last.1 then last else (1, 1)
  let guess := (Binary64.ofRatio false bytes chars).mul (Binary64.ofRatio false wanted 1)
  max Utf8.blockSize guess.floor

/-- The characters of a block, with line ends unified, and whether a carriage return at its end is
held back. -/
def settle (held : Bool) (cs : List Char) : List Char × Bool :=
  if cs.isEmpty then ([], held)
  else
    let cs := if held then '\r' :: cs else cs
    if cs.getLast? = some '\r' then (Utf8.unifyLineEnds cs.dropLast, true)
    else (Utf8.unifyLineEnds cs, false)

/-- Take portions, each step one block or one portion. The characters of the portions before, the
last one first, are given, and those of the portion so far, of which `wanted` more are needed. -/
def run (bytes : ByteArray) :
    Nat → Progress → List Char → List Char → Nat → Utf8.Text
  | 0, _, done, part, _ => ⟨(part ++ done).reverse, none⟩
  | fuel + 1, p, done, part, wanted =>
    let (taken, waiting) := p.waiting.splitAt wanted
    let part := taken.reverse ++ part
    if taken.length = wanted then
      run bytes fuel { p with waiting := waiting } (part ++ done) [] size
    else
      let wanted := wanted - taken.length
      if bytes.size ≤ p.start then
        match Utf8.truncation p.carry with
        | some fault => ⟨done.reverse, some fault⟩
        | none => ⟨((if p.held then ['\n'] else []) ++ part ++ done).reverse, none⟩
      else
        let block := bytes.extract p.start (p.start + blockSize p.last wanted)
        let decoded := Utf8.decodeFrom 0 0 (p.carry ++ block.toList) []
        match decoded.fault with
        | some fault => ⟨done.reverse, some fault⟩
        | none =>
          let (cs, held) := settle p.held decoded.chars.reverse
          run bytes fuel ⟨p.start + block.size, decoded.rest, held, cs, (block.size, cs.length)⟩
            done part wanted

/-- The text of a file: all of it, or the portions in front of the one with a fault. Each block has
some bytes and each portion some characters. -/
def read (bytes : ByteArray) : Utf8.Text :=
  run bytes (2 * (bytes.size / Utf8.blockSize + 2)) ⟨0, [], false, [], (0, 0)⟩ [] [] size

end NorFlash.Portion
