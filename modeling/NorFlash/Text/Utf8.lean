import NorFlash.Text.Numeral

/-!
# Reading UTF-8 text

`Utf8.read` decodes the bytes of a file, block by block. A character may lie across two blocks; a
block that holds an invalid sequence cannot be read at all. The result is the characters of the
blocks before, together with the fault if there is one, so that a reader that needs no more than
the characters before the fault never meets it.
-/

namespace NorFlash

/-- Why a sequence of bytes is no character. -/
inductive Utf8Reason where
  /-- The first byte starts no character. -/
  | start
  /-- A later byte does not continue the character. -/
  | continuation
  /-- The bytes end within the character. -/
  | truncated
  deriving DecidableEq, Repr

namespace Utf8Reason

/-- The reason in words. -/
def text : Utf8Reason → String
  | start => "invalid start byte"
  | continuation => "invalid continuation byte"
  | truncated => "unexpected end of data"

end Utf8Reason

/-- A sequence of bytes that is no character. Its place is counted from the start of the bytes that
were decoded together with it. -/
structure Utf8Fault where
  /-- The first byte of the sequence. -/
  byte : UInt8
  /-- Where the sequence starts. -/
  position : Nat
  /-- The number of bytes in the sequence. -/
  length : Nat
  /-- What is wrong with it. -/
  reason : Utf8Reason
  deriving DecidableEq, Repr

namespace Utf8Fault

/-- The fault in words. -/
def message (f : Utf8Fault) : String :=
  let place :=
    if f.length = 1 then
      "byte 0x" ++ String.ofList (Numeral.lowerByte f.byte) ++ " in position "
        ++ Numeral.decimal f.position
    else
      "bytes in position " ++ Numeral.decimal f.position ++ "-"
        ++ Numeral.decimal (f.position + f.length - 1 : Nat)
  "'utf-8' codec can't decode " ++ place ++ ": " ++ f.reason.text

end Utf8Fault

namespace Utf8

/-! ## One character -/

/-- The first character of a sequence of bytes. -/
inductive Lead where
  /-- A character and the number of its bytes. -/
  | char (c : Char) (length : Nat)
  /-- An invalid sequence and the number of its bytes. -/
  | invalid (reason : Utf8Reason) (length : Nat)
  /-- The bytes end within a character. -/
  | incomplete

/-- The six bits of a continuation byte. -/
def tailBits (b : UInt8) : Nat :=
  b.toNat % 64

/-- Whether a byte continues a character. -/
def isTail (b : UInt8) : Bool :=
  decide (0x80 ≤ b ∧ b ≤ 0xBF)

/-- The bounds of the byte after the first byte of a character. -/
def secondBounds (b : UInt8) : UInt8 × UInt8 :=
  if b = 0xE0 then (0xA0, 0xBF)
  else if b = 0xED then (0x80, 0x9F)
  else if b = 0xF0 then (0x90, 0xBF)
  else if b = 0xF4 then (0x80, 0x8F)
  else (0x80, 0xBF)

/-- The number of bytes in a character that starts with this byte, zero if none does. -/
def lengthOf (b : UInt8) : Nat :=
  if b < 0x80 then 1
  else if b < 0xC2 then 0
  else if b < 0xE0 then 2
  else if b < 0xF0 then 3
  else if b < 0xF5 then 4
  else 0

/-- Whether a byte may follow the first byte `b` of a character. -/
def isSecond (b second : UInt8) : Bool :=
  decide ((secondBounds b).1 ≤ second ∧ second ≤ (secondBounds b).2)

/-- Look at the start of a sequence of bytes. -/
def lead : List UInt8 → Lead
  | [] => .incomplete
  | b :: rest =>
    match lengthOf b, rest with
    | 0, _ => .invalid .start 1
    | 1, _ => .char (Char.ofNat b.toNat) 1
    | _, [] => .incomplete
    | 2, c :: _ =>
      if isSecond b c then .char (Char.ofNat (b.toNat % 32 * 64 + tailBits c)) 2
      else .invalid .continuation 1
    | _, [c] => if isSecond b c then .incomplete else .invalid .continuation 1
    | 3, c :: d :: _ =>
      if isSecond b c then
        if isTail d then
          .char (Char.ofNat ((b.toNat % 16 * 64 + tailBits c) * 64 + tailBits d)) 3
        else .invalid .continuation 2
      else .invalid .continuation 1
    | _, [c, d] =>
      if isSecond b c then if isTail d then .incomplete else .invalid .continuation 2
      else .invalid .continuation 1
    | _, c :: d :: e :: _ =>
      if isSecond b c then
        if isTail d then
          if isTail e then
            .char (Char.ofNat (((b.toNat % 8 * 64 + tailBits c) * 64 + tailBits d) * 64
              + tailBits e)) 4
          else .invalid .continuation 3
        else .invalid .continuation 2
      else .invalid .continuation 1

/-! ## A block -/

/-- What decoding some bytes gives. -/
structure Decoded where
  /-- The characters, the last one first. -/
  chars : List Char
  /-- The bytes at the end that may start a character. -/
  rest : List UInt8
  /-- The first invalid sequence. -/
  fault : Option Utf8Fault

/-- Decode bytes of which the first stands at `position`, after characters already decoded; `skip`
bytes belong to the last of them. -/
def decodeFrom : Nat → Nat → List UInt8 → List Char → Decoded
  | _, _, [], acc => ⟨acc, [], none⟩
  | position, skip + 1, _ :: rest, acc => decodeFrom (position + 1) skip rest acc
  | position, 0, b :: rest, acc =>
    match lead (b :: rest) with
    | .char c length => decodeFrom (position + 1) (length - 1) rest (c :: acc)
    | .invalid reason length => ⟨acc, b :: rest, some ⟨b, position, length, reason⟩⟩
    | .incomplete => ⟨acc, b :: rest, none⟩

/-! ## A file -/

/-- Text as far as it can be decoded. -/
structure Text where
  /-- The characters before the fault. -/
  chars : List Char
  /-- What stands in the way of reading on. -/
  fault : Option Utf8Fault

/-- The number of bytes that are decoded together. -/
def blockSize : Nat := 8192

/-- The fault of a file that ends with these bytes, which may start a character. -/
def truncation : List UInt8 → Option Utf8Fault
  | [] => none
  | b :: rest =>
    match lead (b :: rest) with
    | .invalid reason length => some ⟨b, 0, length, reason⟩
    | _ => some ⟨b, 0, rest.length + 1, .truncated⟩

/-- Decode `blocks` blocks of `bytes` from `start` on, after the bytes `carry` that the block before
left over and after characters already decoded, the last one first. -/
def readBlocks (bytes : ByteArray) : Nat → Nat → List UInt8 → List Char → Text
  | 0, _, carry, acc => ⟨acc.reverse, truncation carry⟩
  | blocks + 1, start, carry, acc =>
    let decoded :=
      decodeFrom 0 0 (carry ++ (bytes.extract start (start + blockSize)).toList) []
    match decoded.fault with
    | some fault => ⟨acc.reverse, some fault⟩
    | none => readBlocks bytes blocks (start + blockSize) decoded.rest (decoded.chars ++ acc)

/-- The text of a file. -/
def read (bytes : ByteArray) : Text :=
  readBlocks bytes ((bytes.size + blockSize - 1) / blockSize) 0 [] []

/-! ## Lines -/

/-- Split text into lines at line feeds, carriage returns and pairs of them. `line` holds the
characters of the line so far, the last one first, and `open?` tells whether the text may go on
after its last character, so that its last line is not complete. -/
def linesFrom (open? : Bool) : List Char → List Char → List (List Char)
  | line, [] => if open? || line.isEmpty then [] else [line.reverse]
  | line, ['\r'] => if open? then [] else [line.reverse]
  | line, '\r' :: '\n' :: cs => line.reverse :: linesFrom open? [] cs
  | line, '\r' :: cs => line.reverse :: linesFrom open? [] cs
  | line, '\n' :: cs => line.reverse :: linesFrom open? [] cs
  | line, c :: cs => linesFrom open? (c :: line) cs

/-- The lines of a text that can be read. -/
def Text.lines (t : Text) : List (List Char) :=
  linesFrom t.fault.isSome [] t.chars

/-- Text with each line end written as one line feed, behind characters already read, the last one
first; the result has its last character first too. -/
def unifyOnto (acc : List Char) : List Char → List Char
  | [] => acc
  | '\r' :: '\n' :: cs => unifyOnto ('\n' :: acc) cs
  | '\r' :: cs => unifyOnto ('\n' :: acc) cs
  | c :: cs => unifyOnto (c :: acc) cs

/-- Text with each line end written as one line feed. -/
def unifyLineEnds (cs : List Char) : List Char :=
  (unifyOnto [] cs).reverse

end Utf8

end NorFlash
