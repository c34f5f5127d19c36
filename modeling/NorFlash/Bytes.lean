/-!
# Byte strings

Packed byte strings (`ByteArray`) and the operations images are made of:

* `Bytes.filled`, a run of one byte;
* `Bytes.slice` and `Bytes.splice`, which read and replace the bytes between two bounds that may
  lie outside the string or count from its end;
* `Bytes.trimBelow`, the length without the run of one byte at the end;
* `Bytes.word?`, the little-endian 32-bit word at an offset.
-/

namespace NorFlash.Bytes

/-! ## Runs -/

/-- Append `n` times the byte `b`. -/
def fill (b : UInt8) : Nat → ByteArray → ByteArray
  | 0, acc => acc
  | n + 1, acc => fill b n (acc.push b)

/-- A string of `n` bytes `b`. -/
def filled (n : Nat) (b : UInt8) : ByteArray :=
  fill b n (ByteArray.emptyWithCapacity n)

theorem toList_fill (b : UInt8) (n : Nat) (acc : ByteArray) :
    (fill b n acc).data.toList = acc.data.toList ++ List.replicate n b := by
  induction n generalizing acc with
  | zero => simp [fill]
  | succ n ih => simp [fill, ih, ByteArray.data_push, List.replicate_succ]

theorem toList_filled (n : Nat) (b : UInt8) :
    (filled n b).data.toList = List.replicate n b := by
  rw [filled, toList_fill]
  rfl

/-! ## Bounds and slices -/

/-- The position in a string of `size` bytes that the bound `i` stands for: a negative bound counts
from the end, and bounds beyond either end stand for that end. -/
def position (size : Nat) (i : Int) : Nat :=
  if i < 0 then (i + size).toNat else min i.toNat size

theorem position_le (size : Nat) (i : Int) : position size i ≤ size := by
  unfold position; split <;> omega

/-- The bytes from the bound `start` up to the bound `stop`, none when the bounds are reversed. -/
def slice (b : ByteArray) (start stop : Int) : ByteArray :=
  b.extract (position b.size start) (position b.size stop)

/-- `b` with the bytes between the bounds replaced by `new`; reversed bounds insert at `start`. -/
def splice (b : ByteArray) (start stop : Int) (new : ByteArray) : ByteArray :=
  let i := position b.size start
  let j := max i (position b.size stop)
  b.extract 0 i ++ new ++ b.extract j b.size

/-! ## Scans -/

/-- Every one of the first `n` bytes is `x`. -/
def allBelow (b : ByteArray) (x : UInt8) : Nat → Bool
  | 0 => true
  | n + 1 => (if h : n < b.size then b[n] == x else false) && allBelow b x n

/-- Every byte is `x`. -/
def all (b : ByteArray) (x : UInt8) : Bool :=
  allBelow b x b.size

/-- The length of the first `n` bytes without the bytes `x` at their end. -/
def trimBelow (b : ByteArray) (x : UInt8) : Nat → Nat
  | 0 => 0
  | n + 1 => if (if h : n < b.size then b[n] == x else false) then trimBelow b x n else n + 1

/-! ## Words -/

/-- The 32-bit word whose bytes are `a`, `b`, `c`, `d`, the least significant one first. -/
def wordOf (a b c d : UInt8) : Nat :=
  a.toNat + 256 * (b.toNat + 256 * (c.toNat + 256 * d.toNat))

/-- The little-endian word that starts at byte `i`, if all its four bytes are there. -/
def word? (b : ByteArray) (i : Nat) : Option Nat :=
  if h : i + 3 < b.size then
    some (wordOf b[i] b[i + 1] b[i + 2] b[i + 3])
  else
    none

/-- The bytes of `word`, the least significant one first. -/
def wordBytes (word : Nat) : List UInt8 :=
  [UInt8.ofNat word, UInt8.ofNat (word / 256), UInt8.ofNat (word / 65536),
    UInt8.ofNat (word / 16777216)]

end NorFlash.Bytes
