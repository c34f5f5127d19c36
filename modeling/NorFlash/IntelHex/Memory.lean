import Std.Data.TreeMap
import NorFlash.Bytes
import NorFlash.IntelHex.Record
import NorFlash.Text.Utf8

/-!
# Memory described by Intel HEX

A `Memory` holds bytes at some addresses. `Memory.ofLines` runs the records of a file over it:
data is stored relative to the last base, and no address is given twice. `Memory.flatten` shows a
window of the memory as a string of bytes, with erased bytes where there is none.
-/

namespace NorFlash.IntelHex

/-- Bytes at addresses. -/
abbrev Memory := Std.TreeMap Nat UInt8

/-- What the records read so far amount to. -/
structure Loader where
  /-- The bytes stored. -/
  memory : Memory
  /-- The address that data is relative to. -/
  base : Nat
  /-- Whether there was a start record. -/
  started : Bool

namespace Loader

/-- Nothing is read. -/
def empty : Loader :=
  ⟨∅, 0, false⟩

/-- Store bytes from an address on. An address that has a byte is a fault. -/
def store (memory : Memory) (address : Nat) : List UInt8 → Except RecordCause Memory
  | [] => .ok memory
  | b :: bs =>
    if memory.contains address then .error (.overlap address)
    else store (memory.insert address b) (address + 1) bs

/-- The effect of a record, other than the one that ends the file. -/
def step (l : Loader) : Record → Except RecordCause Loader
  | .data address bytes => (store l.memory (l.base + address) bytes).map fun memory => { l with memory }
  | .endOfFile => .ok l
  | .segmentBase value => .ok { l with base := value * 16 }
  | .linearBase value => .ok { l with base := value * 65536 }
  | .start _ _ => if l.started then .error .secondStart else .ok { l with started := true }

end Loader

namespace Memory

/-- How reading the lines of a file ends. -/
inductive Ended where
  /-- The end record was met. -/
  | atRecord (memory : Memory)
  /-- There are no more lines. -/
  | atEnd (memory : Memory)

/-- Run over lines, the first of them with the given number. Empty lines stand for nothing. -/
def runLines : Nat → List (List Char) → Loader → Except RecordFault Ended
  | _, [], l => .ok (.atEnd l.memory)
  | line, [] :: rest, l => runLines (line + 1) rest l
  | line, cs :: rest, l =>
    match Record.decode cs with
    | .error cause => .error ⟨line, cause⟩
    | .ok .endOfFile => .ok (.atRecord l.memory)
    | .ok record =>
      match l.step record with
      | .error cause => .error ⟨line, cause⟩
      | .ok next => runLines (line + 1) rest next

/-- Why a file describes no memory. -/
inductive Fault where
  /-- A line cannot be used. -/
  | record (fault : RecordFault)
  /-- The file is no text. -/
  | text (fault : Utf8Fault)

/-- The memory that a text describes. A fault of the text counts only where lines are read up to
it. -/
def ofText (text : Utf8.Text) : Except Fault Memory :=
  match runLines 1 text.lines Loader.empty with
  | .error fault => .error (.record fault)
  | .ok (.atRecord memory) => .ok memory
  | .ok (.atEnd memory) =>
    match text.fault with
    | some fault => .error (.text fault)
    | none => .ok memory

/-- The memory that a file describes. -/
def ofFile (bytes : ByteArray) : Except Fault Memory :=
  ofText (Utf8.read bytes)

/-- `bytes` with the byte at `i` set, if there is one. -/
def put (bytes : ByteArray) (i : Nat) (b : UInt8) : ByteArray :=
  if h : i < bytes.size then bytes.set i b h else bytes

/-- The `size` bytes from address `start` on, erased where the memory has none. -/
def flatten (m : Memory) (start size : Nat) : ByteArray :=
  m.foldl (fun bytes address b => if start ≤ address then put bytes (address - start) b else bytes)
    (Bytes.filled size 0xFF)

/-- All bytes from the lowest address to the highest one; none for an empty memory. -/
def span (m : Memory) : ByteArray :=
  match m.minKey?, m.maxKey? with
  | some low, some high => flatten m low (high + 1 - low)
  | _, _ => ByteArray.empty

end Memory

end NorFlash.IntelHex
