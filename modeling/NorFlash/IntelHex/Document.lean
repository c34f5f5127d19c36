import NorFlash.IntelHex.Record

/-!
# Writing Intel HEX

`Document.ofBytes?` lists the records for bytes at consecutive addresses: data records of at most 16
bytes that do not cross a 64 KiB boundary. Where the last address has more than 16 bits, each 64 KiB
page starts with a record of its base, and a page whose number has more than 16 bits cannot be
written.
-/

namespace NorFlash.IntelHex

/-- The records of a file. -/
abbrev Document := List Record

namespace Document

/-- The addresses of one page. -/
def pageSize : Nat := 65536

/-- The most bytes in one data record. -/
def recordSize : Nat := 16

/-- The bytes that go into a data record at an address of which `left` bytes are to be written. -/
def chunkLength (address : Int) (left : Nat) : Nat :=
  min (min recordSize (pageSize - (address % pageSize).toNat)) left

theorem chunkLength_pos (address : Int) (left : Nat) (h : 0 < left) :
    0 < chunkLength address left := by
  have h1 : 0 ≤ address % ((65536 : Nat) : Int) := Int.emod_nonneg _ (by decide)
  have h2 : address % ((65536 : Nat) : Int) < 65536 := Int.emod_lt_of_pos _ (by decide)
  simp only [chunkLength, recordSize, pageSize]
  omega

/-- Cut bytes, the first of them at `address`, into the parts that each go into one record. -/
def chunks (address : Int) (bytes : List UInt8) : List (Int × List UInt8) :=
  match bytes with
  | [] => []
  | b :: bs =>
    let n := chunkLength address (b :: bs).length
    (address, (b :: bs).take n) :: chunks (address + n) ((b :: bs).drop n)
termination_by bytes.length
decreasing_by
  have := chunkLength_pos address (b :: bs).length (by simp)
  simp only [List.length_drop]
  simp only [List.length_cons] at *
  omega

/-- The data record of a part. -/
def dataRecord (part : Int × List UInt8) : Record :=
  .data (part.1 % pageSize).toNat part.2

/-- The record of the base of the page an address lies in, if the page has a number of 16 bits. -/
def pageRecord? (address : Int) : Option Record :=
  let page := Int.fdiv address pageSize
  if 0 ≤ page ∧ page < 65536 then some (.linearBase page.toNat) else none

/-- The records of the parts; `first` tells whether nothing is written before. -/
def pagedRecords (first : Bool) : List (Int × List UInt8) → Option (List Record)
  | [] => some []
  | part :: parts => do
    let rest ← pagedRecords false parts
    if first ∨ part.1 % pageSize = 0 then
      let page ← pageRecord? part.1
      pure (page :: dataRecord part :: rest)
    else
      pure (dataRecord part :: rest)

/-- The records of bytes of which the first stands at `address`. -/
def ofBytes? (address : Int) (bytes : List UInt8) : Option Document :=
  let parts := chunks address bytes
  let records :=
    if address + bytes.length - 1 ≤ 65535 then some (parts.map dataRecord)
    else pagedRecords true parts
  records.map (· ++ [.endOfFile])

/-- The text of a file, one record a line. -/
def render (d : Document) : List Char :=
  d.flatMap fun record => record.encode ++ ['\n']

end Document

end NorFlash.IntelHex
