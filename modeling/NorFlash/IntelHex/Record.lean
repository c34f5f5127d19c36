import NorFlash.Text.Numeral

/-!
# Intel HEX records

A record is a line of text: a colon and the hexadecimal digits of a length, a 16-bit address, a
type, the payload and a checksum that makes the sum of all bytes a multiple of 256. `Record.encode`
writes the line of a record and `Record.decode` reads one, or tells by a `RecordCause` why the line
is none.
-/

namespace NorFlash.IntelHex

/-- What a line stands for. -/
inductive Record where
  /-- Bytes, the first of them at an address relative to the base. -/
  | data (address : Nat) (bytes : List UInt8)
  /-- Nothing follows. -/
  | endOfFile
  /-- The base of the following data, in paragraphs of 16 bytes. -/
  | segmentBase (value : Nat)
  /-- The base of the following data, in units of 64 KiB. -/
  | linearBase (value : Nat)
  /-- Where execution starts, of type 3 or type 5. -/
  | start (type : UInt8) (bytes : List UInt8)
  deriving DecidableEq, Repr

/-- Why a line is no record that can be used. -/
inductive RecordCause where
  /-- There is no colon, a digit is missing or none, or there are too few bytes. -/
  | malformed
  /-- The length byte does not fit. -/
  | length
  /-- The type is not known. -/
  | type
  /-- The checksum does not fit. -/
  | checksum
  /-- The end record has a payload. -/
  | endOfFile
  /-- The segment base has another length or an address. -/
  | segmentBase
  /-- The linear base has another length or an address. -/
  | linearBase
  /-- The start record of type 3 has another length or an address. -/
  | segmentStart
  /-- The start record of type 5 has another length or an address. -/
  | linearStart
  /-- There is a start record already. -/
  | secondStart
  /-- A byte is given for an address that has one. -/
  | overlap (address : Nat)
  deriving DecidableEq, Repr

/-- A line that cannot be used. -/
structure RecordFault where
  /-- The number of the line, from one. -/
  line : Nat
  /-- What is wrong. -/
  cause : RecordCause
  deriving DecidableEq, Repr

namespace RecordFault

/-- The fault in words. -/
def message (f : RecordFault) : String :=
  let line := Numeral.decimal f.line
  match f.cause with
  | .malformed => "Hex file contains invalid record at line " ++ line
  | .length => "Record at line " ++ line ++ " has invalid length"
  | .type => "Record at line " ++ line ++ " has invalid record type"
  | .checksum => "Record at line " ++ line ++ " has invalid checksum"
  | .endOfFile => "File has invalid End-of-File record"
  | .segmentBase => "Invalid Extended Segment Address Record at line " ++ line
  | .linearBase => "Invalid Extended Linear Address Record at line " ++ line
  | .segmentStart => "Invalid Start Segment Address Record at line " ++ line
  | .linearStart => "Invalid Start Linear Address Record at line " ++ line
  | .secondStart => "Start Address Record appears twice at line " ++ line
  | .overlap address =>
    "Hex file has data overlap at address 0x"
      ++ String.ofList ((Numeral.hexDigits address).map Char.toUpper) ++ " on line " ++ line

end RecordFault

/-! ## Digits -/

/-- The bytes that pairs of hexadecimal digits stand for. -/
def unhex? : List Char → Option (List UInt8)
  | [] => some []
  | [_] => none
  | c :: d :: cs =>
    match Numeral.digitValue? c, Numeral.digitValue? d, unhex? cs with
    | some hi, some lo, some rest => some (UInt8.ofNat (hi * 16 + lo) :: rest)
    | _, _, _ => none

/-- The sum of bytes, modulo 256. -/
def byteSum (bs : List UInt8) : UInt8 :=
  bs.foldl (· + ·) 0

/-- The byte that brings the sum of all to zero. -/
def checksum (bs : List UInt8) : UInt8 :=
  0 - byteSum bs

/-- The number that two bytes stand for, the most significant one first. -/
def pair (hi lo : UInt8) : Nat :=
  hi.toNat * 256 + lo.toNat

/-- The two bytes of a 16-bit number, the most significant one first. -/
def pairBytes (n : Nat) : List UInt8 :=
  [UInt8.ofNat (n / 256), UInt8.ofNat n]

namespace Record

/-! ## Writing -/

/-- The type byte of a record. -/
def type : Record → UInt8
  | data _ _ => 0
  | endOfFile => 1
  | segmentBase _ => 2
  | linearBase _ => 4
  | start type _ => type

/-- The address of a record; only data has one. -/
def address : Record → Nat
  | data address _ => address
  | _ => 0

/-- The payload of a record. -/
def payload : Record → List UInt8
  | data _ bytes => bytes
  | endOfFile => []
  | segmentBase value => pairBytes value
  | linearBase value => pairBytes value
  | start _ bytes => bytes

/-- The bytes of a record before the checksum. -/
def body (r : Record) : List UInt8 :=
  UInt8.ofNat r.payload.length :: pairBytes r.address ++ r.type :: r.payload

/-- The line of a record, without its end. -/
def encode (r : Record) : List Char :=
  ':' :: (r.body ++ [checksum r.body]).flatMap Numeral.upperByte

/-! ## Reading -/

/-- The record whose address, type and payload are given. -/
def ofFields (address : Nat) (type : UInt8) (payload : List UInt8) : Except RecordCause Record :=
  if type = 0 then .ok (.data address payload)
  else if type = 1 then
    if payload = [] then .ok .endOfFile else .error .endOfFile
  else if type = 2 then
    match payload with
    | [hi, lo] => if address = 0 then .ok (.segmentBase (pair hi lo)) else .error .segmentBase
    | _ => .error .segmentBase
  else if type = 4 then
    match payload with
    | [hi, lo] => if address = 0 then .ok (.linearBase (pair hi lo)) else .error .linearBase
    | _ => .error .linearBase
  else if type = 3 then
    if payload.length = 4 ∧ address = 0 then .ok (.start 3 payload) else .error .segmentStart
  else if type = 5 then
    if payload.length = 4 ∧ address = 0 then .ok (.start 5 payload) else .error .linearStart
  else .error .type

/-- The record whose bytes, with the checksum, are given. -/
def ofBytes : List UInt8 → Except RecordCause Record
  | length :: hi :: lo :: type :: b :: rest =>
    if (b :: rest).length ≠ length.toNat + 1 then .error .length
    else if 5 < type then .error .type
    else if byteSum (length :: hi :: lo :: type :: b :: rest) ≠ 0 then .error .checksum
    else ofFields (pair hi lo) type (b :: rest).dropLast
  | _ => .error .malformed

/-- The record that a line stands for. -/
def decode : List Char → Except RecordCause Record
  | ':' :: digits =>
    match unhex? digits with
    | some bytes => ofBytes bytes
    | none => .error .malformed
  | _ => .error .malformed

end Record

end NorFlash.IntelHex
