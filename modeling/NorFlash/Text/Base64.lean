/-!
# Base 64

`Base64.decode?` reads bytes that are written with 64 characters, four of them for three bytes.
Other characters do not count.
-/

namespace NorFlash.Base64

/-- The number that a character stands for. -/
def value? (c : Char) : Option Nat :=
  if 'A' ≤ c ∧ c ≤ 'Z' then some (c.toNat - 'A'.toNat)
  else if 'a' ≤ c ∧ c ≤ 'z' then some (c.toNat - 'a'.toNat + 26)
  else if '0' ≤ c ∧ c ≤ '9' then some (c.toNat - '0'.toNat + 52)
  else if c = '+' then some 62
  else if c = '/' then some 63
  else none

/-- The byte that a number and the one before it add, after `position` numbers of a group. -/
def byte? (position last next : Nat) : Option UInt8 :=
  match position with
  | 1 => some (UInt8.ofNat (last * 4 + next / 16))
  | 2 => some (UInt8.ofNat (last % 16 * 16 + next / 4))
  | 3 => some (UInt8.ofNat (last % 4 * 64 + next))
  | _ => none

/-- Read on after `position` numbers of a group, of which the last one is `last`, and `pads` padding
characters. Padding that completes a group ends the text. -/
def decodeFrom? (position last pads : Nat) : List Char → Option (List UInt8)
  | [] => if position = 0 then some [] else none
  | c :: cs =>
    if c = '=' then
      if 2 ≤ position then
        if 4 ≤ position + pads + 1 then some [] else decodeFrom? position last (pads + 1) cs
      else decodeFrom? position last pads cs
    else
      match value? c with
      | none => decodeFrom? position last pads cs
      | some next =>
        (decodeFrom? ((position + 1) % 4) next 0 cs).map ((byte? position last next).toList ++ ·)

/-- The bytes that a text stands for; there are none for a text that ends within a group. -/
def decode? (cs : List Char) : Option (List UInt8) :=
  decodeFrom? 0 0 0 cs

end NorFlash.Base64
