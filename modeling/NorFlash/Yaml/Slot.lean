import NorFlash.Yaml.Atom

/-!
# The slots of a set

A set keeps its members in a table of slots and shows them in the order of their slots. A member
goes to the slot that its hash asks for, or to the next free one of a walk that starts there.
`Slot.arrange` is the resulting order for members that are numbers; numbers that are equal have the
same hash.
-/

namespace NorFlash.Yaml

/-! ## Hashes -/

namespace Atom

/-- The prime modulo which numbers are hashed. -/
def hashModulus : Nat := 0x1fffffffffffffff

/-- The hash of a number with a remainder as its absolute value. Minus one is no hash. -/
def signedHash (negative : Bool) (remainder : Nat) : Int :=
  let hash : Int := if negative then -remainder else remainder
  if hash = -1 then -2 else hash

/-- The hash of a number: its remainder, for which halves count as what doubles to one. -/
def hash? : Atom → Option Int
  | bool b => some (cond b 1 0)
  | integer i => some (signedHash (decide (i < 0)) (i.natAbs % hashModulus))
  | float (.finite negative mantissa exponent) =>
    some (signedHash negative (mantissa * Nat.pow 2 (exponent % 61).toNat % hashModulus))
  | float (.infinite negative) => some (signedHash negative 314159)
  | _ => none

end Atom

/-! ## Slots -/

namespace Slot

/-- How many slots a set of so many members has: eight, or more than twice as many as members. -/
def count (members : Nat) : Nat :=
  if members ≤ 4 then 8 else Nat.pow 2 ((2 * members).log2 + 1)

/-- How many neighbours of a slot are tried after it, where so many are there. -/
def neighbours : Nat := 9

/-- The slots that are tried together: one, or one and its neighbours. -/
def cluster (slots slot : Nat) : List Nat :=
  if slot + neighbours < slots then (List.range (neighbours + 1)).map (slot + ·) else [slot]

/-- The first free slot of a walk, each step of which takes in five more bits of the hash. -/
def walk (slots : Nat) (taken : List Nat) : Nat → Nat → Nat → Nat
  | 0, slot, _ => slot
  | fuel + 1, slot, bits =>
    match (cluster slots slot).find? (! taken.contains ·) with
    | some free => free
    | none => walk slots taken fuel ((5 * slot + 1 + bits / 32) % slots) (bits / 32)

/-- The free slot for a hash of 64 bits. Once all its bits are taken in, the walk comes to every
slot. -/
def find (slots : Nat) (taken : List Nat) (hash : Int) : Nat :=
  let bits := (hash % 0x10000000000000000).toNat
  walk slots taken (slots + 13) (bits % slots) bits

/-- Members in the order of their slots, if all of them are numbers; others stay as they are. -/
def arrange {α : Type} (members : List (α × Atom)) : List α :=
  let slots := count members.length
  let placed? : Option (List (Nat × α)) := members.foldlM (fun placed (member, a) =>
    a.hash?.map fun hash => placed ++ [(find slots (placed.map (·.1)) hash, member)]) []
  match placed? with
  | some placed => (placed.mergeSort fun x y => x.1 ≤ y.1).map (·.2)
  | none => members.map (·.1)

end Slot

end NorFlash.Yaml
