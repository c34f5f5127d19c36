import NorFlash.Shell.Process

/-!
# Permission bits

The permission bits that the text of a mode stands for: octal digits, or clauses of letters that
change bits which are there.
-/

namespace NorFlash.Shell.Mode

/-- The bits of the users that letters name. -/
def userBits (letters : List Char) : Nat :=
  letters.foldl (fun bits c => bits ||| match c with
    | 'u' => 0o4700
    | 'g' => 0o2070
    | 'o' => 0o1007
    | _ => 0o7777) 0

/-- The bits of the permissions that letters name, for a file with some bits. -/
def permissionBits (isDirectory : Bool) (old : Nat) (letters : List Char) : Nat :=
  letters.foldl (fun bits c => bits ||| match c with
    | 'r' => 0o444
    | 'w' => 0o222
    | 'x' => 0o111
    | 'X' => if isDirectory ∨ old &&& 0o111 ≠ 0 then 0o111 else 0
    | 's' => 0o6000
    | 't' => 0o1000
    | _ => 0) 0

/-- The permission bits that a clause of letters makes of those given. -/
def clauseBits? (mask : Nat) (isDirectory : Bool) (old : Nat) (clause : List Char) : Option Nat :=
  let users := clause.takeWhile "ugoa".toList.contains
  match clause.drop users.length with
  | sign :: letters =>
    if letters.any fun c => !"rwxXst".toList.contains c then none
    else
      let allowed := if users = [] then 0o7777 - mask else userBits users
      let bits := permissionBits isDirectory old letters &&& allowed
      match sign with
      | '+' => some (old ||| bits)
      | '-' => some (old - (old &&& bits))
      | '=' => some ((old - (old &&& allowed)) ||| bits)
      | _ => none
  | [] => none

/-- The permission bits that the text of a mode stands for, in place of those given. -/
def bits? (mask : Nat) (isDirectory : Bool) (mode : String) (old : Nat) : Option Nat :=
  if mode ≠ "" ∧ mode.toList.all (fun c => '0' ≤ c ∧ c ≤ '7') then
    let bits := mode.toList.foldl (fun n c => n * 8 + (c.toNat - 48)) 0
    if bits ≤ 0o7777 then some bits else none
  else
    (mode.toList.splitOn ',').foldlM (fun old clause => clauseBits? mask isDirectory old clause) old

end NorFlash.Shell.Mode
