import NorFlash.Shell.Tool.Options

/-!
# Escapes

Backslashes in texts that are written, and the program that writes its arguments.
-/

namespace NorFlash.Shell

namespace Tool

/-- The bytes of characters. -/
def bytesOf (cs : List Char) : ByteArray :=
  (String.ofList cs).toUTF8

/-- Read at most `count` octal digits. -/
def octal : Nat → Nat → List Char → Nat × List Char
  | count + 1, acc, c :: cs =>
    if '0' ≤ c ∧ c ≤ '7' then octal count (acc * 8 + (c.toNat - 48)) cs else (acc, c :: cs)
  | _, acc, cs => (acc, cs)

/-- The character that a letter stands for after a backslash. -/
def escaped? : Char → Option UInt8
  | 'e' => some 27
  | 'n' => some 10
  | 't' => some 9
  | 'r' => some 13
  | 'a' => some 7
  | 'b' => some 8
  | 'f' => some 12
  | 'v' => some 11
  | '\\' => some 92
  | _ => none

/-- The bytes of a text whose escapes are resolved, as `echo` and the conversion `b` do; the flag
tells whether it goes on after the text. -/
def unescape : Nat → List Char → ByteArray → ByteArray × Bool
  | 0, _, acc => (acc, true)
  | _, [], acc => (acc, true)
  | fuel + 1, '\\' :: c :: cs, acc =>
    if c = 'c' then (acc, false)
    else if c = '0' then
      let (value, rest) := octal 3 0 cs
      unescape fuel rest (acc.push (UInt8.ofNat value))
    else
      match escaped? c with
      | some byte => unescape fuel cs (acc.push byte)
      | none => unescape fuel cs (acc ++ bytesOf ['\\', c])
  | fuel + 1, c :: cs, acc => unescape fuel cs (acc ++ bytesOf [c])

/-- Write the arguments, with spaces between them and a line end. -/
def echo : Tool := fun p args =>
  let (words, ending) := match args with
    | "-n" :: rest => (rest, "")
    | _ => (args, "\n")
  let text := (" ".intercalate words ++ ending).toList
  (0, p.write (unescape (text.length + 1) text ByteArray.empty).1)

end Tool

end NorFlash.Shell
