import NorFlash.Bytes
import NorFlash.Shell.Tool.Files
import NorFlash.Shell.Tool.Format
import NorFlash.Shell.Tool.Test

/-!
# Programs that pass bytes on

The programs that read files or their input and write a part of it, or what they find out about it.
`Tool.named?` finds a program by its name.
-/

namespace NorFlash.Shell

namespace Tool

/-! ## Bytes -/

/-- The bytes that a path names: a dash is the input. Of what has no end, `count` bytes are read. -/
def source? (p : Process) (count : Nat) (path : String) : Option ByteArray :=
  if path = "-" then some p.input
  else if path = "/dev/zero" then some (Bytes.fill 0 count ByteArray.empty)
  else p.openInput path

/-- The number that a text stands for, with a letter for a unit. -/
def size? (text : String) : Option Nat :=
  let digits := text.toList.takeWhile Char.isDigit
  let unit : Option Nat := match String.ofList (text.toList.drop digits.length) with
    | "" | "c" => some 1
    | "b" => some 512
    | "k" | "K" | "KiB" => some 1024
    | "kB" | "KB" => some 1000
    | "M" | "MiB" => some (1024 * 1024)
    | "MB" => some 1000000
    | _ => none
  match (String.ofList digits).toNat?, unit with
  | some n, some unit => some (n * unit)
  | _, _ => none

/-- Go through the bytes of files, or of the input if there are none. -/
def overSources (count : Nat) (step : Process → ByteArray → Process) (p : Process)
    (paths : List String) : Nat × Process :=
  forEach (fun p path =>
    match source? p count path with
    | some bytes => (0, step p bytes)
    | none => (1, p)) p (if paths = [] then ["-"] else paths)

/-- Write files, or the input, to the output. -/
def concatenate : Tool :=
  withOptions "AbeEnstTuv" "" fun o p => overSources 0 Process.write p o.operands

/-- The bytes of the first lines. -/
def firstLines : Nat → List UInt8 → List UInt8
  | 0, _ => []
  | _, [] => []
  | n + 1, b :: rest => b :: firstLines (if b = 10 then n else n + 1) rest
termination_by _ bytes => bytes.length

/-- The bytes of the last lines. -/
def lastLines (n : Nat) (bytes : List UInt8) : List UInt8 :=
  match bytes.reverse with
  | [] => []
  | b :: rest =>
    let whole := if b = 10 then rest else b :: rest
    let kept := (firstLines n (whole ++ [10])).reverse.dropWhile (· = 10)
    if n = 0 then [] else kept ++ if b = 10 then [10] else []

/-- Arguments in which a number behind a dash stands for so many lines. -/
def withLineCount (args : List String) : List String :=
  args.map fun arg =>
    match arg.toList with
    | '-' :: c :: cs => if (c :: cs).all Char.isDigit then "-n" ++ String.ofList (c :: cs) else arg
    | _ => arg

/-- Write a part of files, the first of them or the last ones. -/
def partOf (bytesPart : Nat → ByteArray → ByteArray)
    (linesPart : Nat → List UInt8 → List UInt8) : Tool := fun p args =>
  withOptions "qvz" "cn" (fun o p =>
    match (o.value? 'c').map size?, (o.value? 'n').map size? with
    | some none, _ | none, some none => (1, p)
    | some (some n), _ => overSources n (fun p bytes => p.write (bytesPart n bytes)) p o.operands
    | none, n =>
      let n := (n.getD (some 10)).getD 10
      overSources 0 (fun p bytes => p.write ⟨(linesPart n bytes.toList).toArray⟩) p o.operands)
    p (withLineCount args)

/-- Write the first bytes or lines of files. -/
def head : Tool :=
  partOf (fun n bytes => bytes.extract 0 n) firstLines

/-- Write the last bytes or lines of files. -/
def tail : Tool :=
  partOf (fun n bytes => bytes.extract (bytes.size - n) bytes.size) lastLines

/-- Write how many bytes or lines there are. -/
def count : Tool :=
  withOptions "cl" "" fun o p =>
    let number (bytes : ByteArray) : Nat :=
      if o.has 'l' then (bytes.toList.filter (· = 10)).length else bytes.size
    match o.operands with
    | [] => (0, p.write (toString (number p.input) ++ "\n").toUTF8)
    | paths => forEach (fun p path =>
        match source? p 0 path with
        | some bytes => (0, p.write (toString (number bytes) ++ " " ++ path ++ "\n").toUTF8)
        | none => (1, p)) p paths

/-- Write whole numbers in turn, a line each. -/
def numbers : Tool := fun p args =>
  let range (first last : Nat) : Nat × Process :=
    let lines := (List.range (last + 1 - first)).map fun n => toString (first + n) ++ "\n"
    (0, p.write (String.join lines).toUTF8)
  match args.map String.toNat? with
  | [some last] => range 1 last
  | [some first, some last] => range first last
  | _ => (1, p)

/-- Compare two files. -/
def compare : Tool :=
  withOptions "bls" "" fun o p =>
    match o.operands with
    | [first, second] =>
      match source? p 0 first, source? p 0 second with
      | some a, some b => (if a == b then 0 else 1, p)
      | _, _ => (2, p)
    | _ => (2, p)

/-- The value of an operand that is written behind a name and an equals sign. -/
def operand? (name : String) (args : List String) : Option String :=
  (args.find? (·.startsWith (name ++ "="))).map fun arg => (arg.drop (name.length + 1)).toString

/-- Copy some blocks of a file. -/
def copyBlocks : Tool := fun p args =>
  let block := ((operand? "bs" args).bind size?).getD 512
  let limit := ((operand? "count" args).bind size?).map (· * block)
  match source? p (limit.getD 0) ((operand? "if" args).getD "-") with
  | none => (1, p)
  | some bytes =>
    let bytes := match limit with
      | some size => bytes.extract 0 size
      | none => bytes
    match operand? "of" args with
    | none => (0, p.write bytes)
    | some path =>
      match p.openOutput .overwrite path with
      | some (p, .file loc) => (0, p.appendTo loc bytes)
      | some (p, _) => (0, p)
      | none => (1, p)

/-- Cut a file, or fill it with zeros, to a size. -/
def resizeFile (size : Nat) (p : Process) (path : String) : Nat × Process :=
  match p.openOutput .append path with
  | some (p, .file loc) =>
    match p.tree.get? loc with
    | some (.file bits content) =>
      let kept := content.extract 0 size
      let bytes := Bytes.fill 0 (size - kept.size) kept
      (0, { p with tree := p.tree.insert loc (.file bits bytes) })
    | _ => (1, p)
  | _ => (1, p)

/-- Cut files, or fill them with zeros, to a size. -/
def resize : Tool :=
  withOptions "co" "s" fun o p =>
    match (o.value? 's').bind size? with
    | some size => forSome (resizeFile size) p o.operands
    | none => (1, p)

/-- Wait for some seconds. -/
def wait : Tool :=
  withOptions "" "" fun o p =>
    let isTime (text : String) : Bool :=
      text.toList.head?.any Char.isDigit && text.toList.all fun c => c.isDigit || c == '.' || c == 's'
    (if o.operands ≠ [] ∧ o.operands.all isTime then 0 else 1, p)

/-! ## Paths -/

/-- Write the last name of a path, without an ending if it is given. -/
def lastName : Tool := fun p args =>
  match args with
  | [path] => (0, p.write (baseName path ++ "\n").toUTF8)
  | [path, ending] =>
    let name := baseName path
    let bare := if name.endsWith ending ∧ name ≠ ending then (name.dropEnd ending.length).toString
      else name
    (0, p.write (bare ++ "\n").toUTF8)
  | _ => (1, p)

/-- Write a path without its last name. -/
def directoryName : Tool := fun p args =>
  match args with
  | [path] =>
    let bare := (path.toList.reverse.dropWhile (· = '/')).dropWhile (· ≠ '/')
    let before := (bare.dropWhile (· = '/')).reverse
    let name := if before ≠ [] then String.ofList before
      else if path.startsWith "/" then "/" else "."
    (0, p.write (name ++ "\n").toUTF8)
  | _ => (1, p)

/-! ## The programs by name -/

/-- The programs and their names. -/
def all : List (String × Tool) :=
  [("cp", copy), ("mkdir", makeDirectories), ("rmdir", removeDirectories), ("rm", remove),
    ("mv", move), ("touch", touch), ("ln", link), ("chmod", changeMode), ("cat", concatenate),
    ("echo", echo), ("printf", Format.write), ("test", test), ("[", bracket),
    ("true", fun p _ => (0, p)), ("false", fun p _ => (1, p)), ("sleep", wait),
    ("sync", fun p _ => (0, p)), ("head", head), ("tail", tail), ("wc", count), ("seq", numbers),
    ("cmp", compare), ("dd", copyBlocks), ("truncate", resize), ("basename", lastName),
    ("dirname", directoryName)]

/-- The program of a name. -/
def named? (name : String) : Option Tool :=
  all.lookup name

end Tool

end NorFlash.Shell
