import NorFlash.Shell.Tool.Filter
import NorFlash.Text.Utf8

/-!
# Programs

What can be started: the programs of the system, which are files that `Program.install` puts into a
file tree, and scripts whose first line names another program. `Program.find` answers what the first
word of a command stands for, together with the arguments that the first lines of scripts put in
front of those of the command.
-/

namespace NorFlash.Shell

/-- A program of the system. -/
inductive Program where
  /-- A program that does one thing. -/
  | tool (tool : Tool)
  /-- The shell. -/
  | shell
  /-- The program that starts another one with other variables. -/
  | environment

namespace Program

/-! ## Programs as files -/

/-- The names of the programs that are no tools. -/
def others : List (String × Program) :=
  [("sh", shell), ("dash", shell), ("bash", shell), ("env", environment)]

/-- The program of the system that has a name. -/
def named? (name : String) : Option Program :=
  (others.lookup name).or ((Tool.named? name).map tool)

/-- The bytes that a program of the system starts with. -/
def signature : List UInt8 :=
  [0x7f, 0x45, 0x4c, 0x46]

/-- The content of the file of a program, which ends with its name. -/
def image (name : String) : ByteArray :=
  ⟨signature.toArray⟩ ++ name.toUTF8

/-- The program that a file holds. -/
def ofContent? (content : ByteArray) : Option Program :=
  if (content.extract 0 signature.length).toList = signature then
    (String.fromUTF8? (content.extract signature.length content.size)).bind named?
  else none

/-- The directory that holds the programs. -/
def home : Location :=
  ["usr", "bin"]

/-- The tree with the programs of the system. -/
def install (t : FileTree) : FileTree :=
  let directory (t : FileTree) (loc : Location) := t.insert loc (.directory FileTree.directoryMode)
  let t := [["usr"], home, ["usr", "local"], ["usr", "local", "bin"]].foldl directory t
  let t := t.insert ["bin"] (.link "usr/bin")
  let names := others.map (·.1) ++ Tool.all.map (·.1)
  names.foldl (fun t name => t.insert (home ++ [name]) (.file 0o755 (image name))) t

/-! ## Scripts -/

/-- Whether a character is a blank of a first line. -/
def isBlank (c : Char) : Bool :=
  c = ' ' ∨ c = '\t'

/-- The most bytes of a first line that are looked at. -/
def firstLineLimit : Nat := 255

/-- The program that the first line of a script names, and the one argument that it gives. A line
that is too long must at least name the program. -/
def interpreter? (content : ByteArray) : Option (String × Option String) :=
  match (Utf8.read (content.extract 0 firstLineLimit)).chars with
  | '#' :: '!' :: text =>
    let line := text.takeWhile (· ≠ '\n')
    let complete := line.length < text.length ∨ content.size ≤ firstLineLimit
    let inner := ((line.dropWhile isBlank).reverse.dropWhile isBlank).reverse
    let name := inner.takeWhile fun c => !isBlank c
    let argument := (inner.drop name.length).dropWhile isBlank
    if name = [] then none
    else if !complete ∧ !line.any isBlank then none
    else some (String.ofList name, if argument = [] then none else some (String.ofList argument))
  | _ => none

/-- The program that a path leads to, after at most `depth` files, and the arguments that stand
before those of the command. -/
def resolve (t : FileTree) (directory : Location) :
    Nat → String → Except Errno (Program × List String)
  | 0, _ => .error .tooManyLinks
  | depth + 1, path =>
    match t.status directory path with
    | .error e => .error e
    | .ok (.file mode content) =>
      if mode &&& 0o111 = 0 then .error .permission
      else
        match ofContent? content, interpreter? content with
        | some program, _ => .ok (program, [])
        | none, some (name, argument) => do
          let (program, before) ← resolve t directory depth name
          return (program, before ++ argument.toList ++ [path])
        | none, none => .error .notExecutable
    | .ok _ => .error .permission

/-- The most files from a command to its program. -/
def maxDepth : Nat := 6

/-- The program that the first word of a command stands for. A word without a separator names a
program of the system. -/
def find (t : FileTree) (directory : Location) (name : String) :
    Except Errno (Program × List String) :=
  if name.toList.contains '/' then resolve t directory maxDepth name
  else resolve t directory maxDepth ("/" ++ "/".intercalate home ++ "/" ++ name)

/-! ## Limits -/

/-- The most bytes of one argument. -/
def maxArgument : Nat := 131071

/-- The most bytes of all arguments, each with its end and its address. -/
def maxArguments : Nat := 2097152

/-- Whether the words of a command are too long to start it. -/
def areTooLong (words : List String) : Bool :=
  words.any (maxArgument < ·.utf8ByteSize)
    || maxArguments < words.foldl (fun n word => n + word.utf8ByteSize + 9) 0

end Program

end NorFlash.Shell
