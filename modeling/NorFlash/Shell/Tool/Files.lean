import NorFlash.Shell.Tool.Mode
import NorFlash.Shell.Tool.Options

/-!
# Programs that change files

The programs that copy, make, move, link and remove entries of the file tree and change their
permission bits.
-/

namespace NorFlash.Shell

namespace Tool

/-! ## Places -/

/-- Whether a path leads to a directory. -/
def isDirectory (p : Process) (path : String) : Bool :=
  (p.tree.test p.directory path Node.isDirectory).toOption = some true

/-- The path of a file in the directory that a path leads to, or the path itself. -/
def destination (p : Process) (source target : String) : String :=
  if isDirectory p target then target ++ "/" ++ baseName source else target

/-- Run a step for each source and the target that options and operands give: the last operand, or a
directory of its own. Several sources need a directory. -/
def withTarget (o : Options) (p : Process) (step : Process → String → String → Nat × Process) :
    Nat × Process :=
  let inside (directory : String) (p : Process) (source : String) : Nat × Process :=
    step p source (directory ++ "/" ++ baseName source)
  match o.value? 't' with
  | some directory =>
    if isDirectory p directory then forSome (inside directory) p o.operands else (1, p)
  | none =>
    match o.operands.reverse with
    | [target, source] =>
      if o.has 'T' then if isDirectory p target then (1, p) else step p source target
      else step p source (destination p source target)
    | target :: source :: sources =>
      if !o.has 'T' && isDirectory p target then
        forEach (inside target) p (source :: sources).reverse
      else (1, p)
    | _ => (1, p)

/-- The entry that a path leads to, which may be a link. -/
def entryItself? (p : Process) (path : String) : Option (Location × Node) := do
  let loc ← (p.tree.find p.directory false path).toOption
  return (loc, ← p.tree.get? loc)

/-! ## Copying -/

/-- Put a node at a path where nothing is. -/
def putNew (p : Process) (path : String) (node : Node) : Nat × Process :=
  match p.tree.locate p.directory false path with
  | .ok (.vacant parent name) => (0, { p with tree := p.tree.insert (parent ++ [name]) node })
  | _ => (1, p)

/-- Copy one file, with all its permission bits or those that new files have. -/
def copyFile (keepMode : Bool) (p : Process) (source target : String) : Nat × Process :=
  match p.tree.status p.directory source, p.tree.locate p.directory true target with
  | .ok (.file mode content), .ok (.vacant parent name) =>
    if (entryItself? p target).isSome then (1, p)
    else
      let bits := if keepMode then mode else mode - (mode &&& p.mask)
      (0, { p with tree := p.tree.insert (parent ++ [name]) (.file bits content) })
  | .ok (.file mode content), .ok (.entry loc) =>
    if (p.tree.find p.directory true source).toOption = some loc then (1, p)
    else
      match p.tree.get? loc with
      | some (.file old _) =>
        let bits := if keepMode then mode else old
        (0, { p with tree := p.tree.insert loc (.file bits content) })
      | _ => (1, p)
  | _, _ => (1, p)

/-- Copy all below a directory to a place where nothing is, or where a directory is. -/
def copyBelow (p : Process) (source target : String) : Nat × Process :=
  match p.tree.find p.directory true source, p.tree.locate p.directory true target with
  | .ok loc, .ok place =>
    let goal := place.location
    if FileTree.isWithin loc goal then (1, p)
    else
      let below := p.tree.entries.filter fun entry => FileTree.isWithin loc entry.1
      let t := below.reverse.foldl (fun (t : FileTree) entry =>
        let here := goal ++ entry.1.drop loc.length
        match t.get? here, entry.2 with
        | some (.directory _), .directory _ => t
        | _, node => t.insert here node) p.tree
      (0, { p with tree := t })
  | _, _ => (1, p)

/-- Copy an entry as options ask for. -/
def copyEntry (o : Options) (p : Process) (source target : String) : Nat × Process :=
  let recursive := "rRa".toList.any o.has
  let isDevice (path : String) : Bool := path = "/dev/null"
  let taken := (entryItself? p target).isSome
  if o.has 'n' && taken then (if (entryItself? p source).isSome then 0 else 1, p)
  else if isDevice target then (if (p.openInput source).isSome then 0 else 1, p)
  else if isDevice source then
    match p.openOutput .overwrite target with
    | some (p, _) => (0, p)
    | none => (1, p)
  else
    let p := if o.has 'b' && taken then (putBackup p target) else p
    match entryItself? p source with
    | none => (1, p)
    | some (_, .link goal) =>
      if (recursive || o.has 'd' || o.has 'P') && !o.has 'L' then putNew p target (.link goal)
      else whole recursive p
    | some (_, node) =>
      if o.has 's' then putNew p target (.link source)
      else if o.has 'l' then putNew p target node
      else whole recursive p
where
  /-- Copy what the source leads to. -/
  whole (recursive : Bool) (p : Process) : Nat × Process :=
    if isDirectory p source then if recursive then copyBelow p source target else (1, p)
    else copyFile (o.has 'p' || o.has 'a') p source target
  /-- Keep what is at a path under another name. -/
  putBackup (p : Process) (path : String) : Process :=
    match entryItself? p path with
    | some (loc, .file mode content) =>
      let name := (loc.getLast?.getD "") ++ "~"
      { p with tree := (p.tree.erase loc).insert (loc.dropLast ++ [name]) (.file mode content) }
    | _ => p

/-- Copy files to a file or into a directory. -/
def copy : Tool :=
  withOptions "abdfHilLnPpRrsTuvxZ" "tS" fun o p => withTarget o p (copyEntry o)

/-! ## Directories -/

/-- Make one directory at the end of a path. -/
def makeDirectory (p : Process) (mode : Option Nat) (path : String) : Except Errno Process :=
  match p.tree.locate p.directory false path with
  | .ok (.vacant parent name) =>
    let node := Node.directory (mode.getD p.directoryMode)
    .ok { p with tree := p.tree.insert (parent ++ [name]) node }
  | .ok (.entry _) => .error .alreadyExists
  | .error e => .error e

/-- Make the directories on the way to a path. -/
def makeParents (mode : Option Nat) (p : Process) (path : String) : Nat × Process :=
  let start := if path.startsWith "/" then "/" else ""
  let names := (FileTree.components path).filter (· ≠ ".")
  let (_, _, status, p) := names.foldl (fun (left, before, _, p) name =>
    let here := before ++ name
    match makeDirectory p (if left = 1 then mode else none) here with
    | .ok p => (left - 1, here ++ "/", 0, p)
    | .error _ => (left - 1, here ++ "/", if isDirectory p here then 0 else 1, p))
    (names.length, start, 0, p)
  (status, p)

/-- Make a directory. -/
def makeOne (mode : Option Nat) (p : Process) (path : String) : Nat × Process :=
  let bare := String.ofList (path.toList.reverse.dropWhile (· = '/')).reverse
  match makeDirectory p mode (if bare = "" then path else bare) with
  | .ok p => (0, p)
  | .error _ => (1, p)

/-- Make directories. -/
def makeDirectories : Tool :=
  withOptions "pvZ" "m" fun o p =>
    let make (mode : Option Nat) :=
      forSome (if o.has 'p' then makeParents mode else makeOne mode) p o.operands
    match o.value? 'm' with
    | none => make none
    | some text =>
      match Mode.bits? p.mask true text 0o777 with
      | some bits => make (some bits)
      | none => (1, p)

/-- Remove an empty directory. -/
def removeDirectory (p : Process) (path : String) : Nat × Process :=
  match entryItself? p path with
  | some (loc, .directory _) =>
    if p.tree.hasEntriesBelow loc then (1, p) else (0, { p with tree := p.tree.erase loc })
  | _ => (1, p)

/-- Remove empty directories. -/
def removeDirectories : Tool :=
  withOptions "pv" "" fun o p => forSome removeDirectory p o.operands

/-! ## Removing and moving -/

/-- Remove a file, or all below a directory. -/
def removeEntry (o : Options) (p : Process) (path : String) : Nat × Process :=
  match entryItself? p path with
  | some (loc, .directory _) =>
    if baseName path = ".." ∨ path = "." ∨ path.endsWith "/." then (1, p)
    else if o.has 'r' || o.has 'R' then (0, { p with tree := p.tree.eraseAll loc })
    else if o.has 'd' then removeDirectory p path
    else (1, p)
  | some (loc, _) => (0, { p with tree := p.tree.erase loc })
  | none => (if o.has 'f' then 0 else 1, p)

/-- Remove files. -/
def remove : Tool :=
  withOptions "dfiIrRv" "" fun o p =>
    if o.operands = [] then (if o.has 'f' then 0 else 1, p) else forEach (removeEntry o) p o.operands

/-- Move the entries below one location to another one. -/
def relocate (t : FileTree) (source target : Location) : FileTree :=
  ⟨t.entries.map fun entry =>
    if FileTree.isWithin source entry.1 then (target ++ entry.1.drop source.length, entry.2)
    else entry⟩

/-- Move one entry. -/
def moveEntry (o : Options) (p : Process) (source target : String) : Nat × Process :=
  match entryItself? p source, p.tree.locate p.directory false target with
  | some (loc, node), .ok place =>
    let goal := place.location
    if goal = loc ∨ FileTree.isWithin loc goal then (1, p)
    else
      match p.tree.get? goal, node with
      | some _, _ =>
        if o.has 'n' then (0, p)
        else
          match p.tree.get? goal, node with
          | some (.directory _), .directory _ =>
            if p.tree.hasEntriesBelow goal then (1, p)
            else (0, { p with tree := relocate (p.tree.erase goal) loc goal })
          | some (.directory _), _ | some _, .directory _ => (1, p)
          | _, _ => (0, { p with tree := relocate (p.tree.erase goal) loc goal })
      | none, _ => (0, { p with tree := relocate p.tree loc goal })
  | _, _ => (1, p)

/-- Move entries to a path or into a directory. -/
def move : Tool :=
  withOptions "bfinTuvZ" "tS" fun o p => withTarget o p (moveEntry o)

/-! ## Making and changing -/

/-- Make a file that is missing. -/
def touchEntry (o : Options) (p : Process) (path : String) : Nat × Process :=
  match p.tree.locate p.directory true path with
  | .ok (.vacant parent name) =>
    if o.has 'c' then (0, p)
    else
      (0, { p with tree := p.tree.insert (parent ++ [name]) (.file p.fileMode ByteArray.empty) })
  | .ok (.entry _) => (0, p)
  | .error _ => (1, p)

/-- Make files that are missing. -/
def touch : Tool :=
  withOptions "acfhm" "drt" fun o p => forSome (touchEntry o) p o.operands

/-- Make a link to an entry. -/
def linkEntry (o : Options) (p : Process) (source target : String) : Nat × Process :=
  let node : Option Node :=
    if o.has 's' then some (.link source)
    else (entryItself? p source).bind fun found => if found.2.isDirectory then none else some found.2
  match node, p.tree.locate p.directory false target with
  | some node, .ok (.vacant parent name) =>
    (0, { p with tree := p.tree.insert (parent ++ [name]) node })
  | some node, .ok (.entry loc) =>
    match p.tree.get? loc with
    | some (.directory _) => (1, p)
    | _ => if o.has 'f' then (0, { p with tree := p.tree.insert loc node }) else (1, p)
  | _, _ => (1, p)

/-- Make links. -/
def link : Tool :=
  withOptions "bdFfiLnPrsTv" "tS" fun o p =>
    match o.operands with
    | [source] => linkEntry o p source (destination p source ".")
    | _ => withTarget o p (linkEntry o)

/-- Change the permission bits of an entry. -/
def changeModeOf (mode : String) (p : Process) (path : String) : Nat × Process :=
  let changed : Option FileTree := do
    let loc ← (p.tree.find p.directory true path).toOption
    match ← p.tree.get? loc with
    | .file old content =>
      return p.tree.insert loc (.file (← Mode.bits? p.mask false mode old) content)
    | .directory old => return p.tree.insert loc (.directory (← Mode.bits? p.mask true mode old))
    | .link _ => none
  match changed with
  | some t => (0, { p with tree := t })
  | none => (1, p)

/-- Change permission bits. A mode may start with a dash. -/
def changeMode : Tool := fun p args =>
  match args.filter fun arg => ! ["-v", "-f", "-c", "-R", "--"].contains arg with
  | mode :: path :: paths => forEach (changeModeOf mode) p (path :: paths)
  | _ => (1, p)

end Tool

end NorFlash.Shell
