import NorFlash.Action

/-!
# Artifacts

A `Provider` is the action that obtains the bytes to place into flash. `Provider.ofFile` reads them
from a file: a file of Intel HEX records is taken from its lowest address to its highest one, and
any other file as it is.
-/

namespace NorFlash

/-- An action that obtains an artifact. -/
abbrev Provider := Action ByteArray

namespace Provider

/-- The artifact in the content of a file. -/
def decode (path : Path) (content : ByteArray) : Except ReadFault ByteArray :=
  if path.isHex then
    match IntelHex.Memory.ofFile content with
    | .ok memory => .ok memory.span
    | .error fault => .error (.ofMemory fault)
  else
    .ok content

/-- The artifact in a file. All that stands in the way makes the artifact a missing one, but for
errors of the system while the file is looked for. -/
def ofFile (s : Setting) (path : Path) : Provider := do
  if ! (← Action.isFile s path) then
    throw (.missing path .notFound)
  match ← Action.attempt (Action.readFile s path) with
  | .ok content =>
    Action.ofExcept (fun fault => .missing path (.unreadable fault)) (decode path content)
  | .error (.file fault) => throw (.missing path (.unreadable fault))
  | .error failure => throw failure

end Provider

end NorFlash
