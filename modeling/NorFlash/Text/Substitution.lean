/-!
# Substitution of names

`Substitution.replaceAll` puts a replacement for each occurrence of a name, found from left to
right, and `Substitution.apply` does so for one name after the other, each in the text that those
before it left. `Substitution.onePass` replaces every name in the same pass and never looks at
inserted text.
-/

namespace NorFlash.Substitution

/-- The names to replace, in order, each with its replacement. -/
abbrev Bindings := List (List Char × List Char)

/-! ## One name -/

/-- Replace the occurrences of a name that is not empty; `skip` characters belong to an occurrence
that is already replaced. -/
def replaceFrom (name replacement : List Char) : Nat → List Char → List Char
  | _, [] => []
  | skip + 1, _ :: cs => replaceFrom name replacement skip cs
  | 0, c :: cs =>
    if name.isPrefixOf (c :: cs) then
      replacement ++ replaceFrom name replacement (name.length - 1) cs
    else
      c :: replaceFrom name replacement 0 cs

/-- The text with every occurrence of `name` replaced. The empty name occurs before every
character and at the end. -/
def replaceAll (name replacement cs : List Char) : List Char :=
  match name with
  | [] => cs.foldr (fun c rest => replacement ++ c :: rest) replacement
  | _ :: _ => replaceFrom name replacement 0 cs

/-! ## Several names -/

/-- Replace one name after the other. -/
def apply (bindings : Bindings) (cs : List Char) : List Char :=
  bindings.foldl (fun text binding => replaceAll binding.1 binding.2 text) cs

/-- The first binding whose name starts the text. -/
def match? (bindings : Bindings) (cs : List Char) : Option (List Char × List Char) :=
  bindings.find? fun binding => binding.1.isPrefixOf cs

/-- Replace all names in one pass; `skip` characters belong to an occurrence that is already
replaced. -/
def onePassFrom (bindings : Bindings) : Nat → List Char → List Char
  | _, [] => []
  | skip + 1, _ :: cs => onePassFrom bindings skip cs
  | 0, c :: cs =>
    match match? bindings (c :: cs) with
    | some (name, replacement) => replacement ++ onePassFrom bindings (name.length - 1) cs
    | none => c :: onePassFrom bindings 0 cs

/-- The text with the occurrences of all names replaced, found from left to right. -/
def onePass (bindings : Bindings) (cs : List Char) : List Char :=
  onePassFrom bindings 0 cs

/-! ## Environments -/

/-- The names to replace and their replacements, as texts. -/
abbrev Environment := List (String × String)

/-- The environment that a list of bindings stands for. A name that is bound again keeps its place
and takes the later replacement. -/
def environment (bindings : List (String × String)) : Environment :=
  bindings.foldl (fun env binding =>
    if env.any (·.1 == binding.1) then
      env.map fun old => if old.1 == binding.1 then binding else old
    else env ++ [binding]) []

/-- The text with the names of an environment replaced, one after the other. -/
def expand (env : Environment) (text : String) : String :=
  String.ofList (apply (env.map fun binding => (binding.1.toList, binding.2.toList)) text.toList)

end NorFlash.Substitution
