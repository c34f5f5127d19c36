/-!
# File trees

A `FileTree` holds files, directories and symbolic links at locations, which are the names that
lead to them from the root without links or dots. `get?`, `insert` and `erase` are the view and the
two changes; `get?_insert` and `get?_erase` say that a change at one location is none at any other.
-/

namespace NorFlash

/-- The names that lead to an entry from the root. -/
abbrev Location := List String

/-- What may stand at a location. -/
inductive Node where
  /-- A file with its permission bits and its content. -/
  | file (mode : Nat) (content : ByteArray)
  /-- A directory with its permission bits. -/
  | directory (mode : Nat)
  /-- A symbolic link with the text it leads to. -/
  | link (target : String)

namespace Node

/-- Whether the entry is a directory. -/
def isDirectory : Node → Bool
  | directory _ => true
  | _ => false

/-- Whether the entry is a file. -/
def isFile : Node → Bool
  | file _ _ => true
  | _ => false

/-- The permission bits. -/
def mode : Node → Nat
  | file mode _ => mode
  | directory mode => mode
  | link _ => 0o777

end Node

/-- The entries below the root, which is a directory itself. -/
structure FileTree where
  /-- The entries, each location at most once. -/
  entries : List (Location × Node)

namespace FileTree

/-- The tree whose root is empty. -/
def empty : FileTree :=
  ⟨[]⟩

/-- The permission bits of a directory that is made without others. -/
def directoryMode : Nat := 0o755

/-- The entry at a location. -/
def get? (t : FileTree) (loc : Location) : Option Node :=
  if loc = [] then some (.directory directoryMode) else t.entries.lookup loc

/-- The tree with an entry at a location, in the place of the one that was there. -/
def insert (t : FileTree) (loc : Location) (node : Node) : FileTree :=
  ⟨(loc, node) :: t.entries.filter (·.1 != loc)⟩

/-- The tree without the entry at a location. -/
def erase (t : FileTree) (loc : Location) : FileTree :=
  ⟨t.entries.filter (·.1 != loc)⟩

/-- Whether a location is another one or lies below it. -/
def isWithin (outer inner : Location) : Bool :=
  outer.isPrefixOf inner

/-- The tree without the entry at a location and all entries below it. -/
def eraseAll (t : FileTree) (loc : Location) : FileTree :=
  ⟨t.entries.filter fun entry => !isWithin loc entry.1⟩

/-- Whether entries lie below a location. -/
def hasEntriesBelow (t : FileTree) (loc : Location) : Bool :=
  t.entries.any fun entry => isWithin loc entry.1 && entry.1 != loc

/-! ## Changes and the view -/

theorem lookup_filter_ne (entries : List (Location × Node)) {loc other : Location}
    (h : other ≠ loc) :
    (entries.filter (·.1 != loc)).lookup other = entries.lookup other := by
  induction entries with
  | nil => rfl
  | cons entry rest ih =>
    obtain ⟨here, node⟩ := entry
    by_cases hloc : here = loc
    · subst hloc
      have hne : (other == here) = false := by simp [h]
      simp [List.filter, List.lookup_cons, hne, ih]
    · have : (here != loc) = true := by simp [hloc]
      simp only [List.filter, this, List.lookup_cons, ih]

theorem lookup_filter_self (entries : List (Location × Node)) (loc : Location) :
    (entries.filter (·.1 != loc)).lookup loc = none := by
  induction entries with
  | nil => rfl
  | cons entry rest ih =>
    obtain ⟨here, node⟩ := entry
    by_cases hloc : here = loc
    · simp [List.filter, hloc, ih]
    · have : (here != loc) = true := by simp [hloc]
      have hne : (loc == here) = false := by simp [Ne.symm hloc]
      simp [List.filter, this, List.lookup_cons, hne, ih]

theorem get?_insert (t : FileTree) {loc : Location} (node : Node) (hroot : loc ≠ [])
    (other : Location) :
    (t.insert loc node).get? other = if other = loc then some node else t.get? other := by
  by_cases h : other = loc
  · subst h; simp [get?, insert, hroot]
  · have hne : (other == loc) = false := by simp [h]
    simp [get?, insert, h, List.lookup_cons, hne, lookup_filter_ne]

theorem get?_erase (t : FileTree) {loc : Location} (hroot : loc ≠ []) (other : Location) :
    (t.erase loc).get? other = if other = loc then none else t.get? other := by
  by_cases h : other = loc
  · subst h; simp [get?, erase, hroot, lookup_filter_self]
  · simp [get?, erase, h, lookup_filter_ne]

end FileTree

end NorFlash
