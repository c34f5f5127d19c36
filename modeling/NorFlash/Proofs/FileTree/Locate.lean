import NorFlash.Proofs.FileTree.Route
import NorFlash.Proofs.Path

/-!
# Looking up paths

What the look-ups of a file tree answer, told by routes. For a proper path the route follows its
names, and the place of a file that replaces no directory is where the path and its parent part:
the parent leads to its directory as before and the path to the file, or the parent ran through the
entry that was replaced and leads to no directory any more (`IsPut.parent_cases`).
-/

namespace NorFlash

namespace FileTree

variable {t t' : FileTree} {directory : Location} {follow : Bool} {text : String} {place : Place}
  {loc : Location}

/-! ## Look-ups -/

theorem locate_eq_ok_iff :
    t.locate directory follow text = .ok place ↔
      (text ≠ "" ∧ text.utf8ByteSize ≤ maxPath) ∧
        Leads t follow maxLinks (startOf text directory) (components text) place := by
  rw [locate, ← walk_eq_ok_iff]
  split
  · next hempty => simp [hempty]
  · next hne =>
    split
    · next hsize => simp [Nat.not_le.2 hsize]
    · next hsize => simp [hne, Nat.le_of_not_lt hsize]

theorem find_eq_ok_iff :
    t.find directory follow text = .ok loc ↔ t.locate directory follow text = .ok (.entry loc) := by
  rw [find]
  split
  · next heq => simp [heq]
  · next heq => simp [heq]
  · next heq => simp [heq]

theorem status_eq_ok_iff {node : Node} :
    t.status directory text = .ok node ↔
      ∃ loc, t.locate directory true text = .ok (.entry loc) ∧ t.get? loc = some node := by
  simp only [← find_eq_ok_iff, status]
  cases hfind : t.find directory true text with
  | error e => simp
  | ok found =>
    cases hget : t.get? found with
    | none => simp [hget]
    | some other => simp [hget]

theorem read_eq_ok_iff {content : ByteArray} :
    t.read directory text = .ok content ↔
      ∃ mode, t.status directory text = .ok (.file mode content) := by
  rw [read]
  cases t.status directory text with
  | error e => simp
  | ok node => cases node <;> simp

theorem test_isDirectory_iff :
    t.test directory text Node.isDirectory = .ok true ↔
      ∃ loc, t.locate directory true text = .ok (.entry loc) ∧ t.IsDirectory loc := by
  have hiff : t.test directory text Node.isDirectory = .ok true ↔
      ∃ node, t.status directory text = .ok node ∧ node.isDirectory = true := by
    rw [test]
    cases t.status directory text with
    | ok node => simp
    | error e => cases he : e.meansAbsent <;> simp [he]
  rw [hiff]
  constructor
  · rintro ⟨node, hstatus, hdir⟩
    obtain ⟨loc, hlocate, hget⟩ := status_eq_ok_iff.1 hstatus
    cases node with
    | directory mode => exact ⟨loc, hlocate, mode, hget⟩
    | file | link => simp [Node.isDirectory] at hdir
  · rintro ⟨loc, hlocate, mode, hget⟩
    exact ⟨.directory mode, status_eq_ok_iff.2 ⟨loc, hlocate, hget⟩, rfl⟩

/-- A text that leads to an entry through links leads to one if the last link is not followed. -/
theorem locate_unfollow (h : t.locate directory true text = .ok (.entry loc)) :
    ∃ loc', t.locate directory false text = .ok (.entry loc') := by
  obtain ⟨htext, hleads⟩ := locate_eq_ok_iff.1 h
  obtain ⟨loc', hleads'⟩ := hleads.unfollow
  exact ⟨loc', locate_eq_ok_iff.2 ⟨htext, hleads'⟩⟩

/-- A text that leads to a free name does so whether or not a last link is followed. -/
theorem locate_follow_vacant {parent : Location} {name : String}
    (h : t.locate directory false text = .ok (.vacant parent name)) (follow : Bool) :
    t.locate directory follow text = .ok (.vacant parent name) := by
  obtain ⟨htext, hleads⟩ := locate_eq_ok_iff.1 h
  exact locate_eq_ok_iff.2 ⟨htext, hleads.follow_vacant follow⟩

/-- A name leads from a directory to the entry that has it. -/
theorem locate_child {name : String} {node : Node} (hname : IsPlain name)
    (hcomponents : components name = [name]) (hstart : startOf name directory = directory)
    (hdir : t.IsDirectory directory) (hget : t.get? (directory ++ [name]) = some node)
    (hlink : follow = true → ∀ target, node ≠ .link target) :
    t.locate directory follow name = .ok (.entry (directory ++ [name])) := by
  have hne : name ≠ "" := by
    rintro rfl
    exact absurd hcomponents (by decide)
  have hsize : name.utf8ByteSize ≤ maxPath :=
    Nat.le_trans hname.size_le (by decide)
  refine locate_eq_ok_iff.2 ⟨⟨hne, hsize⟩, ?_⟩
  rw [hstart, hcomponents]
  exact .last hdir hname hget hlink

theorem locate_root {name : String} {node : Node} (hname : IsPlain name)
    (hcomponents : components name = [name]) (hget : t.get? [name] = some node)
    (hlink : follow = true → ∀ target, node ≠ .link target) :
    t.locate [] follow name = .ok (.entry [name]) :=
  locate_child hname hcomponents (ite_self _) ⟨_, rfl⟩ hget hlink

/-! ## Proper paths -/

variable {p : Path}

theorem locate_render_iff (hp : p.IsProper) :
    t.locate directory follow p.render = .ok place ↔
      p.render.utf8ByteSize ≤ maxPath ∧
        Leads t follow maxLinks (p.start directory) p.steps place := by
  rw [locate_eq_ok_iff, Path.components_render hp, Path.startOf_render hp]
  simp [Path.render_ne_empty hp]

theorem locate_render_eq_walk (hp : p.IsProper) (hsize : p.render.utf8ByteSize ≤ maxPath) :
    t.locate directory follow p.render =
      t.walk follow maxLinks (p.start directory) p.steps := by
  rw [locate, if_neg (Path.render_ne_empty hp), if_neg (Nat.not_lt.2 hsize),
    Path.components_render hp, Path.startOf_render hp]

/-- A path that starts at the root leads to the same place from each directory. -/
theorem locate_of_absolute (h : p.root ≠ .relative) (other : Location) :
    t.locate directory follow p.render = t.locate other follow p.render := by
  rw [locate, locate, Path.startOf_render_of_absolute h, Path.startOf_render_of_absolute h]

/-- A name that is too long is found in no directory. -/
theorem locate_of_long_name {name : String} (hp : p.IsProper) (hnames : p.names = [name])
    (hdots : name ≠ "..") (hstart : t.IsDirectory (p.start directory))
    (hlong : maxName < name.utf8ByteSize) :
    t.locate directory follow p.render = .error .nameTooLong := by
  have hdot : name ≠ "." := (hp name (by simp [hnames])).2.1
  have hsteps : p.steps = [name] := by simp [Path.steps, hnames]
  obtain ⟨mode, hstart⟩ := hstart
  rw [locate, if_neg (Path.render_ne_empty hp)]
  split
  · rfl
  · rw [Path.components_render hp, Path.startOf_render hp, hsteps, walk]
    simp only [hstart, if_neg hdot, if_neg hdots, if_pos hlong]

/-- The parent of a path is followed by its names but the last. -/
theorem leads_parent_iff {links : Nat} {start other : Location} (hother : t.IsDirectory other) :
    Leads t true links start p.parent.steps (.entry other) ↔
      Leads t true links start p.names.dropLast (.entry other) := by
  rw [Path.steps]
  split
  · next hempty =>
    rw [show p.names.dropLast = [] from hempty.2]
    constructor
    · intro h
      by_cases hstart : t.IsDirectory start
      · rw [← walk_eq_ok_iff, walk_dot hstart] at h
        exact leads_of_walk h
      · exact absurd (h.of_not_directory hstart).1 (by simp)
    · intro h
      cases h with
      | here => exact .dot hother .here
  · rfl

/-! ## A path and its parent -/

variable {names : List String} {last : String}

theorem steps_of_names (hnames : p.names = names ++ [last]) : p.steps = names ++ [last] := by
  rw [Path.steps, if_neg (by simp [hnames]), hnames]

/-- A path is followed as its parent is, and then on to its last name. -/
theorem walk_parent_append {links : Nat} {start : Location} (hnames : p.names = names ++ [last]) :
    t.walk follow links start (p.parent.steps ++ [last]) = t.walk follow links start p.steps := by
  have hparent : p.parent.names = names := by rw [Path.parent, hnames, List.dropLast_concat]
  rw [steps_of_names hnames, Path.steps, hparent]
  split
  · next hempty =>
    rw [hempty.2]
    by_cases hstart : t.IsDirectory start
    · exact walk_dot hstart
    · rw [List.nil_append, List.singleton_append, walk_of_not_directory hstart,
        walk_of_not_directory hstart]
  · rfl

/-- A path is followed from a directory that its parent leads to. -/
theorem parent_of_locate (hp : p.IsProper) (hnames : p.names = names ++ [last])
    (h : t.locate directory follow p.render = .ok place) :
    ∃ other links, t.locate directory true p.parent.render = .ok (.entry other) ∧
      t.IsDirectory other ∧ Leads t follow links other [last] place := by
  obtain ⟨hsize, hleads⟩ := (locate_render_iff hp).1 h
  rw [steps_of_names hnames] at hleads
  obtain ⟨other, links, hfirst, hlast⟩ := hleads.split
  have hother : t.IsDirectory other := Classical.byContradiction fun hnot =>
    absurd (hlast.of_not_directory hnot).1 (by simp)
  refine ⟨other, links, (locate_render_iff hp.parent).2
    ⟨Nat.le_trans (Path.utf8ByteSize_render_parent_le hp) hsize, ?_⟩, hother, hlast⟩
  rw [leads_parent_iff hother, hnames, List.dropLast_concat]
  exact hfirst

/-- The parent of a path that leads anywhere is a directory. -/
theorem test_parent_of_locate (hp : p.IsProper) (hnames : p.names = names ++ [last])
    (h : t.locate directory follow p.render = .ok place) :
    t.test directory p.parent.render Node.isDirectory = .ok true := by
  obtain ⟨other, -, hlocate, hother, -⟩ := parent_of_locate hp hnames h
  exact test_isDirectory_iff.2 ⟨other, hlocate, hother⟩

/-- What stops the way to the parent stops the way to the path. -/
theorem locate_of_parent_error {errno : Errno} (hp : p.IsProper)
    (hnames : p.names = names ++ [last]) (hsize : p.render.utf8ByteSize ≤ maxPath)
    (h : t.locate directory true p.parent.render = .error errno) :
    t.locate directory follow p.render = .error errno := by
  rw [locate_render_eq_walk hp.parent (Nat.le_trans (Path.utf8ByteSize_render_parent_le hp) hsize)]
    at h
  rw [locate_render_eq_walk hp hsize, ← walk_parent_append hnames]
  exact walk_concat_of_error h follow last

/-- A path whose parent is still to be made leads nowhere. -/
theorem locate_of_parent_vacant {parent : Location} {name : String} (hp : p.IsProper)
    (hnames : p.names = names ++ [last]) (hsize : p.render.utf8ByteSize ≤ maxPath)
    (h : t.locate directory true p.parent.render = .ok (.vacant parent name)) :
    t.locate directory follow p.render = .error .noEntry := by
  obtain ⟨-, hleads⟩ := (locate_render_iff hp.parent).1 h
  rw [locate_render_eq_walk hp hsize, ← walk_parent_append hnames]
  exact hleads.walk_concat_of_vacant follow last

/-- A plain name is found in the directory that its parent leads to, if it is no link there. -/
theorem locate_of_parent {other : Location} {node : Node} (hp : p.IsProper)
    (hnames : p.names = names ++ [last]) (hlast : IsPlain last)
    (hsize : p.render.utf8ByteSize ≤ maxPath)
    (hparent : t.locate directory true p.parent.render = .ok (.entry other))
    (hother : t.IsDirectory other) (hnode : t.get? (other ++ [last]) = some node)
    (hlink : ∀ target, node ≠ .link target) :
    t.locate directory follow p.render = .ok (.entry (other ++ [last])) := by
  obtain ⟨-, hleads⟩ := (locate_render_iff hp.parent).1 hparent
  rw [leads_parent_iff hother, hnames, List.dropLast_concat] at hleads
  rw [locate_render_iff hp, steps_of_names hnames]
  exact ⟨hsize, hleads.snoc fun _ => .last hother hlast hnode fun _ => hlink⟩

/-! ## A file put in place -/

/-- A tree is another one with an entry at a location. -/
def IsPut (before : FileTree) (loc : Location) (node : Node) (after : FileTree) : Prop :=
  ∀ other, after.get? other = if other = loc then some node else before.get? other

/-- A location can take a file: if anything is there, it is a file. -/
def IsOpen (t : FileTree) (loc : Location) : Prop :=
  ∀ node, t.get? loc = some node → node.isFile = true

theorem IsOpen.ne_root (h : t.IsOpen loc) : loc ≠ [] := by
  rintro rfl
  simpa [Node.isFile] using h _ (show t.get? [] = some (.directory directoryMode) from rfl)

/-- A path leads to a file that was put where it led. -/
theorem IsPut.locate_of_isOpen {mode : Nat} {content : ByteArray}
    (hput : t.IsPut place.location (.file mode content) t') (hopen : t.IsOpen place.location)
    (hplace : t.locate directory true text = .ok place) :
    t'.locate directory true text = .ok (.entry place.location) := by
  obtain ⟨htext, hleads⟩ := locate_eq_ok_iff.1 hplace
  have hfile : t'.get? place.location = some (.file mode content) := by
    rw [hput, if_pos rfl]
  refine locate_eq_ok_iff.2 ⟨htext, ?_⟩
  cases place with
  | entry other =>
    refine hleads.transfer (fun loc node hnode hisFile => ?_)
      (fun loc hloc node _ _ => ?_) (fun _ _ hvacant => by simp at hvacant)
    · have hne : loc ≠ other := by
        rintro rfl
        simp [hopen node hnode] at hisFile
      exact (hput loc).trans ((if_neg hne).trans hnode)
    · obtain rfl := Place.entry.inj hloc
      exact ⟨_, hfile, rfl⟩
  | vacant parent name =>
    obtain ⟨-, -, hfree⟩ := hleads.of_vacant
    refine hleads.fill id (fun loc node hnode => ?_) hfile (by simp)
    have hne : loc ≠ parent ++ [name] := by
      rintro rfl
      simp [hfree] at hnode
    exact (hput loc).trans ((if_neg hne).trans hnode)

/-- A path that leads to a directory does so in each tree that keeps directories and links. -/
theorem test_isDirectory_mono
    (hkeep : ∀ other node, t.get? other = some node → node.isFile = false →
      t'.get? other = some node)
    (h : t.test directory text Node.isDirectory = .ok true) :
    t'.test directory text Node.isDirectory = .ok true := by
  obtain ⟨other, hlocate, hother⟩ := test_isDirectory_iff.1 h
  obtain ⟨htext, hleads⟩ := locate_eq_ok_iff.1 hlocate
  have hother' : t'.IsDirectory other := by
    obtain ⟨m, hm⟩ := hother
    exact ⟨m, hkeep other _ hm rfl⟩
  exact test_isDirectory_iff.2
    ⟨other, locate_eq_ok_iff.2 ⟨htext, hleads.keep_ways hother hkeep⟩, hother'⟩

/-- A file in the place of neither a directory nor a link leaves the ways to directories open. -/
theorem IsPut.test_of_not_link {mode : Nat} {content : ByteArray}
    (hput : t.IsPut loc (.file mode content) t') (hspot : ¬ t.IsDirectory loc)
    (hlink : ∀ target, t.get? loc ≠ some (.link target))
    (h : t.test directory text Node.isDirectory = .ok true) :
    t'.test directory text Node.isDirectory = .ok true := by
  refine test_isDirectory_mono (fun other node hnode hisFile => ?_) h
  have hne : other ≠ loc := by
    rintro rfl
    cases node with
    | file => simp [Node.isFile] at hisFile
    | directory mode => exact hspot ⟨mode, hnode⟩
    | link target => exact hlink target hnode
  rw [hput, if_neg hne, hnode]

/-- What leads to a directory without an entry does so with a file in its place. -/
theorem IsPut.test_of_erase {node : Node} (hput : t.IsPut loc node t') (hroot : loc ≠ [])
    (h : (t.erase loc).test directory text Node.isDirectory = .ok true) :
    t'.test directory text Node.isDirectory = .ok true := by
  refine test_isDirectory_mono (fun other node hnode _ => ?_) h
  rw [get?_erase _ hroot] at hnode
  split at hnode
  · simp at hnode
  · next hne => rw [hput, if_neg hne, hnode]

/-- A file that replaces no directory leaves the parent of its path as it is, or it replaces a link
that the parent runs through, and then the path leads nowhere. -/
theorem IsPut.parent_cases {mode : Nat} {content : ByteArray} (hp : p.IsProper)
    (hnames : p.names = names ++ [last]) (hdots : last ≠ "..")
    (hput : t.IsPut place.location (.file mode content) t')
    (hplace : t.locate directory false p.render = .ok place)
    (hspot : ¬ t.IsDirectory place.location)
    (hparent : t.test directory p.parent.render Node.isDirectory = .ok true) :
    (t'.test directory p.parent.render Node.isDirectory = .ok true ∧
        ∀ follow, t'.locate directory follow p.render = .ok (.entry place.location)) ∨
      t'.test directory p.parent.render Node.isDirectory = .ok false ∧
        ∀ follow, t'.locate directory follow p.render = .error .notDirectory := by
  obtain ⟨_, hto, -⟩ := test_isDirectory_iff.1 hparent
  have hsizeParent := ((locate_render_iff hp.parent).1 hto).1
  have hsize := ((locate_render_iff hp).1 hplace).1
  obtain ⟨other, links, hfound, hother, hleadsLast⟩ := parent_of_locate hp hnames hplace
  obtain ⟨-, hlast, hlocation⟩ :=
    hleadsLast.of_last (hp last (by simp [hnames])).2.1 hdots
  obtain ⟨-, hleads⟩ := (locate_render_iff hp.parent).1 hfound
  have hfile : t'.get? place.location = some (.file mode content) := by
    rw [hput, if_pos rfl]
  have hoff : ∀ loc, loc ≠ place.location → t'.get? loc = t.get? loc := by
    intro loc hloc
    rw [hput, if_neg hloc]
  have hother' : t'.IsDirectory other := by
    obtain ⟨m, hm⟩ := hother
    refine ⟨m, (hoff other ?_).trans hm⟩
    rintro rfl
    exact hspot ⟨m, hm⟩
  -- The way to the parent stays as it was, or it runs through the new file and ends there.
  rcases hleads.keep_or_meet hoff ⟨mode, content, hfile⟩ hspot with hkept | ⟨hmet, hmore⟩
  · left
    have hfound' := (locate_render_iff hp.parent).2 ⟨hsizeParent, hkept⟩
    refine ⟨test_isDirectory_iff.2 ⟨other, hfound', hother'⟩, fun follow => ?_⟩
    rw [hlocation] at hfile ⊢
    exact locate_of_parent hp hnames hlast hsize hfound' hother' hfile (by simp)
  · right
    refine ⟨?_, fun follow => ?_⟩
    · rw [test, status, find, locate_render_eq_walk hp.parent hsizeParent]
      rcases hmet with hmet | hmet
      · simp only [hmet, hfile]
        rfl
      · simp only [hmet]
        rfl
    · rw [locate_render_eq_walk hp hsize, ← walk_parent_append hnames]
      exact hmore follow last

end FileTree

end NorFlash
