import NorFlash.Proofs.Persist.Directories

/-!
# Runs of `persist`

`runOn_persist` tells all that a run does to a tree: the directories on the path to the output that
were missing are made, and then either nothing else changes and the run fails, or exactly the entry
that the output leads to is replaced by a file with the data (`Moved`) and the run ends as the
opening of the parent of the output does (`Opened`).
-/

namespace NorFlash

open FileTree

namespace Action

variable {s : Setting} {path : Path}

/-! ## Steps -/

theorem name_of_temporaryPath {output : Path} {n : Nat}
    (h : ¬ hasNull (temporaryPath s output n) = true) : '\x00' ∉ output.name.toList := by
  intro hbad
  refine h ?_
  simp [hasNull, temporaryPath, hbad]

/-- A temporary file is made at a free place, or nothing is made. -/
theorem runOn_makeTemporary (output : Path) (tries n : Nat) (w : World) :
    (∃ failure, (makeTemporary s output tries n).runOn w = (.error failure, w)) ∨
      ∃ source loc, '\x00' ∉ output.name.toList ∧ loc ≠ [] ∧ w.tree.get? loc = none ∧
        (makeTemporary s output tries n).runOn w =
          (.ok (source, loc),
            { w with tree := w.tree.insert loc (.file temporaryMode ByteArray.empty) }) := by
  induction tries generalizing n with
  | zero => exact .inl ⟨_, rfl⟩
  | succ tries ih =>
    rw [makeTemporary]
    split
    · exact .inl ⟨_, rfl⟩
    · next hnull =>
      rw [runOn_bind_ok (runOn_tree w)]
      cases hlocate : w.tree.locate s.directory false (temporaryPath s output n) with
      | error errno => exact .inl ⟨_, rfl⟩
      | ok place =>
        cases place with
        | entry loc => exact ih (n + 1)
        | vacant parent name =>
          obtain ⟨-, hleads⟩ := locate_eq_ok_iff.1 hlocate
          exact .inr ⟨_, parent ++ [name], name_of_temporaryPath hnull, by simp,
            hleads.of_vacant.2.2, rfl⟩

theorem runOn_moveOnto (source : String) (loc : Location) (node : Node) (output : Path)
    (w : World) :
    (moveOnto s source loc node output).runOn w =
      match w.tree.renameTarget s.directory output.render with
      | .ok target => (.ok (), { w with tree := (w.tree.erase loc).insert target node })
      | .error errno =>
        (.error (.file (.file (.between errno source output.render))),
          { w with tree := w.tree.erase loc }) := by
  rw [moveOnto, runOn_bind_ok (runOn_tree w)]
  cases w.tree.renameTarget s.directory output.render <;> rfl

theorem runOn_openEntry (s : Setting) (path : Path) (w : World) :
    (∃ node, w.tree.status s.directory path.render = .ok node ∧
        (openEntry s path).runOn w = (.ok (), w)) ∨
      ∃ errno, w.tree.status s.directory path.render = .error errno ∧
        (openEntry s path).runOn w = (.error (.file (.file (.of errno path.render))), w) := by
  rw [openEntry, runOn_bind_ok (runOn_tree w)]
  cases w.tree.status s.directory path.render with
  | ok node => exact .inl ⟨node, rfl, rfl⟩
  | error errno => exact .inr ⟨errno, rfl, rfl⟩

theorem isQuiet_makeTemporary (output : Path) (tries n : Nat) :
    IsQuiet (makeTemporary s output tries n) := by
  induction tries generalizing n with
  | zero => exact isQuiet_refuse _ _
  | succ tries ih =>
    rw [makeTemporary]
    split
    · exact isQuiet_throw _
    · refine isQuiet_tree.bind fun t => ?_
      split
      · exact isQuiet_tree.bind fun _ => (isQuiet_setTree _).bind fun _ => isQuiet_pure _
      · exact ih (n + 1)
      · exact isQuiet_refuse _ _

theorem isQuiet_moveOnto (source : String) (loc : Location) (node : Node) (output : Path) :
    IsQuiet (moveOnto s source loc node output) := by
  refine isQuiet_tree.bind fun t => ?_
  split
  · exact isQuiet_setTree _
  · exact (isQuiet_setTree _).bind fun _ => isQuiet_throw _

theorem isQuiet_openEntry : IsQuiet (openEntry s path) := by
  refine isQuiet_tree.bind fun t => ?_
  split
  · exact isQuiet_pure _
  · exact isQuiet_refuse _ _

end Action

/-- A file is moved onto the place its path leads to, which is no directory, and the path ends in a
name. -/
theorem renameTarget_eq_ok_iff {t : FileTree} {directory target : Location} {text : String} :
    t.renameTarget directory text = .ok target ↔
      (∃ place, t.locate directory false text = .ok place ∧ place.location = target ∧
        ¬ t.IsDirectory target) ∧
      ∃ names last, components text = names ++ [last] ∧ last ≠ "." ∧ last ≠ ".." := by
  constructor
  · intro h
    simp only [renameTarget] at h
    split at h
    · simp at h
    · split at h
      · simp at h
      · next hlast =>
        simp only [not_or] at hlast
        obtain ⟨last, hsome⟩ := Option.ne_none_iff_exists'.1 hlast.1
        have hdot : last ≠ "." := fun hbad => hlast.2.1 (by rw [hsome, hbad])
        have hdots : last ≠ ".." := fun hbad => hlast.2.2 (by rw [hsome, hbad])
        obtain ⟨names, hnames⟩ := List.getLast?_eq_some_iff.1 hsome
        refine ⟨?_, names, last, hnames, hdot, hdots⟩
        split at h
        · simp at h
        · next parent name hlocate =>
          obtain rfl := Except.ok.inj h
          obtain ⟨-, hleads⟩ := locate_eq_ok_iff.1 hlocate
          refine ⟨_, hlocate, rfl, ?_⟩
          rintro ⟨mode, hmode⟩
          simp [hleads.of_vacant.2.2] at hmode
        · next loc hlocate =>
          split at h
          · simp at h
          · next hother =>
            obtain rfl := Except.ok.inj h
            refine ⟨_, hlocate, rfl, ?_⟩
            rintro ⟨mode, hmode⟩
            exact hother mode hmode
  · rintro ⟨⟨place, hlocate, rfl, hdir⟩, names, last, hnames, hdot, hdots⟩
    obtain ⟨-, hleads⟩ := locate_eq_ok_iff.1 hlocate
    rw [hnames] at hleads
    obtain ⟨other, -, hfirst, -⟩ := hleads.split
    simp only [renameTarget, hnames, List.dropLast_concat, List.getLast?_concat,
      walk_of_leads hfirst, hlocate]
    rw [if_neg (by simp [hdot, hdots])]
    cases place with
    | vacant parent name => rfl
    | entry loc =>
      dsimp only [Place.location] at hdir ⊢
      split
      · next mode hmode => exact absurd ⟨mode, hmode⟩ hdir
      · rfl

/-- The data has been moved to the place that the output leads to. -/
structure Moved (s : Setting) (data : ByteArray) (output : Path) (made after : FileTree)
    (place : Place) : Prop where
  /-- The text of the output is one for the system. -/
  text : Action.hasNull output.render = false
  /-- The output lies in a directory. -/
  parent : made.test s.directory output.parent.render Node.isDirectory = .ok true
  /-- The output ends in a name. -/
  ending : ∃ names last, output.names = names ++ [last] ∧ last ≠ ".."
  /-- The output leads to the place. -/
  locate : made.locate s.directory false output.render = .ok place
  /-- There is no directory at the place. -/
  not_directory : ¬ made.IsDirectory place.location
  /-- There is a file with the data now, and all else is as it was. -/
  put : made.IsPut place.location (.file outputMode data) after

section

variable {s : Setting} {data : ByteArray} {output : Path} {made after : FileTree} {place : Place}
  {loc : Location}

/-- After a move the parent of the output leads to its directory and the output to the file, or the
parent leads to no directory and the output nowhere. -/
theorem Moved.parent_cases (h : Moved s data output made after place) (hp : output.IsProper) :
    (after.test s.directory output.parent.render Node.isDirectory = .ok true ∧
        ∀ follow, after.locate s.directory follow output.render = .ok (.entry place.location)) ∨
      after.test s.directory output.parent.render Node.isDirectory = .ok false ∧
        ∀ follow, after.locate s.directory follow output.render = .error .notDirectory := by
  obtain ⟨names, last, hnames, hdots⟩ := h.ending
  exact h.put.parent_cases hp hnames hdots h.locate h.not_directory h.parent

/-- A move leaves the parent of the output as it is, unless the parent runs through the link that
is replaced. -/
theorem Moved.parent_of_link (h : Moved s data output made after place)
    (hlink : ∀ target, made.get? place.location = some (.link target) →
      (made.erase place.location).test s.directory output.parent.render Node.isDirectory =
        .ok true) :
    after.test s.directory output.parent.render Node.isDirectory = .ok true := by
  by_cases hto : ∃ target, made.get? place.location = some (.link target)
  · obtain ⟨target, htarget⟩ := hto
    have hroot : place.location ≠ [] := by
      intro hbad
      rw [hbad] at htarget
      simp [get?] at htarget
    exact h.put.test_of_erase hroot (hlink target htarget)
  · exact h.put.test_of_not_link h.not_directory (fun target hbad => hto ⟨target, hbad⟩) h.parent

/-- A move leaves the parent of the output as it is, unless the output leads to a link without which
its parent leads to no directory. -/
theorem Moved.parent_of_find (h : Moved s data output made after place)
    (hlink : ∀ loc target, made.find s.directory false output.render = .ok loc →
      made.get? loc = some (.link target) →
      (made.erase loc).test s.directory output.parent.render Node.isDirectory = .ok true) :
    after.test s.directory output.parent.render Node.isDirectory = .ok true := by
  refine h.parent_of_link fun target htarget => ?_
  have hlocate := h.locate
  cases place with
  | entry loc => exact hlink loc target (find_eq_ok_iff.2 hlocate) htarget
  | vacant parent name =>
    obtain ⟨-, hleads⟩ := locate_eq_ok_iff.1 hlocate
    exact absurd (hleads.of_vacant.2.2.symm.trans htarget) (by simp)

/-- Once the temporary file is taken away the tree is the one before it. -/
theorem get?_erase_insert (hroot : loc ≠ []) (hfree : made.get? loc = none) (node : Node)
    (other : Location) : ((made.insert loc node).erase loc).get? other = made.get? other := by
  rw [get?_erase _ hroot, get?_insert _ _ hroot]
  split
  · next heq => rw [heq, hfree]
  · rfl

theorem hasNull_render {names : List String} {last : String}
    (hnames : output.names = names ++ [last])
    (hparent : Action.hasNull output.parent.render = false)
    (hname : '\x00' ∉ output.name.toList) : Action.hasNull output.render = false := by
  have hlast : output.name = last := by
    rw [Path.name, hnames, List.getLast?_concat, Option.getD_some]
  have hfirst : '\x00' ∉ output.parent.render.toList := by simpa [Action.hasNull] using hparent
  rw [Path.mem_render (by decide) (by decide), Path.parent, hnames, List.dropLast_concat] at hfirst
  have hall : '\x00' ∉ output.render.toList := by
    rw [Path.mem_render (by decide) (by decide), hnames]
    rintro ⟨name, hmem, hnull⟩
    rcases List.mem_append.1 hmem with hmem | hmem
    · exact hfirst ⟨name, hmem, hnull⟩
    · obtain rfl := List.mem_singleton.1 hmem
      exact hname (hlast ▸ hnull)
  simpa [Action.hasNull] using hall

/-- The place found beside the temporary file is the one that the output leads to without it. -/
theorem place_of_renameTarget {directory target : Location} (hp : output.IsProper)
    (hroot : loc ≠ []) (hfree : made.get? loc = none)
    (h : (made.insert loc (.file temporaryMode ByteArray.empty)).renameTarget directory
      output.render = .ok target) :
    (∃ place, made.locate directory false output.render = .ok place ∧ place.location = target ∧
      ¬ made.IsDirectory target) ∧
    ∃ names last, output.names = names ++ [last] ∧ last ≠ ".." := by
  obtain ⟨⟨place₁, hlocate, htarget, hdir⟩, names, last, hnames, hdot, hdots⟩ :=
    renameTarget_eq_ok_iff.1 h
  have hview := made.get?_insert (.file temporaryMode ByteArray.empty) hroot
  obtain ⟨hsize, hleads⟩ := (locate_render_iff hp).1 hlocate
  -- The way was found while the temporary file was there; without the file it is the same.
  obtain ⟨place, hleads', hsame⟩ := hleads.unfill (t := made)
    (fun other hother => (hview other).trans (if_neg hother))
    ⟨_, _, (hview loc).trans (if_pos rfl)⟩ hfree
  rw [htarget] at hsame
  rw [Path.components_render hp] at hnames
  refine ⟨⟨place, (locate_render_iff hp).2 ⟨hsize, hleads'⟩, hsame, ?_⟩, names, last, ?_, hdots⟩
  · rintro ⟨mode, hmode⟩
    refine hdir ⟨mode, (hview target).trans ((if_neg ?_).trans hmode)⟩
    rintro rfl
    simp [hfree] at hmode
  · rw [Path.steps] at hnames
    split at hnames
    · have hlast : "." = last := by simpa using congrArg List.getLast? hnames
      exact absurd hlast.symm hdot
    · exact hnames

/-- The data is moved to the place that the output leads to. -/
theorem moved_of_renameTarget (data : ByteArray) {target : Location} (hp : output.IsProper)
    (hroot : loc ≠ []) (hfree : made.get? loc = none)
    (hnull : Action.hasNull output.parent.render = false) (hname : '\x00' ∉ output.name.toList)
    (hparent : made.test s.directory output.parent.render Node.isDirectory = .ok true)
    (h : (made.insert loc (.file temporaryMode ByteArray.empty)).renameTarget s.directory
      output.render = .ok target) :
    ∃ place, Moved s data output made
      (((made.insert loc (.file temporaryMode ByteArray.empty)).erase loc).insert target
        (.file outputMode data)) place := by
  obtain ⟨⟨place, hlocate, hsame, hdir⟩, names, last, hnames, hdots⟩ :=
    place_of_renameTarget hp hroot hfree h
  have htargetRoot : target ≠ [] := by
    rintro rfl
    exact hdir ⟨_, rfl⟩
  refine ⟨place, hasNull_render hnames hnull hname, hparent, ⟨names, last, hnames, hdots⟩,
    hlocate, by rwa [hsame], ?_⟩
  · intro other
    rw [hsame, get?_insert _ _ htargetRoot, get?_erase_insert hroot hfree]

/-! ## The whole run -/

/-- How a run of `persist` ends after a move: the parent of the output is opened. -/
def Opened (s : Setting) (output : Path) (after : FileTree) (result : Except Failure Unit) : Prop :=
  result = .ok () ∧ (∃ node, after.status s.directory output.parent.render = .ok node) ∨
    ∃ errno, result = .error (.file (.file (.of errno output.parent.render))) ∧
      after.status s.directory output.parent.render = .error errno

/-- A run that has made a temporary file moves it, and then the parent of the output is opened. -/
theorem runOn_persist_of_renameTarget {w w₁ : World} {data : ByteArray} {source : String}
    {target : Location}
    (hensure : (Action.ensureDirectories s output.parent).runOn w = (.ok (), w₁))
    (htemporary : (Action.makeTemporary s output (w₁.tree.entries.length + 1) 0).runOn w₁ =
      (.ok (source, loc),
        { w₁ with tree := w₁.tree.insert loc (.file temporaryMode ByteArray.empty) }))
    (htarget : (w₁.tree.insert loc (.file temporaryMode ByteArray.empty)).renameTarget s.directory
      output.render = .ok target) :
    let run := (persist s data output).runOn w
    run.2.tree = ((w₁.tree.insert loc (.file temporaryMode ByteArray.empty)).erase loc).insert target
        (.file outputMode data) ∧
      Opened s output run.2.tree run.1 := by
  dsimp only
  rw [persist, Action.runOn_bind_ok hensure, Action.runOn_bind_ok (Action.runOn_tree _),
    Action.runOn_bind_ok htemporary, Action.runOn_bind, Action.runOn_moveOnto]
  dsimp only
  rw [htarget]
  dsimp only
  rw [Action.runOn_bind]
  rcases Action.runOn_openEntry s output.parent _ with
    ⟨node, hstatus, hopen⟩ | ⟨errno, hstatus, hopen⟩
  · rw [hopen]
    exact ⟨rfl, .inl ⟨rfl, node, hstatus⟩⟩
  · rw [hopen]
    exact ⟨rfl, .inr ⟨errno, rfl, hstatus⟩⟩

/-- A run that cannot move the temporary file takes it away and fails. -/
theorem runOn_persist_of_renameTarget_error {w w₁ : World} {data : ByteArray} {source : String}
    {errno : Errno}
    (hensure : (Action.ensureDirectories s output.parent).runOn w = (.ok (), w₁))
    (htemporary : (Action.makeTemporary s output (w₁.tree.entries.length + 1) 0).runOn w₁ =
      (.ok (source, loc),
        { w₁ with tree := w₁.tree.insert loc (.file temporaryMode ByteArray.empty) }))
    (htarget : (w₁.tree.insert loc (.file temporaryMode ByteArray.empty)).renameTarget s.directory
      output.render = .error errno) :
    (persist s data output).runOn w =
      (.error (.file (.file (.between errno source output.render))),
        { w₁ with tree := (w₁.tree.insert loc (.file temporaryMode ByteArray.empty)).erase loc }) := by
  rw [persist, Action.runOn_bind_ok hensure, Action.runOn_bind_ok (Action.runOn_tree _),
    Action.runOn_bind_ok htemporary, Action.runOn_bind, Action.runOn_moveOnto]
  dsimp only
  rw [htarget]

/-- Data is put in place after the missing directories are made: either nothing else changes and the
run fails, or the data is moved onto the output and the run fails only where the parent of the
output leads nowhere any more. -/
theorem runOn_persist (s : Setting) (data : ByteArray) {output : Path} (hp : output.IsProper)
    (w : World) :
    let made := ((Action.ensureDirectories s output.parent).runOn w).2.tree
    let run := (persist s data output).runOn w
    MadeOnPath s output.parent w.tree made ∧
      ((∃ failure, run.1 = .error failure) ∧ (∀ loc, run.2.tree.get? loc = made.get? loc) ∨
        ∃ place, Moved s data output made run.2.tree place ∧
          Opened s output run.2.tree run.1) := by
  dsimp only
  obtain ⟨hmade, htest⟩ := Action.ensures_ensureDirectories s output.parent w
  refine ⟨hmade, ?_⟩
  cases hensure : (Action.ensureDirectories s output.parent).runOn w with
  | mk result w₁ =>
    rw [hensure] at htest
    cases result with
    | error failure =>
      rw [persist, Action.runOn_bind_error hensure]
      exact .inl ⟨⟨failure, rfl⟩, fun _ => rfl⟩
    | ok _ =>
      obtain ⟨hnull, hparent⟩ := htest rfl
      dsimp only at hparent ⊢
      rcases Action.runOn_makeTemporary (s := s) output (w₁.tree.entries.length + 1) 0 w₁ with
        ⟨failure, hfail⟩ | ⟨source, loc, hname, hroot, hfree, htemporary⟩
      · rw [persist, Action.runOn_bind_ok hensure, Action.runOn_bind_ok (Action.runOn_tree w₁),
          Action.runOn_bind_error hfail]
        exact .inl ⟨⟨failure, rfl⟩, fun _ => rfl⟩
      · cases htarget : (w₁.tree.insert loc (.file temporaryMode ByteArray.empty)).renameTarget
            s.directory output.render with
        | error errno =>
          rw [runOn_persist_of_renameTarget_error hensure htemporary htarget]
          exact .inl ⟨⟨_, rfl⟩, get?_erase_insert hroot hfree _⟩
        | ok target =>
          obtain ⟨place, hmoved⟩ :=
            moved_of_renameTarget data hp hroot hfree hnull hname hparent htarget
          obtain ⟨hafter, hopened⟩ := runOn_persist_of_renameTarget hensure htemporary htarget
          exact .inr ⟨place, hafter ▸ hmoved, hopened⟩

end

/-! ## A run in a directory that is there -/

section

variable {s : Setting} {path : Path} {w : World} {loc : Location}

theorem Action.runOn_acceptDirectory (errno : Errno) (hnull : Action.hasNull path.render = false)
    (hdir : w.tree.test s.directory path.render Node.isDirectory = .ok true) :
    (acceptDirectory s path errno).runOn w = (.ok (), w) := by
  have hlook : (testEntry s path Node.isDirectory).runOn w = (.ok true, w) := by
    simp only [testEntry, hnull, Bool.false_eq_true, if_false]
    rw [runOn_bind_ok (runOn_tree w), hdir]
    rfl
  rw [acceptDirectory, runOn_bind_ok hlook]
  rfl

theorem Action.runOn_ensureDirectories {text : String} (htext : path.render = text)
    (hnull : Action.hasNull text = false)
    (hentry : w.tree.locate s.directory false text = .ok (.entry loc))
    (hdir : w.tree.test s.directory text Node.isDirectory = .ok true) :
    (ensureDirectories s path).runOn w = (.ok (), w) := by
  subst htext
  have hmake : (makeDirectory s path).runOn w = (.ok (.error .alreadyExists), w) := by
    rw [runOn_makeDirectory, hnull, FileTree.makeDirectory, hentry]
    rfl
  have haccept := runOn_acceptDirectory .alreadyExists hnull hdir
  obtain ⟨start, names⟩ := path
  rw [ensureDirectories]
  cases hnames : names.reverse with
  | nil =>
    obtain rfl := List.reverse_eq_nil_iff.1 hnames
    rw [ensureNames, runOn_bind_ok hmake]
    exact haccept
  | cons name rest =>
    obtain rfl : names = (name :: rest).reverse := by rw [← hnames, List.reverse_reverse]
    rw [ensureNames, runOn_bind_ok hmake]
    exact haccept

/-- The tree after a file was moved from a free place onto another one. -/
def movedTree (t : FileTree) (loc target : Location) (data : ByteArray) : FileTree :=
  ((t.insert loc (.file temporaryMode ByteArray.empty)).erase loc).insert target
    (.file outputMode data)

/-- A run that finds the directory of the output and a place for the temporary file. -/
theorem runOn_persist_of_directory {data : ByteArray} {output : Path}
    {text directory mark name : String} {parent target : Location} (htext : output.render = text)
    (hparent : output.parent.render = directory) (hmark : temporaryPath s output 0 = mark)
    (hnull : Action.hasNull directory = false) (hnull' : Action.hasNull mark = false)
    (hentry : w.tree.locate s.directory false directory = .ok (.entry loc))
    (hdir : w.tree.test s.directory directory Node.isDirectory = .ok true)
    (hfree : w.tree.locate s.directory false mark = .ok (.vacant parent name))
    (htarget : (w.tree.insert (parent ++ [name]) (.file temporaryMode ByteArray.empty)).renameTarget
      s.directory text = .ok target) :
    (persist s data output).runOn w =
      match (movedTree w.tree (parent ++ [name]) target data).status s.directory directory with
      | .ok _ =>
        (.ok (), { w with
          tree := movedTree w.tree (parent ++ [name]) target data
          log := w.log ++ [⟨.debug, "replaced " ++ text ++ " with "
            ++ Numeral.decimal data.size ++ " bytes"⟩] })
      | .error errno =>
        (.error (.file (.file (.of errno directory))),
          { w with tree := movedTree w.tree (parent ++ [name]) target data }) := by
  subst htext hparent hmark
  have htemporary : (Action.makeTemporary s output (w.tree.entries.length + 1) 0).runOn w =
      (.ok (temporaryPath s output 0, parent ++ [name]), { w with
        tree := w.tree.insert (parent ++ [name]) (.file temporaryMode ByteArray.empty) }) := by
    simp only [Action.makeTemporary, hnull', Bool.false_eq_true, if_false]
    rw [Action.runOn_bind_ok (Action.runOn_tree w), hfree]
    rfl
  rw [persist, Action.runOn_bind_ok (Action.runOn_ensureDirectories rfl hnull hentry hdir),
    Action.runOn_bind_ok (Action.runOn_tree w), Action.runOn_bind_ok htemporary, Action.runOn_bind,
    Action.runOn_moveOnto]
  simp only [htarget]
  rw [Action.runOn_bind]
  rcases Action.runOn_openEntry s output.parent _ with
    ⟨node, hstatus, hopen⟩ | ⟨errno, hstatus, hopen⟩
  · rw [hopen]
    simp only [movedTree, hstatus]
    rfl
  · rw [hopen]
    simp only [movedTree, hstatus]

end

end NorFlash
