import NorFlash.Persist
import NorFlash.Proofs.Action
import NorFlash.Proofs.FileTree.Locate

/-!
# Making the directories on a path

`Action.ensureDirectories` makes directories at free places that the first names of a path lead to
and changes nothing else (`MadeOnPath`), and where it returns the path leads to a directory
(`Action.ensures_ensureDirectories`).
-/

namespace NorFlash

open FileTree

/-! ## Directories on a path -/

/-- The path of the first names. -/
def Path.upTo (p : Path) (k : Nat) : Path :=
  ⟨p.root, p.names.take k⟩

theorem Path.upTo_length (p : Path) : p.upTo p.names.length = p := by
  rw [upTo, List.take_length]

/-- The second tree is the first one with directories at some free places that the first names of a
path lead to. -/
def MadeOnPath (s : Setting) (path : Path) (before after : FileTree) : Prop :=
  ∀ loc, after.get? loc = before.get? loc ∨
    before.get? loc = none ∧ after.get? loc = some (.directory directoryMode) ∧
      ∃ k, after.find s.directory true (path.upTo k).render = .ok loc

namespace MadeOnPath

variable {s : Setting} {path : Path} {before mid after : FileTree}

theorem refl (s : Setting) (path : Path) (t : FileTree) : MadeOnPath s path t t :=
  fun _ => .inl rfl

/-- What was there is there still. -/
theorem get?_eq {loc : Location} {node : Node} (h : MadeOnPath s path before after)
    (hnode : before.get? loc = some node) : after.get? loc = some node := by
  rcases h loc with heq | ⟨hnone, -⟩
  · rw [heq, hnode]
  · simp [hnone] at hnode

/-- An entry that a path led to is the one it leads to still. -/
theorem locate_entry {directory loc : Location} {follow : Bool} {text : String}
    (h : MadeOnPath s path before after)
    (hlocate : before.locate directory follow text = .ok (.entry loc)) :
    after.locate directory follow text = .ok (.entry loc) := by
  obtain ⟨htext, hleads⟩ := locate_eq_ok_iff.1 hlocate
  exact locate_eq_ok_iff.2 ⟨htext, hleads.mono fun _ _ => h.get?_eq⟩

theorem trans (h₁ : MadeOnPath s path before mid) (h₂ : MadeOnPath s path mid after) :
    MadeOnPath s path before after := by
  intro loc
  rcases h₁ loc with heq | ⟨hnone, hdir, k, hfind⟩
  · rw [← heq]
    exact h₂ loc
  · exact .inr ⟨hnone, h₂.get?_eq hdir, k,
      find_eq_ok_iff.2 (h₂.locate_entry (find_eq_ok_iff.1 hfind))⟩

/-- Directories on the way to a path are on the way to a longer one. -/
theorem longer {start : PathRoot} {names : List String}
    (h : MadeOnPath s ⟨start, names⟩ before after) (more : List String) :
    MadeOnPath s ⟨start, names ++ more⟩ before after := by
  intro loc
  rcases h loc with heq | ⟨hnone, hdir, k, hfind⟩
  · exact .inl heq
  · have hupTo : Path.upTo ⟨start, names ++ more⟩ (min k names.length) =
        Path.upTo ⟨start, names⟩ k := by
      have htake : names.take (min k names.length) = names.take k := by
        simp [List.take_eq_take_iff]
      simp only [Path.upTo, List.take_append_of_le_length (Nat.min_le_right ..), htake]
    exact .inr ⟨hnone, hdir, _, by rw [hupTo]; exact hfind⟩

end MadeOnPath

/-- A directory made at a free place is found there. -/
theorem makeDirectory_made {s : Setting} {path : Path} {t t' : FileTree}
    (h : t.makeDirectory s.directory path.render = .ok t') :
    MadeOnPath s path t t' ∧
      t'.test s.directory path.render Node.isDirectory = .ok true := by
  rw [FileTree.makeDirectory] at h
  split at h
  · next parent name hlocate =>
    obtain rfl := Except.ok.inj h
    obtain ⟨htext, hleads⟩ := locate_eq_ok_iff.1 hlocate
    obtain ⟨-, -, hnone⟩ := hleads.of_vacant
    have hget := t.get?_insert (.directory directoryMode)
      (show parent ++ [name] ≠ [] by simp)
    have hnew := (hget (parent ++ [name])).trans (if_pos rfl)
    have hkeep : ∀ other node, t.get? other = some node →
        (t.insert (parent ++ [name]) (.directory directoryMode)).get? other = some node := by
      intro other node hnode
      have hne : other ≠ parent ++ [name] := by
        rintro rfl
        simp [hnone] at hnode
      rw [hget, if_neg hne, hnode]
    have hfound : (t.insert (parent ++ [name]) (.directory directoryMode)).locate s.directory true
        path.render = .ok (.entry (parent ++ [name])) :=
      locate_eq_ok_iff.2 ⟨htext, hleads.fill (by simp) hkeep hnew (by simp)⟩
    refine ⟨fun loc => ?_, test_isDirectory_iff.2 ⟨_, hfound, _, hnew⟩⟩
    by_cases hloc : loc = parent ++ [name]
    · subst hloc
      refine .inr ⟨hnone, hnew, path.names.length, ?_⟩
      rw [Path.upTo_length]
      exact find_eq_ok_iff.2 hfound
    · exact .inl ((hget loc).trans (if_neg hloc))
  · simp at h
  · simp at h

/-! ## Making directories -/

/-- An action makes directories on a path only, and it fails or the path is one for the system and
leads to a directory. -/
def Ensures (s : Setting) (path : Path) (a : Action Unit) : Prop :=
  ∀ w, MadeOnPath s path w.tree (a.runOn w).2.tree ∧
    ((a.runOn w).1 = .ok () → Action.hasNull path.render = false ∧
      (a.runOn w).2.tree.test s.directory path.render Node.isDirectory = .ok true)

namespace Action

variable {s : Setting} {path : Path}

theorem runOn_makeDirectory (w : World) :
    (makeDirectory s path).runOn w =
      if hasNull path.render then (.error (.file .nullCharacter), w)
      else
        match w.tree.makeDirectory s.directory path.render with
        | .ok t => (.ok (.ok ()), { w with tree := t })
        | .error errno => (.ok (.error errno), w) := by
  rw [makeDirectory]
  split
  · rfl
  · dsimp only
    rw [runOn_bind_ok (runOn_tree w)]
    cases w.tree.makeDirectory s.directory path.render <;> rfl

/-- Looking changes nothing, and what is seen is there. -/
theorem runOn_testEntry (s : Setting) (path : Path) (p : Node → Bool) (w : World) :
    ∃ result, (testEntry s path p).runOn w = (result, w) ∧
      (result = .ok true → hasNull path.render = false ∧
        w.tree.test s.directory path.render p = .ok true) := by
  rw [testEntry]
  split
  · exact ⟨.ok false, rfl, by simp⟩
  · next hnull =>
    rw [runOn_bind_ok (runOn_tree w)]
    cases w.tree.test s.directory path.render p with
    | ok answer =>
      exact ⟨.ok answer, rfl, fun h => ⟨by simpa using hnull, congrArg _ (Except.ok.inj h)⟩⟩
    | error errno => exact ⟨_, rfl, by simp⟩

theorem ensures_acceptDirectory (errno : Errno) :
    Ensures s path (acceptDirectory s path errno) := by
  intro w
  obtain ⟨result, hrun, htest⟩ := runOn_testEntry s path Node.isDirectory w
  rw [acceptDirectory, runOn_bind, hrun]
  cases result with
  | error failure => exact ⟨.refl s path w.tree, by simp⟩
  | ok answer =>
    cases answer with
    | false => exact ⟨.refl s path w.tree, by simp⟩
    | true => exact ⟨.refl s path w.tree, fun _ => htest rfl⟩

theorem ensures_refuse (errno : Errno) (text : String) :
    Ensures s path (refuse errno text) :=
  fun w => ⟨.refl s path w.tree, by simp⟩

/-- A directory is made, or the action goes on with the error that stood in the way. -/
theorem ensures_makeDirectory {next : Except Errno Unit → Action Unit}
    (hok : next (.ok ()) = pure ()) (herror : ∀ errno, Ensures s path (next (.error errno))) :
    Ensures s path (makeDirectory s path >>= next) := by
  intro w
  by_cases hnull : hasNull path.render = true
  · rw [runOn_bind, runOn_makeDirectory, if_pos hnull]
    exact ⟨.refl s path w.tree, by simp⟩
  · rw [runOn_bind, runOn_makeDirectory, if_neg hnull]
    cases hmake : w.tree.makeDirectory s.directory path.render with
    | error errno => exact herror errno w
    | ok t =>
      obtain ⟨hmade, htest⟩ := makeDirectory_made hmake
      simp only [hok, runOn_pure]
      exact ⟨hmade, fun _ => ⟨by simpa using hnull, htest⟩⟩

theorem ensures_ensureDirectory (s : Setting) (path : Path) :
    Ensures s path (ensureDirectory s path) := by
  refine ensures_makeDirectory rfl fun errno => ?_
  cases errno with
  | noEntry => exact ensures_refuse _ _
  | _ => exact ensures_acceptDirectory _

/-- The names before are ensured first where they are missing; the induction is on the names, the
last one first. -/
theorem ensures_ensureNames (start : PathRoot) (names : List String) :
    Ensures s ⟨start, names.reverse⟩ (ensureNames s start names) := by
  induction names with
  | nil =>
    refine ensures_makeDirectory rfl fun errno => ?_
    cases errno with
    | noEntry => exact ensures_refuse _ _
    | _ => exact ensures_acceptDirectory _
  | cons name names ih =>
    refine ensures_makeDirectory rfl fun errno => ?_
    cases errno with
    | noEntry =>
      intro w
      obtain ⟨hfirst, -⟩ := ih w
      have hlonger := hfirst.longer [name]
      rw [← List.reverse_cons] at hlonger
      dsimp only
      rw [runOn_bind]
      cases hrun : (ensureNames s start names).runOn w with
      | mk result w₁ =>
        rw [hrun] at hlonger
        cases result with
        | error failure => exact ⟨hlonger, by simp⟩
        | ok _ =>
          obtain ⟨hlast, htest⟩ :=
            ensures_ensureDirectory s ⟨start, (name :: names).reverse⟩ w₁
          exact ⟨hlonger.trans hlast, htest⟩
    | _ => exact ensures_acceptDirectory _

theorem ensures_ensureDirectories (s : Setting) (path : Path) :
    Ensures s path (ensureDirectories s path) := by
  have h := ensures_ensureNames (s := s) path.root path.names.reverse
  rwa [List.reverse_reverse] at h

/-! ## The tree alone -/

theorem isQuiet_makeDirectory : IsQuiet (makeDirectory s path) := by
  rw [makeDirectory]
  split
  · exact isQuiet_throw _
  · refine isQuiet_tree.bind fun t => ?_
    split
    · exact (isQuiet_setTree _).bind fun _ => isQuiet_pure _
    · exact isQuiet_pure _

theorem isQuiet_testEntry (p : Node → Bool) : IsQuiet (testEntry s path p) := by
  rw [testEntry]
  split
  · exact isQuiet_pure _
  · refine isQuiet_tree.bind fun t => ?_
    split
    · exact isQuiet_pure _
    · exact isQuiet_refuse _ _

theorem isQuiet_acceptDirectory (errno : Errno) : IsQuiet (acceptDirectory s path errno) := by
  refine (isQuiet_testEntry _).bind fun found => ?_
  split
  · exact isQuiet_refuse _ _
  · exact isQuiet_pure _

theorem isQuiet_ensureDirectory : IsQuiet (ensureDirectory s path) := by
  refine isQuiet_makeDirectory.bind fun made => ?_
  split
  · exact isQuiet_pure _
  · exact isQuiet_refuse _ _
  · exact isQuiet_acceptDirectory _

theorem isQuiet_ensureNames (start : PathRoot) (names : List String) :
    IsQuiet (ensureNames s start names) := by
  induction names with
  | nil =>
    refine isQuiet_makeDirectory.bind fun made => ?_
    split
    · exact isQuiet_pure _
    · exact isQuiet_refuse _ _
    · exact isQuiet_acceptDirectory _
  | cons name names ih =>
    refine isQuiet_makeDirectory.bind fun made => ?_
    split
    · exact isQuiet_pure _
    · exact ih.bind fun _ => isQuiet_ensureDirectory
    · exact isQuiet_acceptDirectory _

/-- Which directories are made depends on the tree alone. -/
theorem tree_ensureDirectories {w w' : World} (h : w'.tree = w.tree) :
    ((ensureDirectories s path).runOn w').2.tree = ((ensureDirectories s path).runOn w).2.tree := by
  obtain ⟨tree, log, printed⟩ := w
  obtain ⟨tree', log', printed'⟩ := w'
  obtain rfl : tree' = tree := h
  exact congrArg (·.2.tree) (isQuiet_ensureNames path.root path.names.reverse tree' log printed log'
    printed')

end Action

end NorFlash
