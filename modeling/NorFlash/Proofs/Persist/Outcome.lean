import NorFlash.Proofs.Persist.Placeable

/-!
# How putting a file in place ends

What a run of `persist` ends with depends on the files that are there and not on the data
(`byTree_persist`). Where a file can be put in place, it is moved, and the run ends as the opening
of the parent does (`runOn_persist_of_placeable`). Where it cannot, the run fails with an error of
the system (`runOn_persist_of_not_placeable`).
-/

namespace NorFlash

open FileTree

/-- An error of the system. -/
def IsSystemFailure (failure : Failure) : Prop :=
  ∃ fault, failure = .file (.file fault)

namespace Action

variable {s : Setting} {path : Path}

/-! ## Directories -/

theorem failsBy_makeDirectory (h : path.IsPlain) :
    FailsBy IsSystemFailure (makeDirectory s path) := by
  intro w failure w' hrun
  rw [runOn_makeDirectory, Path.isPlain_iff.1 h, if_neg Bool.false_ne_true] at hrun
  split at hrun <;> cases (Prod.ext_iff.1 hrun).1

theorem failsBy_acceptDirectory (errno : Errno) :
    FailsBy IsSystemFailure (acceptDirectory s path errno) := by
  refine (failsBy_testEntry s path _ fun fault => ⟨fault, rfl⟩).bind fun found => ?_
  split
  · exact failsBy_throw ⟨_, rfl⟩
  · exact failsBy_pure _

theorem failsBy_ensureDirectory (h : path.IsPlain) :
    FailsBy IsSystemFailure (ensureDirectory s path) := by
  refine (failsBy_makeDirectory h).bind fun made => ?_
  split
  · exact failsBy_pure _
  · exact failsBy_throw ⟨_, rfl⟩
  · exact failsBy_acceptDirectory _

theorem failsBy_ensureNames (start : PathRoot) {names : List String}
    (h : ∀ name ∈ names, '\x00' ∉ name.toList) :
    FailsBy IsSystemFailure (ensureNames s start names) := by
  induction names with
  | nil =>
    refine (failsBy_makeDirectory (by simp [Path.IsPlain])).bind fun made => ?_
    split
    · exact failsBy_pure _
    · exact failsBy_throw ⟨_, rfl⟩
    · exact failsBy_acceptDirectory _
  | cons name names ih =>
    have hplain : Path.IsPlain ⟨start, (name :: names).reverse⟩ :=
      fun other hother => h other (List.mem_reverse.1 hother)
    refine (failsBy_makeDirectory hplain).bind fun made => ?_
    split
    · exact failsBy_pure _
    · exact (ih fun other hother => h other (List.mem_cons_of_mem _ hother)).bind fun _ =>
        failsBy_ensureDirectory hplain
    · exact failsBy_acceptDirectory _

/-! ## Temporary files -/

/-- The lexical location of a path has the names of the directory and of the path. -/
theorem mem_lexicalLocation {directory : Location} {name : String}
    (h : name ∈ path.lexicalLocation directory) : name ∈ directory ∨ name ∈ path.names := by
  have hfold : ∀ (names : List String) (loc : Location), name ∈ names.foldl Path.pushName loc →
      name ∈ loc ∨ name ∈ names := by
    intro names
    induction names with
    | nil => exact fun loc hloc => .inl hloc
    | cons first rest ih =>
      intro loc hloc
      rcases ih (Path.pushName loc first) hloc with hpush | hrest
      · rw [Path.pushName] at hpush
        split at hpush
        · exact .inl (List.dropLast_subset _ hpush)
        · rcases List.mem_append.1 hpush with hold | hnew
          · exact .inl hold
          · exact .inr (List.mem_singleton.1 hnew ▸ List.mem_cons_self)
      · exact .inr (List.mem_cons_of_mem _ hrest)
  rcases hfold path.names _ h with hstart | hnames
  · split at hstart
    · exact .inl hstart
    · exact absurd hstart List.not_mem_nil
  · exact .inr hnames

theorem not_mem_temporaryMark (n : Nat) : '\x00' ∉ (temporaryMark n).toList := by
  rw [temporaryMark]
  split
  · decide
  · rw [String.toList_ofList, Numeral.zeroFill, List.mem_append, not_or]
    constructor
    · intro hbad
      exact absurd (List.eq_of_mem_replicate hbad) (by decide)
    · intro hbad
      exact absurd (Nat.isDigit_of_mem_toDigits (by decide) (by decide) hbad) (by decide)

theorem hasNull_temporaryPath (hdirectory : ∀ name ∈ s.directory, '\x00' ∉ name.toList)
    {output : Path} (h : output.IsPlain) (n : Nat) :
    hasNull (temporaryPath s output n) = false := by
  have hbody : '\x00' ∉ ("/".intercalate (output.parent.lexicalLocation s.directory)).toList := by
    rw [String.toList_intercalate, show "/".toList = ['/'] from rfl,
      Path.mem_intercalate (by decide)]
    rintro ⟨cs, hcs, hbad⟩
    obtain ⟨name, hname, rfl⟩ := List.mem_map.1 hcs
    rcases mem_lexicalLocation hname with hmem | hmem
    · exact hdirectory name hmem hbad
    · exact h.parent name hmem hbad
  have habsolute : '\x00' ∉ (output.parent.absoluteText s.directory).toList := by
    rw [Path.absoluteText]
    split
    · simp [String.toList_append, hbody, -String.toList_intercalate]
    · simp [String.toList_append, hbody, -String.toList_intercalate]
  have hname : '\x00' ∉ output.name.toList := by
    rw [Path.name]
    cases hlast : output.names.getLast? with
    | none => simp
    | some name => exact h name (List.mem_of_getLast? hlast)
  have hmark := not_mem_temporaryMark n
  rw [hasNull, List.contains_eq_mem, decide_eq_false_iff_not, temporaryPath]
  split
  · simp [habsolute, hname, hmark]
  · simp [habsolute, hname, hmark]

theorem failsBy_makeTemporary (hdirectory : ∀ name ∈ s.directory, '\x00' ∉ name.toList)
    {output : Path} (h : output.IsPlain) (tries n : Nat) :
    FailsBy IsSystemFailure (makeTemporary s output tries n) := by
  induction tries generalizing n with
  | zero => exact failsBy_throw ⟨_, rfl⟩
  | succ tries ih =>
    rw [makeTemporary, hasNull_temporaryPath hdirectory h, if_neg Bool.false_ne_true]
    refine failsBy_tree.bind fun t => ?_
    split
    · exact failsBy_tree.bind fun _ => (failsBy_setTree _).bind fun _ => failsBy_pure _
    · exact ih (n + 1)
    · exact failsBy_throw ⟨_, rfl⟩

theorem failsBy_moveOnto (source : String) (loc : Location) (node : Node) (output : Path) :
    FailsBy IsSystemFailure (moveOnto s source loc node output) := by
  refine failsBy_tree.bind fun t => ?_
  split
  · exact failsBy_setTree _
  · exact (failsBy_setTree _).bind fun _ => failsBy_throw ⟨_, rfl⟩

theorem failsBy_openEntry : FailsBy IsSystemFailure (openEntry s path) := by
  refine failsBy_tree.bind fun t => ?_
  split
  · exact failsBy_pure _
  · exact failsBy_throw ⟨_, rfl⟩

end Action

/-! ## The whole run -/

section

variable {s : Setting} {data : ByteArray} {output : Path} {w : World}

theorem byTree_persist (s : Setting) (data : ByteArray) (output : Path) :
    Action.ByTree (persist s data output) := by
  refine (Action.isQuiet_ensureNames _ _).byTree.bind fun _ => ?_
  refine Action.isQuiet_tree.byTree.bind fun t => ?_
  refine (Action.isQuiet_makeTemporary _ _ _).byTree.bind fun _ => ?_
  refine (Action.isQuiet_moveOnto _ _ _ _).byTree.bind fun _ => ?_
  exact Action.isQuiet_openEntry.byTree.bind fun _ => Action.byTree_note _ _

theorem failsBy_persist (hdirectory : ∀ name ∈ s.directory, '\x00' ∉ name.toList)
    (hplain : output.IsPlain) (data : ByteArray) :
    Action.FailsBy IsSystemFailure (persist s data output) := by
  have hparent : ∀ name ∈ output.parent.names.reverse, '\x00' ∉ name.toList :=
    fun name hname => hplain.parent name (List.mem_reverse.1 hname)
  refine (Action.failsBy_ensureNames _ hparent).bind fun _ => ?_
  refine Action.failsBy_tree.bind fun t => ?_
  refine (Action.failsBy_makeTemporary hdirectory hplain _ _).bind fun _ => ?_
  refine (Action.failsBy_moveOnto _ _ _ _).bind fun _ => ?_
  exact Action.failsBy_openEntry.bind fun _ => Action.failsBy_note _ _

variable (hp : output.IsProper) (hplain : output.IsPlain)
  (hdirectory : ∀ name ∈ s.directory, '\x00' ∉ name.toList)

include hp hplain hdirectory

/-- **A file that can be put in place is moved, and then the parent is opened.** -/
theorem runOn_persist_of_placeable (h : placeable s w.tree output = true) :
    let run := (persist s data output).runOn w
    Opened s output run.2.tree run.1 := by
  obtain ⟨made, hmade, hmark, htakes⟩ := placeable_iff.1 h
  have hensure : (Action.ensureDirectories s output.parent).runOn w =
      (.ok (), { w with tree := made }) := by
    have hmakes := Action.makes_ensureDirectories (s := s) hp.parent hplain.parent w
    rwa [hmade] at hmakes
  obtain ⟨found, hfound⟩ := (exists_runOn_makeTemporary_iff
    (Action.hasNull_temporaryPath hdirectory hplain) _ 0 { w with tree := made }).2 hmark
  rcases Action.runOn_makeTemporary (s := s) output (made.entries.length + 1) 0
    { w with tree := made } with ⟨failure, hfail⟩ | ⟨source, loc, -, hroot, hfree, htemporary⟩
  · rw [hfail] at hfound
    cases hfound
  · obtain ⟨target, htarget⟩ := (exists_renameTarget_iff hp hroot hfree).2 htakes
    exact (runOn_persist_of_renameTarget hensure htemporary htarget).2

/-- **A file that cannot be put in place is an error of the system.** -/
theorem runOn_persist_of_not_placeable (h : placeable s w.tree output = false) :
    ∃ failure, ((persist s data output).runOn w).1 = .error failure ∧ IsSystemFailure failure := by
  obtain ⟨failure, hfail⟩ : ∃ failure, ((persist s data output).runOn w).1 = .error failure := by
    have hmakes := Action.makes_ensureDirectories (s := s) hp.parent hplain.parent w
    cases hmade : w.tree.withDirectories? s.directory output.parent with
    | none =>
      rw [hmade] at hmakes
      obtain ⟨failure, hfail⟩ := hmakes
      exact ⟨failure, congrArg Prod.fst (Action.runOn_bind_error (Prod.ext hfail rfl) _)⟩
    | some made =>
      rw [hmade] at hmakes
      rcases Action.runOn_makeTemporary (s := s) output (made.entries.length + 1) 0
        { w with tree := made } with ⟨failure, hfail⟩ | ⟨source, loc, -, hroot, hfree, htemporary⟩
      · rw [persist, Action.runOn_bind_ok hmakes, Action.runOn_bind_ok (Action.runOn_tree _),
          Action.runOn_bind_error hfail]
        exact ⟨failure, rfl⟩
      · cases htarget : (made.insert loc (.file temporaryMode ByteArray.empty)).renameTarget
            s.directory output.render with
        | error errno =>
          rw [runOn_persist_of_renameTarget_error hmakes htemporary htarget]
          exact ⟨_, rfl⟩
        | ok target =>
          -- Nothing is wrong with the place, so the file could be put there.
          have hmark := (exists_runOn_makeTemporary_iff
            (Action.hasNull_temporaryPath hdirectory hplain) _ 0 { w with tree := made }).1
              ⟨_, congrArg Prod.fst htemporary⟩
          have htakes := (exists_renameTarget_iff hp hroot hfree).1 ⟨target, htarget⟩
          rw [placeable_iff.2 ⟨made, hmade, hmark, htakes⟩] at h
          cases h
  exact ⟨failure, hfail, failsBy_persist hdirectory hplain data w failure _ (Prod.ext hfail rfl)⟩

end

end NorFlash
