import NorFlash.Proofs.Persist.Run

/-!
# What putting a file in place promises

The promise made for `persist` is `Kept`: a run that returns has put the file where the output leads
to, and a run that fails has changed nothing that was there. The promise is kept unless the output
replaces a link that its own parent runs through (`Moved.kept_of_parent`, `Moved.parent_of_kept`),
as it does in `linkedTree`.
-/

namespace NorFlash

open FileTree

/-- What is promised of a run: if it returns, the output leads to a file with the data, which is in
the place of what the output led to, and if it fails, all that was there is as it was. New entries
besides are directories on the path to the output alone. -/
inductive Kept (s : Setting) (data : ByteArray) (output : Path) (before : FileTree) :
    Except Failure Unit → FileTree → Prop
  /-- The run returns; `made` is the tree with the missing directories. -/
  | returned {made after : FileTree} {place : Place} :
      MadeOnPath s output.parent before made →
      made.locate s.directory false output.render = .ok place →
      ¬ made.IsDirectory place.location →
      made.IsPut place.location (.file outputMode data) after →
      after.find s.directory false output.render = .ok place.location →
      Kept s data output before (.ok ()) after
  /-- The run fails. -/
  | raised {failure : Failure} {after : FileTree} :
      MadeOnPath s output.parent before after →
      Kept s data output before (.error failure) after

section

variable {s : Setting} {data : ByteArray} {output : Path} {before made after : FileTree}
  {place : Place}

theorem MadeOnPath.of_get?_eq {path : Path} (h : MadeOnPath s path before made)
    (heq : ∀ loc, after.get? loc = made.get? loc) : MadeOnPath s path before after :=
  h.trans fun loc => .inl (heq loc)

/-- Where a move leaves all that was there as it was, it replaces a file by the same file. -/
theorem Moved.not_link_of_madeOnPath (h : Moved s data output made after place)
    (hmade : MadeOnPath s output.parent before made)
    (hafter : MadeOnPath s output.parent before after) (target : String) :
    made.get? place.location ≠ some (.link target) := by
  have hfile : after.get? place.location = some (.file outputMode data) := by
    rw [h.put, if_pos rfl]
  rcases hafter place.location with heq | ⟨-, hdir, -⟩
  · rw [hfile] at heq
    simp [hmade.get?_eq heq.symm]
  · simp [hfile] at hdir

end

section

variable {s : Setting} {data : ByteArray} {output : Path} {before made after : FileTree}
  {place : Place} {result : Except Failure Unit}

theorem Moved.kept_of_parent (h : Moved s data output made after place) (hp : output.IsProper)
    (hmade : MadeOnPath s output.parent before made) (hopen : Opened s output after result)
    (hparent : after.test s.directory output.parent.render Node.isDirectory = .ok true) :
    Kept s data output before result after := by
  rcases hopen with ⟨rfl, -⟩ | ⟨errno, -, hstatus⟩
  · rcases h.parent_cases hp with ⟨-, hlocate⟩ | ⟨hbad, -⟩
    · exact .returned hmade h.locate h.not_directory h.put (find_eq_ok_iff.2 (hlocate false))
    · simp [hbad] at hparent
  · obtain ⟨loc, hlocate, mode, hdir⟩ := test_isDirectory_iff.1 hparent
    have hnode := status_eq_ok_iff.2 ⟨loc, hlocate, hdir⟩
    simp [hstatus] at hnode

theorem Moved.parent_of_kept (h : Moved s data output made after place) (hp : output.IsProper)
    (hmade : MadeOnPath s output.parent before made)
    (hkept : Kept s data output before result after) :
    after.test s.directory output.parent.render Node.isDirectory = .ok true := by
  cases hkept with
  | returned _ _ _ _ hfind =>
    rcases h.parent_cases hp with ⟨hparent, -⟩ | ⟨-, hlost⟩
    · exact hparent
    · have hlocate := find_eq_ok_iff.1 hfind
      simp [hlost] at hlocate
  | raised hafter =>
    exact h.parent_of_link fun target hbad =>
      absurd hbad (h.not_link_of_madeOnPath hmade hafter target)

end

/-- The promise is kept exactly if the parent of the output, once it leads to a directory, does so
after the run; it is always kept unless the output leads to a link without which its parent leads
to no directory. In each run nothing but the output's own entry and missing directories on the path
to it changes. -/
theorem persist_kept_iff (s : Setting) (data : ByteArray) (text : String) (w : World) :
    let output := Path.ofString text
    let made := ((Action.ensureDirectories s output.parent).runOn w).2.tree
    let run := (persist s data output).runOn w
    (Kept s data output w.tree run.1 run.2.tree ↔
      (made.test s.directory output.parent.render Node.isDirectory = .ok true →
        run.2.tree.test s.directory output.parent.render Node.isDirectory = .ok true)) ∧
    ((∀ loc target, made.find s.directory false output.render = .ok loc →
        made.get? loc = some (.link target) →
        (made.erase loc).test s.directory output.parent.render Node.isDirectory = .ok true) →
      Kept s data output w.tree run.1 run.2.tree) ∧
    MadeOnPath s output.parent w.tree made ∧
    ((∀ loc, run.2.tree.get? loc = made.get? loc) ∨
      ∃ place, Moved s data output made run.2.tree place) := by
  have hp := Path.isProper_ofString text
  obtain ⟨hmade, hcases⟩ := runOn_persist s data hp w
  dsimp only at hmade hcases ⊢
  generalize ((Action.ensureDirectories s (Path.ofString text).parent).runOn w).2.tree = made at *
  generalize (persist s data (Path.ofString text)).runOn w = run at *
  obtain ⟨result, w'⟩ := run
  rcases hcases with ⟨⟨failure, hfailure⟩, hsame⟩ | ⟨place, hmoved, hopen⟩
  · dsimp only at hfailure hsame ⊢
    subst hfailure
    have hkept : Kept s data (Path.ofString text) w.tree (.error failure) w'.tree :=
      .raised (hmade.of_get?_eq hsame)
    refine ⟨⟨fun _ => test_isDirectory_mono fun loc node hnode _ => ?_, fun _ => hkept⟩,
      fun _ => hkept, hmade, .inl hsame⟩
    rw [hsame, hnode]
  · dsimp only at hmoved hopen ⊢
    refine ⟨⟨fun hkept _ => hmoved.parent_of_kept hp hmade hkept,
      fun hparent => hmoved.kept_of_parent hp hmade hopen (hparent hmoved.parent)⟩,
      fun hlink => hmoved.kept_of_parent hp hmade hopen (hmoved.parent_of_find hlink),
      hmade, .inr ⟨place, hmoved⟩⟩

/-- A directory and a link to it. -/
def linkedTree : FileTree :=
  ⟨[(["d"], .directory directoryMode), (["l"], .link "d")]⟩

/-- The way through the link leads to its target, and back up from there. -/
theorem leads_link_up {t : FileTree} {follow : Bool}
    (hd : t.get? ["d"] = some (.directory directoryMode))
    (hl : t.get? ["l"] = some (.link "d")) :
    Leads t follow maxLinks [] ["l", ".."] (.entry []) := by
  have hplain : IsPlain "l" := ⟨by decide, by decide, by decide⟩
  have hplain' : IsPlain "d" := ⟨by decide, by decide, by decide⟩
  refine .through ⟨_, rfl⟩ hplain hl (by simp) (by decide) ?_
  exact .enter ⟨_, rfl⟩ hplain' hd (by simp) (.up ⟨_, hd⟩ .here)

theorem renameTarget_linkedTree (node : Node) :
    (linkedTree.insert [".l.XXXXXXXX.tmp"] node).renameTarget [] "l/../l" = .ok ["l"] := by
  have hlink : (linkedTree.insert [".l.XXXXXXXX.tmp"] node).get? ["l"] = some (.link "d") := rfl
  have hlast : Leads (linkedTree.insert [".l.XXXXXXXX.tmp"] node) false maxLinks []
      (["l", ".."] ++ ["l"]) (.entry ["l"]) :=
    (leads_link_up rfl hlink).snoc
      fun _ => .last ⟨_, rfl⟩ ⟨by decide, by decide, by decide⟩ hlink (by simp)
  have hlocate : (linkedTree.insert [".l.XXXXXXXX.tmp"] node).locate [] false "l/../l" =
      .ok (.entry ["l"]) :=
    locate_eq_ok_iff.2 ⟨by decide, hlast⟩
  refine renameTarget_eq_ok_iff.2
    ⟨⟨_, hlocate, rfl, ?_⟩, ["l", ".."], "l", by decide, by decide, by decide⟩
  rintro ⟨mode, hmode⟩
  simp [hlink] at hmode

theorem status_movedTree (data : ByteArray) :
    (movedTree linkedTree [".l.XXXXXXXX.tmp"] ["l"] data).status [] "l/.." =
      .error .notDirectory := by
  have hfile : (movedTree linkedTree [".l.XXXXXXXX.tmp"] ["l"] data).get? ["l"] =
      some (.file outputMode data) := rfl
  have hnot : ¬ (movedTree linkedTree [".l.XXXXXXXX.tmp"] ["l"] data).IsDirectory ["l"] :=
    fun hbad => hbad.get?_ne_file _ _ hfile
  have hwalk : (movedTree linkedTree [".l.XXXXXXXX.tmp"] ["l"] data).walk true maxLinks []
      ["l", ".."] = .error .notDirectory := by
    rw [walk_enter ⟨_, rfl⟩ ⟨by decide, by decide, by decide⟩ hfile (by simp)]
    exact walk_of_not_directory hnot
  have hnames : components "l/.." = ["l", ".."] := by decide
  have hstart : startOf "l/.." [] = [] := rfl
  rw [status, find, locate, if_neg (by decide), if_neg (by decide), hnames, hstart, hwalk]

theorem runOn_persist_linkedTree (data : ByteArray) :
    (persist .atRoot data (Path.ofString "l/../l")).runOn (.ofTree linkedTree) =
      (.error (.file (.file (.of .notDirectory "l/.."))),
        .ofTree (movedTree linkedTree [".l.XXXXXXXX.tmp"] ["l"] data)) := by
  have houtput : Path.ofString "l/../l" = ⟨.relative, ["l", "..", "l"]⟩ := by decide
  have htext : Path.render ⟨.relative, ["l", "..", "l"]⟩ = "l/../l" := by decide
  have hparent : (Path.parent ⟨.relative, ["l", "..", "l"]⟩).render = "l/.." := by decide
  have hmark : temporaryPath .atRoot ⟨.relative, ["l", "..", "l"]⟩ 0 = "/.l.XXXXXXXX.tmp" := by
    decide +kernel
  have hway : ∀ follow, linkedTree.locate [] follow "l/.." = .ok (.entry []) := fun follow =>
    locate_eq_ok_iff.2 ⟨by decide, leads_link_up rfl rfl⟩
  have hdir : linkedTree.test [] "l/.." Node.isDirectory = .ok true :=
    test_isDirectory_iff.2 ⟨[], hway true, _, rfl⟩
  have hfree : linkedTree.locate [] false "/.l.XXXXXXXX.tmp" =
      .ok (.vacant [] ".l.XXXXXXXX.tmp") :=
    locate_eq_ok_iff.2 ⟨by decide, .vacant ⟨_, rfl⟩ ⟨by decide, by decide, by decide⟩ rfl⟩
  rw [houtput, runOn_persist_of_directory htext hparent hmark (by decide) (by decide)
    (hway false) hdir hfree (renameTarget_linkedTree _)]
  simp only [List.nil_append, World.ofTree, Setting.atRoot, status_movedTree]

/-- An output that replaces a link on its own path is in place though the run fails. -/
theorem persist_link_on_path :
    let output := Path.ofString "l/../l"
    let data : ByteArray := ⟨#[1]⟩
    let run := (persist .atRoot data output).runOn (.ofTree linkedTree)
    run.1 = .error (.file (.file (.of .notDirectory "l/.."))) ∧
      linkedTree.get? ["l"] = some (.link "d") ∧
      run.2.tree.get? ["l"] = some (.file outputMode data) ∧
      ¬ Kept .atRoot data output linkedTree run.1 run.2.tree := by
  dsimp only
  rw [runOn_persist_linkedTree]
  refine ⟨rfl, rfl, rfl, fun hkept => ?_⟩
  cases hkept with
  | raised hmade =>
    rcases hmade ["l"] with hsame | ⟨hnone, -⟩
    · exact nomatch hsame
    · exact nomatch hnone

end NorFlash
