import Mathlib.Data.List.Induction
import Mathlib.Data.List.Infix
import NorFlash.Proofs.Persist.Run

/-!
# Where a file can be put in place

Whether a file can be put in place at a path is a question about the tree alone (`placeable`). Each
of the first names of the path, the shortest ones first, must lead to a directory or to a free name,
at which a directory is made (`FileTree.withDirectories?`). In the tree with these directories a
temporary file must find a free name (`hasTemporary`), and the path must end in a name that no
directory has (`FileTree.takesFile`).

`persist` asks in another order: it makes the directory at the end of the path first and goes back
where names are missing. Both ways make the same tree and fail together
(`Action.makes_ensureDirectories`): a path that leads anywhere leads through directories, so nothing
is to be made before its last name (`FileTree.withDirectories?_of_locate`), and what stops the way
to a path but a missing name stops it in each tree that has more directories
(`FileTree.withDirectories?_eq_none`).
-/

namespace NorFlash

/-! ## Directories that are there or can be made -/

namespace FileTree

/-- Whether a text leads to a directory. -/
def holdsDirectory (t : FileTree) (directory : Location) (text : String) : Bool :=
  match t.test directory text Node.isDirectory with
  | .ok found => found
  | .error _ => false

/-- The tree with a directory where a text leads: one is made at a free name, and one that is there
will do. -/
def withDirectory? (t : FileTree) (directory : Location) (text : String) : Option FileTree :=
  match t.locate directory false text with
  | .ok (.vacant parent name) => some (t.insert (parent ++ [name]) (.directory directoryMode))
  | _ => if t.holdsDirectory directory text then some t else none

/-- The tree with directories wherever the first names of a path lead, the shortest ones first. -/
def withDirectories? (t : FileTree) (directory : Location) (path : Path) : Option FileTree :=
  path.names.inits.foldlM
    (fun made first => made.withDirectory? directory (Path.render ⟨path.root, first⟩)) t

section

variable {t : FileTree} {directory loc : Location} {follow : Bool} {text : String} {place : Place}
  {errno : Errno}

theorem holdsDirectory_iff :
    t.holdsDirectory directory text = true ↔
      t.test directory text Node.isDirectory = .ok true := by
  rw [holdsDirectory]
  split
  · next found hfound => rw [hfound, Except.ok.injEq]
  · next errno herror => simp [herror]

theorem withDirectory?_of_vacant {parent : Location} {name : String}
    (h : t.locate directory false text = .ok (.vacant parent name)) :
    t.withDirectory? directory text =
      some (t.insert (parent ++ [name]) (.directory directoryMode)) := by
  rw [withDirectory?, h]

theorem withDirectory?_of_test (h : t.test directory text Node.isDirectory = .ok true) :
    t.withDirectory? directory text = some t := by
  obtain ⟨other, hlocate, -⟩ := test_isDirectory_iff.1 h
  obtain ⟨loc, hloc⟩ := locate_unfollow hlocate
  rw [withDirectory?, hloc]
  exact if_pos (holdsDirectory_iff.2 h)

theorem withDirectory?_of_not_vacant
    (h : ∀ parent name, t.locate directory false text ≠ .ok (.vacant parent name)) :
    t.withDirectory? directory text = if t.holdsDirectory directory text then some t else none := by
  rw [withDirectory?]
  split
  · next parent name hlocate => exact absurd hlocate (h parent name)
  · rfl

theorem withDirectory?_eq_none
    (hvacant : ∀ parent name, t.locate directory false text ≠ .ok (.vacant parent name))
    (htest : t.test directory text Node.isDirectory ≠ .ok true) :
    t.withDirectory? directory text = none := by
  rw [withDirectory?_of_not_vacant hvacant, if_neg fun hdir => htest (holdsDirectory_iff.1 hdir)]

/-- Where a text leads nowhere there is no directory and none can be made. -/
theorem withDirectory?_of_error (h : t.locate directory follow text = .error errno) :
    t.withDirectory? directory text = none := by
  refine withDirectory?_eq_none (fun parent name hvacant => ?_) fun htest => ?_
  · cases h.symm.trans (locate_follow_vacant hvacant follow)
  · obtain ⟨other, hlocate, -⟩ := test_isDirectory_iff.1 htest
    cases follow with
    | true => cases h.symm.trans hlocate
    | false =>
      obtain ⟨other', hother⟩ := locate_unfollow hlocate
      cases h.symm.trans hother

/-- Nor where it leads to another entry. -/
theorem withDirectory?_of_not_directory (h : t.locate directory true text = .ok (.entry loc))
    (hloc : ¬ t.IsDirectory loc) : t.withDirectory? directory text = none := by
  refine withDirectory?_eq_none (fun parent name hvacant => ?_) fun htest => ?_
  · cases h.symm.trans (locate_follow_vacant hvacant true)
  · obtain ⟨other, hlocate, hother⟩ := test_isDirectory_iff.1 htest
    obtain rfl := Place.entry.inj (Except.ok.inj (h.symm.trans hlocate))
    exact hloc hother

/-! ## One name after the other -/

variable {start : PathRoot} {names : List String} {last : String}

theorem withDirectories?_nil :
    t.withDirectories? directory ⟨start, []⟩ =
      t.withDirectory? directory (Path.render ⟨start, []⟩) := by
  simp [withDirectories?]

theorem withDirectories?_concat :
    t.withDirectories? directory ⟨start, names ++ [last]⟩ =
      (t.withDirectories? directory ⟨start, names⟩).bind fun made =>
        made.withDirectory? directory (Path.render ⟨start, names ++ [last]⟩) := by
  simp [withDirectories?, List.inits_append, List.foldlM_append]

theorem parent_concat : Path.parent ⟨start, names ++ [last]⟩ = ⟨start, names⟩ := by
  rw [Path.parent, List.dropLast_concat]

/-- Before the last name of a path that leads anywhere nothing is to be made. -/
theorem withDirectories?_of_locate (hp : Path.IsProper ⟨start, names⟩)
    (h : t.locate directory follow (Path.render ⟨start, names⟩) = .ok place) :
    t.withDirectories? directory ⟨start, names⟩ =
      t.withDirectory? directory (Path.render ⟨start, names⟩) := by
  induction names using List.reverseRecOn generalizing follow place with
  | nil => exact withDirectories?_nil
  | append_singleton names last ih =>
    have hparent := test_parent_of_locate hp rfl h
    have hproper := hp.parent
    rw [parent_concat] at hparent hproper
    obtain ⟨other, hlocate, -⟩ := test_isDirectory_iff.1 hparent
    rw [withDirectories?_concat, ih hproper hlocate, withDirectory?_of_test hparent,
      Option.bind_some]

/-- What stops the way to a path, but for a missing name, is in the way of all directories. -/
theorem withDirectories?_eq_none (hp : Path.IsProper ⟨start, names⟩)
    (h : t.locate directory follow (Path.render ⟨start, names⟩) = .error errno)
    (herrno : errno ≠ .noEntry) : t.withDirectories? directory ⟨start, names⟩ = none := by
  induction names using List.reverseRecOn generalizing follow with
  | nil => exact withDirectories?_nil.trans (withDirectory?_of_error h)
  | append_singleton names last ih =>
    have hproper := hp.parent
    rw [parent_concat] at hproper
    rw [withDirectories?_concat]
    by_cases hsize : (Path.render ⟨start, names ++ [last]⟩).utf8ByteSize ≤ maxPath
    · -- The parent tells: it is no directory, or nothing is to be made before the last name.
      cases hparent : t.locate directory true (Path.render ⟨start, names⟩) with
      | error other =>
        have hsame : t.locate directory follow (Path.render ⟨start, names ++ [last]⟩) =
            .error other :=
          locate_of_parent_error hp rfl hsize (by rwa [parent_concat])
        obtain rfl := Except.error.inj (h.symm.trans hsame)
        rw [ih hproper hparent, Option.bind_none]
      | ok place =>
        have hdirectories := withDirectories?_of_locate hproper hparent
        cases place with
        | vacant parent name =>
          have hmissing : t.locate directory follow (Path.render ⟨start, names ++ [last]⟩) =
              .error .noEntry :=
            locate_of_parent_vacant hp rfl hsize (by rwa [parent_concat])
          exact absurd (Except.error.inj (h.symm.trans hmissing)) herrno
        | entry loc =>
          by_cases hloc : t.IsDirectory loc
          · have htest := test_isDirectory_iff.2 ⟨loc, hparent, hloc⟩
            rw [hdirectories, withDirectory?_of_test htest, Option.bind_some,
              withDirectory?_of_error h]
          · rw [hdirectories, withDirectory?_of_not_directory hparent hloc, Option.bind_none]
    · -- A text that is too long leads nowhere in any tree.
      cases t.withDirectories? directory ⟨start, names⟩ with
      | none => rfl
      | some made =>
        have hlong : made.locate directory true (Path.render ⟨start, names ++ [last]⟩) =
            .error .nameTooLong := by
          rw [locate, if_neg (Path.render_ne_empty hp), if_pos (Nat.lt_of_not_le hsize)]
        exact withDirectory?_of_error hlong

end

end FileTree

/-! ## Making the directories -/

open FileTree

namespace Action

variable {s : Setting} {path : Path} {w : World}

/-- An action ends with the tree that is asked for, and fails if there is none. -/
def Makes (a : Action Unit) (w : World) (made? : Option FileTree) : Prop :=
  match made? with
  | some made => a.runOn w = (.ok (), { w with tree := made })
  | none => ∃ failure, (a.runOn w).1 = .error failure

theorem makes_congr {a b : Action Unit} {made? : Option FileTree} (h : a.runOn w = b.runOn w)
    (hb : Makes b w made?) : Makes a w made? := by
  unfold Makes at hb ⊢
  rwa [h]

theorem Makes.bind {a b : Action Unit} {made? : Option FileTree} {f : FileTree → Option FileTree}
    (ha : Makes a w made?)
    (hb : ∀ made, Makes b { w with tree := made } (f made)) :
    Makes (a >>= fun _ => b) w (made?.bind f) := by
  cases made? with
  | none =>
    obtain ⟨failure, hfail⟩ := ha
    exact ⟨failure, congrArg Prod.fst (runOn_bind_error (Prod.ext hfail rfl) _)⟩
  | some made =>
    have hmade := hb made
    unfold Makes at hmade ⊢
    rwa [Option.bind_some, runOn_bind_ok ha]

theorem makes_acceptDirectory (hplain : path.IsPlain) (errno : Errno) :
    Makes (acceptDirectory s path errno) w
      (if w.tree.holdsDirectory s.directory path.render then some w.tree else none) := by
  have hlook := runOn_testEntry_of_isPlain (s := s) hplain Node.isDirectory w
  rw [acceptDirectory, holdsDirectory]
  cases htest : w.tree.test s.directory path.render Node.isDirectory with
  | error other =>
    rw [htest] at hlook
    exact ⟨_, congrArg Prod.fst (runOn_bind_error hlook _)⟩
  | ok found =>
    rw [htest] at hlook
    cases found with
    | true => exact runOn_bind_ok hlook _
    | false => exact ⟨_, congrArg Prod.fst (runOn_bind_ok hlook _)⟩

theorem runOn_makeDirectory_of_isPlain (hplain : path.IsPlain) (w : World) :
    (makeDirectory s path).runOn w =
      match w.tree.locate s.directory false path.render with
      | .ok (.vacant parent name) =>
        (.ok (.ok ()),
          { w with tree := w.tree.insert (parent ++ [name]) (.directory directoryMode) })
      | .ok (.entry _) => (.ok (.error .alreadyExists), w)
      | .error errno => (.ok (.error errno), w) := by
  rw [runOn_makeDirectory, Path.isPlain_iff.1 hplain, if_neg Bool.false_ne_true,
    FileTree.makeDirectory]
  cases w.tree.locate s.directory false path.render with
  | error errno => rfl
  | ok place => cases place <;> rfl

/-- Where a path leads nowhere no directory is accepted. -/
theorem makes_acceptDirectory_of_error {reason : Errno} (hplain : path.IsPlain)
    (h : w.tree.locate s.directory false path.render = .error reason) (errno : Errno) :
    Makes (acceptDirectory s path errno) w none := by
  have hnone := withDirectory?_of_error h
  rw [withDirectory?_of_not_vacant (by simp [h])] at hnone
  exact hnone ▸ makes_acceptDirectory hplain errno

/-- A directory is made at a free name, and one that is there will do. -/
theorem makes_ensureDirectory (hplain : path.IsPlain) :
    Makes (ensureDirectory s path) w (w.tree.withDirectory? s.directory path.render) := by
  have hmake := runOn_makeDirectory_of_isPlain (s := s) hplain w
  cases hlocate : w.tree.locate s.directory false path.render with
  | ok place =>
    rw [hlocate] at hmake
    cases place with
    | vacant parent name =>
      rw [withDirectory?_of_vacant hlocate]
      exact runOn_bind_ok hmake _
    | entry loc =>
      rw [withDirectory?_of_not_vacant (by simp [hlocate])]
      exact makes_congr (runOn_bind_ok hmake _) (makes_acceptDirectory hplain .alreadyExists)
  | error errno =>
    rw [hlocate] at hmake
    rw [withDirectory?_of_error hlocate]
    refine makes_congr (runOn_bind_ok hmake _) ?_
    cases errno with
    | noEntry => exact ⟨_, rfl⟩
    | _ => exact makes_acceptDirectory_of_error hplain hlocate _

/-- The names before are made first where they are missing; the induction is on the names, the last
one first. -/
theorem makes_ensureNames (start : PathRoot) (names : List String)
    (hp : Path.IsProper ⟨start, names.reverse⟩) (hplain : Path.IsPlain ⟨start, names.reverse⟩)
    (w : World) :
    Makes (ensureNames s start names) w
      (w.tree.withDirectories? s.directory ⟨start, names.reverse⟩) := by
  induction names generalizing w with
  | nil =>
    rw [List.reverse_nil, withDirectories?_nil]
    exact makes_ensureDirectory hplain
  | cons name names ih =>
    have hmake := runOn_makeDirectory_of_isPlain (s := s) hplain w
    cases hlocate : w.tree.locate s.directory false
        (Path.render ⟨start, (name :: names).reverse⟩) with
    | ok place =>
      rw [withDirectories?_of_locate hp hlocate]
      rw [hlocate] at hmake
      cases place with
      | vacant parent name' =>
        rw [withDirectory?_of_vacant hlocate]
        exact runOn_bind_ok hmake _
      | entry loc =>
        rw [withDirectory?_of_not_vacant (by rw [hlocate]; simp)]
        exact makes_congr (runOn_bind_ok hmake _) (makes_acceptDirectory hplain .alreadyExists)
    | error errno =>
      rw [hlocate] at hmake
      refine makes_congr (runOn_bind_ok hmake _) ?_
      by_cases hmissing : errno = .noEntry
      · subst hmissing
        have hbefore : ∀ other ∈ names.reverse, other ∈ (name :: names).reverse :=
          fun other hother =>
            List.mem_reverse.2 (List.mem_cons_of_mem _ (List.mem_reverse.1 hother))
        have hfirst := ih (fun other hother => hp other (hbefore other hother))
          (fun other hother => hplain other (hbefore other hother)) w
        rw [List.reverse_cons, withDirectories?_concat, ← List.reverse_cons]
        exact hfirst.bind fun made => makes_ensureDirectory hplain
      · rw [withDirectories?_eq_none hp hlocate hmissing]
        cases errno with
        | noEntry => exact absurd rfl hmissing
        | _ => exact makes_acceptDirectory_of_error hplain hlocate _

/-- **The directories on a path are made exactly where the tree can take them.** -/
theorem makes_ensureDirectories (hp : path.IsProper) (hplain : path.IsPlain) (w : World) :
    Makes (ensureDirectories s path) w (w.tree.withDirectories? s.directory path) := by
  have h := makes_ensureNames (s := s) path.root path.names.reverse
  rw [List.reverse_reverse] at h
  exact h hp hplain w

end Action

/-! ## A temporary file -/

namespace FileTree

/-- Whether a text leads to a name that is free. -/
def isFree (t : FileTree) (directory : Location) (text : String) : Bool :=
  match t.locate directory false text with
  | .ok (.vacant _ _) => true
  | _ => false

/-- Whether a text leads to an entry. -/
def isTaken (t : FileTree) (directory : Location) (text : String) : Bool :=
  match t.locate directory false text with
  | .ok (.entry _) => true
  | _ => false

end FileTree

/-- Whether one of `tries` marks, from mark `n` on, gives a temporary file beside an output a free
name, after marks that are all in use. -/
def HasMark (s : Setting) (t : FileTree) (output : Path) (tries n : Nat) : Prop :=
  ∃ k < tries, t.isFree s.directory (temporaryPath s output (n + k)) = true ∧
    ∀ m < k, t.isTaken s.directory (temporaryPath s output (n + m)) = true

instance (s : Setting) (t : FileTree) (output : Path) (tries n : Nat) :
    Decidable (HasMark s t output tries n) :=
  inferInstanceAs (Decidable (∃ k < tries, _))

section

variable {s : Setting} {t : FileTree} {output : Path}

theorem not_hasMark_zero (n : Nat) : ¬ HasMark s t output 0 n := by
  rintro ⟨k, hk, -⟩
  exact Nat.not_lt_zero k hk

theorem hasMark_succ (tries n : Nat) :
    HasMark s t output (tries + 1) n ↔
      t.isFree s.directory (temporaryPath s output n) = true ∨
        t.isTaken s.directory (temporaryPath s output n) = true ∧
          HasMark s t output tries (n + 1) := by
  constructor
  · rintro ⟨k, hk, hfree, htaken⟩
    cases k with
    | zero => exact .inl hfree
    | succ k =>
      refine .inr ⟨htaken 0 (Nat.succ_pos k), k, Nat.lt_of_succ_lt_succ hk, ?_, fun m hm => ?_⟩
      · rwa [Nat.add_right_comm]
      · rw [Nat.add_right_comm]
        exact htaken (m + 1) (Nat.succ_lt_succ hm)
  · rintro (hfree | ⟨htaken, k, hk, hfree, hmore⟩)
    · exact ⟨0, Nat.succ_pos tries, hfree, fun m hm => absurd hm (Nat.not_lt_zero m)⟩
    · refine ⟨k + 1, Nat.succ_lt_succ hk, ?_, fun m hm => ?_⟩
      · rwa [← Nat.add_assoc, Nat.add_right_comm]
      · cases m with
        | zero => exact htaken
        | succ m =>
          rw [← Nat.add_assoc, Nat.add_right_comm]
          exact hmore m (Nat.lt_of_succ_lt_succ hm)

/-- A temporary file is made exactly where there is a mark for it. -/
theorem exists_runOn_makeTemporary_iff
    (hnull : ∀ n, Action.hasNull (temporaryPath s output n) = false) (tries n : Nat) (w : World) :
    (∃ made, ((Action.makeTemporary s output tries n).runOn w).1 = .ok made) ↔
      HasMark s w.tree output tries n := by
  induction tries generalizing n with
  | zero =>
    refine iff_of_false ?_ (not_hasMark_zero n)
    rintro ⟨made, hmade⟩
    cases hmade
  | succ tries ih =>
    rw [hasMark_succ, FileTree.isFree, FileTree.isTaken, Action.makeTemporary, hnull,
      if_neg Bool.false_ne_true, Action.runOn_bind_ok (Action.runOn_tree w)]
    cases w.tree.locate s.directory false (temporaryPath s output n) with
    | error errno => simp
    | ok place =>
      cases place with
      | vacant parent name => exact iff_of_true ⟨_, rfl⟩ (.inl rfl)
      | entry loc => simpa using ih (n + 1)

end

/-! ## The place of the output -/

namespace FileTree

/-- Whether a file can be moved to where a path leads: the path ends in a name of its own, and no
directory has it. -/
def takesFile (t : FileTree) (directory : Location) (path : Path) : Bool :=
  path.names.getLast?.any (· ≠ "..") &&
    match t.locate directory false path.render with
    | .ok place => !(t.get? place.location).any Node.isDirectory
    | .error _ => false

section

variable {t : FileTree} {directory loc : Location} {path : Path} {place : Place}

theorem isDirectory_iff_any : t.IsDirectory loc ↔ (t.get? loc).any Node.isDirectory = true := by
  rw [IsDirectory]
  cases t.get? loc with
  | none => simp
  | some node => cases node <;> simp [Node.isDirectory]

theorem takesFile_iff :
    t.takesFile directory path = true ↔
      (∃ names last, path.names = names ++ [last] ∧ last ≠ "..") ∧
        ∃ place, t.locate directory false path.render = .ok place ∧
          ¬ t.IsDirectory place.location := by
  have hending : path.names.getLast?.any (· ≠ "..") = true ↔
      ∃ names last, path.names = names ++ [last] ∧ last ≠ ".." := by
    rw [Option.any_eq_true]
    constructor
    · rintro ⟨last, hlast, hdots⟩
      obtain ⟨names, hnames⟩ := List.getLast?_eq_some_iff.1 hlast
      exact ⟨names, last, hnames, by simpa using hdots⟩
    · rintro ⟨names, last, hnames, hdots⟩
      exact ⟨last, by rw [hnames, List.getLast?_concat], by simpa using hdots⟩
  rw [takesFile, Bool.and_eq_true, hending]
  refine and_congr_right fun _ => ?_
  cases t.locate directory false path.render with
  | error errno => simp
  | ok found => simp [isDirectory_iff_any]

/-- A new file is in no other path's way. -/
theorem locate_insert_of_free {mode : Nat} {content : ByteArray} {follow : Bool} {text : String}
    (hroot : loc ≠ []) (hfree : t.get? loc = none)
    (h : t.locate directory follow text = .ok place) :
    ∃ found, (t.insert loc (.file mode content)).locate directory follow text = .ok found ∧
      found.location = place.location := by
  have hview := t.get?_insert (.file mode content) hroot
  have hkeep : ∀ other node, t.get? other = some node →
      (t.insert loc (.file mode content)).get? other = some node := by
    intro other node hnode
    have hne : other ≠ loc := by
      rintro rfl
      simp [hfree] at hnode
    rw [hview, if_neg hne, hnode]
  obtain ⟨htext, hleads⟩ := locate_eq_ok_iff.1 h
  cases place with
  | entry other => exact ⟨_, locate_eq_ok_iff.2 ⟨htext, hleads.mono hkeep⟩, rfl⟩
  | vacant parent name =>
    by_cases hspot : parent ++ [name] = loc
    · subst hspot
      exact ⟨_, locate_eq_ok_iff.2
        ⟨htext, hleads.fill id hkeep ((hview _).trans (if_pos rfl)) (by simp)⟩, rfl⟩
    · refine ⟨_, locate_eq_ok_iff.2 ⟨htext, hleads.transfer
        (fun other node hnode _ => hkeep other node hnode) (fun _ hother => by cases hother)
        fun other name' hother => ?_⟩, rfl⟩
      obtain ⟨rfl, rfl⟩ := Place.vacant.inj hother
      rw [hview, if_neg hspot, hleads.of_vacant.2.2]

/-- The place beside a temporary file takes a file if it does so without it. -/
theorem exists_renameTarget_iff (hp : path.IsProper) (hroot : loc ≠ [])
    (hfree : t.get? loc = none) :
    (∃ target, (t.insert loc (.file temporaryMode ByteArray.empty)).renameTarget directory
      path.render = .ok target) ↔ t.takesFile directory path = true := by
  rw [takesFile_iff]
  constructor
  · rintro ⟨target, htarget⟩
    obtain ⟨⟨place, hlocate, rfl, hdir⟩, hending⟩ :=
      place_of_renameTarget hp hroot hfree htarget
    exact ⟨hending, place, hlocate, hdir⟩
  · rintro ⟨⟨names, last, hnames, hdots⟩, place, hlocate, hdir⟩
    obtain ⟨found, hfound, hsame⟩ := locate_insert_of_free hroot hfree hlocate
    refine ⟨_, renameTarget_eq_ok_iff.2 ⟨⟨found, hfound, hsame, ?_⟩, names, last, ?_,
      (hp last (by simp [hnames])).2.1, hdots⟩⟩
    · rintro ⟨mode, hmode⟩
      rw [get?_insert _ _ hroot] at hmode
      split at hmode
      · cases hmode
      · exact hdir ⟨mode, hmode⟩
    · rw [Path.components_render hp, steps_of_names hnames]

end

end FileTree

/-! ## Putting a file in place -/

/-- Whether a file can be put in place at a path: the directories on the way are there or can be
made, a temporary file beside the path finds a free name, and the path takes a file. -/
def placeable (s : Setting) (t : FileTree) (output : Path) : Bool :=
  (t.withDirectories? s.directory output.parent).any fun made =>
    decide (HasMark s made output (made.entries.length + 1) 0) &&
      made.takesFile s.directory output

theorem placeable_iff {s : Setting} {t : FileTree} {output : Path} :
    placeable s t output = true ↔
      ∃ made, t.withDirectories? s.directory output.parent = some made ∧
        HasMark s made output (made.entries.length + 1) 0 ∧
          made.takesFile s.directory output = true := by
  rw [placeable, Option.any_eq_true]
  simp only [Bool.and_eq_true, decide_eq_true_eq]

end NorFlash
