import NorFlash.FileTree.Lookup

/-!
# Routes through a file tree

`Leads` says which place the names of a path lead to, as a relation with a case for each way in
which a name is followed. It holds exactly of the places that `walk` answers
(`walk_eq_ok_iff`), and the facts about paths are inductions over it:

* more entries in the tree leave a route to an entry as it is (`Leads.mono`);
* a file in the place of no directory is the end of each route that meets it
  (`Leads.keep_or_meet`);
* a route ends with its last name in the directory that the names before lead to (`Leads.split`).
-/

namespace NorFlash.FileTree

/-! ## The relation -/

/-- There is a directory at a location. -/
def IsDirectory (t : FileTree) (loc : Location) : Prop :=
  ∃ mode, t.get? loc = some (.directory mode)

/-- A name that stands for an entry of its directory. -/
structure IsPlain (name : String) : Prop where
  ne_dot : name ≠ "."
  ne_dots : name ≠ ".."
  size_le : name.utf8ByteSize ≤ maxName

/-- The names lead from a location to a place, over at most so many links. -/
inductive Leads (t : FileTree) (follow : Bool) :
    Nat → Location → List String → Place → Prop
  | here {links : Nat} {loc : Location} : Leads t follow links loc [] (.entry loc)
  | dot {links : Nat} {loc : Location} {rest : List String} {place : Place} :
      t.IsDirectory loc → Leads t follow links loc rest place →
      Leads t follow links loc ("." :: rest) place
  | up {links : Nat} {loc : Location} {rest : List String} {place : Place} :
      t.IsDirectory loc → Leads t follow links loc.dropLast rest place →
      Leads t follow links loc (".." :: rest) place
  | vacant {links : Nat} {loc : Location} {name : String} :
      t.IsDirectory loc → IsPlain name → t.get? (loc ++ [name]) = none →
      Leads t follow links loc [name] (.vacant loc name)
  | link {links : Nat} {loc : Location} {name target : String} :
      t.IsDirectory loc → IsPlain name → t.get? (loc ++ [name]) = some (.link target) →
      follow = false → Leads t follow links loc [name] (.entry (loc ++ [name]))
  | through {links : Nat} {loc : Location} {name target : String} {rest : List String}
      {place : Place} :
      t.IsDirectory loc → IsPlain name → t.get? (loc ++ [name]) = some (.link target) →
      ¬ (rest = [] ∧ follow = false) → target ≠ "" →
      Leads t follow links (startOf target loc) (components target ++ rest) place →
      Leads t follow (links + 1) loc (name :: rest) place
  | enter {links : Nat} {loc : Location} {name : String} {node : Node} {rest : List String}
      {place : Place} :
      t.IsDirectory loc → IsPlain name → t.get? (loc ++ [name]) = some node →
      (∀ target, node ≠ .link target) → Leads t follow links (loc ++ [name]) rest place →
      Leads t follow links loc (name :: rest) place

variable {t t' : FileTree} {follow : Bool} {links : Nat} {loc : Location} {names : List String}
  {place : Place}

theorem leads_of_walk (h : t.walk follow links loc names = .ok place) :
    Leads t follow links loc names place := by
  fun_induction walk t follow links loc names with
  | case1 links loc =>
    obtain rfl := Except.ok.inj h
    exact .here
  | case2 links loc rest mode hdir ih => exact .dot ⟨mode, hdir⟩ (ih h)
  | case3 links loc rest mode hdir _ ih => exact .up ⟨mode, hdir⟩ (ih h)
  | case5 links loc name mode hdir hdot hdots hsize hnone =>
    obtain rfl := Except.ok.inj h
    exact .vacant ⟨mode, hdir⟩ ⟨hdot, hdots, Nat.le_of_not_lt hsize⟩ hnone
  | case7 links loc name rest mode hdir hdot hdots hsize target hlink hend =>
    obtain rfl := Except.ok.inj h
    obtain ⟨rfl, rfl⟩ := hend
    exact .link ⟨mode, hdir⟩ ⟨hdot, hdots, Nat.le_of_not_lt hsize⟩ hlink rfl
  | case10 loc name rest mode hdir hdot hdots hsize target hlink hend links htarget ih =>
    exact .through ⟨mode, hdir⟩ ⟨hdot, hdots, Nat.le_of_not_lt hsize⟩ hlink hend htarget (ih h)
  | case11 links loc name rest mode hdir hdot hdots hsize node hlink hnode ih =>
    exact .enter ⟨mode, hdir⟩ ⟨hdot, hdots, Nat.le_of_not_lt hsize⟩ hnode hlink (ih h)
  | case4 | case6 | case8 | case9 | case12 => simp at h


/-! ## Steps of walking -/

variable {name target : String} {rest : List String} {node : Node}

theorem walk_dot (hdir : t.IsDirectory loc) :
    t.walk follow links loc ("." :: rest) = t.walk follow links loc rest := by
  obtain ⟨mode, hdir⟩ := hdir
  simp only [walk, hdir, if_true]

theorem walk_up (hdir : t.IsDirectory loc) :
    t.walk follow links loc (".." :: rest) = t.walk follow links loc.dropLast rest := by
  obtain ⟨mode, hdir⟩ := hdir
  simp only [walk, hdir, if_neg (show (".." : String) ≠ "." by decide), if_true]

theorem walk_through (hdir : t.IsDirectory loc) (hname : IsPlain name)
    (hlink : t.get? (loc ++ [name]) = some (.link target)) (hend : ¬ (rest = [] ∧ follow = false))
    (htarget : target ≠ "") :
    t.walk follow (links + 1) loc (name :: rest) =
      t.walk follow links (startOf target loc) (components target ++ rest) := by
  obtain ⟨mode, hdir⟩ := hdir
  rw [walk]
  simp only [hdir, if_neg hname.ne_dot, if_neg hname.ne_dots,
    if_neg (Nat.not_lt.2 hname.size_le), hlink, if_neg hend, if_neg htarget]

theorem walk_enter (hdir : t.IsDirectory loc) (hname : IsPlain name)
    (hnode : t.get? (loc ++ [name]) = some node) (hlink : ∀ target, node ≠ .link target) :
    t.walk follow links loc (name :: rest) = t.walk follow links (loc ++ [name]) rest := by
  obtain ⟨mode, hdir⟩ := hdir
  rw [walk]
  cases node with
  | link target => exact absurd rfl (hlink target)
  | file | directory =>
    simp only [hdir, if_neg hname.ne_dot, if_neg hname.ne_dots,
      if_neg (Nat.not_lt.2 hname.size_le), hnode]

/-- From where there is no directory no name leads on. -/
theorem walk_of_not_directory (h : ¬ t.IsDirectory loc) :
    t.walk follow links loc (name :: rest) = .error .notDirectory := by
  rw [walk]
  split
  · next mode hdir => exact absurd ⟨mode, hdir⟩ h
  · rfl

/-- What stops a walk stops each longer one. -/
theorem walk_concat_of_error {errno : Errno} (h : t.walk true links loc names = .error errno)
    (follow : Bool) (last : String) :
    t.walk follow links loc (names ++ [last]) = .error errno := by
  fun_induction walk t true links loc names with
  | case1 | case5 | case7 => simp at h
  | case2 links loc rest mode hdir ih =>
    rw [List.cons_append, walk_dot ⟨mode, hdir⟩, ih h]
  | case3 links loc rest mode hdir _ ih =>
    rw [List.cons_append, walk_up ⟨mode, hdir⟩, ih h]
  | case4 links loc name rest mode hdir hdot hdots hsize =>
    rw [List.cons_append, walk]
    simpa only [hdir, if_neg hdot, if_neg hdots, if_pos hsize] using h
  | case6 links loc name rest mode hdir hdot hdots hsize hnone hrest =>
    rw [List.cons_append, walk]
    simpa only [hdir, if_neg hdot, if_neg hdots, if_neg hsize, hnone,
      List.append_eq_nil_iff, List.cons_ne_self, reduceCtorEq, and_false, if_false] using h
  | case8 loc name rest mode hdir hdot hdots hsize target hlink hend =>
    rw [List.cons_append, walk]
    simpa only [hdir, if_neg hdot, if_neg hdots, if_neg hsize, hlink,
      List.append_eq_nil_iff, reduceCtorEq, and_false, false_and, if_false] using h
  | case9 loc name rest mode hdir hdot hdots hsize hend links hlink =>
    rw [List.cons_append, walk]
    simpa only [hdir, if_neg hdot, if_neg hdots, if_neg hsize, hlink,
      List.append_eq_nil_iff, reduceCtorEq, and_false, false_and, if_false, if_true] using h
  | case10 loc name rest mode hdir hdot hdots hsize target hlink hend links htarget ih =>
    rw [List.cons_append, walk_through ⟨mode, hdir⟩ ⟨hdot, hdots, Nat.le_of_not_lt hsize⟩ hlink
      (by simp) htarget, ← List.append_assoc, ih h]
  | case11 links loc name rest mode hdir hdot hdots hsize node hlink hnode ih =>
    rw [List.cons_append, walk_enter ⟨mode, hdir⟩ ⟨hdot, hdots, Nat.le_of_not_lt hsize⟩ hnode hlink,
      ih h]
  | case12 links loc name rest hdir =>
    rw [List.cons_append, walk_of_not_directory fun ⟨mode, hmode⟩ => hdir mode hmode]
    exact h

theorem walk_of_leads (h : Leads t follow links loc names place) :
    t.walk follow links loc names = .ok place := by
  induction h with
  | here => rw [walk]
  | dot hdir _ ih => rw [walk_dot hdir, ih]
  | up hdir _ ih => rw [walk_up hdir, ih]
  | vacant hdir hname hnone =>
    obtain ⟨mode, hdir⟩ := hdir
    simp only [walk, hdir, if_neg hname.ne_dot, if_neg hname.ne_dots,
      if_neg (Nat.not_lt.2 hname.size_le), hnone, if_true]
  | link hdir hname hlink hfollow =>
    obtain ⟨mode, hdir⟩ := hdir
    simp only [walk, hdir, if_neg hname.ne_dot, if_neg hname.ne_dots,
      if_neg (Nat.not_lt.2 hname.size_le), hlink, hfollow, and_self, if_true]
  | through hdir hname hlink hend htarget _ ih =>
    rw [walk_through hdir hname hlink hend htarget, ih]
  | enter hdir hname hnode hlink _ ih => rw [walk_enter hdir hname hnode hlink, ih]

/-- The routes are what walking follows. -/
theorem walk_eq_ok_iff :
    t.walk follow links loc names = .ok place ↔ Leads t follow links loc names place :=
  ⟨leads_of_walk, walk_of_leads⟩

theorem IsDirectory.get?_ne_file (h : t.IsDirectory loc) (mode : Nat) (content : ByteArray) :
    t.get? loc ≠ some (.file mode content) := by
  obtain ⟨m, hm⟩ := h
  rw [hm]
  simp

namespace Leads

/-- From where there is no directory only the empty route leads anywhere. -/
theorem of_not_directory (h : Leads t follow links loc names place) (hloc : ¬ t.IsDirectory loc) :
    names = [] ∧ place = .entry loc := by
  cases h with
  | here => exact ⟨rfl, rfl⟩
  | dot hdir | up hdir | vacant hdir | link hdir | through hdir | enter hdir =>
    exact absurd hdir hloc

/-! ## Links at the end -/

/-- A route to an entry through links ends at an entry if the last link is not followed. -/
theorem unfollow {other : Location} (h : Leads t true links loc names (.entry other)) :
    ∃ other', Leads t false links loc names (.entry other') := by
  generalize hplace : Place.entry other = place at h
  induction h with
  | here => exact ⟨_, .here⟩
  | vacant => cases hplace
  | link _ _ _ hfollow => cases hfollow
  | dot hdir _ ih =>
    obtain ⟨other', hleads⟩ := ih hplace
    exact ⟨other', .dot hdir hleads⟩
  | up hdir _ ih =>
    obtain ⟨other', hleads⟩ := ih hplace
    exact ⟨other', .up hdir hleads⟩
  | @through _ _ _ _ rest _ hdir hname hlink _ htarget _ ih =>
    by_cases hrest : rest = []
    · subst hrest
      exact ⟨_, .link hdir hname hlink rfl⟩
    · obtain ⟨other', hleads⟩ := ih hplace
      exact ⟨other', .through hdir hname hlink (by simp [hrest]) htarget hleads⟩
  | enter hdir hname hnode hlink _ ih =>
    obtain ⟨other', hleads⟩ := ih hplace
    exact ⟨other', .enter hdir hname hnode hlink hleads⟩

/-- A route to a free name ends there whether or not a last link is followed. -/
theorem follow_vacant {parent : Location} {name : String}
    (h : Leads t false links loc names (.vacant parent name)) (follow : Bool) :
    Leads t follow links loc names (.vacant parent name) := by
  generalize hplace : Place.vacant parent name = place at h ⊢
  induction h with
  | here | link => cases hplace
  | dot hdir _ ih => exact .dot hdir (ih hplace)
  | up hdir _ ih => exact .up hdir (ih hplace)
  | vacant hdir hname hnone => exact .vacant hdir hname hnone
  | through hdir hname hlink hend htarget _ ih =>
    exact .through hdir hname hlink (fun h => hend ⟨h.1, rfl⟩) htarget (ih hplace)
  | enter hdir hname hnode hlink _ ih => exact .enter hdir hname hnode hlink (ih hplace)

/-! ## Other trees -/

/-- A route is the same in a tree that keeps directories and links, keeps a file at its end a file
and has nothing at a free name at its end. -/
theorem transfer (h : Leads t follow links loc names place)
    (hkeep : ∀ other node, t.get? other = some node → node.isFile = false →
      t'.get? other = some node)
    (hfile : ∀ other, place = .entry other → ∀ node, t.get? other = some node →
      node.isFile = true → ∃ node', t'.get? other = some node' ∧ node'.isFile = true)
    (hvacant : ∀ parent name, place = .vacant parent name → t'.get? (parent ++ [name]) = none) :
    Leads t' follow links loc names place := by
  have hdirectory : ∀ {other}, t.IsDirectory other → t'.IsDirectory other :=
    fun ⟨mode, hdir⟩ => ⟨mode, hkeep _ _ hdir rfl⟩
  induction h with
  | here => exact .here
  | dot hdir _ ih => exact .dot (hdirectory hdir) (ih hfile hvacant)
  | up hdir _ ih => exact .up (hdirectory hdir) (ih hfile hvacant)
  | vacant hdir hname _ => exact .vacant (hdirectory hdir) hname (hvacant _ _ rfl)
  | link hdir hname hlink hfollow =>
    exact .link (hdirectory hdir) hname (hkeep _ _ hlink rfl) hfollow
  | through hdir hname hlink hend htarget _ ih =>
    exact .through (hdirectory hdir) hname (hkeep _ _ hlink rfl) hend htarget (ih hfile hvacant)
  | @enter links loc name node rest place hdir hname hnode hlink hrest ih =>
    cases hisFile : node.isFile with
    | false =>
      exact .enter (hdirectory hdir) hname (hkeep _ _ hnode hisFile) hlink (ih hfile hvacant)
    | true =>
      -- Only the end of a route may be a file.
      have hnot : ¬ t.IsDirectory (loc ++ [name]) := by
        rintro ⟨mode, hmode⟩
        rw [hnode] at hmode
        obtain rfl := Option.some.inj hmode
        simp [Node.isFile] at hisFile
      obtain ⟨-, hplace⟩ := hrest.of_not_directory hnot
      obtain ⟨node', hnode', hisFile'⟩ := hfile _ hplace node hnode hisFile
      refine .enter (hdirectory hdir) hname hnode' ?_ (ih hfile hvacant)
      rintro target rfl
      simp [Node.isFile] at hisFile'

/-- More entries in the tree leave a route to an entry as it is. -/
theorem mono {other : Location} (h : Leads t follow links loc names (.entry other))
    (hkeep : ∀ other node, t.get? other = some node → t'.get? other = some node) :
    Leads t' follow links loc names (.entry other) :=
  h.transfer (fun other node hnode _ => hkeep other node hnode)
    (fun other _ node hnode hisFile => ⟨node, hkeep other node hnode, hisFile⟩)
    (fun _ _ hplace => by simp at hplace)

/-- A route to a directory runs through directories and links only. -/
theorem keep_ways {other : Location} (h : Leads t follow links loc names (.entry other))
    (hother : t.IsDirectory other)
    (hkeep : ∀ other node, t.get? other = some node → node.isFile = false →
      t'.get? other = some node) :
    Leads t' follow links loc names (.entry other) := by
  refine h.transfer hkeep (fun end_ hend node hnode hisFile => ?_) (fun _ _ hplace => by
    simp at hplace)
  obtain rfl := Place.entry.inj hend
  obtain ⟨mode, hmode⟩ := hother
  rw [hnode] at hmode
  obtain rfl := Option.some.inj hmode
  simp [Node.isFile] at hisFile

/-- A route to a free name leads to what is put there, if it is no link. -/
theorem fill {follow' : Bool} {parent : Location} {name : String}
    (h : Leads t follow links loc names (.vacant parent name))
    (hfollow : follow' = false → follow = false)
    (hkeep : ∀ other node, t.get? other = some node → t'.get? other = some node) {node : Node}
    (hnode : t'.get? (parent ++ [name]) = some node) (hlink : ∀ target, node ≠ .link target) :
    Leads t' follow' links loc names (.entry (parent ++ [name])) := by
  have hdirectory : ∀ {other}, t.IsDirectory other → t'.IsDirectory other :=
    fun ⟨mode, hdir⟩ => ⟨mode, hkeep _ _ hdir⟩
  generalize hplace : Place.vacant parent name = place at h
  induction h with
  | here | link => cases hplace
  | dot hdir _ ih => exact .dot (hdirectory hdir) (ih hplace)
  | up hdir _ ih => exact .up (hdirectory hdir) (ih hplace)
  | vacant hdir hname _ =>
    obtain ⟨rfl, rfl⟩ := Place.vacant.inj hplace
    exact .enter (hdirectory hdir) hname hnode hlink .here
  | through hdir hname hlink' hend htarget _ ih =>
    exact .through (hdirectory hdir) hname (hkeep _ _ hlink')
      (fun hbad => hend ⟨hbad.1, hfollow hbad.2⟩) htarget (ih hplace)
  | enter hdir hname hnode' hlink' _ ih =>
    exact .enter (hdirectory hdir) hname (hkeep _ _ hnode') hlink' (ih hplace)

/-- Where a route ends at a free name, the directory is there and the name is free. -/
theorem of_vacant {parent : Location} {name : String}
    (h : Leads t follow links loc names (.vacant parent name)) :
    t.IsDirectory parent ∧ IsPlain name ∧ t.get? (parent ++ [name]) = none := by
  generalize hplace : Place.vacant parent name = place at h
  induction h with
  | here | link => cases hplace
  | dot _ _ ih | up _ _ ih | through _ _ _ _ _ _ ih | enter _ _ _ _ _ ih => exact ih hplace
  | vacant hdir hname hnone =>
    obtain ⟨rfl, rfl⟩ := Place.vacant.inj hplace
    exact ⟨hdir, hname, hnone⟩

/-- A route stays as it is, but for what is at its end, when a file at a name that was free is taken
away. -/
theorem unfill {spot : Location} (h : Leads t' follow links loc names place)
    (hoff : ∀ other, other ≠ spot → t'.get? other = t.get? other)
    (hfile : ∃ mode content, t'.get? spot = some (.file mode content))
    (hnone : t.get? spot = none) :
    ∃ place', Leads t follow links loc names place' ∧ place'.location = place.location := by
  obtain ⟨mode, content, hfile⟩ := hfile
  have hat : ∀ {other node}, t'.get? other = some node → node.isFile = false →
      t.get? other = some node := by
    intro other node hnode hisFile
    by_cases hother : other = spot
    · subst hother
      rw [hfile] at hnode
      obtain rfl := Option.some.inj hnode
      simp [Node.isFile] at hisFile
    · exact (hoff other hother).symm.trans hnode
  have hdirectory : ∀ {other}, t'.IsDirectory other → t.IsDirectory other :=
    fun ⟨m, hdir⟩ => ⟨m, hat hdir rfl⟩
  induction h with
  | @here links loc => exact ⟨.entry loc, .here, rfl⟩
  | dot hdir _ ih =>
    obtain ⟨place', hleads, hsame⟩ := ih
    exact ⟨place', .dot (hdirectory hdir) hleads, hsame⟩
  | up hdir _ ih =>
    obtain ⟨place', hleads, hsame⟩ := ih
    exact ⟨place', .up (hdirectory hdir) hleads, hsame⟩
  | @vacant links loc name hdir hname hfree =>
    have hne : loc ++ [name] ≠ spot := by
      rintro rfl
      simp [hfile] at hfree
    exact ⟨_, .vacant (hdirectory hdir) hname ((hoff _ hne).symm.trans hfree), rfl⟩
  | link hdir hname hlink hfollow =>
    exact ⟨_, .link (hdirectory hdir) hname (hat hlink rfl) hfollow, rfl⟩
  | through hdir hname hlink hend htarget _ ih =>
    obtain ⟨place', hleads, hsame⟩ := ih
    exact ⟨place', .through (hdirectory hdir) hname (hat hlink rfl) hend htarget hleads, hsame⟩
  | @enter links loc name node rest place hdir hname hnode hlink hrest ih =>
    by_cases hspot : loc ++ [name] = spot
    · -- The file that is taken away can only be the end of the route.
      have hnot : ¬ t'.IsDirectory (loc ++ [name]) := fun hbad =>
        hbad.get?_ne_file mode content (hspot ▸ hfile)
      obtain ⟨rfl, rfl⟩ := hrest.of_not_directory hnot
      exact ⟨_, .vacant (hdirectory hdir) hname (hspot ▸ hnone), rfl⟩
    · obtain ⟨place', hleads, hsame⟩ := ih
      exact ⟨place', .enter (hdirectory hdir) hname ((hoff _ hspot).symm.trans hnode) hlink hleads,
        hsame⟩

/-- What a file in the place of no directory does to a route: the route stays as it is, or it meets
the file, and then no name leads on from its end. -/
theorem keep_or_meet {spot other : Location} (h : Leads t true links loc names (.entry other))
    (hoff : ∀ other, other ≠ spot → t'.get? other = t.get? other)
    (hfile : ∃ mode content, t'.get? spot = some (.file mode content))
    (hspot : ¬ t.IsDirectory spot) :
    Leads t' true links loc names (.entry other) ∨
      (t'.walk true links loc names = .ok (.entry spot) ∨
          t'.walk true links loc names = .error .notDirectory) ∧
        ∀ follow last, t'.walk follow links loc (names ++ [last]) = .error .notDirectory := by
  obtain ⟨mode, content, hfile⟩ := hfile
  have hnot : ¬ t'.IsDirectory spot := fun hbad => hbad.get?_ne_file mode content hfile
  have hdirectory : ∀ {loc}, t.IsDirectory loc → t'.IsDirectory loc := by
    rintro loc ⟨m, hdir⟩
    have hne : loc ≠ spot := by
      rintro rfl
      exact hspot ⟨m, hdir⟩
    exact ⟨m, (hoff loc hne).trans hdir⟩
  -- Once the file is met, what is left of the names leads no further.
  have hmeet : ∀ links rest,
      (t'.walk true links spot rest = .ok (.entry spot) ∨
          t'.walk true links spot rest = .error .notDirectory) ∧
        ∀ follow last, t'.walk follow links spot (rest ++ [last]) = .error .notDirectory := by
    intro links rest
    cases rest with
    | nil => exact ⟨.inl (by rw [walk]), fun follow last => walk_of_not_directory hnot⟩
    | cons name rest =>
      exact ⟨.inr (walk_of_not_directory hnot), fun follow last => walk_of_not_directory hnot⟩
  generalize hend : Place.entry other = place at h ⊢
  induction h with
  | here => exact .inl .here
  | dot hdir _ ih =>
    have hdir' := hdirectory hdir
    simp only [List.cons_append, walk_dot hdir']
    exact (ih hend).imp (.dot hdir') id
  | up hdir _ ih =>
    have hdir' := hdirectory hdir
    simp only [List.cons_append, walk_up hdir']
    exact (ih hend).imp (.up hdir') id
  | vacant => cases hend
  | link _ _ _ hfollow => cases hfollow
  | @through links loc name target rest place hdir hname hlink _ htarget _ ih =>
    have hdir' := hdirectory hdir
    by_cases hat : loc ++ [name] = spot
    · have hnode : t'.get? (loc ++ [name]) = some (.file mode content) := by rw [hat, hfile]
      simp only [List.cons_append, walk_enter hdir' hname hnode (by simp), hat]
      exact .inr (hmeet _ _)
    · have hlink' := (hoff _ hat).trans hlink
      have hmore : ∀ follow last, t'.walk follow (links + 1) loc (name :: (rest ++ [last])) =
          t'.walk follow links (startOf target loc) (components target ++ rest ++ [last]) := by
        intro follow last
        rw [walk_through hdir' hname hlink' (by simp) htarget, List.append_assoc]
      have hone : t'.walk true (links + 1) loc (name :: rest) =
          t'.walk true links (startOf target loc) (components target ++ rest) :=
        walk_through hdir' hname hlink' (by simp) htarget
      simp only [List.cons_append, hmore, hone]
      exact (ih hend).imp (.through hdir' hname hlink' (by simp) htarget) id
  | @enter links loc name node rest place hdir hname hnode hlink _ ih =>
    have hdir' := hdirectory hdir
    by_cases hat : loc ++ [name] = spot
    · have hnode' : t'.get? (loc ++ [name]) = some (.file mode content) := by rw [hat, hfile]
      simp only [List.cons_append, walk_enter hdir' hname hnode' (by simp), hat]
      exact .inr (hmeet _ _)
    · have hnode' := (hoff _ hat).trans hnode
      simp only [List.cons_append, walk_enter hdir' hname hnode' hlink]
      exact (ih hend).imp (.enter hdir' hname hnode' hlink) id

/-! ## The last name -/

/-- A route is a route to a directory and the last name from there. -/
theorem split {last : String} (h : Leads t follow links loc (names ++ [last]) place) :
    ∃ other links', Leads t true links loc names (.entry other) ∧
      Leads t follow links' other [last] place := by
  generalize hnames : names ++ [last] = all at h
  induction h generalizing names with
  | here => simp at hnames
  | dot hdir hrest ih =>
    cases names with
    | nil =>
      obtain ⟨rfl, rfl⟩ := List.cons.inj hnames
      exact ⟨_, _, .here, .dot hdir hrest⟩
    | cons name names =>
      obtain ⟨rfl, hrest'⟩ := List.cons.inj hnames
      obtain ⟨other, links', hfirst, hlast⟩ := ih hrest'
      exact ⟨other, links', .dot hdir hfirst, hlast⟩
  | up hdir hrest ih =>
    cases names with
    | nil =>
      obtain ⟨rfl, rfl⟩ := List.cons.inj hnames
      exact ⟨_, _, .here, .up hdir hrest⟩
    | cons name names =>
      obtain ⟨rfl, hrest'⟩ := List.cons.inj hnames
      obtain ⟨other, links', hfirst, hlast⟩ := ih hrest'
      exact ⟨other, links', .up hdir hfirst, hlast⟩
  | vacant hdir hname hnone =>
    cases names with
    | nil =>
      obtain ⟨rfl, -⟩ := List.cons.inj hnames
      exact ⟨_, links, .here, .vacant hdir hname hnone⟩
    | cons name names => simp at hnames
  | link hdir hname hlink hfollow =>
    cases names with
    | nil =>
      obtain ⟨rfl, -⟩ := List.cons.inj hnames
      exact ⟨_, links, .here, .link hdir hname hlink hfollow⟩
    | cons name names => simp at hnames
  | @through links loc name target rest place hdir hname hlink hend htarget hrest ih =>
    cases names with
    | nil =>
      obtain ⟨rfl, rfl⟩ := List.cons.inj hnames
      exact ⟨_, _, .here, .through hdir hname hlink hend htarget hrest⟩
    | cons name names =>
      obtain ⟨rfl, rfl⟩ := List.cons.inj hnames
      obtain ⟨other, links', hfirst, hlast⟩ := ih (List.append_assoc ..)
      exact ⟨other, links', .through hdir hname hlink (by simp) htarget hfirst, hlast⟩
  | enter hdir hname hnode hlink hrest ih =>
    cases names with
    | nil =>
      obtain ⟨rfl, rfl⟩ := List.cons.inj hnames
      exact ⟨_, _, .here, .enter hdir hname hnode hlink hrest⟩
    | cons name names =>
      obtain ⟨rfl, hrest'⟩ := List.cons.inj hnames
      obtain ⟨other, links', hfirst, hlast⟩ := ih hrest'
      exact ⟨other, links', .enter hdir hname hnode hlink hfirst, hlast⟩

/-- A route goes on from its end with one more name. -/
theorem snoc {last : String} {other : Location} (h : Leads t true links loc names (.entry other))
    (hlast : ∀ links, Leads t follow links other [last] place) :
    Leads t follow links loc (names ++ [last]) place := by
  generalize hend : Place.entry other = end_ at h
  induction h with
  | here =>
    obtain rfl := Place.entry.inj hend
    exact hlast _
  | dot hdir _ ih => exact .dot hdir (ih hend)
  | up hdir _ ih => exact .up hdir (ih hend)
  | vacant => cases hend
  | link _ _ _ hfollow => cases hfollow
  | through hdir hname hlink _ htarget _ ih =>
    refine .through hdir hname hlink (by simp) htarget ?_
    have hmore := ih hend
    rwa [List.append_assoc] at hmore
  | enter hdir hname hnode hlink _ ih => exact .enter hdir hname hnode hlink (ih hend)

/-- No name leads on from a free one. -/
theorem walk_concat_of_vacant {parent : Location} {name : String}
    (h : Leads t true links loc names (.vacant parent name)) (follow : Bool) (last : String) :
    t.walk follow links loc (names ++ [last]) = .error .noEntry := by
  generalize hplace : Place.vacant parent name = place at h
  induction h with
  | here | link => cases hplace
  | dot hdir _ ih => rw [List.cons_append, walk_dot hdir, ih hplace]
  | up hdir _ ih => rw [List.cons_append, walk_up hdir, ih hplace]
  | vacant hdir hname hnone =>
    obtain ⟨mode, hdir⟩ := hdir
    simp [walk, hdir, hname.ne_dot, hname.ne_dots, Nat.not_lt.2 hname.size_le, hnone]
  | through hdir hname hlink _ htarget _ ih =>
    rw [List.cons_append, walk_through hdir hname hlink (by simp) htarget, ← List.append_assoc,
      ih hplace]
  | enter hdir hname hnode hlink _ ih =>
    rw [List.cons_append, walk_enter hdir hname hnode hlink, ih hplace]

/-- A last name that stands for an entry of its directory leads to its own place there. -/
theorem of_last {last : String} (h : Leads t false links loc [last] place) (hdot : last ≠ ".")
    (hdots : last ≠ "..") : t.IsDirectory loc ∧ IsPlain last ∧ place.location = loc ++ [last] := by
  cases h with
  | dot | up => contradiction
  | vacant hdir hname | link hdir hname => exact ⟨hdir, hname, rfl⟩
  | through _ _ _ hend => exact absurd ⟨rfl, rfl⟩ hend
  | enter hdir hname _ _ hrest =>
    cases hrest with
    | here => exact ⟨hdir, hname, rfl⟩

/-- A plain name leads to the entry of its directory, unless a link there is to be followed. -/
theorem last {last : String} {node : Node} (hdir : t.IsDirectory loc) (hname : IsPlain last)
    (hnode : t.get? (loc ++ [last]) = some node)
    (hlink : follow = true → ∀ target, node ≠ .link target) :
    Leads t follow links loc [last] (.entry (loc ++ [last])) := by
  cases node with
  | link target =>
    cases follow with
    | false => exact .link hdir hname hnode rfl
    | true => exact absurd rfl (hlink rfl target)
  | file | directory => exact .enter hdir hname hnode (by simp) .here

end Leads

end NorFlash.FileTree
