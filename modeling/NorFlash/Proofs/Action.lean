import NorFlash.Action
import NorFlash.Proofs.Path

/-!
# Running actions

What each operation of an `Action` does to a world: its result and the world after it. Proofs about
actions rewrite with these equations and do not look into the monad.
-/

namespace NorFlash

/-- A setting at the root of the tree in which every program ends at once. -/
def Setting.atRoot : Setting where
  directory := []
  root := "/"
  schema := "/schema.yml"
  schemaPresent := true
  programs := fun _ _ tree => (.ok 0, tree)

/-- A world of some files in which nothing was noted or printed. -/
def World.ofTree (tree : FileTree) : World :=
  ⟨tree, [], []⟩

/-- A sequence of computations that ends with a value has a first part that does. -/
theorem of_bind_eq_ok {ε α β : Type} {x : Except ε α} {f : α → Except ε β} {y : β}
    (h : x >>= f = .ok y) : ∃ a, x = .ok a ∧ f a = .ok y := by
  cases x with
  | ok a => exact ⟨a, rfl, h⟩
  | error e => exact nomatch h

namespace Action

variable {α β ε : Type} (w : World)

/-! ## Sequencing -/

@[simp] theorem runOn_pure (x : α) : (pure x : Action α).runOn w = (.ok x, w) := rfl

@[simp] theorem runOn_throw (failure : Failure) :
    (throw failure : Action α).runOn w = (.error failure, w) := rfl

theorem runOn_bind (a : Action α) (f : α → Action β) :
    (a >>= f).runOn w =
      match a.runOn w with
      | (.ok x, w') => (f x).runOn w'
      | (.error failure, w') => (.error failure, w') := by
  simp only [runOn, ExceptT.run_bind, StateT.run_bind]
  cases (ExceptT.run a).run w with
  | mk r w' => cases r <;> rfl

variable {w}

theorem runOn_bind_ok {a : Action α} {x : α} {w' : World} (h : a.runOn w = (.ok x, w'))
    (f : α → Action β) : (a >>= f).runOn w = (f x).runOn w' := by
  rw [runOn_bind, h]

theorem runOn_bind_error {a : Action α} {failure : Failure} {w' : World}
    (h : a.runOn w = (.error failure, w')) (f : α → Action β) :
    (a >>= f).runOn w = (.error failure, w') := by
  rw [runOn_bind, h]

/-- A sequence that ends with a value has a first part that does. -/
theorem of_runOn_bind_ok {a : Action α} {f : α → Action β} {y : β} {w' : World}
    (h : (a >>= f).runOn w = (.ok y, w')) :
    ∃ x w₁, a.runOn w = (.ok x, w₁) ∧ (f x).runOn w₁ = (.ok y, w') := by
  rw [runOn_bind] at h
  cases hrun : a.runOn w with
  | mk r w₁ =>
    cases r with
    | ok x => exact ⟨x, w₁, rfl, by simpa [hrun] using h⟩
    | error failure => simp [hrun] at h

/-! ## Handling failures -/

theorem runOn_map (f : α → β) (a : Action α) :
    (f <$> a).runOn w = ((a.runOn w).1.map f, (a.runOn w).2) := by
  simp only [runOn, ExceptT.run_map, StateT.run_map]
  rfl

theorem runOn_tryCatch (a : Action α) (handle : Failure → Action α) :
    (tryCatch a handle).runOn w =
      match a.runOn w with
      | (.ok x, w') => (.ok x, w')
      | (.error failure, w') => (handle failure).runOn w' := by
  cases h : a.runOn w with
  | mk r w' =>
    have hrun : StateT.run a w = (r, w') := h
    simp only [runOn, tryCatch, tryCatchThe, MonadExceptOf.tryCatch, ExceptT.tryCatch,
      ExceptT.run_mk, StateT.run_bind, hrun]
    cases r <;> rfl

theorem runOn_attempt (a : Action α) :
    (attempt a).runOn w = (.ok (a.runOn w).1, (a.runOn w).2) := by
  rw [attempt, runOn_tryCatch, runOn_map]
  cases a.runOn w with
  | mk r w' => cases r <;> rfl

variable (w)

/-! ## Single operations -/

@[simp] theorem runOn_tree : tree.runOn w = (.ok w.tree, w) := rfl

@[simp] theorem runOn_setTree (t : FileTree) :
    (setTree t).runOn w = (.ok (), { w with tree := t }) := rfl

@[simp] theorem runOn_note (level : LogLevel) (message : String) :
    (note level message).runOn w = (.ok (), { w with log := w.log ++ [⟨level, message⟩] }) := rfl

@[simp] theorem runOn_refuse (errno : Errno) (path : String) :
    (refuse errno path : Action α).runOn w = (.error (.file (.file (.of errno path))), w) := rfl

@[simp] theorem runOn_ofExcept_ok (f : ε → Failure) (x : α) :
    (ofExcept f (.ok x)).runOn w = (.ok x, w) := rfl

@[simp] theorem runOn_ofExcept_error (f : ε → Failure) (e : ε) :
    (ofExcept f (.error e) : Action α).runOn w = (.error (f e).worded, w) := rfl

variable {w}

/-- A computation in an action ends with a value if the action does. -/
theorem of_runOn_ofExcept_ok {f : ε → Failure} {result : Except ε α} {x : α} {w' : World}
    (h : (ofExcept f result).runOn w = (.ok x, w')) : result = .ok x ∧ w' = w := by
  cases result with
  | ok y =>
    obtain ⟨hx, rfl⟩ := Prod.ext_iff.1 h
    exact ⟨congrArg Except.ok (Except.ok.inj hx), rfl⟩
  | error e => simp at h

/-- What an entry that a path leads to is tested for. -/
theorem runOn_testEntry_of_status {s : Setting} {path : Path} {p : Node → Bool} {node : Node}
    {w : World} (hnull : hasNull path.render = false)
    (hstatus : w.tree.status s.directory path.render = .ok node) :
    (testEntry s path p).runOn w = (.ok (p node), w) := by
  have htest : w.tree.test s.directory path.render p = .ok (p node) := by
    rw [FileTree.test, hstatus]
  simp only [testEntry, hnull, Bool.false_eq_true, if_false]
  rw [runOn_bind_ok (runOn_tree w), htest]
  rfl

/-! ## Actions that leave the tree as it is -/

/-- An action leaves the tree as it is, however it ends. -/
def KeepsTree (a : Action α) : Prop :=
  ∀ w, (a.runOn w).2.tree = w.tree

theorem keepsTree_pure (x : α) : KeepsTree (pure x : Action α) := fun _ => rfl

theorem keepsTree_throw (failure : Failure) : KeepsTree (throw failure : Action α) := fun _ => rfl

theorem keepsTree_note (level : LogLevel) (message : String) : KeepsTree (note level message) :=
  fun _ => rfl

theorem keepsTree_ofExcept (f : ε → Failure) (result : Except ε α) :
    KeepsTree (ofExcept f result) := by
  cases result with
  | ok x => exact keepsTree_pure x
  | error e => exact keepsTree_throw _

theorem KeepsTree.bind {a : Action α} {f : α → Action β} (ha : KeepsTree a)
    (hf : ∀ x, KeepsTree (f x)) : KeepsTree (a >>= f) := by
  intro w
  have htree := ha w
  rw [runOn_bind]
  cases hrun : a.runOn w with
  | mk r w₁ =>
    rw [hrun] at htree
    cases r with
    | ok x => exact (hf x w₁).trans htree
    | error failure => exact htree

theorem keepsTree_forM {messages : List String} {f : String → Action Unit}
    (h : ∀ message, KeepsTree (f message)) : KeepsTree (messages.forM f) := by
  induction messages with
  | nil => exact keepsTree_pure ()
  | cons message messages ih => exact (h message).bind fun _ => ih

/-! ## Actions that only read files -/

/-- An action answers from the files alone and leaves everything as it is, however it ends. -/
def ReadsFiles (a : Action α) : Prop :=
  ∀ w w' : World, w.tree = w'.tree → a.runOn w = ((a.runOn w').1, w)

theorem readsFiles_pure (x : α) : ReadsFiles (pure x : Action α) := fun _ _ _ => rfl

theorem readsFiles_throw (failure : Failure) : ReadsFiles (throw failure : Action α) :=
  fun _ _ _ => rfl

theorem readsFiles_tree : ReadsFiles tree := fun w _ h => by
  rw [runOn_tree, runOn_tree, h]

theorem readsFiles_ofExcept (f : ε → Failure) (result : Except ε α) :
    ReadsFiles (ofExcept f result) := by
  cases result with
  | ok x => exact readsFiles_pure x
  | error e => exact readsFiles_throw _

theorem ReadsFiles.runOn {a : Action α} (ha : ReadsFiles a) (w : World) :
    a.runOn w = ((a.runOn w).1, w) :=
  ha w w rfl

theorem ReadsFiles.bind {a : Action α} {f : α → Action β} (ha : ReadsFiles a)
    (hf : ∀ x, ReadsFiles (f x)) : ReadsFiles (a >>= f) := by
  intro w w' h
  rw [runOn_bind, runOn_bind, ha w w' h, ha.runOn w']
  cases (a.runOn w').1 with
  | ok x => exact hf x w w' h
  | error failure => rfl

theorem ReadsFiles.attempt {a : Action α} (ha : ReadsFiles a) : ReadsFiles (attempt a) := by
  intro w w' h
  rw [runOn_attempt, runOn_attempt, ha w w' h]

/-- An action that only reads files leaves the tree as it is. -/
theorem ReadsFiles.keepsTree {a : Action α} (ha : ReadsFiles a) : KeepsTree a :=
  fun w => congrArg (·.2.tree) (ha.runOn w)

theorem readsFiles_testEntry (s : Setting) (path : Path) (p : Node → Bool) :
    ReadsFiles (testEntry s path p) := by
  rw [testEntry]
  split
  · exact readsFiles_pure false
  · refine readsFiles_tree.bind fun t => ?_
    split
    · exact readsFiles_pure _
    · exact readsFiles_throw _

theorem readsFiles_readFile (s : Setting) (path : Path) : ReadsFiles (readFile s path) := by
  rw [readFile]
  split
  · exact readsFiles_throw _
  · refine readsFiles_tree.bind fun t => ?_
    split
    · exact readsFiles_pure _
    · exact readsFiles_throw _

/-! ## Failures of an action -/

/-- Each failure of an action has a property. -/
def FailsBy (q : Failure → Prop) (a : Action α) : Prop :=
  ∀ w failure w', a.runOn w = (.error failure, w') → q failure

variable {q : Failure → Prop}

theorem failsBy_pure (x : α) : FailsBy q (pure x : Action α) :=
  fun _ _ _ h => nomatch (Prod.ext_iff.1 h).1

theorem failsBy_throw {failure : Failure} (h : q failure) :
    FailsBy q (throw failure : Action α) := by
  intro w failure' w' hrun
  obtain rfl := Except.error.inj (Prod.ext_iff.1 hrun).1
  exact h

theorem failsBy_tree : FailsBy q tree := fun _ _ _ h => nomatch (Prod.ext_iff.1 h).1

theorem failsBy_setTree (t : FileTree) : FailsBy q (setTree t) :=
  fun _ _ _ h => nomatch (Prod.ext_iff.1 h).1

theorem failsBy_note (level : LogLevel) (message : String) : FailsBy q (note level message) :=
  fun _ _ _ h => nomatch (Prod.ext_iff.1 h).1

theorem failsBy_ofExcept {f : ε → Failure} {result : Except ε α}
    (h : ∀ e, result = .error e → q (f e).worded) : FailsBy q (ofExcept f result) := by
  cases result with
  | ok x => exact failsBy_pure x
  | error e => exact failsBy_throw (h e rfl)

theorem FailsBy.bind {a : Action α} {f : α → Action β} (ha : FailsBy q a)
    (hf : ∀ x, FailsBy q (f x)) : FailsBy q (a >>= f) := by
  intro w failure w' h
  rw [runOn_bind] at h
  cases hrun : a.runOn w with
  | mk r w₁ =>
    rw [hrun] at h
    cases r with
    | ok x => exact hf x w₁ failure w' h
    | error other =>
      obtain ⟨hsame, -⟩ := Prod.ext_iff.1 h
      exact Except.error.inj hsame ▸ ha w other w₁ hrun

theorem failsBy_testEntry (s : Setting) (path : Path) (p : Node → Bool)
    (h : ∀ fault, q (.file (.file fault))) : FailsBy q (testEntry s path p) := by
  rw [testEntry]
  split
  · exact failsBy_pure false
  · refine failsBy_tree.bind fun t => ?_
    split
    · exact failsBy_pure _
    · exact failsBy_throw (h _)

theorem failsBy_readFile (s : Setting) (path : Path) (h : ∀ fault, q (.file fault)) :
    FailsBy q (readFile s path) := by
  rw [readFile]
  split
  · exact failsBy_throw (h _)
  · refine failsBy_tree.bind fun t => ?_
    split
    · exact failsBy_pure _
    · exact failsBy_throw (h _)

/-! ## Actions that note nothing -/

/-- An action neither reads nor changes the log and the lines printed. -/
def IsQuiet (a : Action α) : Prop :=
  ∀ tree log printed log' printed', a.runOn ⟨tree, log', printed'⟩ =
    ((a.runOn ⟨tree, log, printed⟩).1, ⟨(a.runOn ⟨tree, log, printed⟩).2.tree, log', printed'⟩)

theorem isQuiet_pure (x : α) : IsQuiet (pure x : Action α) := fun _ _ _ _ _ => rfl

theorem isQuiet_throw (failure : Failure) : IsQuiet (throw failure : Action α) :=
  fun _ _ _ _ _ => rfl

theorem isQuiet_tree : IsQuiet tree := fun _ _ _ _ _ => rfl

theorem isQuiet_setTree (t : FileTree) : IsQuiet (setTree t) := fun _ _ _ _ _ => rfl

theorem isQuiet_refuse (errno : Errno) (path : String) : IsQuiet (refuse errno path : Action α) :=
  fun _ _ _ _ _ => rfl

theorem isQuiet_ofExcept (f : ε → Failure) (result : Except ε α) :
    IsQuiet (ofExcept f result) := by
  cases result with
  | ok x => exact isQuiet_pure x
  | error e => exact isQuiet_throw _

theorem IsQuiet.bind {a : Action α} {f : α → Action β} (ha : IsQuiet a)
    (hf : ∀ x, IsQuiet (f x)) : IsQuiet (a >>= f) := by
  intro tree log printed log' printed'
  rw [runOn_bind, runOn_bind, ha tree log printed log' printed']
  cases hrun : a.runOn ⟨tree, log, printed⟩ with
  | mk r w =>
    cases r with
    | error failure => rfl
    | ok x =>
      obtain ⟨tree₁, log₁, printed₁⟩ := w
      exact hf x tree₁ log₁ printed₁ log' printed'

/-! ## Actions that go by the files -/

/-- How an action ends and the files it leaves depend on the files it finds alone. -/
def ByTree (a : Action α) : Prop :=
  ∀ w w' : World, w.tree = w'.tree →
    (a.runOn w).1 = (a.runOn w').1 ∧ (a.runOn w).2.tree = (a.runOn w').2.tree

theorem byTree_pure (x : α) : ByTree (pure x : Action α) := fun _ _ h => ⟨rfl, h⟩

theorem byTree_throw (failure : Failure) : ByTree (throw failure : Action α) :=
  fun _ _ h => ⟨rfl, h⟩

theorem byTree_note (level : LogLevel) (message : String) : ByTree (note level message) :=
  fun _ _ h => ⟨rfl, h⟩

theorem byTree_ofExcept (f : ε → Failure) (result : Except ε α) : ByTree (ofExcept f result) := by
  cases result with
  | ok x => exact byTree_pure x
  | error e => exact byTree_throw _

theorem IsQuiet.byTree {a : Action α} (ha : IsQuiet a) : ByTree a := by
  rintro ⟨tree, log, printed⟩ ⟨tree', log', printed'⟩ rfl
  rw [ha tree log printed log' printed']
  exact ⟨rfl, rfl⟩

theorem ByTree.bind {a : Action α} {f : α → Action β} (ha : ByTree a) (hf : ∀ x, ByTree (f x)) :
    ByTree (a >>= f) := by
  intro w w' h
  obtain ⟨hresult, htree⟩ := ha w w' h
  rw [runOn_bind, runOn_bind]
  cases hrun : a.runOn w with
  | mk r w₁ =>
    cases hrun' : a.runOn w' with
    | mk r' w₁' =>
      rw [hrun, hrun'] at hresult htree
      obtain rfl : r = r' := hresult
      cases r with
      | ok x => exact hf x w₁ w₁' htree
      | error failure => exact ⟨rfl, htree⟩

/-! ## Actions that print nothing -/

/-- An action leaves the lines printed as they are, however it ends. -/
def IsSilent (a : Action α) : Prop :=
  ∀ w, (a.runOn w).2.printed = w.printed

theorem ReadsFiles.isSilent {a : Action α} (ha : ReadsFiles a) : IsSilent a :=
  fun w => congrArg (·.2.printed) (ha.runOn w)

theorem IsQuiet.isSilent {a : Action α} (ha : IsQuiet a) : IsSilent a := by
  intro w
  have hrun := ha w.tree w.log w.printed w.log w.printed
  exact congrArg (·.2.printed) hrun

theorem isSilent_note (level : LogLevel) (message : String) : IsSilent (note level message) :=
  fun _ => rfl

theorem IsSilent.bind {a : Action α} {f : α → Action β} (ha : IsSilent a)
    (hf : ∀ x, IsSilent (f x)) : IsSilent (a >>= f) := by
  intro w
  have hprinted := ha w
  rw [runOn_bind]
  cases hrun : a.runOn w with
  | mk r w₁ =>
    rw [hrun] at hprinted
    cases r with
    | ok x => exact (hf x w₁).trans hprinted
    | error failure => exact hprinted

theorem isSilent_forM {messages : List String} {f : String → Action Unit}
    (h : ∀ message, IsSilent (f message)) : IsSilent (messages.forM f) := by
  induction messages with
  | nil => exact (readsFiles_pure ()).isSilent
  | cons message messages ih => exact (h message).bind fun _ => ih

/-! ## Actions that note some records only -/

/-- An action takes no record from the log and adds records with a property only. -/
def Adds (p : LogRecord → Prop) (a : Action α) : Prop :=
  ∀ w, ∃ records, (a.runOn w).2.log = w.log ++ records ∧ ∀ r ∈ records, p r

variable {p : LogRecord → Prop}

theorem IsQuiet.adds {a : Action α} (h : IsQuiet a) : Adds p a := by
  intro w
  have hrun := h w.tree w.log w.printed w.log w.printed
  exact ⟨[], by rw [hrun, List.append_nil], by simp⟩

theorem adds_note {level : LogLevel} {message : String} (h : p ⟨level, message⟩) :
    Adds p (note level message) := by
  intro w
  exact ⟨[⟨level, message⟩], rfl, by simpa using h⟩

theorem Adds.bind {a : Action α} {f : α → Action β} (ha : Adds p a) (hf : ∀ x, Adds p (f x)) :
    Adds p (a >>= f) := by
  intro w
  obtain ⟨first, hfirst, hp⟩ := ha w
  rw [runOn_bind]
  cases hrun : a.runOn w with
  | mk r w₁ =>
    rw [hrun] at hfirst
    cases r with
    | error failure => exact ⟨first, hfirst, hp⟩
    | ok x =>
      obtain ⟨rest, hrest, hp'⟩ := hf x w₁
      refine ⟨first ++ rest, ?_, ?_⟩
      · rw [← List.append_assoc, ← hfirst]
        exact hrest
      · intro r hr
        rcases List.mem_append.1 hr with hr | hr
        · exact hp r hr
        · exact hp' r hr

theorem adds_forM {messages : List String} {f : String → Action Unit}
    (h : ∀ message ∈ messages, Adds p (f message)) : Adds p (messages.forM f) := by
  induction messages with
  | nil => exact (isQuiet_pure ()).adds
  | cons message messages ih =>
    obtain ⟨hfirst, hrest⟩ := List.forall_mem_cons.1 h
    exact hfirst.bind fun _ => ih hrest

end Action

/-! ## Plain paths -/

/-- No name on a path holds a null character. -/
def Path.IsPlain (p : Path) : Prop :=
  ∀ name ∈ p.names, '\x00' ∉ name.toList

theorem Path.isPlain_iff {p : Path} : p.IsPlain ↔ Action.hasNull p.render = false := by
  rw [Action.hasNull, List.contains_eq_mem, decide_eq_false_iff_not,
    Path.mem_render (by decide) (by decide), Path.IsPlain]
  simp only [not_exists, not_and]

theorem Path.IsPlain.parent {p : Path} (h : p.IsPlain) : p.parent.IsPlain :=
  fun name hname => h name (List.dropLast_subset _ hname)

namespace Action

variable {s : Setting} {path : Path}

theorem runOn_testEntry_of_isPlain (h : path.IsPlain) (p : Node → Bool) (w : World) :
    (testEntry s path p).runOn w =
      match w.tree.test s.directory path.render p with
      | .ok answer => (.ok answer, w)
      | .error errno => (.error (.file (.file (.of errno path.render))), w) := by
  rw [testEntry, Path.isPlain_iff.1 h, if_neg Bool.false_ne_true, runOn_bind_ok (runOn_tree w)]
  cases w.tree.test s.directory path.render p <;> rfl

theorem runOn_readFile_of_isPlain (h : path.IsPlain) (w : World) :
    (readFile s path).runOn w =
      match w.tree.read s.directory path.render with
      | .ok content => (.ok content, w)
      | .error errno => (.error (.file (.file (.of errno path.render))), w) := by
  rw [readFile, Path.isPlain_iff.1 h, if_neg Bool.false_ne_true, runOn_bind_ok (runOn_tree w)]
  cases w.tree.read s.directory path.render <;> rfl

end Action

end NorFlash
