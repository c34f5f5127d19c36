import NorFlash.Proofs.Composer
import NorFlash.Proofs.Persist.Run

/-!
# The lifecycle of a composer

A `Composer` runs once. Between two calls it has not run, ended well, or failed
(`Composer.IsSettled`), and it has an image exactly if it ended well. The first call goes along
`ComposeState.way`, as far as the stages succeed, and notes each step (`Composer.FirstRun`); every
later call is refused and does nothing. `composer_lifecycle` says so for the calls of a `Session`,
in which other composers run and other operations change the world in between.

The records of the steps are found by induction over the stages: an action within a stage notes no
step (`Action.Adds`), and going on to a state notes one (`Composer.Passes`).
-/

namespace NorFlash

/-! ## Steps and their records -/

namespace ComposeState

/-- The states after the first one when no stage fails. -/
def way : List ComposeState :=
  [artifactObtained, layoutValidated, imageComposed, persisted]

/-- The record of the step from one state to another one. -/
def stepRecord (a b : ComposeState) : LogRecord :=
  ⟨.debug, "compose: " ++ a.label ++ " -> " ++ b.label⟩

/-- The records of the steps from a state along others. -/
def stepRecords : ComposeState → List ComposeState → List LogRecord
  | _, [] => []
  | a, b :: rest => stepRecord a b :: stepRecords b rest

/-- Whether a record tells of a step. -/
def isStep (r : LogRecord) : Bool :=
  "compose: ".toList.isPrefixOf r.message.toList

theorem isStep_stepRecord (a b : ComposeState) : isStep (stepRecord a b) = true := by
  simp [isStep, stepRecord, String.toList_append]

/-- The state that a way from a state ends in. -/
def lastOf (a : ComposeState) (states : List ComposeState) : ComposeState :=
  states.getLastD a

theorem stepRecords_concat (a : ComposeState) (states : List ComposeState) (b : ComposeState) :
    stepRecords a (states ++ [b]) = stepRecords a states ++ [stepRecord (lastOf a states) b] := by
  induction states generalizing a with
  | nil => rfl
  | cons next rest ih =>
    rw [List.cons_append, stepRecords, ih, stepRecords, List.cons_append, lastOf, lastOf,
      List.getLastD_cons]

end ComposeState

open ComposeState

/-! ## Actions that note no step -/

/-- An action notes no step of a composer. -/
abbrev Action.NotesNoStep (a : Action α) : Prop :=
  a.Adds fun r => isStep r = false

/-- A message that starts with another letter than a step tells of none. -/
theorem isStep_of_head {level : LogLevel} {message : String}
    (h : message.toList.head? ≠ some 'c') : isStep ⟨level, message⟩ = false := by
  rw [isStep]
  cases hchars : message.toList with
  | nil => rfl
  | cons c rest =>
    have hc : c ≠ 'c' := by simpa [hchars] using h
    have hstarts : ("compose: ".toList).isPrefixOf (c :: rest) =
        (('c' == c) && "ompose: ".toList.isPrefixOf rest) := rfl
    rw [hstarts]
    simp [Ne.symm hc]

theorem notesNoStep_planFor (g : Geometry) (size : Int) : (planFor g size).NotesNoStep := by
  refine (Action.isQuiet_ofExcept _ _).adds.bind fun layout => ?_
  split
  · exact (Action.isQuiet_throw _).adds
  · have hnote : isStep ⟨.debug, layout.planNote size⟩ = false :=
      isStep_of_head (by simp [Layout.planNote, String.toList_append])
    exact (Action.adds_note hnote).bind fun _ => (Action.isQuiet_pure _).adds

theorem notesNoStep_composeNotes (layout : Layout) (size : Int) :
    ((Image.composeNotes layout size).forM Action.debug).NotesNoStep := by
  refine Action.adds_forM fun message hmessage => Action.adds_note ?_
  simp only [Image.composeNotes, List.mem_cons, List.not_mem_nil, or_false] at hmessage
  rcases hmessage with rfl | rfl
  · exact isStep_of_head (by simp [String.toList_append])
  · exact isStep_of_head (by simp [String.toList_append])

theorem notesNoStep_persist (s : Setting) (data : ByteArray) (output : Path) :
    (persist s data output).NotesNoStep := by
  refine (Action.isQuiet_ensureNames _ _).adds.bind fun _ => ?_
  refine Action.isQuiet_tree.adds.bind fun t => ?_
  refine (Action.isQuiet_makeTemporary _ _ _).adds.bind fun made => ?_
  refine (Action.isQuiet_moveOnto _ _ _ _).adds.bind fun _ => ?_
  refine Action.isQuiet_openEntry.adds.bind fun _ => Action.adds_note ?_
  exact isStep_of_head (by simp [String.toList_append])

theorem isQuiet_encode (hexOutput : Bool) (image : Image) :
    Action.IsQuiet (Composer.encode hexOutput image) := by
  rw [Composer.encode]
  split
  · split
    · exact Action.isQuiet_pure _
    · exact Action.isQuiet_throw _
  · exact Action.isQuiet_pure _

namespace Composer

/-! ## Stages -/

/-- From a state, a staged action goes along the states ahead as far as it succeeds: it ends with a
value exactly if it comes to the last of them. It notes the steps that it makes and no others. -/
def Passes (a : Staged α) (state : ComposeState) (ahead : List ComposeState) : Prop :=
  ∀ w, ∃ passed left records, passed ++ left = ahead ∧
    (left = [] ↔ ∃ x, (runStaged a state w).1.1 = .ok x) ∧
    (runStaged a state w).1.2 = lastOf state passed ∧
    (runStaged a state w).2.log = w.log ++ records ∧
    records.filter isStep = stepRecords state passed

variable {α β : Type} {state next : ComposeState} {ahead : List ComposeState}

theorem passes_pure (x : α) : Passes (pure x) state [] :=
  fun _ => ⟨[], [], [], rfl, ⟨fun _ => ⟨x, rfl⟩, fun _ => rfl⟩, rfl, (List.append_nil _).symm, rfl⟩

/-- An action that notes no step comes before the states ahead. Where it fails all of them are
left. -/
theorem passes_act_bind {a : Action α} {f : α → Staged β} (ha : a.NotesNoStep)
    (hahead : ahead ≠ []) (hf : ∀ x, Passes (f x) state ahead) :
    Passes (act a >>= f) state ahead := by
  intro w
  obtain ⟨first, hfirst, hnone⟩ := ha w
  have hfilter : first.filter isStep = [] :=
    List.filter_eq_nil_iff.2 fun r hr => by simp [hnone r hr]
  rw [runStaged_bind, runStaged_act]
  cases hrun : a.runOn w with
  | mk result w₁ =>
    rw [hrun] at hfirst
    cases result with
    | error failure =>
      exact ⟨[], ahead, first, rfl, by simp [hahead], rfl, hfirst, hfilter⟩
    | ok x =>
      obtain ⟨passed, left, records, happend, hend, hstate, hlog, hsteps⟩ := hf x w₁
      refine ⟨passed, left, first ++ records, happend, hend, hstate, ?_, ?_⟩
      · rw [← List.append_assoc, ← hfirst]
        exact hlog
      · rw [List.filter_append, hfilter, hsteps, List.nil_append]

/-- Going on to the next state is one step. -/
theorem passes_advance_bind {f : Unit → Staged β} (hf : Passes (f ()) next ahead) :
    Passes (advance next >>= f) state (next :: ahead) := by
  intro w
  have hrun : runStaged (advance next >>= f) state w =
      runStaged (f ()) next { w with log := w.log ++ [stepRecord state next] } := rfl
  obtain ⟨passed, left, records, happend, hend, hstate, hlog, hsteps⟩ :=
    hf { w with log := w.log ++ [stepRecord state next] }
  rw [hrun]
  refine ⟨next :: passed, left, stepRecord state next :: records, ?_, hend, ?_, ?_, ?_⟩
  · rw [List.cons_append, happend]
  · rw [hstate, lastOf, lastOf, List.getLastD_cons]
  · rw [hlog, List.append_assoc, List.singleton_append]
  · rw [List.filter_cons_of_pos (isStep_stepRecord state next), hsteps, stepRecords]

/-- The stages after the provider go along the whole way. -/
theorem passes_stages (s : Setting) (c : Composer) :
    ∃ f, stages s c = act c.provider >>= f ∧ ∀ artifact, Passes (f artifact) .start way := by
  refine ⟨_, rfl, fun artifact => ?_⟩
  have hsize : isStep ⟨.info,
      "SPL1 binary size: " ++ Numeral.decimal artifact.size ++ " bytes"⟩ = false :=
    isStep_of_head (by simp [String.toList_append])
  refine passes_act_bind (Action.adds_note hsize) (by simp [way]) fun _ => ?_
  refine passes_advance_bind ?_
  refine passes_act_bind (notesNoStep_planFor _ _) (by simp) fun layout => ?_
  refine passes_advance_bind ?_
  refine passes_act_bind (Action.isQuiet_ofExcept _ _).adds (by simp) fun image => ?_
  refine passes_act_bind (notesNoStep_composeNotes _ _) (by simp) fun _ => ?_
  refine passes_advance_bind ?_
  split
  · next output _ =>
    refine passes_act_bind ?_ (by simp) fun _ => passes_advance_bind (passes_pure _)
    exact (isQuiet_encode _ _).adds.bind fun bytes => notesNoStep_persist _ _ _
  · exact passes_advance_bind (passes_pure _)

/-! ## Calls -/

/-- A composer between two calls: it has not run, ended well or failed, and it has an image exactly
if it ended well. -/
structure IsSettled (c : Composer) : Prop where
  /-- The composer is at no stage in between. -/
  state : c.state = .start ∨ c.state = .persisted ∨ c.state = .failed
  /-- The image is there once all is done. -/
  image : c.image.isSome = true ↔ c.state = .persisted

/-- The first call of a composer: its answer, the composer after it, and what was noted once the
provider had ended. -/
inductive FirstRun (c : Composer) : Except Failure Report → Composer → List LogRecord → Prop
  /-- The call returns, and the whole way was gone. -/
  | returned {report : Report} {image : Image} {records : List LogRecord} :
      records.filter isStep = stepRecords .start way →
      FirstRun c (.ok report) { c with state := .persisted, image := some image } records
  /-- The call fails after some states of the way, the last one not among them. -/
  | raised {failure : Failure} {records : List LogRecord} {k : Nat} :
      k < way.length → records.filter isStep = stepRecords .start (way.take k ++ [.failed]) →
      FirstRun c (.error failure) { c with state := .failed } records

theorem FirstRun.not_start {c c' : Composer} {result : Except Failure Report}
    {records : List LogRecord} (h : FirstRun c result c' records) : c'.state ≠ .start := by
  cases h <;> simp

theorem FirstRun.isSettled {c c' : Composer} {result : Except Failure Report}
    {records : List LogRecord} (hc : c.image = none) (h : FirstRun c result c' records) :
    c'.IsSettled := by
  cases h with
  | returned hsteps => exact ⟨.inr (.inl rfl), by simp⟩
  | raised hk hsteps => exact ⟨.inr (.inr rfl), by simp [hc]⟩

/-- The first call goes along the way and notes its steps, and the last of them is to `failed` if a
stage fails. -/
theorem run_first (s : Setting) {c : Composer} (hstart : c.state = .start) (w : World) :
    ∃ records, (c.run s w).2.log = (c.provider.runOn w).2.log ++ records ∧
      FirstRun c (c.run s w).1.1 (c.run s w).1.2 records := by
  obtain ⟨f, hstages, hpasses⟩ := passes_stages s c
  rw [run_of_start hstart, guarded, runStaged_tryCatch, hstages, runStaged_bind, runStaged_act]
  cases hprovider : c.provider.runOn w with
  | mk result w₁ =>
    cases result with
    | error failure =>
      exact ⟨[stepRecord .start .failed], rfl, .raised (k := 0) (by decide) rfl⟩
    | ok artifact =>
      obtain ⟨passed, left, records, hway, hend, hstate, hlog, hsteps⟩ := hpasses artifact w₁
      dsimp only
      generalize runStaged (f artifact) .start w₁ = run at hend hstate hlog ⊢
      obtain ⟨⟨result, state⟩, w₂⟩ := run
      dsimp only at hend hstate hlog
      cases result with
      | ok y =>
        obtain rfl : left = [] := hend.2 ⟨y, rfl⟩
        obtain rfl : passed = way := by rw [← hway, List.append_nil]
        obtain rfl : state = .persisted := hstate
        exact ⟨records, hlog, .returned hsteps⟩
      | error failure =>
        have hleft : left ≠ [] := fun hnil => by simpa using hend.1 hnil
        have htake : way.take passed.length = passed := by rw [← hway, List.take_left]
        refine ⟨records ++ [stepRecord state .failed], ?_, .raised (k := passed.length) ?_ ?_⟩
        · rw [← List.append_assoc, ← hlog]
          rfl
        · have hlength := List.length_pos_iff.2 hleft
          rw [← hway, List.length_append]
          omega
        · rw [List.filter_append, hsteps, htake, stepRecords_concat, hstate]
          rw [List.filter_cons_of_pos (isStep_stepRecord _ _), List.filter_nil]

/-- A composer that has run is refused. -/
theorem run_of_not_start (s : Setting) {c : Composer} (h : c.state ≠ .start) (w : World) :
    c.run s w = ((.error (.slip (.spentComposer c.state.label)), c), w) := by
  rw [run, if_neg h]

end Composer

/-! ## Sessions -/

/-- Composers by name, and the world that they share. -/
structure Session where
  /-- The composers. -/
  composers : String → Composer
  /-- The world. -/
  world : World

/-- What happens in a session. -/
inductive Event where
  /-- A composer is called. -/
  | call (id : String)
  /-- Something else changes the world. -/
  | other (change : World → World)

namespace Session

/-- The session after an event. -/
def step (s : Setting) (x : Session) : Event → Session
  | .call id =>
    let run := (x.composers id).run s x.world
    ⟨fun other => if other = id then run.1.2 else x.composers other, run.2⟩
  | .other change => { x with world := change x.world }

/-- The session after some events. -/
def after (s : Setting) (x : Session) (events : List Event) : Session :=
  events.foldl (step s) x

/-- The session with another composer under a name. -/
def create (x : Session) (id : String) (c : Composer) : Session :=
  { x with composers := fun other => if other = id then c else x.composers other }

variable {s : Setting} {x : Session} {id : String} {events : List Event}

theorem after_append (first second : List Event) :
    x.after s (first ++ second) = (x.after s first).after s second := by
  rw [after, List.foldl_append]
  rfl

/-- A composer stays as it is while it is not called. -/
theorem composers_after_of_not_mem (h : Event.call id ∉ events) :
    (x.after s events).composers id = x.composers id := by
  induction events generalizing x with
  | nil => rfl
  | cons event events ih =>
    rw [List.mem_cons, not_or] at h
    obtain ⟨hevent, hrest⟩ := h
    have hstep : (x.step s event).composers id = x.composers id := by
      cases event with
      | other change => rfl
      | call other =>
        have hne : id ≠ other := fun heq => hevent (by rw [heq])
        exact if_neg hne
    exact (ih (x := x.step s event) hrest).trans hstep

/-- A composer that has run stays as it is for ever. -/
theorem composers_after_of_not_start (h : (x.composers id).state ≠ .start) :
    (x.after s events).composers id = x.composers id := by
  induction events generalizing x with
  | nil => rfl
  | cons event events ih =>
    have hstep : (x.step s event).composers id = x.composers id := by
      cases event with
      | other change => rfl
      | call other =>
        by_cases heq : id = other
        · subst heq
          have hrun := Composer.run_of_not_start s h x.world
          have hcalled : (x.step s (.call id)).composers id =
              ((x.composers id).run s x.world).1.2 := if_pos rfl
          rw [hcalled, hrun]
        · exact if_neg heq
    exact (ih (x := x.step s event) (by rw [hstep]; exact h)).trans hstep

/-- A composer is for ever what its first call left. -/
theorem composers_after_call {before : List Event} (hstart : (x.composers id).state = .start)
    (hbefore : Event.call id ∉ before) (rest : List Event) :
    (x.after s (before ++ .call id :: rest)).composers id =
      ((x.composers id).run s (x.after s before).world).1.2 := by
  have hcaller := composers_after_of_not_mem (s := s) (x := x) hbefore
  have hcalled : ((x.after s before).step s (.call id)).composers id =
      ((x.composers id).run s (x.after s before).world).1.2 := by
    rw [← hcaller]
    exact if_pos rfl
  have hspent : (((x.after s before).step s (.call id)).composers id).state ≠ .start := by
    obtain ⟨records, -, hfirst⟩ := Composer.run_first s hstart (x.after s before).world
    rw [hcalled]
    exact hfirst.not_start
  rw [after_append, ← hcalled]
  exact composers_after_of_not_start hspent

end Session

/-- **The lifecycle of a composer.** Whatever happens in a session, a composer made in it is settled
between two calls. It stays as it was made until its first call, which goes along the way; after
that call it stays as the call left it, and each later call is refused, with neither the provider
run nor anything changed. -/
theorem composer_lifecycle (s : Setting) (x : Session) (id : String) (g : Geometry)
    (provider : Provider) (output : Option Path) (hexOutput : Bool) (events : List Event) :
    let made := Composer.new g provider output hexOutput
    let session := x.create id made
    let c := (session.after s events).composers id
    c.IsSettled ∧ (Event.call id ∉ events → c = made) ∧
    (∀ before rest, Event.call id ∉ before → events = before ++ .call id :: rest →
      let w := (session.after s before).world
      ∃ result records, made.run s w = ((result, c), (made.run s w).2) ∧
        (made.run s w).2.log = (provider.runOn w).2.log ++ records ∧
        made.FirstRun result c records) ∧
    (Event.call id ∈ events → c.state ≠ .start ∧
      (Failure.slip (.spentComposer c.state.label)).message =
        "composer already ran (state " ++ c.state.label ++ ")" ∧
      ∀ w provider', { c with provider := provider' }.run s w =
        ((.error (.slip (.spentComposer c.state.label)), { c with provider := provider' }), w)) := by
  intro made session c
  have hcreated : session.composers id = made := if_pos rfl
  have hkept : Event.call id ∉ events → c = made := fun hnone =>
    (Session.composers_after_of_not_mem hnone).trans hcreated
  have hfirst : ∀ before rest, Event.call id ∉ before → events = before ++ .call id :: rest →
      let w := (session.after s before).world
      ∃ result records, made.run s w = ((result, c), (made.run s w).2) ∧
        (made.run s w).2.log = (provider.runOn w).2.log ++ records ∧
        made.FirstRun result c records := by
    intro before rest hbefore hevents w
    obtain ⟨records, hlog, hrun⟩ := Composer.run_first s (c := made) rfl w
    have hstart : (session.composers id).state = .start := by rw [hcreated]; rfl
    have hc : c = (made.run s w).1.2 := by
      have hcall := Session.composers_after_call (s := s) hstart hbefore rest
      rwa [← hevents, hcreated] at hcall
    refine ⟨(made.run s w).1.1, records, by rw [hc], hlog, ?_⟩
    rw [hc]
    exact hrun
  by_cases hcall : Event.call id ∈ events
  · obtain ⟨before, rest, hevents, hbefore⟩ := List.eq_append_cons_of_mem hcall
    obtain ⟨result, records, -, -, hrun⟩ := hfirst before rest hbefore hevents
    have hspent := hrun.not_start
    exact ⟨hrun.isSettled rfl, hkept, hfirst, fun _ => ⟨hspent, rfl, fun w provider' =>
      Composer.run_of_not_start s (c := { c with provider := provider' }) hspent w⟩⟩
  · have hsettled : c.IsSettled := by
      rw [hkept hcall]
      exact ⟨.inl rfl, by simp [made, Composer.new]⟩
    exact ⟨hsettled, hkept, hfirst, fun hbad => absurd hbad hcall⟩

end NorFlash
