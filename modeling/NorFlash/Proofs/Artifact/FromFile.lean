import NorFlash.Proofs.CommandLine.BuildImage
import NorFlash.Proofs.IntelHex.Stored

/-!
# What a file gives as an artifact

Reading an artifact gives bytes exactly for a path that leads to a file, and these are the content
of the file or, for records that are accepted, what runs from the lowest address to the highest one
that they give a byte for (`Provider.IsArtifact`). Nothing else is an artifact, and the failure says
so with the path that was asked for, but for one error of the system: the lookup of a path on which
a name is too long (`Provider.Missed`, `Provider.artifact_of_file`).
-/

namespace NorFlash

open IntelHex (Memory)
open IntelHex.Memory (Describes)

variable {s : Setting} {t : FileTree} {path : Path} {content bytes : ByteArray}

/-! ## Looking up a file -/

/-- Following a path stops at a name that is too long, or where there is nothing to follow. -/
theorem FileTree.meansAbsent_of_walk {follow : Bool} {links : Nat} {loc : Location}
    {names : List String} {errno : Errno} (h : t.walk follow links loc names = .error errno) :
    errno = .nameTooLong ∨ errno.meansAbsent = true := by
  fun_induction walk t follow links loc names with
  | case1 | case5 | case7 => cases h
  | case2 links loc rest mode hdir ih => exact ih h
  | case3 links loc rest mode hdir _ ih => exact ih h
  | case10 loc name rest mode hdir hdot hdots hsize target hlink hend links htarget ih => exact ih h
  | case11 links loc name rest mode hdir hdot hdots hsize node hlink hnode ih => exact ih h
  | case4 =>
    obtain rfl := Except.error.inj h
    exact .inl rfl
  | case6 | case8 | case9 | case12 =>
    obtain rfl := Except.error.inj h
    exact .inr rfl

theorem FileTree.meansAbsent_of_locate {directory : Location} {follow : Bool} {text : String}
    {errno : Errno} (h : t.locate directory follow text = .error errno) :
    errno = .nameTooLong ∨ errno.meansAbsent = true := by
  rw [locate] at h
  split at h
  · obtain rfl := Except.error.inj h
    exact .inr rfl
  · split at h
    · obtain rfl := Except.error.inj h
      exact .inl rfl
    · exact meansAbsent_of_walk h

namespace Setting

/-- A path leads, through links, to a file with this content. -/
def LeadsToFile (s : Setting) (t : FileTree) (path : Path) (content : ByteArray) : Prop :=
  Action.hasNull path.render = false ∧
    ∃ loc mode, t.locate s.directory true path.render = .ok (.entry loc) ∧
      t.get? loc = some (.file mode content)

/-- The system refuses to follow a path, as a name on the way or the path itself is too long. -/
def Refuses (s : Setting) (t : FileTree) (path : Path) : Prop :=
  Action.hasNull path.render = false ∧
    t.locate s.directory true path.render = .error .nameTooLong

theorem leadsToFile_iff :
    s.LeadsToFile t path content ↔ Action.hasNull path.render = false ∧
      ∃ mode, t.status s.directory path.render = .ok (.file mode content) := by
  simp only [LeadsToFile, FileTree.status_eq_ok_iff]
  exact and_congr_right fun _ => exists_comm

theorem seesFile_true_iff :
    s.seesFile t path = .ok true ↔ ∃ content, s.LeadsToFile t path content := by
  simp only [seesFile_eq_true_iff, leadsToFile_iff]
  constructor
  · rintro ⟨hnull, mode, content, hfile⟩
    exact ⟨content, hnull, mode, hfile⟩
  · rintro ⟨content, hnull, mode, hfile⟩
    exact ⟨hnull, mode, content, hfile⟩

/-- Looking for a file fails only where the system refuses to follow the path. -/
theorem seesFile_error_iff {errno : Errno} :
    s.seesFile t path = .error errno ↔ errno = .nameTooLong ∧ s.Refuses t path := by
  rw [seesFile, Refuses]
  split
  · next hnull => simp [hnull]
  · next hnull =>
    rw [FileTree.test, FileTree.status, FileTree.find]
    cases hlocate : t.locate s.directory true path.render with
    | ok place =>
      cases place with
      | entry loc => cases hget : t.get? loc <;> simp [hget, Errno.meansAbsent]
      | vacant parent name => simp [Errno.meansAbsent]
    | error other =>
      simp only [hnull]
      rcases FileTree.meansAbsent_of_locate hlocate with rfl | habsent
      · simp [Errno.meansAbsent, eq_comm]
      · have hne : other ≠ .nameTooLong := by
          rintro rfl
          cases habsent
        simp [habsent, hne]

end Setting

/-! ## What records span -/

/-- Bytes run from the lowest address to the highest one for which a byte is given, erased where
none is. -/
inductive IntelHex.Memory.Spans (given : Nat → UInt8 → Prop) : ByteArray → Prop
  /-- No byte is given. -/
  | none (h : ∀ x b, ¬ given x b) : Spans given ByteArray.empty
  /-- Bytes are given from `low` to `high`. -/
  | some {low high : Nat} {bytes : ByteArray} (lowest : ∃ b, given low b)
      (highest : ∃ b, given high b) (within : ∀ x b, given x b → low ≤ x ∧ x ≤ high)
      (size : bytes.size = high + 1 - low)
      (byte : ∀ x b, given x b → bytes.data.toList[x - low]? = .some b)
      (hole : ∀ i, low + i ≤ high → (∀ b, ¬ given (low + i) b) →
        bytes.data.toList[i]? = .some erasedByte) : Spans given bytes

namespace IntelHex.Memory

variable {given : Nat → UInt8 → Prop}

/-- There is one such run of bytes at most. -/
theorem Spans.unique {other : ByteArray} (h : Spans given bytes) (h' : Spans given other) :
    bytes = other := by
  cases h with
  | none hnone =>
    cases h' with
    | none => rfl
    | some lowest =>
      obtain ⟨b, hb⟩ := lowest
      exact absurd hb (hnone _ b)
  | @some low high _ lowest highest within size byte hole =>
    obtain ⟨l, hl⟩ := lowest
    obtain ⟨u, hu⟩ := highest
    cases h' with
    | none hnone => exact absurd hl (hnone _ l)
    | @some low' high' _ lowest' highest' within' size' byte' hole' =>
      obtain ⟨l', hl'⟩ := lowest'
      obtain ⟨u', hu'⟩ := highest'
      obtain rfl : low = low' := Nat.le_antisymm (within _ _ hl').1 (within' _ _ hl).1
      obtain rfl : high = high' := Nat.le_antisymm (within' _ _ hu).2 (within _ _ hu').2
      refine Bytes.eq_of_toList_eq (List.ext_getElem? fun i => ?_)
      by_cases hi : low + i ≤ high
      · by_cases hgiven : ∃ b, given (low + i) b
        · obtain ⟨b, hb⟩ := hgiven
          have hplace : low + i - low = i := Nat.add_sub_cancel_left low i
          have hhere := byte _ b hb
          have hthere := byte' _ b hb
          rw [hplace] at hhere hthere
          rw [hhere, hthere]
        · have hnone : ∀ b, ¬ given (low + i) b := fun b hb => hgiven ⟨b, hb⟩
          rw [hole i hi hnone, hole' i hi hnone]
      · rw [List.getElem?_eq_none (by rw [Bytes.length_toList]; omega),
          List.getElem?_eq_none (by rw [Bytes.length_toList]; omega)]

/-- The span of a memory is that of what its file describes. -/
theorem spans_span {memory : Memory} (h : ofFile content = .ok memory) :
    Spans (Describes content) memory.span := by
  by_cases hsome : ∃ x b, Describes content x b
  · obtain ⟨x, b, hb⟩ := hsome
    obtain ⟨low, high, hlow, hhigh, ⟨l, hl⟩, ⟨u, hu⟩, hwithin⟩ :=
      exists_keys ((getElem?_ofFile h).2 hb)
    refine .some ⟨l, (getElem?_ofFile h).1 hl⟩ ⟨u, (getElem?_ofFile h).1 hu⟩
      (fun y c hc => hwithin y c ((getElem?_ofFile h).2 hc)) (size_span_of_keys hlow hhigh)
      (fun y c hc => ?_) (fun i hi hnone => ?_)
    · have hy := (getElem?_ofFile h).2 hc
      obtain ⟨hle, hge⟩ := hwithin y c hy
      rw [getElem?_span hlow hhigh (by omega), Nat.add_sub_cancel' hle, hy]
      rfl
    · have hfree : memory[low + i]? = Option.none := by
        refine Option.eq_none_iff_forall_ne_some.2 fun c hc => ?_
        exact hnone c ((getElem?_ofFile h).1 hc)
      rw [getElem?_span hlow hhigh hi, hfree]
      rfl
  · have hnone : ∀ x b, ¬ Describes content x b := fun x b hb => hsome ⟨x, b, hb⟩
    have hempty : memory.minKey? = Option.none := by
      refine minKey?_eq_none fun x => Option.eq_none_iff_forall_ne_some.2 fun b hb => ?_
      exact hnone x b ((getElem?_ofFile h).1 hb)
    rw [span_of_no_keys hempty]
    exact .none hnone

end IntelHex.Memory

/-! ## The artifact in a file -/

namespace Provider

/-- The bytes are the artifact in the content of a file: that content as it is, or the span of what
its records describe, where these are accepted. -/
def IsArtifact (path : Path) (content bytes : ByteArray) : Prop :=
  if path.isHex then
    (∃ memory, Memory.ofFile content = .ok memory) ∧ Memory.Spans (Describes content) bytes
  else
    bytes = content

theorem decode_eq_ok_iff : decode path content = .ok bytes ↔ IsArtifact path content bytes := by
  rw [decode, IsArtifact]
  split
  · cases hmemory : Memory.ofFile content with
    | error fault => simp
    | ok memory =>
      have hspans := Memory.spans_span hmemory
      constructor
      · intro h
        obtain rfl := Except.ok.inj h
        exact ⟨⟨memory, rfl⟩, hspans⟩
      · rintro ⟨-, hbytes⟩
        exact congrArg Except.ok (hspans.unique hbytes)
  · rw [Except.ok.injEq, eq_comm]

theorem decode_eq_error_iff {fault : ReadFault} :
    decode path content = .error fault ↔
      path.isHex = true ∧
        ∃ cause, Memory.ofFile content = .error cause ∧ fault = .ofMemory cause := by
  rw [decode]
  split
  · next hhex =>
    cases hmemory : Memory.ofFile content with
    | ok memory => simp
    | error cause => simp [hhex, eq_comm]
  · next hflat => simp [hflat]

theorem mapError_eq_ok_iff {ε ε' α : Type} {x : Except ε α} {f : ε → ε'} {a : α} :
    x.mapError f = .ok a ↔ x = .ok a := by
  cases x <;> simp [Except.mapError]

theorem mapError_eq_error_iff {ε ε' α : Type} {x : Except ε α} {f : ε → ε'} {e' : ε'} :
    x.mapError f = .error e' ↔ ∃ e, x = .error e ∧ f e = e' := by
  cases x <;> simp [Except.mapError]

/-- Why there is no artifact at a path. -/
inductive Missed (s : Setting) (t : FileTree) (path : Path) : Failure → Prop
  /-- The system refuses to follow the path. -/
  | refused (h : s.Refuses t path) :
      Missed s t path (.file (.file (.of .nameTooLong path.render)))
  /-- The path leads to no file. -/
  | absent (h : ¬ s.Refuses t path) (none : ∀ content, ¬ s.LeadsToFile t path content) :
      Missed s t path (.missing path .notFound)
  /-- The file is to be one of records, and these are not accepted. -/
  | unreadable {content : ByteArray} {cause : Memory.Fault} (file : s.LeadsToFile t path content)
      (records : path.isHex = true) (rejected : Memory.ofFile content = .error cause) :
      Missed s t path (.missing path (.unreadable (.ofMemory cause)))

theorem runOn_ofFile_fst_iff {w : World} {result : Except Failure ByteArray} :
    ((ofFile s path).runOn w).1 = result ↔ Reading s w.tree path result := by
  constructor
  · rintro rfl
    obtain ⟨result, hreading⟩ := exists_reading s w.tree path
    rwa [runOn_ofFile_of_reading hreading]
  · intro h
    rw [runOn_ofFile_of_reading h]

theorem reading_ok_iff :
    Reading s t path (.ok bytes) ↔
      ∃ content, s.LeadsToFile t path content ∧ IsArtifact path content bytes := by
  simp only [Setting.leadsToFile_iff, ← decode_eq_ok_iff]
  constructor
  · intro h
    generalize hresult : (.ok bytes : Except Failure ByteArray) = result at h
    cases h with
    | refused | absent => cases hresult
    | @found mode content hnull hfile =>
      exact ⟨content, ⟨hnull, mode, hfile⟩, mapError_eq_ok_iff.1 hresult.symm⟩
  · rintro ⟨content, ⟨hnull, mode, hfile⟩, hdecode⟩
    have h := Reading.found hnull hfile
    rwa [hdecode] at h

theorem reading_error_iff {failure : Failure} :
    Reading s t path (.error failure) ↔ Missed s t path failure := by
  constructor
  · intro h
    generalize hresult : (.error failure : Except Failure ByteArray) = result at h
    cases h with
    | refused look =>
      obtain rfl := Except.error.inj hresult
      obtain ⟨rfl, hrefuses⟩ := Setting.seesFile_error_iff.1 look
      exact .refused hrefuses
    | absent look =>
      obtain rfl := Except.error.inj hresult
      refine .absent (fun hrefuses => ?_) fun content hfile => ?_
      · rw [Setting.seesFile_error_iff.2 ⟨rfl, hrefuses⟩] at look
        cases look
      · rw [Setting.seesFile_true_iff.2 ⟨content, hfile⟩] at look
        cases look
    | @found mode content hnull file =>
      obtain ⟨fault, hdecode, rfl⟩ := mapError_eq_error_iff.1 hresult.symm
      obtain ⟨hhex, cause, hcause, rfl⟩ := decode_eq_error_iff.1 hdecode
      exact .unreadable (Setting.leadsToFile_iff.2 ⟨hnull, mode, file⟩) hhex hcause
  · intro h
    cases h with
    | refused hrefuses => exact .refused (Setting.seesFile_error_iff.2 ⟨rfl, hrefuses⟩)
    | absent hrefuses hnone =>
      refine .absent ?_
      cases hlook : s.seesFile t path with
      | error errno => exact absurd (Setting.seesFile_error_iff.1 hlook).2 hrefuses
      | ok found =>
        cases found with
        | false => rfl
        | true =>
          obtain ⟨content, hfile⟩ := Setting.seesFile_true_iff.1 hlook
          exact absurd hfile (hnone content)
    | @unreadable content cause hfile hhex hcause =>
      obtain ⟨hnull, mode, hstatus⟩ := Setting.leadsToFile_iff.1 hfile
      have h := Reading.found hnull hstatus
      rwa [decode_eq_error_iff.2 ⟨hhex, cause, hcause, rfl⟩] at h

/-- **The artifact in a file.** Reading an artifact changes nothing and gives bytes exactly if the
path leads, through links, to a file whose content these bytes are the artifact of. If there is none
the failure is a missing artifact with the path that was asked for, unless the system refuses to
follow the path, which ends the reading with its own error. -/
theorem artifact_of_file (s : Setting) (path : Path) (w : World) :
    ((ofFile s path).runOn w).2 = w ∧
    (∀ bytes, ((ofFile s path).runOn w).1 = .ok bytes ↔
      ∃ content, s.LeadsToFile w.tree path content ∧ IsArtifact path content bytes) ∧
    (∀ failure, ((ofFile s path).runOn w).1 = .error failure ↔ Missed s w.tree path failure) ∧
    ((∃ bytes, ((ofFile s path).runOn w).1 = .ok bytes) ∨
      (∃ reason, ((ofFile s path).runOn w).1 = .error (.missing path reason)) ∨
      s.Refuses w.tree path ∧ ((ofFile s path).runOn w).1 =
        .error (.file (.file (.of .nameTooLong path.render)))) := by
  obtain ⟨result, hreading⟩ := exists_reading s w.tree path
  have hrun := runOn_ofFile_of_reading hreading
  refine ⟨by rw [hrun], fun bytes => ?_, fun failure => ?_, ?_⟩
  · rw [runOn_ofFile_fst_iff, reading_ok_iff]
  · rw [runOn_ofFile_fst_iff, reading_error_iff]
  · rw [hrun]
    cases result with
    | ok bytes => exact .inl ⟨bytes, rfl⟩
    | error failure =>
      refine .inr ?_
      cases reading_error_iff.1 hreading with
      | refused hrefuses => exact .inr ⟨hrefuses, rfl⟩
      | absent | unreadable => exact .inl ⟨_, rfl⟩

/-- A name that is too long ends the reading with an error of the system, which is no missing
artifact. -/
theorem not_missing_of_long_name :
    let path : Path := ⟨.relative, [BuildStep.letters 256]⟩
    let result := ((ofFile BuildStep.idleSetting path).runOn (World.ofTree .empty)).1
    result = .error (.file (.file (.of .nameTooLong path.render))) ∧
      ¬ ((∃ bytes, result = .ok bytes) ∨ ∃ reason, result = .error (.missing path reason)) := by
  intro path result
  have hrun : result = .error (.file (.file (.of .nameTooLong path.render))) :=
    runOn_ofFile_fst_iff.2 (.refused (BuildStep.seesFile_letters (by decide) .empty))
  refine ⟨hrun, ?_⟩
  rw [hrun]
  simp

end Provider

end NorFlash
