import NorFlash.Proofs.IntelHex.Memory

/-!
# What the records of a file store

`Stored` says by the lines of a file alone which byte is given for which address: a data record
gives its bytes from its address on, counted from the base that the last base record before it set.
Addresses are not cut to any width. Whatever file is accepted, its memory holds these bytes and no
others (`Memory.getElem?_ofFile`): each record adds its own (`Loader.getElem?_step`), and no record
takes one away.
-/

namespace NorFlash.IntelHex

variable {base address x : Nat} {b : UInt8} {record : Record} {line : List Char}
  {lines rest : List (List Char)} {memory memory' : Memory} {l next : Loader}

/-! ## Records -/

/-- A record gives a byte for an address. -/
def Record.Puts (record : Record) (base x : Nat) (b : UInt8) : Prop :=
  ∃ address bytes i, record = .data address bytes ∧ x = base + address + i ∧ bytes[i]? = some b

/-- The base that a record leaves. -/
def Record.baseAfter (base : Nat) : Record → Nat
  | .segmentBase value => value * 16
  | .linearBase value => value * 65536
  | _ => base

/-- The lines of a file give a byte for an address, counted from a base. Nothing after the end record
counts, nor does what stands there. -/
inductive Stored : Nat → List (List Char) → Nat → UInt8 → Prop where
  /-- The first line gives it. -/
  | put {base x : Nat} {b : UInt8} {record : Record} {line : List Char} {rest : List (List Char)}
    (decoded : Record.decode line = .ok record) (puts : record.Puts base x b) :
    Stored base (line :: rest) x b
  /-- An empty line is passed over. -/
  | blank {base x : Nat} {b : UInt8} {rest : List (List Char)} (later : Stored base rest x b) :
    Stored base ([] :: rest) x b
  /-- A later line gives it, counted from the base that the first one leaves. -/
  | later {base x : Nat} {b : UInt8} {record : Record} {line : List Char} {rest : List (List Char)}
    (decoded : Record.decode line = .ok record) (goesOn : record ≠ .endOfFile)
    (later : Stored (record.baseAfter base) rest x b) : Stored base (line :: rest) x b

theorem not_stored_nil : ¬ Stored base [] x b := by
  intro h
  cases h

theorem stored_blank_iff : Stored base ([] :: rest) x b ↔ Stored base rest x b := by
  have hdecode : Record.decode [] = .error .malformed := rfl
  constructor
  · intro h
    cases h with
    | put decoded puts =>
      rw [hdecode] at decoded
      cases decoded
    | blank later => exact later
    | later decoded goesOn later =>
      rw [hdecode] at decoded
      cases decoded
  · exact .blank

theorem not_stored_endOfFile (h : Record.decode line = .ok .endOfFile) :
    ¬ Stored base (line :: rest) x b := by
  intro hstored
  cases hstored with
  | put decoded puts =>
    obtain rfl := Except.ok.inj (h.symm.trans decoded)
    obtain ⟨address, bytes, i, hdata, -⟩ := puts
    cases hdata
  | blank later => cases h
  | later decoded goesOn later => exact goesOn (Except.ok.inj (decoded.symm.trans h))

theorem stored_cons_iff (h : Record.decode line = .ok record) (hgoesOn : record ≠ .endOfFile) :
    Stored base (line :: rest) x b ↔
      record.Puts base x b ∨ Stored (record.baseAfter base) rest x b := by
  constructor
  · intro hstored
    cases hstored with
    | put decoded puts =>
      obtain rfl := Except.ok.inj (h.symm.trans decoded)
      exact .inl puts
    | blank later => cases h
    | later decoded goesOn later =>
      obtain rfl := Except.ok.inj (h.symm.trans decoded)
      exact .inr later
  · rintro (hputs | hlater)
    · exact .put h hputs
    · exact .later h hgoesOn hlater

/-! ## Running over records -/

/-- Bytes that are stored come to those that were there. -/
theorem Loader.getElem?_store {bytes : List UInt8} (h : store memory address bytes = .ok memory') :
    memory'[x]? = some b ↔
      memory[x]? = some b ∨ ∃ i, x = address + i ∧ bytes[i]? = some b := by
  induction bytes generalizing memory address with
  | nil =>
    obtain rfl := Except.ok.inj h
    simp
  | cons c cs ih =>
    rw [store] at h
    split at h
    · cases h
    · next hfree =>
      have hnone : memory[address]? = none := by
        rw [Std.TreeMap.contains_eq_isSome_getElem?] at hfree
        simpa using hfree
      rw [ih h, Memory.getElem?_insert]
      constructor
      · rintro (hold | ⟨i, rfl, hi⟩)
        · by_cases hx : address = x
          · right
            refine ⟨0, hx.symm, ?_⟩
            rwa [if_pos hx] at hold
          · left
            rwa [if_neg hx] at hold
        · exact .inr ⟨i + 1, by omega, hi⟩
      · rintro (hold | ⟨i, rfl, hi⟩)
        · left
          have hx : address ≠ x := by
            rintro rfl
            rw [hnone] at hold
            cases hold
          rwa [if_neg hx]
        · cases i with
          | zero =>
            left
            rwa [if_pos (Nat.add_zero address).symm]
          | succ i => exact .inr ⟨i, by omega, hi⟩

/-- **What a record does**: it sets the base, and its bytes come to those that were there. -/
theorem Loader.getElem?_step (h : l.step record = .ok next) :
    next.base = record.baseAfter l.base ∧
      ∀ x b, next.memory[x]? = some b ↔ l.memory[x]? = some b ∨ record.Puts l.base x b := by
  have hnothing : (∀ address bytes, record ≠ .data address bytes) → next.memory = l.memory →
      ∀ x b, next.memory[x]? = some b ↔ l.memory[x]? = some b ∨ record.Puts l.base x b := by
    intro hdata hmemory x b
    rw [hmemory]
    constructor
    · exact .inl
    · rintro (hold | ⟨address, bytes, i, hbad, -⟩)
      · exact hold
      · exact absurd hbad (hdata address bytes)
  cases record with
  | data address bytes =>
    rw [step] at h
    cases hstore : store l.memory (l.base + address) bytes with
    | error cause =>
      rw [hstore] at h
      cases h
    | ok memory =>
      rw [hstore] at h
      obtain rfl := Except.ok.inj h
      refine ⟨rfl, ?_⟩
      intro x b
      rw [getElem?_store hstore]
      constructor
      · rintro (hold | ⟨i, hx, hi⟩)
        · exact .inl hold
        · exact .inr ⟨address, bytes, i, rfl, hx, hi⟩
      · rintro (hold | ⟨address', bytes', i, hdata, hx, hi⟩)
        · exact .inl hold
        · cases hdata
          exact .inr ⟨i, hx, hi⟩
  | endOfFile | segmentBase | linearBase =>
    obtain rfl := Except.ok.inj h
    exact ⟨rfl, hnothing (by simp) rfl⟩
  | start type bytes =>
    rw [step] at h
    split at h
    · cases h
    · obtain rfl := Except.ok.inj h
      exact ⟨rfl, hnothing (by simp) rfl⟩

namespace Memory

/-- The memory that a file ends with. -/
def Ended.held : Ended → Memory
  | .atRecord memory => memory
  | .atEnd memory => memory

/-- Lines add to a memory what they store. -/
theorem getElem?_runLines {n : Nat} {ended : Ended} (h : runLines n lines l = .ok ended) :
    ended.held[x]? = some b ↔ l.memory[x]? = some b ∨ Stored l.base lines x b := by
  induction lines generalizing n l with
  | nil =>
    obtain rfl := Except.ok.inj h
    simp [Ended.held, not_stored_nil]
  | cons line rest ih =>
    cases line with
    | nil =>
      rw [stored_blank_iff]
      exact ih h
    | cons c cs =>
      simp only [runLines] at h
      split at h
      · cases h
      · next hdecode =>
        obtain rfl := Except.ok.inj h
        simp [Ended.held, not_stored_endOfFile hdecode]
      · next record hgoesOn hdecode =>
        split at h
        · cases h
        · next next hstep =>
          obtain ⟨hbase, hview⟩ := Loader.getElem?_step hstep
          rw [ih h, hview, hbase, stored_cons_iff hdecode hgoesOn, or_assoc]

/-- The file gives a byte for an address. -/
def Describes (content : ByteArray) (x : Nat) (b : UInt8) : Prop :=
  Stored 0 (Utf8.read content).lines x b

/-- **The memory of a file holds what its records give and nothing else.** -/
theorem getElem?_ofFile {content : ByteArray} (h : ofFile content = .ok memory) :
    memory[x]? = some b ↔ Describes content x b := by
  have hrun : ∃ ended, runLines 1 (Utf8.read content).lines Loader.empty = .ok ended ∧
      ended.held = memory := by
    rw [ofFile, ofText] at h
    split at h
    · cases h
    · next hlines => exact ⟨_, hlines, Except.ok.inj h⟩
    · next hlines =>
      split at h
      · cases h
      · exact ⟨_, hlines, Except.ok.inj h⟩
  obtain ⟨ended, hlines, rfl⟩ := hrun
  rw [getElem?_runLines hlines, Describes]
  have hempty : Loader.empty.memory[x]? = none := Std.TreeMap.getElem?_emptyc
  rw [hempty, Loader.empty]
  simp

/-! ## The lowest and the highest address -/

/-- A memory that holds a byte has a lowest address and a highest one. -/
theorem exists_keys (h : memory[x]? = some b) :
    ∃ low high, memory.minKey? = some low ∧ memory.maxKey? = some high ∧
      (∃ c, memory[low]? = some c) ∧ (∃ c, memory[high]? = some c) ∧
      ∀ y c, memory[y]? = some c → low ≤ y ∧ y ≤ high := by
  have hmem : x ∈ memory := mem_iff.2 ⟨b, h⟩
  have hnonempty : memory.isEmpty ≠ true :=
    fun hempty => Std.TreeMap.isEmpty_iff_forall_not_mem.1 hempty x hmem
  obtain ⟨low, hlow⟩ := Option.ne_none_iff_exists'.1
    fun hnone => hnonempty (Std.TreeMap.minKey?_eq_none_iff.1 hnone)
  obtain ⟨high, hhigh⟩ := Option.ne_none_iff_exists'.1
    fun hnone => hnonempty (Std.TreeMap.maxKey?_eq_none_iff.1 hnone)
  obtain ⟨hlowMem, hleast⟩ := Std.TreeMap.minKey?_eq_some_iff_mem_and_forall.1 hlow
  obtain ⟨hhighMem, hgreatest⟩ := Std.TreeMap.maxKey?_eq_some_iff_mem_and_forall.1 hhigh
  refine ⟨low, high, hlow, hhigh, mem_iff.1 hlowMem, mem_iff.1 hhighMem, ?_⟩
  intro y c hy
  have hyMem : y ∈ memory := mem_iff.2 ⟨c, hy⟩
  exact ⟨Nat.isLE_compare.1 (hleast y hyMem), Nat.isLE_compare.1 (hgreatest y hyMem)⟩

end Memory

end NorFlash.IntelHex
