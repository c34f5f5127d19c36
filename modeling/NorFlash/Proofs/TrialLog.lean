import NorFlash.Geometry
import NorFlash.Proofs.Bytes
import NorFlash.TrialLog

/-!
# The boot-trial log as an encoding

A log is the encoding of the trials it records: four bytes a trial, the least significant one
first. `TrialLog.words` reads a string of bytes as words, `TrialLog.encode` writes trials, and
`TrialLog.Holds` says that bytes are the encoding of trials followed by erased bytes.

`scan_eq` says what a scan finds in the words of a block, and `isConsistent?_scan_iff` that a
consistent block is one that holds a log.
-/

namespace NorFlash.TrialLog

/-! ## Bytes and words -/

/-- The words in a string of bytes; bytes after the last whole word are left out. -/
def words : List UInt8 → List Nat
  | a :: b :: c :: d :: rest => Bytes.wordOf a b c d :: words rest
  | _ => []

/-- The bytes that record trials, from the first one on. -/
def encode (trials : List Bank) : List UInt8 :=
  trials.flatMap fun bank => Bytes.wordBytes bank.token

/-- A block of `size` bytes that records trials and is erased after them. -/
def block (size : Nat) (trials : List Bank) : ByteArray :=
  (encode trials ++ List.replicate (size - wordSize * trials.length) erasedByte).toByteArray

/-- Bytes that are the encoding of trials and erased after it. -/
def Holds (bytes : List UInt8) (trials : List Bank) : Prop :=
  ∃ n, bytes = encode trials ++ List.replicate n erasedByte

/-- A log is made of three bytes. -/
theorem Holds.mem {bytes : List UInt8} {trials : List Bank} (h : Holds bytes trials) :
    ∀ b ∈ bytes, b = 0x11 ∨ b = 0 ∨ b = erasedByte := by
  obtain ⟨n, rfl⟩ := h
  have htoken : ∀ bank : Bank, ∀ b ∈ Bytes.wordBytes bank.token, b = 0x11 ∨ b = 0 := by
    intro bank
    cases bank <;> simp [Bytes.wordBytes, Bank.token]
  intro b hb
  rcases List.mem_append.1 hb with hb | hb
  · obtain ⟨bank, -, hb⟩ := List.mem_flatMap.1 hb
    exact (htoken bank b hb).imp_right .inl
  · exact .inr (.inr (List.eq_of_mem_replicate hb))

theorem wordBytes_wordOf (a b c d : UInt8) :
    Bytes.wordBytes (Bytes.wordOf a b c d) = [a, b, c, d] := by
  have ha := a.toNat_lt
  have hb := b.toNat_lt
  have hc := c.toNat_lt
  have hd := d.toNat_lt
  simp only [Bytes.wordBytes, Bytes.wordOf, List.cons.injEq, and_true]
  refine ⟨?_, ?_, ?_, ?_⟩ <;> apply UInt8.toNat.inj <;> rw [UInt8.toNat_ofNat'] <;> omega

theorem length_wordBytes (word : Nat) : (Bytes.wordBytes word).length = wordSize := rfl

theorem length_lt_of_no_word {bytes : List UInt8}
    (h : ∀ a b c d rest, bytes = a :: b :: c :: d :: rest → False) : bytes.length < wordSize := by
  match bytes, h with
  | [], _ | [_], _ | [_, _], _ | [_, _, _], _ => simp [wordSize]
  | a :: b :: c :: d :: rest, h => exact absurd rfl (h a b c d rest)

theorem length_words (bytes : List UInt8) : (words bytes).length = bytes.length / wordSize := by
  fun_induction words bytes with
  | case1 a b c d rest ih =>
    simp only [List.length_cons, ih, wordSize]
    omega
  | case2 bytes h => exact (Nat.div_eq_of_lt (length_lt_of_no_word h)).symm

/-- The whole words of a string, written out again. -/
theorem flatMap_words (bytes : List UInt8) :
    (words bytes).flatMap Bytes.wordBytes = bytes.take (wordSize * (bytes.length / wordSize)) := by
  fun_induction words bytes with
  | case1 a b c d rest ih =>
    have hlen : wordSize * ((a :: b :: c :: d :: rest).length / wordSize)
        = wordSize * (rest.length / wordSize) + 1 + 1 + 1 + 1 := by
      simp only [List.length_cons, wordSize]
      omega
    rw [List.flatMap_cons, ih, wordBytes_wordOf, hlen]
    simp only [List.take_succ_cons, List.cons_append, List.nil_append]
  | case2 bytes h => simp [Nat.div_eq_of_lt (length_lt_of_no_word h)]

theorem words_append {u : List UInt8} (v : List UInt8) (h : u.length % wordSize = 0) :
    words (u ++ v) = words u ++ words v := by
  fun_induction words u with
  | case1 a b c d rest ih =>
    simp only [List.length_cons, wordSize] at h ih
    simp only [List.cons_append, words, ih (by omega)]
  | case2 u hu =>
    have hlt := length_lt_of_no_word hu
    rw [Nat.mod_eq_of_lt hlt] at h
    rw [List.eq_nil_of_length_eq_zero h]
    rfl

theorem words_wordBytes {word : Nat} (h : word ≤ erasedWord) :
    words (Bytes.wordBytes word) = [word] := by
  simp only [erasedWord] at h
  simp only [Bytes.wordBytes, words, Bytes.wordOf, UInt8.toNat_ofNat', List.cons.injEq, and_true]
  omega

theorem words_flatMap {ws : List Nat} (h : ∀ word ∈ ws, word ≤ erasedWord) :
    words (ws.flatMap Bytes.wordBytes) = ws := by
  induction ws with
  | nil => rfl
  | cons word ws ih =>
    have hlen : (Bytes.wordBytes word).length % wordSize = 0 := by
      rw [length_wordBytes, Nat.mod_self]
    rw [List.flatMap_cons, words_append _ hlen, words_wordBytes (h word (by simp)),
      ih fun word hw => h word (by simp [hw])]
    rfl

theorem words_drop_wordSize (bytes : List UInt8) :
    words (bytes.drop wordSize) = (words bytes).drop 1 := by
  match bytes with
  | [] | [_] | [_, _] | [_, _, _] => simp [words, wordSize]
  | a :: b :: c :: d :: rest => rfl

theorem words_drop (bytes : List UInt8) (i : Nat) :
    words (bytes.drop (wordSize * i)) = (words bytes).drop i := by
  induction i generalizing bytes with
  | zero => rfl
  | succ i ih =>
    rw [Nat.mul_succ, Nat.add_comm, ← List.drop_drop, ih, words_drop_wordSize, List.drop_drop,
      Nat.add_comm]

/-- A word at an offset is the first of the words from there on. -/
theorem word?_eq_head? (b : ByteArray) (i : Nat) :
    Bytes.word? b i = (words (b.data.toList.drop i)).head? := by
  have hlen := Bytes.length_toList b
  rw [Bytes.word?]
  split
  · next h =>
    have hdrop : b.data.toList.drop i
        = b[i] :: b[i + 1] :: b[i + 2] :: b[i + 3] :: b.data.toList.drop (i + 4) := by
      rw [List.drop_eq_getElem_cons (by omega), List.drop_eq_getElem_cons (by omega),
        List.drop_eq_getElem_cons (by omega), List.drop_eq_getElem_cons (by omega)]
      rfl
    rw [hdrop]
    rfl
  · next h =>
    have hnil : words (b.data.toList.drop i) = [] := by
      rw [← List.length_eq_zero_iff, length_words, List.length_drop, hlen]
      exact Nat.div_eq_of_lt (by simp only [wordSize]; omega)
    rw [hnil]
    rfl

theorem word?_eq (b : ByteArray) (i : Nat) :
    Bytes.word? b (i * wordSize) = (words b.data.toList)[i]? := by
  rw [word?_eq_head?, Nat.mul_comm, words_drop, List.head?_drop]

/-! ## Trials at the start of a row of words -/

/-- The trials that the words record before the first one that is no token. -/
def leadingTrials : List Nat → List Bank
  | [] => []
  | word :: rest =>
    match Bank.ofToken? word with
    | some bank => bank :: leadingTrials rest
    | none => []

/-- The word after those trials, unless it is erased or there is none. -/
def strayAfter (ws : List Nat) : Option Nat :=
  match ws[(leadingTrials ws).length]? with
  | some word => if word = erasedWord then none else some word
  | none => none

theorem token_of_ofToken? {word : Nat} {bank : Bank} (h : Bank.ofToken? word = some bank) :
    word = bank.token := by
  unfold Bank.ofToken? at h
  split at h
  · next hw => rw [hw, Option.some.inj h]
  · split at h
    · next hw => rw [hw, Option.some.inj h]
    · simp at h

theorem token_le (bank : Bank) : bank.token ≤ erasedWord := by
  cases bank <;> decide

theorem ofToken?_erasedWord : Bank.ofToken? erasedWord = none := by
  decide

theorem leadingTrials_append_drop (ws : List Nat) :
    ws.take (leadingTrials ws).length = (leadingTrials ws).map Bank.token := by
  induction ws with
  | nil => rfl
  | cons word ws ih =>
    rw [leadingTrials]
    cases hword : Bank.ofToken? word with
    | none => rfl
    | some bank =>
      simp only [List.length_cons, List.take_succ_cons, List.map_cons, ih]
      rw [token_of_ofToken? hword]

/-- The word after the trials stands for no trial. -/
theorem ofToken?_after_leadingTrials {ws : List Nat} {word : Nat}
    (h : ws[(leadingTrials ws).length]? = some word) : Bank.ofToken? word = none := by
  induction ws with
  | nil => simp at h
  | cons first ws ih =>
    rw [leadingTrials] at h
    cases hfirst : Bank.ofToken? first with
    | none =>
      simp only [hfirst, List.length_nil, List.getElem?_cons_zero, Option.some.injEq] at h
      rw [← h, hfirst]
    | some bank =>
      simp only [hfirst, List.length_cons, List.getElem?_cons_succ] at h
      exact ih h

theorem leadingTrials_append (trials : List Bank) (n : Nat) :
    leadingTrials (trials.map Bank.token ++ List.replicate n erasedWord) = trials := by
  induction trials with
  | nil => cases n <;> rfl
  | cons bank trials ih =>
    simp only [List.map_cons, List.cons_append, leadingTrials, Bank.ofToken?_token, ih]

/-! ## What a scan finds -/

/-- The log that starts a row of words in a block of `capacity` words. -/
def ofWords (capacity : Nat) (ws : List Nat) : TrialLog where
  aCount := (leadingTrials ws).count .a
  bCount := (leadingTrials ws).count .b
  nextIndex := (leadingTrials ws).length
  capacity := capacity
  strayWord := (strayAfter ws).map Int.ofNat

/-- The counters of the loop are those of the words passed plus those of the words left. -/
theorem scanFrom_eq (region : ByteArray) (capacity n index aCount bCount : Nat) (ws : List Nat)
    (hws : (words region.data.toList).drop index = ws) (hn : ws.length = n) :
    scanFrom region capacity n index aCount bCount =
      ⟨aCount + (leadingTrials ws).count .a, bCount + (leadingTrials ws).count .b,
        index + (leadingTrials ws).length, capacity, (strayAfter ws).map Int.ofNat⟩ := by
  induction n generalizing index aCount bCount ws with
  | zero =>
    rw [List.length_eq_zero_iff] at hn
    subst hn
    simp [scanFrom, leadingTrials, strayAfter]
  | succ n ih =>
    obtain ⟨word, rest, rfl⟩ := List.exists_cons_of_length_eq_add_one hn
    have hword : Bytes.word? region (index * wordSize) = some word := by
      rw [word?_eq, ← List.head?_drop, hws]
      rfl
    have hrest : (words region.data.toList).drop (index + 1) = rest := by
      rw [← List.drop_drop, hws]
      rfl
    have hlen : rest.length = n := by simpa using hn
    rw [scanFrom, hword]
    by_cases herased : word = erasedWord
    · simp [herased, leadingTrials, strayAfter, ofToken?_erasedWord]
    · simp only [if_neg herased]
      cases hbank : Bank.ofToken? word with
      | none => simp [leadingTrials, strayAfter, hbank, herased]
      | some bank =>
        cases bank with
        | a =>
          simp only [ih (index + 1) (aCount + 1) bCount rest hrest hlen, leadingTrials, strayAfter,
            hbank]
          simp
          omega
        | b =>
          simp only [ih (index + 1) aCount (bCount + 1) rest hrest hlen, leadingTrials, strayAfter,
            hbank]
          simp
          omega

theorem scan_eq (region : ByteArray) :
    scan region = ofWords (region.size / wordSize) (words region.data.toList) := by
  rw [scan, scanFrom_eq region _ _ 0 0 0 (words region.data.toList) rfl
    (by rw [length_words, Bytes.length_toList])]
  simp [ofWords]

/-! ## Consistency -/

theorem erasedWords_iff (b : ByteArray) {n : Nat} (hn : n ≤ (words b.data.toList).length) :
    erasedWords b n = true ↔ ∀ word ∈ (words b.data.toList).take n, word = erasedWord := by
  induction n with
  | zero => simp [erasedWords]
  | succ n ih =>
    have hword : Bytes.word? b (n * wordSize) = some (words b.data.toList)[n] := by
      rw [word?_eq, List.getElem?_eq_getElem]
    rw [erasedWords, Bool.and_eq_true, beq_iff_eq, hword, ih (by omega),
      List.take_add_one, List.getElem?_eq_getElem (by omega)]
    simp only [Option.some.injEq, List.mem_append, Option.toList_some, List.mem_singleton]
    constructor
    · rintro ⟨hlast, hrest⟩ word (hw | rfl)
      · exact hrest word hw
      · exact hlast
    · exact fun h => ⟨h _ (.inr rfl), fun word hw => h word (.inl hw)⟩

theorem words_take (bytes : List UInt8) :
    words (bytes.take (wordSize * (bytes.length / wordSize))) = words bytes := by
  have hlt : bytes.length % wordSize < wordSize := Nat.mod_lt _ (by decide)
  have hlen := Nat.div_add_mod bytes.length wordSize
  have hrest : words (bytes.drop (wordSize * (bytes.length / wordSize))) = [] := by
    rw [words_drop, ← length_words, List.drop_length]
  have hmod : (bytes.take (wordSize * (bytes.length / wordSize))).length % wordSize = 0 := by
    rw [List.length_take, Nat.min_eq_left (by omega), Nat.mul_mod_right]
  have happ := words_append (bytes.drop (wordSize * (bytes.length / wordSize))) hmod
  rw [List.take_append_drop, hrest, List.append_nil] at happ
  exact happ.symm

theorem length_leadingTrials_le (ws : List Nat) : (leadingTrials ws).length ≤ ws.length := by
  have hlen := congrArg List.length (leadingTrials_append_drop ws)
  rw [List.length_take, List.length_map] at hlen
  omega

/-- The bytes that are looked at after the log a scan has found. -/
theorem toList_tail_scan (region : ByteArray) :
    ((scan region).tail region).data.toList =
      (region.data.toList.take (wordSize * (region.size / wordSize))).drop
        (wordSize * (leadingTrials (words region.data.toList)).length) := by
  rw [scan_eq, tail, nextOffset, ofWords]
  simp only [← Int.natCast_mul]
  rw [Bytes.toList_slice, Nat.mul_comm, Nat.mul_comm (region.size / wordSize)]

theorem words_tail_scan (region : ByteArray) :
    words ((scan region).tail region).data.toList =
      (words region.data.toList).drop (leadingTrials (words region.data.toList)).length := by
  rw [toList_tail_scan, words_drop, ← Bytes.length_toList, words_take]

theorem size_tail_scan_mod (region : ByteArray) :
    ((scan region).tail region).size % wordSize = 0 := by
  have hcap := Nat.mul_div_le region.size wordSize
  rw [← Bytes.length_toList, toList_tail_scan, List.length_drop, List.length_take,
    Bytes.length_toList, Nat.min_eq_left hcap, ← Nat.mul_sub, Nat.mul_mod_right]

/-- The second pass answers for every block, and its answer depends on the words after the log. -/
theorem isConsistent?_scan (region : ByteArray) :
    (scan region).isConsistent? region =
      some (decide (∀ word ∈ (words region.data.toList).drop
        (leadingTrials (words region.data.toList)).length, word = erasedWord)) := by
  have hstray : (scan region).strayWord =
      (strayAfter (words region.data.toList)).map Int.ofNat := by
    rw [scan_eq]
    rfl
  have hwords := words_tail_scan region
  rw [isConsistent?, hstray]
  generalize hws : words region.data.toList = ws at hwords
  cases hafter : strayAfter ws with
  | some stray =>
    -- the stray word is the first word after the log, so not all of these are erased
    have hne : ¬ ∀ word ∈ ws.drop (leadingTrials ws).length, word = erasedWord := by
      intro hall
      unfold strayAfter at hafter
      split at hafter
      · next word hword =>
        have hmem : word ∈ ws.drop (leadingTrials ws).length := by
          rw [← List.head?_drop] at hword
          exact List.mem_of_head? hword
        simp [hall word hmem] at hafter
      · simp at hafter
    simp [hne]
  | none =>
    have hlen : ((scan region).tail region).size / wordSize
        = (words ((scan region).tail region).data.toList).length := by
      rw [length_words, Bytes.length_toList]
    simp only [Option.map_none, Option.isSome_none, Bool.false_eq_true, if_false,
      size_tail_scan_mod, if_true, Option.some.injEq, hlen]
    rw [Bool.eq_iff_iff, decide_eq_true_iff, erasedWords_iff _ (Nat.le_refl _), List.take_length,
      hwords]

/-! ## Blocks that hold a log -/

theorem length_encode (trials : List Bank) :
    (encode trials).length = wordSize * trials.length := by
  induction trials with
  | nil => rfl
  | cons bank trials ih =>
    have hcons : encode (bank :: trials) = Bytes.wordBytes bank.token ++ encode trials := rfl
    rw [hcons, List.length_append, length_wordBytes, ih, List.length_cons, Nat.mul_succ,
      Nat.add_comm]

/-- The words of a log, written out. -/
theorem flatMap_log (trials : List Bank) (n : Nat) :
    (trials.map Bank.token ++ List.replicate n erasedWord).flatMap Bytes.wordBytes =
      encode trials ++ List.replicate (wordSize * n) erasedByte := by
  rw [List.flatMap_append, List.flatMap_map]
  congr 1
  induction n with
  | zero => rfl
  | succ n ih =>
    rw [List.replicate_succ, List.flatMap_cons, ih, Nat.mul_succ, Nat.add_comm,
      List.replicate_add]
    rfl

theorem words_log (trials : List Bank) (n : Nat) :
    words (encode trials ++ List.replicate (wordSize * n) erasedByte) =
      trials.map Bank.token ++ List.replicate n erasedWord := by
  rw [← flatMap_log, words_flatMap]
  intro word hw
  rcases List.mem_append.1 hw with h | h
  · obtain ⟨bank, -, rfl⟩ := List.mem_map.1 h
    exact token_le bank
  · exact Nat.le_of_eq (List.eq_of_mem_replicate h)

/-- Whole words hold a log exactly when they are its tokens and erased words after them. -/
theorem holds_take_iff (bytes : List UInt8) (trials : List Bank) :
    Holds (bytes.take (wordSize * (bytes.length / wordSize))) trials ↔
      ∃ n, words bytes = trials.map Bank.token ++ List.replicate n erasedWord := by
  constructor
  · rintro ⟨n, hn⟩
    have hlen := congrArg List.length hn
    rw [List.length_take, Nat.min_eq_left (Nat.mul_div_le _ _), List.length_append, length_encode,
      List.length_replicate] at hlen
    have hmul : n = wordSize * (bytes.length / wordSize - trials.length) := by
      rw [Nat.mul_sub, hlen, Nat.add_sub_cancel_left]
    rw [hmul] at hn
    exact ⟨_, by rw [← words_take, hn, words_log]⟩
  · rintro ⟨n, hn⟩
    exact ⟨wordSize * n, by rw [← flatMap_words, hn, flatMap_log]⟩

/-- Bytes hold a log exactly when their whole words do and all bytes after these are erased. -/
theorem holds_iff (bytes : List UInt8) (trials : List Bank) :
    Holds bytes trials ↔
      Holds (bytes.take (wordSize * (bytes.length / wordSize))) trials ∧
        ∀ b ∈ bytes.drop (wordSize * (bytes.length / wordSize)), b = erasedByte := by
  constructor
  · rintro ⟨n, hn⟩
    have hle : (encode trials).length ≤ wordSize * (bytes.length / wordSize) := by
      rw [length_encode]
      apply Nat.mul_le_mul_left
      rw [Nat.le_div_iff_mul_le (by decide), Nat.mul_comm, ← length_encode, hn, List.length_append]
      exact Nat.le_add_right _ _
    generalize wordSize * (bytes.length / wordSize) = k at hle
    rw [hn, List.take_append, List.take_of_length_le hle, List.take_replicate, List.drop_append,
      List.drop_eq_nil_of_le hle, List.drop_replicate, List.nil_append]
    exact ⟨⟨_, rfl⟩, fun b hb => List.eq_of_mem_replicate hb⟩
  · rintro ⟨⟨n, hn⟩, hrest⟩
    have hdrop := List.eq_replicate_of_mem hrest
    refine ⟨n + (bytes.drop (wordSize * (bytes.length / wordSize))).length, ?_⟩
    rw [List.replicate_add, ← List.append_assoc, ← hn, ← hdrop, List.take_append_drop]

/-- There is no other log than the one a scan finds. -/
theorem eq_leadingTrials_of_holds {bytes : List UInt8} {trials : List Bank}
    (h : Holds (bytes.take (wordSize * (bytes.length / wordSize))) trials) :
    trials = leadingTrials (words bytes) := by
  obtain ⟨n, hn⟩ := (holds_take_iff bytes trials).1 h
  rw [hn, leadingTrials_append]

theorem isConsistent?_scan_iff (region : ByteArray) :
    (scan region).isConsistent? region = some true ↔
      ∃ trials, Holds (region.data.toList.take (wordSize * (region.size / wordSize))) trials := by
  rw [isConsistent?_scan, Option.some.injEq, decide_eq_true_iff, ← Bytes.length_toList]
  generalize region.data.toList = bytes
  have hsplit : words bytes = (leadingTrials (words bytes)).map Bank.token
      ++ (words bytes).drop (leadingTrials (words bytes)).length := by
    rw [← leadingTrials_append_drop, List.take_append_drop]
  constructor
  · intro hall
    refine ⟨leadingTrials (words bytes), (holds_take_iff _ _).2
      ⟨((words bytes).drop (leadingTrials (words bytes)).length).length, ?_⟩⟩
    rw [← List.eq_replicate_of_mem hall]
    exact hsplit
  · rintro ⟨trials, h⟩ word hw
    obtain ⟨n, hn⟩ := (holds_take_iff bytes trials).1 h
    rw [← eq_leadingTrials_of_holds h, hn, List.drop_left' (by simp)] at hw
    exact List.eq_of_mem_replicate hw

/-! ## Scanning and encoding -/

theorem toList_block (size : Nat) (trials : List Bank) :
    (block size trials).data.toList =
      encode trials ++ List.replicate (size - wordSize * trials.length) erasedByte := by
  rw [block, List.data_toByteArray]

theorem size_block {size : Nat} {trials : List Bank} (h : trials.length ≤ size / wordSize) :
    (block size trials).size = size := by
  have hmul : wordSize * trials.length ≤ size :=
    (Nat.mul_le_mul_left _ h).trans (Nat.mul_div_le _ _)
  rw [← Bytes.length_toList, toList_block, List.length_append, length_encode,
    List.length_replicate, Nat.add_sub_cancel' hmul]

theorem holds_block {size : Nat} {trials : List Bank} (h : trials.length ≤ size / wordSize) :
    Holds ((block size trials).data.toList.take (wordSize * (size / wordSize))) trials := by
  have hmul : wordSize * trials.length ≤ wordSize * (size / wordSize) := Nat.mul_le_mul_left _ h
  rw [toList_block, List.take_append, length_encode, List.take_of_length_le
    (by rw [length_encode]; exact hmul), List.take_replicate]
  exact ⟨_, rfl⟩

/-- The trials of a block are those that a scan finds at its start. -/
theorem leadingTrials_block {size : Nat} {trials : List Bank}
    (h : trials.length ≤ size / wordSize) :
    leadingTrials (words (block size trials).data.toList) = trials := by
  have hlen : (block size trials).data.toList.length = size := by
    rw [Bytes.length_toList, size_block h]
  have hholds := holds_block h
  exact (eq_leadingTrials_of_holds (by rwa [hlen])).symm

theorem consistent_block {size : Nat} {trials : List Bank} (h : trials.length ≤ size / wordSize) :
    (scan (block size trials)).isConsistent? (block size trials) = some true := by
  rw [isConsistent?_scan_iff, size_block h]
  exact ⟨trials, holds_block h⟩

/-- The stray word of a block that is consistent. -/
theorem strayWord_of_consistent {region : ByteArray}
    (h : (scan region).isConsistent? region = some true) : (scan region).strayWord = none := by
  unfold isConsistent? at h
  split at h
  · simp at h
  · next hnone => simpa using hnone

theorem scan_block {size : Nat} {trials : List Bank} (h : trials.length ≤ size / wordSize) :
    scan (block size trials) =
      ⟨trials.count .a, trials.count .b, trials.length, (size / wordSize : Nat), none⟩ := by
  have hstray := strayWord_of_consistent (consistent_block h)
  rw [scan_eq, ofWords] at hstray ⊢
  simp only [leadingTrials_block h, size_block h] at hstray ⊢
  rw [hstray]

/-- The first words of a block are the tokens of the trials that a scan finds. -/
theorem word?_of_lt_leadingTrials (region : ByteArray) {i : Nat}
    (h : i < (leadingTrials (words region.data.toList)).length) :
    Bytes.word? region (i * wordSize) =
      some (leadingTrials (words region.data.toList))[i].token := by
  have hprefix := congrArg (·[i]?) (leadingTrials_append_drop (words region.data.toList))
  simp only [List.getElem?_take_of_lt h, List.getElem?_map, List.getElem?_eq_getElem h] at hprefix
  rw [word?_eq, hprefix]
  rfl

theorem strayWord_scan (region : ByteArray) :
    (scan region).strayWord = (strayAfter (words region.data.toList)).map Int.ofNat := by
  rw [scan_eq]
  rfl

/-- What stands after the log is erased or reported, and it never stands for a trial. -/
theorem word_after_log (region : ByteArray) {word : Nat}
    (h : Bytes.word? region ((leadingTrials (words region.data.toList)).length * wordSize)
      = some word) :
    Bank.ofToken? word = none ∧
      (scan region).strayWord = if word = erasedWord then none else some (word : Int) := by
  rw [word?_eq] at h
  refine ⟨ofToken?_after_leadingTrials h, ?_⟩
  rw [strayWord_scan, strayAfter, h]
  by_cases herased : word = erasedWord <;> simp [herased]

theorem count_add_count (trials : List Bank) :
    trials.count .a + trials.count .b = trials.length := by
  induction trials with
  | nil => rfl
  | cons bank trials ih =>
    cases bank <;> simp only [List.count_cons, List.length_cons] <;> simp <;> omega

/-- What a log says about the block it was read from: it counts the trials that the first words of
the block record, and tells of the word after them unless that one is erased. -/
structure Reads (region : ByteArray) (log : TrialLog) (trials : List Bank) : Prop where
  aCount : log.aCount = trials.count .a
  bCount : log.bCount = trials.count .b
  nextIndex : log.nextIndex = trials.length
  capacity : log.capacity = (region.size / wordSize : Nat)
  total : log.aCount + log.bCount = log.nextIndex
  le_capacity : log.nextIndex ≤ log.capacity
  token : ∀ i (h : i < trials.length),
    Bytes.word? region (i * wordSize) = some trials[i].token
  after : ∀ word, Bytes.word? region (trials.length * wordSize) = some word →
    Bank.ofToken? word = none ∧
      log.strayWord = if word = erasedWord then none else some (word : Int)
  atEnd : Bytes.word? region (trials.length * wordSize) = none → log.strayWord = none

theorem reads_scan (region : ByteArray) :
    Reads region (scan region) (leadingTrials (words region.data.toList)) := by
  have hle : (leadingTrials (words region.data.toList)).length ≤ region.size / wordSize := by
    have := length_leadingTrials_le (words region.data.toList)
    rwa [length_words, Bytes.length_toList] at this
  have hcount := count_add_count (leadingTrials (words region.data.toList))
  have hscan := scan_eq region
  unfold ofWords at hscan
  refine ⟨by rw [hscan], by rw [hscan], by rw [hscan], by rw [hscan], ?total, ?le,
    fun i h => word?_of_lt_leadingTrials region h, fun word h => word_after_log region h, ?atEnd⟩
  case total =>
    rw [hscan]
    simp only
    omega
  case le =>
    rw [hscan]
    simp only
    omega
  case atEnd =>
    intro h
    rw [strayWord_scan, strayAfter, ← word?_eq, h]
    rfl

/-- **A scan and the encoding are inverse to each other.**  The block that records trials is read
back as just these trials.  Of any block at all, a scan finds the trials at its start, and the
second pass answers, and accepts the block exactly when its whole words hold a log, of which there
is one. -/
theorem scan_inverse (region : ByteArray) :
    (∀ trials : List Bank, trials.length ≤ region.size / wordSize →
      scan (block region.size trials) =
          ⟨trials.count .a, trials.count .b, trials.length, (region.size / wordSize : Nat), none⟩ ∧
        ((scan (block region.size trials)).full = true ↔
          trials.length = region.size / wordSize) ∧
        (scan (block region.size trials)).isConsistent? (block region.size trials) = some true) ∧
    (∃ trials, Reads region (scan region) trials) ∧
    (∃ answer, (scan region).isConsistent? region = some answer ∧
      (answer = true ↔
        ∃ trials, Holds (region.data.toList.take (wordSize * (region.size / wordSize))) trials)) ∧
    (∀ trials other : List Bank,
      Holds (region.data.toList.take (wordSize * (region.size / wordSize))) trials →
      Holds (region.data.toList.take (wordSize * (region.size / wordSize))) other →
      trials = other) := by
  refine ⟨fun trials h => ⟨scan_block h, ?_, consistent_block h⟩, ⟨_, reads_scan region⟩,
    ⟨_, isConsistent?_scan region, ?_⟩, ?_⟩
  · rw [scan_block h, full, decide_eq_true_iff]
    simp only
    omega
  · rw [← isConsistent?_scan_iff, isConsistent?_scan, Option.some.injEq]
  · intro trials other h h'
    rw [← Bytes.length_toList] at h h'
    rw [eq_leadingTrials_of_holds h, eq_leadingTrials_of_holds h']

end NorFlash.TrialLog
