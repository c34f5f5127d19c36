import NorFlash.Proofs.TrialLog

/-!
# Boot after boot

The loader reads the log at each boot, chooses a bank and writes the token of that bank over the
first word that is no token. `boot` is one boot as a change of the metadata block and `boots` a run
of them from an erased block.

`boot_block` says that a boot appends one trial to the trials that a block records, `boots_eq` that
a run records the trials of `phases`, and `boots_in_phases` what follows for every boot of a run:
it writes to erased bytes of the block, and the bank it tries depends on its number alone.
-/

namespace NorFlash.TrialLog

/-! ## One boot -/

/-- The bank that a loader which meets `region` tries. -/
def triedBank (maxTrials : Int) (region : ByteArray) : Bank :=
  (scan region).nextBank maxTrials

/-- The block once the token of the bank that is tried has been written after the log. -/
def boot (maxTrials : Int) (region : ByteArray) : ByteArray :=
  Bytes.splice region (scan region).nextOffset ((scan region).nextOffset + wordSize)
    (Bytes.wordBytes (triedBank maxTrials region).token).toByteArray

/-- The word after the log lies in the block and all its bytes are erased. -/
structure OnErased (region : ByteArray) : Prop where
  /-- The word does not start before the block. -/
  start : 0 ≤ (scan region).nextOffset
  /-- The word does not end after the block. -/
  stop : (scan region).nextOffset + wordSize ≤ region.size
  /-- The bytes of the word are erased. -/
  erased : (Bytes.slice region (scan region).nextOffset
    ((scan region).nextOffset + wordSize)).data.toList = List.replicate wordSize erasedByte

section Boot

variable {size : Nat} {trials : List Bank}

theorem wordSize_mul_add_le (h : trials.length < size / wordSize) :
    wordSize * trials.length + wordSize ≤ size :=
  calc wordSize * trials.length + wordSize
    _ = wordSize * (trials.length + 1) := (Nat.mul_succ _ _).symm
    _ ≤ wordSize * (size / wordSize) := Nat.mul_le_mul_left _ (Nat.succ_le_of_lt h)
    _ ≤ size := Nat.mul_div_le _ _

theorem nextOffset_block (h : trials.length ≤ size / wordSize) :
    (scan (block size trials)).nextOffset = ((wordSize * trials.length : Nat) : Int) := by
  rw [scan_block h, nextOffset, Int.natCast_mul, Int.mul_comm]

theorem nextOffset_block_add (h : trials.length ≤ size / wordSize) :
    (scan (block size trials)).nextOffset + wordSize
      = ((wordSize * trials.length + wordSize : Nat) : Int) := by
  rw [nextOffset_block h, Int.natCast_add]

theorem onErased_block (h : trials.length < size / wordSize) : OnErased (block size trials) := by
  have hle := wordSize_mul_add_le h
  have hlen := length_encode trials
  refine ⟨?start, ?stop, ?erased⟩
  case start =>
    rw [nextOffset_block (Nat.le_of_lt h)]
    exact Int.natCast_nonneg _
  case stop =>
    rw [nextOffset_block_add (Nat.le_of_lt h), size_block (Nat.le_of_lt h)]
    exact Int.ofNat_le.2 hle
  case erased =>
    rw [nextOffset_block_add (Nat.le_of_lt h), nextOffset_block (Nat.le_of_lt h),
      Bytes.toList_slice, toList_block, List.drop_take,
      List.drop_append_of_le_length (Nat.le_of_eq hlen.symm),
      List.drop_eq_nil_of_le (Nat.le_of_eq hlen), List.nil_append, List.take_replicate]
    congr 1
    omega

/-- The encoding of one more trial ends with the bytes of its token. -/
theorem encode_concat (trials : List Bank) (bank : Bank) :
    encode (trials ++ [bank]) = encode trials ++ Bytes.wordBytes bank.token := by
  rw [encode, List.flatMap_append, List.flatMap_singleton]
  rfl

/-- **One boot appends one trial**, of the bank that it tries. -/
theorem boot_block (maxTrials : Int) (h : trials.length < size / wordSize) :
    boot maxTrials (block size trials)
      = block size (trials ++ [triedBank maxTrials (block size trials)]) := by
  have hle := wordSize_mul_add_le h
  have hlen := length_encode trials
  have hstop : wordSize * trials.length + wordSize ≤ (block size trials).size := by
    rwa [size_block (Nat.le_of_lt h)]
  apply Bytes.eq_of_toList_eq
  rw [boot, nextOffset_block_add (Nat.le_of_lt h), nextOffset_block (Nat.le_of_lt h),
    Bytes.toList_splice _ _ (Nat.le_add_right _ _) hstop, toList_block, toList_block,
    encode_concat]
  -- what stands before the new token is the log, and what stands after it is still erased
  have htake : (encode trials ++ List.replicate (size - wordSize * trials.length) erasedByte).take
      (wordSize * trials.length) = encode trials := by
    rw [List.take_append_of_le_length (Nat.le_of_eq hlen.symm), ← hlen, List.take_length]
  have hdrop : (encode trials ++ List.replicate (size - wordSize * trials.length) erasedByte).drop
      (wordSize * trials.length + wordSize)
        = List.replicate (size - wordSize * (trials.length + 1)) erasedByte := by
    rw [List.drop_append, List.drop_eq_nil_of_le (by omega), List.nil_append, List.drop_replicate,
      Nat.mul_succ]
    congr 1
    omega
  rw [htake, hdrop, List.data_toByteArray, List.length_append, List.length_singleton]

end Boot

/-! ## Counting trials -/

/-- The bank of boot `k` of a run that starts on an erased block. -/
def phase (maxTrials : Nat) (k : Nat) : Bank :=
  if k < maxTrials then .b else if k < 2 * maxTrials then .a else .b

/-- The banks of the first `n` boots of such a run. -/
def phases (maxTrials : Nat) (n : Nat) : List Bank :=
  (List.range n).map (phase maxTrials)

theorem phases_succ (maxTrials n : Nat) :
    phases maxTrials (n + 1) = phases maxTrials n ++ [phase maxTrials n] := by
  rw [phases, List.range_succ, List.map_append]
  rfl

theorem length_phases (maxTrials n : Nat) : (phases maxTrials n).length = n := by
  rw [phases, List.length_map, List.length_range]

/-- The trials of the first bank are those of the second phase. -/
theorem count_a_phases (maxTrials n : Nat) :
    (phases maxTrials n).count .a = min (n - maxTrials) maxTrials := by
  induction n with
  | zero => simp [phases]
  | succ n ih =>
    rw [phases_succ, List.count_append, ih, phase]
    split
    · next h =>
      rw [List.count_singleton, if_neg (by decide)]
      omega
    · next h =>
      split
      · rw [List.count_singleton_self]
        omega
      · rw [List.count_singleton, if_neg (by decide)]
        omega

theorem count_b_phases (maxTrials n : Nat) :
    (phases maxTrials n).count .b = n - min (n - maxTrials) maxTrials := by
  have hsum := count_add_count (phases maxTrials n)
  rw [count_a_phases, length_phases] at hsum
  omega

/-- After the trials of `n` boots the loader tries the bank of boot `n`. -/
theorem triedBank_phases {size n : Nat} (maxTrials : Int) (h : n ≤ size / wordSize) :
    triedBank maxTrials (block size (phases maxTrials.toNat n)) = phase maxTrials.toNat n := by
  have hlen := length_phases maxTrials.toNat n
  have hb : ((n - min (n - maxTrials.toNat) maxTrials.toNat : Nat) : Int) < maxTrials
      ↔ n < maxTrials.toNat := by
    omega
  have ha (hn : ¬n < maxTrials.toNat) :
      ((min (n - maxTrials.toNat) maxTrials.toNat : Nat) : Int) < maxTrials
        ↔ n < 2 * maxTrials.toNat := by
    omega
  rw [triedBank, scan_block (hlen.symm ▸ h), nextBank, count_a_phases, count_b_phases, phase]
  by_cases hn : n < maxTrials.toNat
  · rw [if_pos (hb.2 hn), if_pos hn]
  · rw [if_neg (mt hb.1 hn), if_neg hn]
    simp only [ha hn]

/-! ## A run of boots -/

/-- The block of `size` bytes after `n` boots that started with it erased. -/
def boots (maxTrials : Int) (size : Nat) : Nat → ByteArray
  | 0 => Bytes.filled size erasedByte
  | n + 1 => boot maxTrials (boots maxTrials size n)

/-- **A run records the trials of its phases.** -/
theorem boots_eq {size n : Nat} (maxTrials : Int) (h : n ≤ size / wordSize) :
    boots maxTrials size n = block size (phases maxTrials.toNat n) := by
  induction n with
  | zero =>
    apply Bytes.eq_of_toList_eq
    rw [boots, Bytes.toList_filled, toList_block]
    rfl
  | succ n ih =>
    have hlt : (phases maxTrials.toNat n).length < size / wordSize := by
      rwa [length_phases]
    rw [boots, ih (Nat.le_of_succ_le h), boot_block maxTrials hlt,
      triedBank_phases maxTrials (Nat.le_of_succ_le h), phases_succ]

/-- **The boots of a run go through three phases.**  Every boot that the block has room for writes
to erased bytes of the block, and meets a consistent block whose log is as long as the boots done
so far. The second bank is tried until it had its trials, then the first one until it had as many,
and then the second one for good, so that the counts follow from the number of boots. -/
theorem boots_in_phases (size : Nat) (maxTrials : Int) {n : Nat} (h : n ≤ size / wordSize) :
    (∀ k ≤ n, (boots maxTrials size k).size = size ∧
      (scan (boots maxTrials size k)).capacity = (size / wordSize : Nat) ∧
      (scan (boots maxTrials size k)).isConsistent? (boots maxTrials size k) = some true ∧
      (scan (boots maxTrials size k)).nextIndex = k) ∧
    (∀ k < n, OnErased (boots maxTrials size k) ∧
      ((k : Int) < max maxTrials 0 → triedBank maxTrials (boots maxTrials size k) = .b) ∧
      (max maxTrials 0 ≤ k → k < 2 * max maxTrials 0 →
        triedBank maxTrials (boots maxTrials size k) = .a) ∧
      (2 * max maxTrials 0 ≤ k → triedBank maxTrials (boots maxTrials size k) = .b)) ∧
    (scan (boots maxTrials size n)).aCount
      = min (max (n - max maxTrials 0) 0) (max maxTrials 0) ∧
    (scan (boots maxTrials size n)).bCount = n - (scan (boots maxTrials size n)).aCount ∧
    ((scan (boots maxTrials size n)).full = true ↔ n = size / wordSize) := by
  have hlen := length_phases maxTrials.toNat
  refine ⟨fun k hk => ?met, fun k hk => ?tried, ?aCount, ?bCount, ?full⟩
  case met =>
    have hk' : (phases maxTrials.toNat k).length ≤ size / wordSize := by
      rw [hlen]
      exact hk.trans h
    rw [boots_eq maxTrials (hk.trans h)]
    refine ⟨size_block hk', ?_, consistent_block hk', ?_⟩
    · rw [scan_block hk']
    · rw [scan_block hk', hlen]
  case tried =>
    have hk' : (phases maxTrials.toNat k).length < size / wordSize := by
      rw [hlen]
      exact Nat.lt_of_lt_of_le hk h
    have hle : k ≤ size / wordSize := (Nat.le_of_lt hk).trans h
    rw [boots_eq maxTrials hle, triedBank_phases maxTrials hle, phase]
    refine ⟨onErased_block hk', fun hb => if_pos (by omega), fun hb ha => ?_, fun ha => ?_⟩
    · rw [if_neg (by omega), if_pos (by omega)]
    · rw [if_neg (by omega), if_neg (by omega)]
  case aCount =>
    rw [boots_eq maxTrials h, scan_block ((hlen n).symm ▸ h), count_a_phases]
    simp only
    omega
  case bCount =>
    rw [boots_eq maxTrials h, scan_block ((hlen n).symm ▸ h), count_a_phases, count_b_phases]
    simp only
    omega
  case full =>
    rw [boots_eq maxTrials h, scan_block ((hlen n).symm ▸ h), full, decide_eq_true_iff, hlen]
    simp only
    omega

/-- In a block of six words and two bytes, with two trials a bank, the third and the fourth boot
try the first bank and the two after them the second one again. -/
theorem boots_in_phases_of_two :
    6 ≤ 26 / wordSize ∧
    (2 : Int) * max 2 0 ≤ (5 : Nat) ∧
    triedBank 2 (boots 2 26 1) = .b ∧
    triedBank 2 (boots 2 26 3) = .a ∧
    triedBank 2 (boots 2 26 5) = .b ∧
    OnErased (boots 2 26 5) ∧
    (scan (boots 2 26 6)).aCount = min (max ((6 : Nat) - max 2 0) 0) (max 2 0) ∧
    (scan (boots 2 26 6)).full = true := by
  have hroom : 6 ≤ 26 / wordSize := by decide
  obtain ⟨-, htried, hcount, -, hfull⟩ := boots_in_phases 26 2 hroom
  refine ⟨hroom, by decide, (htried 1 (by decide)).2.1 (by decide),
    (htried 3 (by decide)).2.2.1 (by decide) (by decide), (htried 5 (by decide)).2.2.2 (by decide),
    (htried 5 (by decide)).1, hcount, hfull.2 (by decide)⟩

end NorFlash.TrialLog
