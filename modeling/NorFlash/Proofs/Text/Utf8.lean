import NorFlash.Proofs.Bytes
import NorFlash.Text.Utf8

/-!
# Reading text

A file of characters below 128 is read back as these characters, wherever its blocks end
(`Utf8.read_ofList`), and a text whose lines each end in a line feed is split into these lines
(`Utf8.linesFrom_flatMap`). A file with a byte `0xFF` is not read to its end
(`Utf8.isSome_fault_read`).
-/

namespace NorFlash.Utf8

/-! ## Plain characters -/

/-- The byte of a plain character. -/
def plainByte (c : Char) : UInt8 :=
  UInt8.ofNat c.toNat

theorem ofNat_plainByte {c : Char} (h : c.toNat < 128) : Char.ofNat (plainByte c).toNat = c := by
  rw [plainByte, UInt8.toNat_ofNat', Nat.mod_eq_of_lt (by omega), Char.ofNat_toNat]

theorem lead_plainByte {c : Char} (h : c.toNat < 128) (rest : List UInt8) :
    lead (plainByte c :: rest) = .char c 1 := by
  have hlength : lengthOf (plainByte c) = 1 := by
    rw [lengthOf, if_pos]
    rw [UInt8.lt_iff_toNat_lt, plainByte, UInt8.toNat_ofNat', Nat.mod_eq_of_lt (by omega)]
    exact h
  simp only [lead, hlength, ofNat_plainByte h]

/-- Plain characters are one byte each. -/
theorem toList_toUTF8 {cs : List Char} (h : ∀ c ∈ cs, c.toNat < 128) :
    (String.ofList cs).toUTF8.data.toList = cs.map plainByte := by
  rw [String.toUTF8_eq_toByteArray, String.toByteArray_ofList, List.utf8Encode,
    List.toList_data_toByteArray]
  induction cs with
  | nil => rfl
  | cons c cs ih =>
    have hc := h c List.mem_cons_self
    have hsize : c.utf8Size = 1 := Char.utf8Size_eq_one_iff.2 (by
      rw [UInt32.le_iff_toNat_le]
      exact Nat.le_of_lt_succ hc)
    rw [List.flatMap_cons, List.map_cons, String.utf8EncodeChar_eq_singleton hsize,
      ih fun d hd => h d (List.mem_cons_of_mem c hd)]
    rfl

/-! ## Blocks -/

theorem decodeFrom_plain {cs : List Char} (h : ∀ c ∈ cs, c.toNat < 128) (position : Nat)
    (acc : List Char) :
    decodeFrom position 0 (cs.map plainByte) acc = ⟨cs.reverse ++ acc, [], none⟩ := by
  induction cs generalizing position acc with
  | nil => rfl
  | cons c cs ih =>
    rw [List.map_cons, decodeFrom, lead_plainByte (h c List.mem_cons_self)]
    dsimp only
    rw [ih fun d hd => h d (List.mem_cons_of_mem c hd)]
    simp

/-- Reading goes on block by block; no character lies across two of them. -/
theorem readBlocks_plain {bytes : ByteArray} {cs : List Char} (h : ∀ c ∈ cs, c.toNat < 128)
    (hbytes : bytes.data.toList = cs.map plainByte) (blocks start : Nat) (acc : List Char) :
    readBlocks bytes blocks start [] acc =
      ⟨acc.reverse ++ (cs.drop start).take (blocks * blockSize), none⟩ := by
  induction blocks generalizing start acc with
  | zero => simp [readBlocks, truncation]
  | succ blocks ih =>
    have hblock : (bytes.extract start (start + blockSize)).toList =
        ((cs.drop start).take blockSize).map plainByte := by
      rw [Bytes.toList_eq, Bytes.toList_extract, hbytes, ← List.map_take, ← List.map_drop,
        List.drop_take]
      congr 2
      omega
    rw [readBlocks, hblock, List.nil_append, decodeFrom_plain fun c hc =>
      h c (List.mem_of_mem_drop (List.mem_of_mem_take hc))]
    dsimp only
    rw [ih, List.append_nil, List.reverse_append, List.reverse_reverse, List.append_assoc,
      Nat.succ_mul, Nat.add_comm (blocks * blockSize), List.take_add, List.drop_drop]

/-- A file of plain characters is read back as these characters. -/
theorem read_ofList {cs : List Char} (h : ∀ c ∈ cs, c.toNat < 128) :
    read (String.ofList cs).toUTF8 = ⟨cs, none⟩ := by
  have hbytes := toList_toUTF8 h
  have hsize : (String.ofList cs).toUTF8.size = cs.length := by
    rw [← Bytes.length_toList, hbytes, List.length_map]
  rw [read, readBlocks_plain h hbytes, hsize, List.drop_zero, List.take_of_length_le]
  · rfl
  · simp only [blockSize]
    omega

/-! ## A byte that no character has -/

theorem isSecond_ff (b : UInt8) : isSecond b 0xFF = false := by
  simp only [isSecond, secondBounds]
  split_ifs <;> decide

/-- A character has no byte `0xFF`, and neither have bytes that end within one. -/
theorem lead_ff (bytes : List UInt8) :
    match lead bytes with
    | .char _ length => 0 < length ∧ 0xFF ∉ bytes.take length
    | .invalid _ _ => True
    | .incomplete => 0xFF ∉ bytes := by
  have hfirst : ∀ b : UInt8, lengthOf b ≠ 0 → b ≠ 0xFF := by
    rintro b hb rfl
    exact hb (by decide)
  have hsecond : ∀ b c : UInt8, isSecond b c = true → c ≠ 0xFF := by
    rintro b c hc rfl
    simp [isSecond_ff] at hc
  have htail : ∀ c : UInt8, isTail c = true → c ≠ 0xFF := by
    rintro c hc rfl
    exact absurd hc (by decide)
  fun_cases lead bytes <;> grind

/-- Bytes with a byte `0xFF` are not decoded to their end. -/
theorem isSome_fault_decodeFrom {bytes : List UInt8} (position skip : Nat) (acc : List Char)
    (hskip : 0xFF ∉ bytes.take skip) (h : 0xFF ∈ bytes) :
    (decodeFrom position skip bytes acc).fault.isSome := by
  induction bytes generalizing position skip acc with
  | nil => exact absurd h List.not_mem_nil
  | cons b rest ih =>
    cases skip with
    | succ skip =>
      rw [List.take_succ_cons, List.mem_cons, not_or] at hskip
      exact ih _ _ _ hskip.2 ((List.mem_cons.1 h).resolve_left hskip.1)
    | zero =>
      have hlead := lead_ff (b :: rest)
      cases hfirst : lead (b :: rest) with
      | char c length =>
        simp only [hfirst] at hlead
        obtain ⟨n, rfl⟩ : ∃ n, length = n + 1 := ⟨length - 1, by omega⟩
        rw [List.take_succ_cons, List.mem_cons, not_or] at hlead
        simp only [decodeFrom, hfirst]
        exact ih _ _ _ hlead.2.2 ((List.mem_cons.1 h).resolve_left hlead.2.1)
      | invalid reason length =>
        simp only [decodeFrom, hfirst]
        rfl
      | incomplete =>
        simp only [hfirst] at hlead
        exact absurd h hlead

/-- A file with a byte `0xFF` is not read to its end. -/
theorem isSome_fault_readBlocks {bytes : ByteArray} (blocks start : Nat) (carry : List UInt8)
    (acc : List Char)
    (h : 0xFF ∈ carry ++ (bytes.data.toList.drop start).take (blocks * blockSize)) :
    (readBlocks bytes blocks start carry acc).fault.isSome := by
  induction blocks generalizing start carry acc with
  | zero =>
    rw [Nat.zero_mul, List.take_zero, List.append_nil] at h
    cases carry with
    | nil => exact absurd h List.not_mem_nil
    | cons b rest =>
      rw [readBlocks, truncation]
      split <;> rfl
  | succ blocks ih =>
    have hblock : (bytes.extract start (start + blockSize)).toList =
        (bytes.data.toList.drop start).take blockSize := by
      rw [Bytes.toList_eq, Bytes.toList_extract, List.drop_take]
      congr 1
      omega
    rw [Nat.succ_mul, Nat.add_comm, List.take_add, List.drop_drop, ← List.append_assoc,
      List.mem_append] at h
    rw [readBlocks, hblock]
    split
    · rfl
    · next hnone =>
      refine ih _ _ _ (List.mem_append.2 (.inr (h.resolve_left fun hbad => ?_)))
      have hfault := isSome_fault_decodeFrom 0 0 [] (by simp) hbad
      rw [hnone] at hfault
      exact Bool.false_ne_true hfault

/-- A file with a byte `0xFF` in it is at fault. -/
theorem isSome_fault_read {bytes : ByteArray} (h : 0xFF ∈ bytes.data.toList) :
    (read bytes).fault.isSome := by
  refine isSome_fault_readBlocks _ _ _ _ ?_
  rwa [List.nil_append, List.drop_zero, List.take_of_length_le]
  rw [Bytes.length_toList, blockSize]
  omega

/-- Nothing is read of a file of one block with a byte `0xFF` in it. -/
theorem chars_read {bytes : ByteArray} (h : 0xFF ∈ bytes.data.toList)
    (hsize : bytes.size ≤ blockSize) : (read bytes).chars = [] := by
  have hlen := Bytes.length_toList bytes
  have hpos := List.length_pos_of_mem h
  have hone : (bytes.size + blockSize - 1) / blockSize = 1 := by
    simp only [blockSize] at hsize ⊢
    omega
  have hblock : (bytes.extract 0 (0 + blockSize)).toList = bytes.data.toList := by
    rw [Bytes.toList_eq, Bytes.toList_extract, List.drop_zero, List.take_of_length_le (by omega)]
  have hfault := isSome_fault_decodeFrom 0 0 [] (by simp) h
  rw [read, hone, readBlocks, hblock, List.nil_append]
  split
  · rfl
  · next hnone =>
    rw [hnone] at hfault
    exact absurd hfault Bool.false_ne_true

/-! ## Lines -/

theorem linesFrom_append {line : List Char} (h : ∀ c ∈ line, c ≠ '\n' ∧ c ≠ '\r') (open? : Bool)
    (acc rest : List Char) :
    linesFrom open? acc (line ++ '\n' :: rest) =
      (acc.reverse ++ line) :: linesFrom open? [] rest := by
  induction line generalizing acc with
  | nil => simp [linesFrom]
  | cons c line ih =>
    obtain ⟨hfeed, hreturn⟩ := h c List.mem_cons_self
    have hnext := ih (fun d hd => h d (List.mem_cons_of_mem c hd)) (c :: acc)
    rw [List.cons_append, linesFrom, hnext]
    · simp
    · simp [hreturn]
    · simp [hreturn]
    · simp [hreturn]
    · simp [hfeed]

/-- A text is split into the lines that it is made of. -/
theorem linesFrom_flatMap {lines : List (List Char)}
    (h : ∀ line ∈ lines, ∀ c ∈ line, c ≠ '\n' ∧ c ≠ '\r') :
    linesFrom false [] (lines.flatMap fun line => line ++ ['\n']) = lines := by
  induction lines with
  | nil => rfl
  | cons line lines ih =>
    rw [List.flatMap_cons, List.append_assoc, List.singleton_append,
      linesFrom_append (h line List.mem_cons_self),
      ih fun other hother => h other (List.mem_cons_of_mem line hother)]
    rfl

end NorFlash.Utf8
