import NorFlash.IntelHex.Record

/-!
# Records in text

The line that `Record.encode` writes for a record with fields of the right sizes
(`Record.IsWritable`) is read back as that record (`Record.decode_encode`). A line holds digits and
one colon, so it is plain text without line ends.
-/

namespace NorFlash.IntelHex

/-! ## Digits -/

theorem unhex?_flatMap_upperByte (bs : List UInt8) :
    unhex? (bs.flatMap Numeral.upperByte) = some bs := by
  induction bs with
  | nil => rfl
  | cons b bs ih =>
    have hb := b.toNat_lt
    have hhi := Numeral.digitValue?_upperDigit (b.toNat / 16) (by omega)
    have hlo := Numeral.digitValue?_upperDigit (b.toNat % 16) (by omega)
    have hbyte : UInt8.ofNat (b.toNat / 16 * 16 + b.toNat % 16) = b := by
      rw [Nat.div_add_mod', UInt8.ofNat_toNat]
    simp only [List.flatMap_cons, Numeral.upperByte, List.cons_append, List.nil_append, unhex?,
      hhi, hlo, ih, hbyte]

/-- The sum of bytes and their checksum is zero. -/
theorem byteSum_append_checksum (bs : List UInt8) : byteSum (bs ++ [checksum bs]) = 0 := by
  rw [byteSum, List.foldl_append]
  simp only [List.foldl_cons, List.foldl_nil]
  rw [show bs.foldl (· + ·) 0 = byteSum bs from rfl, checksum]
  grind

theorem pair_pairBytes {n : Nat} (h : n < 65536) :
    pair (UInt8.ofNat (n / 256)) (UInt8.ofNat n) = n := by
  rw [pair, UInt8.toNat_ofNat', UInt8.toNat_ofNat']
  omega

namespace Record

/-! ## Reading back -/

/-- The fields of a record fit into its line. -/
def IsWritable : Record → Prop
  | data address bytes => address < 65536 ∧ bytes.length < 256
  | endOfFile => True
  | segmentBase value => value < 65536
  | linearBase value => value < 65536
  | start type bytes => (type = 3 ∨ type = 5) ∧ bytes.length = 4

theorem IsWritable.length_payload_lt {r : Record} (h : r.IsWritable) : r.payload.length < 256 := by
  cases r with
  | data address bytes => exact h.2
  | endOfFile | segmentBase | linearBase => simp [payload, pairBytes]
  | start type bytes => simp [payload, h.2]

theorem IsWritable.address_lt {r : Record} (h : r.IsWritable) : r.address < 65536 := by
  cases r with
  | data address bytes => exact h.1
  | endOfFile | segmentBase | linearBase | start => simp [address]

theorem IsWritable.type_le {r : Record} (h : r.IsWritable) : ¬ 5 < r.type := by
  cases r with
  | data | endOfFile | segmentBase | linearBase => simp [type]
  | start type bytes =>
    rcases h.1 with rfl | rfl
    · simp [Record.type]
    · simp [Record.type]

/-- The fields of a record make up the record. -/
theorem ofFields_eq {r : Record} (h : r.IsWritable) :
    ofFields r.address r.type r.payload = .ok r := by
  cases r with
  | data | endOfFile => rfl
  | segmentBase value | linearBase value =>
    simp [ofFields, address, type, payload, pairBytes, pair_pairBytes h]
  | start type bytes =>
    rcases h with ⟨rfl | rfl, hlength⟩
    · simp [ofFields, address, Record.type, payload, hlength]
    · simp [ofFields, address, Record.type, payload, hlength]

/-- **The reader reads back what the writer wrote.** -/
theorem decode_encode {r : Record} (h : r.IsWritable) : decode r.encode = .ok r := by
  obtain ⟨b, rest, hrest⟩ : ∃ b rest, r.payload ++ [checksum r.body] = b :: rest :=
    List.exists_cons_of_ne_nil (by simp)
  have hlength : (b :: rest).length = (UInt8.ofNat r.payload.length).toNat + 1 := by
    rw [← hrest, UInt8.toNat_ofNat', Nat.mod_eq_of_lt h.length_payload_lt]
    simp
  have hpayload : (b :: rest).dropLast = r.payload := by
    rw [← hrest, List.dropLast_concat]
  have hbytes : r.body ++ [checksum r.body] = UInt8.ofNat r.payload.length ::
      UInt8.ofNat (r.address / 256) :: UInt8.ofNat r.address :: r.type :: b :: rest := by
    rw [← hrest]
    simp [body, pairBytes]
  have hsum := byteSum_append_checksum r.body
  rw [encode, decode, unhex?_flatMap_upperByte]
  rw [hbytes] at hsum ⊢
  simp only [ofBytes]
  rw [if_neg (by simp [hlength]), if_neg h.type_le, if_neg (by simp [hsum]), hpayload,
    pair_pairBytes h.address_lt, ofFields_eq h]

/-! ## Lines -/

theorem upperDigit_bounds : ∀ d, d < 16 →
    48 ≤ (Numeral.upperDigit d).toNat ∧ (Numeral.upperDigit d).toNat < 128 := by
  decide

/-- A line is made of digits and a colon. -/
theorem encode_bounds (r : Record) : ∀ c ∈ r.encode, 48 ≤ c.toNat ∧ c.toNat < 128 := by
  intro c hc
  rw [encode, List.mem_cons, List.mem_flatMap] at hc
  rcases hc with rfl | ⟨b, -, hc⟩
  · decide
  · have hb := b.toNat_lt
    simp only [Numeral.upperByte, List.mem_cons, List.not_mem_nil, or_false] at hc
    rcases hc with rfl | rfl
    · exact upperDigit_bounds _ (by omega)
    · exact upperDigit_bounds _ (by omega)

/-- A line can be told from its end and takes one byte for each character. -/
def IsPlainLine (line : List Char) : Prop :=
  ∀ c ∈ line, c.toNat < 128 ∧ c ≠ '\n' ∧ c ≠ '\r'

theorem encode_plain (r : Record) : IsPlainLine r.encode := by
  intro c hc
  obtain ⟨hlow, hhigh⟩ := r.encode_bounds c hc
  refine ⟨hhigh, ?_, ?_⟩ <;> rintro rfl <;> exact absurd hlow (by decide)

theorem encode_ne_nil (r : Record) : r.encode ≠ [] := by
  simp [encode]

end Record

end NorFlash.IntelHex
