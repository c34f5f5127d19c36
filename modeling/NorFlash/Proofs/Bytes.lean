import Mathlib.Data.List.DropRight
import NorFlash.Bytes

/-!
# Byte strings as lists

What the operations on byte strings do to the list of bytes: slices are `drop` and `take`, a scan
for one byte is a statement about all members, and the length without a run at the end is the
length of `List.rdropWhile`.
-/

namespace NorFlash.Bytes

theorem length_toList (b : ByteArray) : b.data.toList.length = b.size := by
  simp [ByteArray.size_data]

theorem eq_of_toList_eq {a b : ByteArray} (h : a.data.toList = b.data.toList) : a = b :=
  ByteArray.ext (Array.toList_inj.1 h)

theorem getElem_toList (b : ByteArray) (i : Nat) (h : i < b.size) :
    b.data.toList[i]? = some b[i] := by
  rw [Array.getElem?_toList, ByteArray.getElem_eq_getElem_data]
  simp [ByteArray.size_data, h]

/-- The loop of `ByteArray.toList` adds the bytes from `i` on to those collected before. -/
theorem toList_loop_eq (b : ByteArray) (i : Nat) (acc : List UInt8) :
    ByteArray.toList.loop b i acc = acc.reverse ++ b.data.toList.drop i := by
  fun_induction ByteArray.toList.loop b i acc with
  | case1 i acc h ih =>
    have hi : i < b.data.toList.length := by rwa [length_toList]
    have hget : b.get! i = b.data.toList[i] :=
      (getElem!_pos b.data i h).trans (Array.getElem_toList h).symm
    rw [ih, List.drop_eq_getElem_cons hi, hget, List.reverse_cons, List.append_assoc]
    rfl
  | case2 i acc h =>
    have hdrop : b.data.toList.drop i = [] := by
      apply List.drop_eq_nil_of_le
      rw [length_toList]
      omega
    rw [hdrop, List.append_nil]

theorem toList_eq (b : ByteArray) : b.toList = b.data.toList := by
  rw [ByteArray.toList, toList_loop_eq]
  simp

/-! ## Slices -/

theorem position_natCast (size i : Nat) : position size (i : Int) = min i size := by
  rw [position, if_neg (by omega), Int.toNat_natCast]

theorem toList_extract (b : ByteArray) (i j : Nat) :
    (b.extract i j).data.toList = (b.data.toList.take j).drop i := by
  simp [ByteArray.data_extract, List.drop_take]

/-- A slice between bounds that are not negative drops and takes, also beyond the end. -/
theorem toList_slice (b : ByteArray) (i j : Nat) :
    (slice b i j).data.toList = (b.data.toList.take j).drop i := by
  have hlen := length_toList b
  rw [slice, position_natCast, position_natCast, toList_extract]
  rw [← hlen, List.take_eq_take_min (i := j), Nat.min_comm j]
  rcases Nat.le_total i b.data.toList.length with h | h
  · rw [Nat.min_eq_left h, Nat.min_comm]
  · rw [Nat.min_eq_right h, List.drop_eq_nil_of_le (by rw [List.length_take]; omega),
      List.drop_eq_nil_of_le (by rw [List.length_take]; omega)]

/-- A splice between bounds that lie in the string puts the new bytes in the place of the old
ones. -/
theorem toList_splice (b new : ByteArray) {i j : Nat} (hij : i ≤ j) (hj : j ≤ b.size) :
    (splice b i j new).data.toList =
      b.data.toList.take i ++ new.data.toList ++ b.data.toList.drop j := by
  have hlen := length_toList b
  simp only [splice, position_natCast, Nat.min_eq_left hj, Nat.min_eq_left (Nat.le_trans hij hj),
    Nat.max_eq_right hij, ByteArray.data_append, Array.toList_append, toList_extract,
    List.drop_zero]
  rw [← hlen, List.take_length]

/-! ## Scans -/

theorem allBelow_iff (b : ByteArray) (x : UInt8) {n : Nat} (hn : n ≤ b.size) :
    allBelow b x n = true ↔ ∀ y ∈ b.data.toList.take n, y = x := by
  induction n with
  | zero => simp [allBelow]
  | succ n ih =>
    have hlt : n < b.size := hn
    have htake : b.data.toList.take (n + 1) = b.data.toList.take n ++ [b[n]] := by
      rw [List.take_add_one, getElem_toList b n hlt]
      rfl
    rw [allBelow, dif_pos hlt, Bool.and_eq_true, beq_iff_eq, ih (by omega), htake]
    simp only [List.mem_append, List.mem_singleton]
    constructor
    · rintro ⟨hb, hrest⟩ y (hy | rfl)
      · exact hrest y hy
      · exact hb
    · exact fun h => ⟨h _ (.inr rfl), fun y hy => h y (.inl hy)⟩

theorem all_iff (b : ByteArray) (x : UInt8) : all b x = true ↔ ∀ y ∈ b.data.toList, y = x := by
  rw [all, allBelow_iff b x (Nat.le_refl _), ← length_toList, List.take_length]

/-- The bytes counted are those that are left once the run at the end is dropped. -/
theorem trimBelow_eq (b : ByteArray) (x : UInt8) {n : Nat} (hn : n ≤ b.size) :
    trimBelow b x n = ((b.data.toList.take n).rdropWhile (· == x)).length := by
  induction n with
  | zero => simp [trimBelow]
  | succ n ih =>
    have hlt : n < b.size := hn
    have htake : b.data.toList.take (n + 1) = b.data.toList.take n ++ [b[n]] := by
      rw [List.take_add_one, getElem_toList b n hlt]
      rfl
    rw [trimBelow, dif_pos hlt, htake, List.rdropWhile_concat]
    split
    · exact ih (by omega)
    · rw [List.length_append, List.length_take, length_toList, Nat.min_eq_left (by omega)]
      rfl

/-- The bytes after those counted are all `x`, and the last one counted is not. -/
theorem trimBelow_spec (b : ByteArray) (x : UInt8) {n : Nat} (hn : n ≤ b.size) :
    trimBelow b x n ≤ n ∧
      (∀ i, trimBelow b x n ≤ i → i < n → b.data.toList[i]? = some x) ∧
      ∀ i, trimBelow b x n = i + 1 → b.data.toList[i]? ≠ some x := by
  induction n with
  | zero => simp [trimBelow]
  | succ n ih =>
    have hlt : n < b.size := hn
    obtain ⟨hle, hafter, hlast⟩ := ih (by omega)
    rw [trimBelow, dif_pos hlt]
    by_cases hx : b[n] = x
    · rw [if_pos (by simpa using hx)]
      refine ⟨by omega, ?_, hlast⟩
      intro i hi hin
      rcases Nat.lt_or_ge i n with hbelow | hat
      · exact hafter i hi hbelow
      · obtain rfl : i = n := by omega
        rw [getElem_toList b i hlt, hx]
    · rw [if_neg (by simpa using hx)]
      refine ⟨Nat.le_refl _, by omega, ?_⟩
      intro i hi
      obtain rfl : n = i := by omega
      rw [getElem_toList b n hlt]
      simpa using hx

end NorFlash.Bytes
