import NorFlash.IntelHex.Memory
import NorFlash.Proofs.Bytes

/-!
# Memory as a map

A `Memory` is known by what it holds at each address. Storing bytes at free addresses adds them to
the map (`Loader.store_of_free`), and `Memory.flatten` reads it off, with erased bytes for addresses
that hold nothing (`Memory.toList_flatten`), as `Memory.span` does from the lowest address to the
highest one (`Memory.toList_span_of_keys`).
-/

namespace NorFlash.IntelHex

/-! ## Storing -/

theorem Memory.getElem?_insert (memory : Memory) (address : Nat) (b : UInt8) (x : Nat) :
    (memory.insert address b)[x]? = if address = x then some b else memory[x]? := by
  rw [Std.TreeMap.getElem?_insert]
  simp only [Nat.compare_eq_eq]

/-- Bytes at consecutive addresses over what a map holds elsewhere. -/
def overlay (address : Nat) (bytes : List UInt8) (view : Nat → Option UInt8) (x : Nat) :
    Option UInt8 :=
  if address ≤ x ∧ x < address + bytes.length then bytes[x - address]? else view x

theorem overlay_nil (address : Nat) (view : Nat → Option UInt8) :
    overlay address [] view = view := by
  funext x
  rw [overlay, if_neg]
  rw [List.length_nil]
  omega

/-- Bytes in two pieces are the bytes as a whole. -/
theorem overlay_append (address : Nat) (first second : List UInt8) (view : Nat → Option UInt8) :
    overlay (address + first.length) second (overlay address first view) =
      overlay address (first ++ second) view := by
  funext x
  simp only [overlay, List.length_append]
  by_cases hsecond : address + first.length ≤ x ∧ x < address + first.length + second.length
  · rw [if_pos hsecond, if_pos (by omega), List.getElem?_append_right (by omega)]
    congr 1
    omega
  · rw [if_neg hsecond]
    by_cases hfirst : address ≤ x ∧ x < address + first.length
    · rw [if_pos hfirst, if_pos (by omega), List.getElem?_append_left (by omega)]
    · rw [if_neg hfirst, if_neg (by omega)]

theorem overlay_of_ge {address : Nat} {bytes : List UInt8} {view : Nat → Option UInt8} {x : Nat}
    (h : address + bytes.length ≤ x) : overlay address bytes view x = view x := by
  rw [overlay, if_neg (by omega)]

/-- Bytes are stored at addresses that hold nothing. -/
theorem Loader.store_of_free (bytes : List UInt8) {memory : Memory} {address : Nat}
    (hfree : ∀ x, address ≤ x → memory[x]? = none) :
    ∃ memory', store memory address bytes = .ok memory' ∧
      ∀ x, memory'[x]? = overlay address bytes (memory[·]?) x := by
  induction bytes generalizing memory address with
  | nil => exact ⟨memory, rfl, fun x => by rw [overlay_nil]⟩
  | cons b bs ih =>
    have hview := memory.getElem?_insert address b
    have hcontains : memory.contains address = false := by
      rw [Std.TreeMap.contains_eq_isSome_getElem?, hfree address (Nat.le_refl address)]
      rfl
    have hrest : ∀ x, address + 1 ≤ x → (memory.insert address b)[x]? = none := fun x hx => by
      rw [hview, if_neg (by omega), hfree x (by omega)]
    obtain ⟨memory', hstore, hmemory'⟩ := ih hrest
    refine ⟨memory', by rw [store, hcontains]; exact hstore, fun x => ?_⟩
    have hone : ((memory.insert address b)[·]?) = overlay address [b] (memory[·]?) := by
      funext y
      simp only [hview, overlay, List.length_singleton]
      by_cases hy : address = y
      · rw [if_pos hy, if_pos (by omega), ← hy, Nat.sub_self]
        rfl
      · rw [if_neg hy, if_neg (by omega)]
    rw [hmemory', hone]
    exact congrFun (overlay_append address [b] bs (memory[·]?)) x

namespace Memory

/-! ## Flattening -/

theorem toList_put (bytes : ByteArray) (i : Nat) (b : UInt8) :
    (put bytes i b).data.toList = bytes.data.toList.set i b := by
  rw [put]
  split
  · next h => exact Array.toList_set bytes.data i b h
  · next h => rw [List.set_eq_of_length_le (by rw [Bytes.length_toList]; omega)]

/-- Put the bytes of some addresses in place, counted from a first address. -/
def place (start : Nat) (bytes : List UInt8) (entry : Nat × UInt8) : List UInt8 :=
  if start ≤ entry.1 then bytes.set (entry.1 - start) entry.2 else bytes

theorem toList_flatten_eq_foldl (m : Memory) (start size : Nat) :
    (flatten m start size).data.toList =
      m.toList.foldl (place start) (List.replicate size 0xFF) := by
  rw [flatten, Std.TreeMap.foldl_eq_foldl_toList, ← Bytes.toList_filled]
  generalize Bytes.filled size 0xFF = bytes
  induction m.toList generalizing bytes with
  | nil => rfl
  | cons entry rest ih =>
    rw [List.foldl_cons, List.foldl_cons, ih, place]
    split
    · rw [toList_put]
    · rfl

theorem getElem?_place (start : Nat) (bytes : List UInt8) (entry : Nat × UInt8) (i : Nat) :
    (place start bytes entry)[i]? =
      if entry.1 = start + i ∧ i < bytes.length then some entry.2 else bytes[i]? := by
  rw [place]
  split
  · rw [List.getElem?_set]
    grind
  · rw [if_neg (by omega)]

theorem length_foldl_place (start : Nat) (entries : List (Nat × UInt8)) (bytes : List UInt8) :
    (entries.foldl (place start) bytes).length = bytes.length := by
  induction entries generalizing bytes with
  | nil => rfl
  | cons entry rest ih =>
    rw [List.foldl_cons, ih, place]
    split
    · exact List.length_set
    · rfl

/-- Placing leaves alone what stands at other addresses. -/
theorem getElem?_foldl_place_of_not_mem {start : Nat} {entries : List (Nat × UInt8)}
    {bytes : List UInt8} {i : Nat} (h : ∀ entry ∈ entries, entry.1 ≠ start + i) :
    (entries.foldl (place start) bytes)[i]? = bytes[i]? := by
  induction entries generalizing bytes with
  | nil => rfl
  | cons entry rest ih =>
    rw [List.foldl_cons, ih fun other hother => h other (List.mem_cons_of_mem entry hother),
      getElem?_place, if_neg fun hbad => h entry List.mem_cons_self hbad.1]

/-- Each address is placed once, so what is placed there stays. -/
theorem getElem?_foldl_place_of_mem {start : Nat} {entries : List (Nat × UInt8)}
    {bytes : List UInt8} {i : Nat} {b : UInt8}
    (hdistinct : entries.Pairwise fun first second => first.1 ≠ second.1)
    (h : (start + i, b) ∈ entries) (hi : i < bytes.length) :
    (entries.foldl (place start) bytes)[i]? = some b := by
  induction entries generalizing bytes with
  | nil => simp at h
  | cons entry rest ih =>
    obtain ⟨hfirst, hrest⟩ := List.pairwise_cons.1 hdistinct
    rw [List.foldl_cons]
    rcases List.mem_cons.1 h with rfl | hmem
    · rw [getElem?_foldl_place_of_not_mem fun other hother => (hfirst other hother).symm,
        getElem?_place, if_pos ⟨rfl, hi⟩]
    · refine ih hrest hmem ?_
      rw [place]
      split
      · rwa [List.length_set]
      · exact hi

/-- **A window of a memory shows what it holds at each address, erased where it holds nothing.** -/
theorem toList_flatten (m : Memory) (start size : Nat) :
    (flatten m start size).data.toList =
      (List.range size).map fun i => m[start + i]?.getD 0xFF := by
  rw [toList_flatten_eq_foldl]
  refine List.ext_getElem? fun i => ?_
  by_cases hi : i < size
  · rw [List.getElem?_map, List.getElem?_range hi, Option.map_some]
    cases hget : m[start + i]? with
    | some b =>
      have hdistinct : m.toList.Pairwise fun first second => first.1 ≠ second.1 :=
        Std.TreeMap.distinct_keys_toList.imp fun hne heq => hne (Nat.compare_eq_eq.2 heq)
      rw [getElem?_foldl_place_of_mem hdistinct
        (Std.TreeMap.mem_toList_iff_getElem?_eq_some.2 hget) (by rwa [List.length_replicate])]
      rfl
    | none =>
      rw [getElem?_foldl_place_of_not_mem, List.getElem?_replicate, if_pos hi]
      · rfl
      · rintro ⟨address, b⟩ hmem rfl
        rw [Std.TreeMap.mem_toList_iff_getElem?_eq_some, hget] at hmem
        simp at hmem
  · rw [List.getElem?_eq_none (by rw [length_foldl_place, List.length_replicate]; omega),
      List.getElem?_eq_none (by rw [List.length_map, List.length_range]; omega)]

theorem size_flatten (m : Memory) (start size : Nat) : (flatten m start size).size = size := by
  rw [← Bytes.length_toList, toList_flatten, List.length_map, List.length_range]

theorem getElem?_flatten (m : Memory) (start : Nat) {size i : Nat} (hi : i < size) :
    (flatten m start size).data.toList[i]? = some (m[start + i]?.getD 0xFF) := by
  rw [toList_flatten, List.getElem?_map, List.getElem?_range hi, Option.map_some]

/-! ## The lowest and the highest address -/

theorem mem_iff {m : Memory} {x : Nat} : x ∈ m ↔ ∃ b, m[x]? = some b := by
  rw [Std.TreeMap.mem_iff_isSome_getElem?, Option.isSome_iff_exists]

theorem minKey?_eq_some {m : Memory} {low : Nat} {b : UInt8} (hlow : m[low]? = some b)
    (hbelow : ∀ x, x < low → m[x]? = none) : m.minKey? = some low := by
  rw [Std.TreeMap.minKey?_eq_some_iff_mem_and_forall]
  refine ⟨mem_iff.2 ⟨b, hlow⟩, fun x hx => ?_⟩
  obtain ⟨c, hc⟩ := mem_iff.1 hx
  rw [Nat.isLE_compare]
  refine Nat.le_of_not_lt fun hlt => ?_
  simp [hbelow x hlt] at hc

theorem maxKey?_eq_some {m : Memory} {high : Nat} {b : UInt8} (hhigh : m[high]? = some b)
    (habove : ∀ x, high < x → m[x]? = none) : m.maxKey? = some high := by
  rw [Std.TreeMap.maxKey?_eq_some_iff_mem_and_forall]
  refine ⟨mem_iff.2 ⟨b, hhigh⟩, fun x hx => ?_⟩
  obtain ⟨c, hc⟩ := mem_iff.1 hx
  rw [Nat.isLE_compare]
  refine Nat.le_of_not_lt fun hlt => ?_
  simp [habove x hlt] at hc

theorem minKey?_eq_none {m : Memory} (h : ∀ x : Nat, m[x]? = none) : m.minKey? = none := by
  rw [Std.TreeMap.minKey?_eq_none_iff, Std.TreeMap.isEmpty_iff_forall_not_mem]
  intro x hx
  obtain ⟨b, hb⟩ := mem_iff.1 hx
  simp [h x] at hb

theorem getElem?_of_maxKey?_lt {m : Memory} {high : Nat} (hhigh : m.maxKey? = some high) {x : Nat}
    (hx : high < x) : m[x]? = none := by
  obtain ⟨-, hle⟩ := Std.TreeMap.maxKey?_eq_some_iff_mem_and_forall.1 hhigh
  refine Option.eq_none_iff_forall_ne_some.2 fun b hb => ?_
  have hx' := Nat.isLE_compare.1 (hle x (mem_iff.2 ⟨b, hb⟩))
  omega

/-! ## From the lowest address to the highest one -/

section Span

variable {m : Memory} {low high : Nat}

theorem span_of_no_keys (hlow : m.minKey? = none) : m.span = ByteArray.empty := by
  rw [span, hlow]

/-- The bytes from the lowest address to the highest one, erased where there is none. -/
theorem toList_span_of_keys (hlow : m.minKey? = some low) (hhigh : m.maxKey? = some high) :
    m.span.data.toList = (List.range (high + 1 - low)).map fun i => m[low + i]?.getD 0xFF := by
  rw [span, hlow, hhigh]
  exact toList_flatten m low (high + 1 - low)

theorem size_span_of_keys (hlow : m.minKey? = some low) (hhigh : m.maxKey? = some high) :
    m.span.size = high + 1 - low := by
  rw [← Bytes.length_toList, toList_span_of_keys hlow hhigh, List.length_map, List.length_range]

theorem getElem?_span (hlow : m.minKey? = some low) (hhigh : m.maxKey? = some high) {i : Nat}
    (hi : low + i ≤ high) : m.span.data.toList[i]? = some (m[low + i]?.getD 0xFF) := by
  rw [toList_span_of_keys hlow hhigh, List.getElem?_map, List.getElem?_range (by omega),
    Option.map_some]

end Span

/-- The bytes from the lowest address to the highest one are those that the memory holds at
consecutive addresses, wherever they start. -/
theorem toList_span {m : Memory} {address : Nat} {bytes : List UInt8}
    (hview : ∀ x : Nat, m[x]? = if address ≤ x then bytes[x - address]? else none) :
    m.span.data.toList = bytes := by
  have hbelow : ∀ x, x < address → m[x]? = none := fun x hx => by
    rw [hview, if_neg (by omega)]
  have hfrom : ∀ k, m[address + k]? = bytes[k]? := fun k => by
    rw [hview, if_pos (by omega), Nat.add_sub_cancel_left]
  by_cases hempty : bytes = []
  · have hnone : ∀ x : Nat, m[x]? = none := fun x => by
      rw [hview, hempty, List.getElem?_nil, ite_self]
    rw [span_of_no_keys (minKey?_eq_none hnone), hempty]
    rfl
  · have hlength := List.length_pos_iff.2 hempty
    have hlow : m.minKey? = some address :=
      minKey?_eq_some ((hfrom 0).trans (List.getElem?_eq_getElem hlength)) hbelow
    have hhigh : m.maxKey? = some (address + (bytes.length - 1)) := by
      refine maxKey?_eq_some ((hfrom _).trans (List.getElem?_eq_getElem (by omega))) fun x hx => ?_
      rw [hview, if_pos (by omega), List.getElem?_eq_none (by omega)]
    have hcount : address + (bytes.length - 1) + 1 - address = bytes.length := by omega
    rw [toList_span_of_keys hlow hhigh, hcount]
    refine List.ext_getElem? fun i => ?_
    by_cases hi : i < bytes.length
    · rw [List.getElem?_map, List.getElem?_range hi, Option.map_some, hfrom,
        List.getElem?_eq_getElem hi]
      rfl
    · rw [List.getElem?_eq_none (by rw [List.length_map, List.length_range]; omega),
        List.getElem?_eq_none (by omega)]

end Memory

end NorFlash.IntelHex
