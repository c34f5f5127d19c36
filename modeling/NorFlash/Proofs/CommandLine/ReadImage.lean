import NorFlash.Proofs.CommandLine.Promised
import NorFlash.Proofs.ImageFile.Answer
import NorFlash.Proofs.IntelHex.Memory

/-!
# Reading the content of a device

`Image.read` gives the content of the device that `deviceContentAt?` tells of, unless there is no
room for it and but for a file of records without data, which it takes for an image of no bytes
(`runOn_read_cases`). Such records describe an erased device (`deviceContent?_of_noData`), which a
check accepts.
-/

namespace NorFlash

namespace Image

variable {s : Setting} {path : Path} {g : Geometry} {w : World} {content data : ByteArray}

/-- A check of an image whose content is known ends with the verdict on the content. -/
theorem runOn_check_of_content (hsize : content.size = g.totalSize)
    (hread : (read s path g).runOn w = (.ok (ofContent g content), w)) :
    ∃ log, (check s path g).runOn w = (.ok (verdict g content), { w with log := log }) := by
  refine runOn_check_of_read ?_
  rw [ofBytes_eq hsize, hread]

/-- The image in the content of a file, if what is decoded of it has the size of the device. -/
theorem runOn_read_of_content (hplain : path.IsPlain)
    (hread : w.tree.read s.directory path.render = .ok content) :
    match (decode path g content).toOption.filter (·.size = g.totalSize) with
    | some data => data.size = g.totalSize ∧
      (read s path g).runOn w = (.ok (ofContent g data), w)
    | none => ∃ failure, (read s path g).runOn w = (.error failure, w) := by
  have hfile := Action.runOn_readFile_of_isPlain (s := s) hplain w
  rw [hread] at hfile
  rw [read, Action.runOn_bind_ok hfile]
  cases hdecode : decode path g content with
  | error failure => exact ⟨_, Action.runOn_bind_error (Action.runOn_ofExcept_error w id failure) _⟩
  | ok data =>
    rw [Except.toOption, Action.runOn_bind_ok (Action.runOn_ofExcept_ok w id data)]
    by_cases hsize : data.size = g.totalSize
    · rw [Option.filter_some, if_pos (by simpa using hsize), ofBytes_eq hsize]
      exact ⟨hsize, Action.runOn_ofExcept_ok w _ _⟩
    · rw [Option.filter_some, if_neg (by simpa using hsize), ofBytes, if_pos hsize]
      exact ⟨_, Action.runOn_ofExcept_error w _ _⟩

end Image

namespace CommandLine

open Image (Expected ofContent)

variable {s : Setting} {image : Path} {g : Geometry} {w : World}

/-- What is decoded with the size of the device is its content, but for records without data. -/
theorem filter_decode {path : Path} {content : ByteArray}
    (hroom : ¬ Image.IsBeyondMemory path g content) :
    (Image.decode path g content).toOption.filter (·.size = g.totalSize) =
      if holdsNoData path content then none else deviceContent? path g content := by
  have hpos : 0 < g.totalSize := Nat.lt_of_lt_of_le g.blockSize_pos g.blockSize_le_totalSize
  rw [Image.decode, holdsNoData, deviceContent?]
  cases hhex : path.isHex with
  | false =>
    simp [Except.toOption, Option.filter_some]
  | true =>
    cases hmemory : IntelHex.Memory.ofFile content with
    | error fault => rfl
    | ok memory =>
      simp only [if_true, Bool.true_and, Image.flattenRecords]
      cases hmax : memory.maxKey? with
      | none =>
        have hempty : memory.isEmpty = true := Std.TreeMap.maxKey?_eq_none_iff.1 hmax
        rw [Std.TreeMap.minKey?_eq_none_iff.2 hempty, if_pos hempty]
        dsimp only [Except.toOption]
        rw [Option.filter_some, if_neg]
        have hzero : ByteArray.empty.size = 0 := rfl
        simp only [hzero, decide_eq_true_eq]
        omega
      | some high =>
        have hdata : memory.isEmpty = false := by
          rw [← Bool.not_eq_true, ← Std.TreeMap.maxKey?_eq_none_iff, hmax]
          exact Option.some_ne_none high
        obtain ⟨low, hmin⟩ : ∃ low, memory.minKey? = some low := by
          rw [← Option.isSome_iff_exists, Std.TreeMap.isSome_minKey?_eq_not_isEmpty, hdata]
          rfl
        rw [hmin, hdata]
        simp only [Bool.false_eq_true, if_false, Option.all_some, decide_eq_true_eq]
        by_cases hhigh : high < g.totalSize
        · have hsmall : ¬ Image.memoryBound ≤ g.totalSize := fun hlarge =>
            hroom ⟨hhex, ⟨memory, low, high, hmemory, hmin, hmax, hhigh⟩, hlarge⟩
          rw [if_neg (by omega), if_neg hsmall, if_pos hhigh]
          dsimp only [Except.toOption]
          rw [Option.filter_some, if_pos (by simp [IntelHex.Memory.size_flatten])]
        · rw [if_pos (by omega), if_neg hhigh]
          rfl

/-- An image is read from the content of a device, unless that is missing or has no data. -/
theorem runOn_read_cases (hplain : image.IsPlain)
    (hroom : ¬ Image.LacksMemory s w.tree image g) :
    (∃ content, deviceContentAt? s w.tree image g = some content ∧
      leadsToNoData s w.tree image = false ∧ content.size = g.totalSize ∧
      (Image.read s image g).runOn w = (.ok (ofContent g content), w)) ∨
    ((deviceContentAt? s w.tree image g = none ∨ leadsToNoData s w.tree image = true) ∧
      ∃ failure, (Image.read s image g).runOn w = (.error failure, w) ∧ Expected failure) := by
  have hexpected : ∀ {failure}, (Image.read s image g).runOn w = (.error failure, w) →
      Expected failure := fun hrun => Image.expected_of_read hroom hrun
  cases hread : w.tree.read s.directory image.render with
  | error errno =>
    have hfile := Action.runOn_readFile_of_isPlain (s := s) hplain w
    rw [hread] at hfile
    have hrun := Action.runOn_bind_error hfile fun content => do
      let data ← Action.ofExcept id (Image.decode image g content)
      Action.ofExcept Failure.ofImage (Image.ofBytes data g)
    exact .inr ⟨.inl (by rw [deviceContentAt?, hread]), _, hrun, hexpected hrun⟩
  | ok content =>
    have hrun := Image.runOn_read_of_content (g := g) hplain hread
    rw [filter_decode fun hbeyond =>
      hroom ⟨Path.isPlain_iff.1 hplain, content, hread, hbeyond⟩] at hrun
    rw [deviceContentAt?, leadsToNoData, hread]
    dsimp only
    cases hdata : holdsNoData image content with
    | true =>
      rw [hdata] at hrun
      obtain ⟨failure, hfail⟩ := hrun
      exact .inr ⟨.inr rfl, failure, hfail, hexpected hfail⟩
    | false =>
      rw [hdata] at hrun
      cases hcontent : deviceContent? image g content with
      | none =>
        rw [hcontent] at hrun
        obtain ⟨failure, hfail⟩ := hrun
        exact .inr ⟨.inl rfl, failure, hfail, hexpected hfail⟩
      | some data =>
        rw [hcontent] at hrun
        exact .inl ⟨data, rfl, rfl, hrun⟩

/-! ## Content at a path -/

theorem status_of_lacksMemory {t : FileTree} (h : Image.LacksMemory s t image g) :
    ∃ node, t.status s.directory image.render = .ok node := by
  obtain ⟨content, hread, -⟩ := h.file
  obtain ⟨mode, hstatus⟩ := FileTree.read_eq_ok_iff.1 hread
  exact ⟨_, hstatus⟩

/-- Records without data need no room. -/
theorem not_lacksMemory_of_noData {t : FileTree} (h : leadsToNoData s t image = true) :
    ¬ Image.LacksMemory s t image g := by
  rintro ⟨-, content, hread, hbeyond⟩
  obtain ⟨memory, low, high, hmemory, hlow, -⟩ := hbeyond.data
  rw [leadsToNoData, hread] at h
  dsimp only at h
  rw [holdsNoData, hbeyond.hex, hmemory, Bool.true_and] at h
  rw [Std.TreeMap.minKey?_eq_none_iff.2 h] at hlow
  cases hlow

theorem status_of_deviceContentAt? {t : FileTree} {content : ByteArray}
    (h : deviceContentAt? s t image g = some content) :
    ∃ node, t.status s.directory image.render = .ok node := by
  rw [deviceContentAt?] at h
  split at h
  · next hread =>
    obtain ⟨mode, hstatus⟩ := FileTree.read_eq_ok_iff.1 hread
    exact ⟨_, hstatus⟩
  · cases h

/-- Records without data describe an erased device. -/
theorem deviceContent?_of_noData {path : Path} {content : ByteArray} (g : Geometry)
    (h : holdsNoData path content = true) :
    ∃ data, deviceContent? path g content = some data ∧ data.size = g.totalSize ∧
      ∀ b ∈ data.data.toList, b = erasedByte := by
  rw [holdsNoData, Bool.and_eq_true] at h
  obtain ⟨hhex, hempty⟩ := h
  cases hmemory : IntelHex.Memory.ofFile content with
  | error fault =>
    rw [hmemory] at hempty
    cases hempty
  | ok memory =>
    rw [hmemory] at hempty
    refine ⟨memory.flatten 0 g.totalSize, ?_, IntelHex.Memory.size_flatten _ _ _, ?_⟩
    · rw [deviceContent?, if_pos hhex, hmemory]
      dsimp only
      rw [Std.TreeMap.maxKey?_eq_none_iff.2 hempty]
      rfl
    · intro b hb
      rw [IntelHex.Memory.toList_flatten, List.mem_map] at hb
      obtain ⟨i, -, rfl⟩ := hb
      have hnone : memory[0 + i]? = none :=
        Std.TreeMap.getElem?_of_isEmpty hempty
      rw [hnone]
      rfl

/-- A path to such records leads to the content of an erased device. -/
theorem deviceContentAt?_of_noData {t : FileTree} (g : Geometry)
    (h : leadsToNoData s t image = true) :
    ∃ data, deviceContentAt? s t image g = some data ∧ data.size = g.totalSize ∧
      ∀ b ∈ data.data.toList, b = erasedByte := by
  rw [leadsToNoData] at h
  rw [deviceContentAt?]
  cases hread : t.read s.directory image.render with
  | ok content =>
    rw [hread] at h
    exact deviceContent?_of_noData g h
  | error errno =>
    rw [hread] at h
    cases h

/-- The verdict on an erased device is a yes. -/
theorem verdict_of_erased {content : ByteArray} (hsize : content.size = g.totalSize)
    (herased : ∀ b ∈ content.data.toList, b = erasedByte) : Image.verdict g content = true := by
  refine (Image.verdict_iff g content).2 ⟨hsize, [], Image.holds_nil_of_erased fun b hb => ?_⟩
  exact herased b (List.mem_of_mem_drop (List.mem_of_mem_take hb))

end CommandLine

end NorFlash
