import NorFlash.Composer
import NorFlash.Proofs.Bytes
import NorFlash.Proofs.FileTree.Locate
import NorFlash.Proofs.ImageFile
import NorFlash.Proofs.IntelHex.Document

/-!
# Artifacts read from files

What `Provider.ofFile` obtains from a file that is there (`Provider.runOn_ofFile`). The records that
are written for an image hold each byte of its code at its address and nothing else, so a file of
them gives the code back, wherever the code region starts (`Image.code_of_hexText`).
-/

namespace NorFlash

namespace Provider

variable {s : Setting} {path : Path} {w : World} {mode : Nat} {content : ByteArray}

/-- Why there is no artifact is worded without a number. -/
theorem worded_missing (path : Path) (reason : MissingReason) :
    (Failure.missing path reason).worded = .missing path reason := by
  rw [Failure.worded]
  simp only [Failure.numbers, List.all_nil, if_true]

theorem decode_of_not_isHex (h : path.isHex = false) : decode path content = .ok content := by
  rw [decode, h, if_neg Bool.false_ne_true]

/-- The artifact in a file is what is decoded of its content. -/
theorem runOn_ofFile (hnull : Action.hasNull path.render = false)
    (hfile : w.tree.status s.directory path.render = .ok (.file mode content)) :
    (ofFile s path).runOn w =
      ((decode path content).mapError fun fault => .missing path (.unreadable fault), w) := by
  have hread : (Action.attempt (Action.readFile s path)).runOn w = (.ok (.ok content), w) := by
    rw [Action.runOn_attempt, Image.runOn_readFile hnull hfile]
  have hfound : (Action.isFile s path).runOn w = (.ok true, w) :=
    Action.runOn_testEntry_of_status hnull hfile
  rw [ofFile, Action.runOn_bind_ok hfound]
  simp only [Bool.not_true, Bool.false_eq_true, if_false]
  rw [Action.runOn_bind_ok hread]
  dsimp only
  cases decode path content with
  | ok artifact => rfl
  | error fault =>
    rw [Action.runOn_ofExcept_error, worded_missing]
    rfl

/-- The artifact in a file of records is what they hold from the lowest address to the highest
one. -/
theorem runOn_ofFile_of_memory {memory : IntelHex.Memory} (hpath : path.isHex = true)
    (hnull : Action.hasNull path.render = false)
    (hfile : w.tree.status s.directory path.render = .ok (.file mode content))
    (hmemory : IntelHex.Memory.ofFile content = .ok memory) :
    (ofFile s path).runOn w = (.ok memory.span, w) := by
  have hdecode : decode path content = .ok memory.span := by
    rw [decode, if_pos hpath, hmemory]
  rw [runOn_ofFile hnull hfile, hdecode]
  rfl

/-- Reading an artifact only reads files. -/
theorem readsFiles_ofFile (s : Setting) (path : Path) : Action.ReadsFiles (ofFile s path) := by
  refine (Action.readsFiles_testEntry _ _ _).bind fun found => ?_
  split
  · exact Action.readsFiles_throw _
  · refine (Action.readsFiles_readFile s path).attempt.bind fun content => ?_
    split
    · exact Action.readsFiles_ofExcept _ _
    · exact Action.readsFiles_throw _
    · exact Action.readsFiles_throw _

end Provider

namespace Image

/-- There are records for each code that ends below 4 GiB, and they hold its bytes. -/
theorem exists_hexText? {i : Image} {base : Nat} (hbase : i.layout.code.offset = base)
    (hend : base + i.code.size ≤ 0x100000000) :
    ∃ text memory, i.hexText? = some text ∧
      IntelHex.Memory.ofFile text.toUTF8 = .ok memory ∧
      ∀ x : Nat, memory[x]? = if base ≤ x then i.code.data.toList[x - base]? else none := by
  obtain ⟨document, memory, hdocument, hfile, hview⟩ :=
    IntelHex.Memory.ofFile_ofBytes base i.code.data.toList (by rwa [Bytes.length_toList])
  refine ⟨_, memory, ?_, hfile, hview⟩
  rw [hexText?, hbase, Bytes.toList_eq, hdocument]
  rfl

/-- **The records of an image give its code back.** Wherever the code region starts, the records
are read without a fault and describe each byte of the code at its address and no byte at another
one, so the artifact in a file of them is the code. -/
theorem code_of_hexText {i : Image} (hstart : 0 ≤ i.layout.code.offset)
    (hend : i.layout.code.offset + i.code.size ≤ 0x100000000) :
    ∃ text memory, i.hexText? = some text ∧
      IntelHex.Memory.ofFile text.toUTF8 = .ok memory ∧
      (∀ (x : Nat) (b : UInt8), memory[x]? = some b ↔
        ∃ k : Nat, (x : Int) = i.layout.code.offset + k ∧ i.code.data.toList[k]? = some b) ∧
      ∀ (s : Setting) (path : Path) (mode : Nat) (w : World), path.isHex = true →
        Action.hasNull path.render = false →
        w.tree.status s.directory path.render = .ok (.file mode text.toUTF8) →
        (Provider.ofFile s path).runOn w = (.ok i.code, w) := by
  obtain ⟨base, hbase⟩ := Int.eq_ofNat_of_zero_le hstart
  obtain ⟨text, memory, htext, hmemory, hview⟩ := exists_hexText? hbase (by omega)
  refine ⟨text, memory, htext, hmemory, fun x b => ?_, fun s path mode w hpath hnull hfile => ?_⟩
  · rw [hview, hbase]
    constructor
    · intro h
      split at h
      · next hx => exact ⟨x - base, by omega, h⟩
      · simp at h
    · rintro ⟨k, hx, hk⟩
      obtain rfl : x = base + k := by omega
      rw [if_pos (by omega), Nat.add_sub_cancel_left, hk]
  · have hspan : memory.span = i.code :=
      Bytes.eq_of_toList_eq (IntelHex.Memory.toList_span hview)
    rw [Provider.runOn_ofFile_of_memory hpath hnull hfile hmemory, hspan]

/-- Code that crosses a 64 KiB boundary and ends with an erased byte is given back by the file
`a.hex` of its records. -/
theorem code_of_hexText_across_page :
    let g : Geometry := ⟨16, 4, some Geometry.defaultBase, by decide, by decide⟩
    let i : Image := ⟨{ Layout.ofGeometry g with code := ⟨0xFFFF, 12⟩ }, 3, ⟨#[1, 2, 0xFF, 4]⟩⟩
    0 ≤ i.layout.code.offset ∧ i.layout.code.offset + i.code.size ≤ 0x100000000 ∧
      ∃ text, i.hexText? = some text ∧
        let w := World.ofTree ⟨[(["a.hex"], .file outputMode text.toUTF8)]⟩
        (Provider.ofFile .atRoot (Path.ofString "a.hex")).runOn w = (.ok ⟨#[1, 2, 0xFF]⟩, w) := by
  intro g i
  have hcode : i.code = ⟨#[1, 2, 0xFF]⟩ := by decide
  have hstart : 0 ≤ i.layout.code.offset := by decide
  have hend : i.layout.code.offset + i.code.size ≤ 0x100000000 := by decide
  obtain ⟨text, memory, htext, -, -, hrun⟩ := code_of_hexText hstart hend
  refine ⟨hstart, hend, text, htext, ?_⟩
  intro w
  have hrender : (Path.ofString "a.hex").render = "a.hex" := by decide
  have hlocate : w.tree.locate [] true "a.hex" = .ok (.entry ["a.hex"]) :=
    FileTree.locate_root ⟨by decide, by decide, by decide⟩ (by decide) rfl (by simp)
  rw [← hcode]
  refine hrun .atRoot (Path.ofString "a.hex") outputMode w (by decide) (by decide) ?_
  rw [hrender]
  exact FileTree.status_eq_ok_iff.2 ⟨_, hlocate, rfl⟩

end Image

end NorFlash
