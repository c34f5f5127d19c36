import NorFlash.IntelHex.Document
import NorFlash.Proofs.IntelHex.Memory
import NorFlash.Proofs.IntelHex.Record
import NorFlash.Proofs.Text.Utf8

/-!
# Records for consecutive bytes

The records that `Document.ofBytes?` lists for bytes at consecutive addresses are loaded without a
fault and put each byte at its address (`Document.loads_ofBytes`). The induction goes part by part
as `chunks` cuts the bytes. Below 64 KiB the base is zero all along; above, a part starts a page or
lies in the page of the part before it, whose base is still set.
-/

namespace NorFlash.IntelHex

/-- Records are loaded without a fault and put bytes at consecutive addresses. -/
def Loads (l : Loader) (records : List Record) (address : Nat) (bytes : List UInt8) : Prop :=
  ∃ l', records.foldlM Loader.step l = .ok l' ∧
    ∀ x, l'.memory[x]? = overlay address bytes (l.memory[·]?) x

namespace Document

/-! ## Parts -/

theorem chunkLength_natCast (address left : Nat) :
    chunkLength address left = min (min 16 (65536 - address % 65536)) left := by
  simp only [chunkLength, recordSize, pageSize]
  omega

/-- A part of the bytes comes first, and the others start after it. -/
theorem chunks_of_ne_nil (address : Nat) {bytes : List UInt8} (h : bytes ≠ []) :
    chunks address bytes =
      ((address : Int), bytes.take (chunkLength address bytes.length)) ::
        chunks ((address + chunkLength address bytes.length : Nat) : Int)
          (bytes.drop (chunkLength address bytes.length)) := by
  obtain ⟨b, bs, rfl⟩ := List.exists_cons_of_ne_nil h
  rw [chunks]
  rfl

/-- Induction part by part. -/
theorem chunk_induction {motive : Nat → List UInt8 → Prop} (nil : ∀ address, motive address [])
    (cons : ∀ (address : Nat) (bytes : List UInt8), bytes ≠ [] →
      motive (address + chunkLength address bytes.length)
        (bytes.drop (chunkLength address bytes.length)) → motive address bytes)
    (address : Nat) (bytes : List UInt8) : motive address bytes := by
  induction hlength : bytes.length using Nat.strongRecOn generalizing address bytes with
  | _ n ih =>
    by_cases hbytes : bytes = []
    · subst hbytes
      exact nil address
    · have hpos := chunkLength_pos address bytes.length (List.length_pos_iff.2 hbytes)
      have hlt : 0 < bytes.length := List.length_pos_iff.2 hbytes
      refine cons address bytes hbytes (ih _ ?_ _ _ rfl)
      rw [List.length_drop]
      omega

/-- The parts of bytes fit into data records. -/
theorem length_le_of_mem_chunks (address : Nat) (bytes : List UInt8) :
    ∀ part ∈ chunks address bytes, part.2.length ≤ 16 := by
  induction address, bytes using chunk_induction with
  | nil address => simp [chunks]
  | cons address bytes hbytes ih =>
    intro part hpart
    rw [chunks_of_ne_nil address hbytes] at hpart
    rcases List.mem_cons.1 hpart with rfl | hrest
    · rw [List.length_take, chunkLength_natCast]
      omega
    · exact ih part hrest

/-! ## Loading one part -/

theorem step_dataRecord (part : List UInt8) {l : Loader} {address : Nat}
    (hbase : l.base + address % 65536 = address)
    (hfree : ∀ x, address ≤ x → l.memory[x]? = none) :
    ∃ memory, l.step (dataRecord (address, part)) = .ok { l with memory } ∧
      ∀ x, memory[x]? = overlay address part (l.memory[·]?) x := by
  have haddress : ((address : Int) % (pageSize : Nat)).toNat = address % 65536 := by
    simp only [pageSize]
    omega
  obtain ⟨memory, hstore, hmemory⟩ := Loader.store_of_free part hfree
  refine ⟨memory, ?_, hmemory⟩
  rw [dataRecord, haddress, Loader.step, hbase, hstore]
  rfl

/-- The first part is loaded and then the others. -/
theorem loads_cons {l : Loader} {address : Nat} {bytes : List UInt8} {n : Nat}
    {records : List Record} (hn : n ≤ bytes.length)
    (hbase : l.base + address % 65536 = address)
    (hfree : ∀ x, address ≤ x → l.memory[x]? = none)
    (hrest : ∀ l' : Loader, l'.base = l.base → (∀ x, address + n ≤ x → l'.memory[x]? = none) →
      Loads l' records (address + n) (bytes.drop n)) :
    Loads l (dataRecord (address, bytes.take n) :: records) address bytes := by
  obtain ⟨memory, hstep, hmemory⟩ := step_dataRecord (bytes.take n) hbase hfree
  have hlength : (bytes.take n).length = n := by
    rw [List.length_take, Nat.min_eq_left hn]
  obtain ⟨l', hload, hl'⟩ := hrest { l with memory } rfl fun x hx => by
    rw [hmemory, overlay_of_ge (by rw [hlength]; exact hx), hfree x (by omega)]
  refine ⟨l', ?_, fun x => ?_⟩
  · rw [List.foldlM_cons, hstep]
    exact hload
  · have happend := overlay_append address (bytes.take n) (bytes.drop n) (l.memory[·]?)
    rw [hlength, List.take_append_drop] at happend
    rw [hl', ← happend]
    congr 1
    funext y
    exact hmemory y

/-! ## Loading all parts -/

/-- Below 64 KiB the parts are loaded with the base that a loader starts with. -/
theorem loads_within (address : Nat) (bytes : List UInt8) {l : Loader} (hbase : l.base = 0)
    (hend : address + bytes.length ≤ 65536) (hfree : ∀ x, address ≤ x → l.memory[x]? = none) :
    Loads l ((chunks address bytes).map dataRecord) address bytes := by
  induction address, bytes using chunk_induction generalizing l with
  | nil address => exact ⟨l, by rw [chunks]; rfl, fun x => by rw [overlay_nil]⟩
  | cons address bytes hbytes ih =>
    have hlength := List.length_pos_iff.2 hbytes
    have hn := chunkLength_natCast address bytes.length
    rw [chunks_of_ne_nil address hbytes, List.map_cons]
    refine loads_cons (by omega) (by omega) hfree fun l' hbase' hfree' => ?_
    exact ih (hbase'.trans hbase) (by rw [List.length_drop]; omega) hfree'

theorem pageRecord?_natCast {address : Nat} (h : address < 0x100000000) :
    pageRecord? address = some (.linearBase (address / 65536)) := by
  have hpage : Int.fdiv (address : Int) (pageSize : Nat) = ((address / 65536 : Nat) : Int) := by
    rw [Int.fdiv_eq_ediv_of_nonneg _ (by simp [pageSize])]
    simp [pageSize]
  simp only [pageRecord?, hpage]
  rw [if_pos (by omega), Int.toNat_natCast]

/-- The records of a part and of those after it. -/
theorem pagedRecords_cons {address : Nat} {part : List UInt8} {parts : List (Int × List UInt8)}
    {rest : List Record} (first : Bool) (haddress : address < 0x100000000)
    (hrest : pagedRecords false parts = some rest) :
    pagedRecords first ((address, part) :: parts) =
      some (if first = true ∨ address % 65536 = 0 then
        .linearBase (address / 65536) :: dataRecord (address, part) :: rest
      else dataRecord (address, part) :: rest) := by
  have hstart : (address : Int) % (pageSize : Nat) = 0 ↔ address % 65536 = 0 := by
    simp only [pageSize]
    omega
  simp only [pagedRecords, hrest, Option.bind_eq_bind, Option.bind_some, hstart,
    pageRecord?_natCast haddress]
  split <;> rfl

theorem loads_linearBase {l : Loader} {page address : Nat} {bytes : List UInt8}
    {records : List Record} (h : Loads { l with base := page * 65536 } records address bytes) :
    Loads l (.linearBase page :: records) address bytes := by
  obtain ⟨l', hload, hl'⟩ := h
  exact ⟨l', by rw [List.foldlM_cons]; exact hload, hl'⟩

/-- Above 64 KiB a part finds the base of its page set, by the record before it or by the part
before it, which lies in the same page. -/
theorem loads_paged (address : Nat) (bytes : List UInt8)
    (hend : address + bytes.length ≤ 0x100000000) (first : Bool) :
    ∃ records, pagedRecords first (chunks address bytes) = some records ∧
      ∀ l : Loader, (first = true ∨ address % 65536 = 0 ∨ l.base = address / 65536 * 65536) →
        (∀ x, address ≤ x → l.memory[x]? = none) → Loads l records address bytes := by
  induction address, bytes using chunk_induction generalizing first with
  | nil address =>
    refine ⟨[], by rw [chunks]; rfl, fun l _ _ => ⟨l, rfl, fun x => by rw [overlay_nil]⟩⟩
  | cons address bytes hbytes ih =>
    have hlength := List.length_pos_iff.2 hbytes
    have hn := chunkLength_natCast address bytes.length
    obtain ⟨rest, hrest, hloads⟩ := ih (by rw [List.length_drop]; omega) false
    rw [chunks_of_ne_nil address hbytes, pagedRecords_cons first (by omega) hrest]
    refine ⟨_, rfl, fun l hpage hfree => ?_⟩
    -- A part ends in its page, so its base is also that of the next part or that one starts a page.
    have hgo : ∀ l : Loader, l.base = address / 65536 * 65536 →
        (∀ x, address ≤ x → l.memory[x]? = none) →
        Loads l (dataRecord (address, bytes.take (chunkLength address bytes.length)) :: rest)
          address bytes := by
      intro l hbase hfree
      refine loads_cons (by omega) (by omega) hfree fun l' hbase' hfree' => ?_
      exact hloads l' (.inr (by rw [hbase', hbase]; omega)) hfree'
    split
    · exact loads_linearBase (hgo _ rfl hfree)
    · next hsame =>
      rw [not_or] at hsame
      rcases hpage with hfirst | hstart | hbase
      · exact absurd hfirst hsame.1
      · exact absurd hstart hsame.2
      · exact hgo l hbase hfree

/-! ## Whole files -/

/-- All records of a file but the last can be written and do not end it. -/
def IsBody (records : List Record) : Prop :=
  ∀ r ∈ records, r.IsWritable ∧ r ≠ .endOfFile

theorem isWritable_dataRecord {part : Int × List UInt8} (h : part.2.length ≤ 16) :
    (dataRecord part).IsWritable := by
  refine ⟨?_, by omega⟩
  simp only [pageSize]
  omega

theorem isBody_map_dataRecord (address : Nat) (bytes : List UInt8) :
    IsBody ((chunks address bytes).map dataRecord) := by
  intro r hr
  obtain ⟨part, hpart, rfl⟩ := List.mem_map.1 hr
  exact ⟨isWritable_dataRecord (length_le_of_mem_chunks address bytes part hpart),
    by simp [dataRecord]⟩

theorem isBody_pagedRecords {parts : List (Int × List UInt8)} {first : Bool}
    {records : List Record} (hparts : ∀ part ∈ parts, part.2.length ≤ 16)
    (h : pagedRecords first parts = some records) : IsBody records := by
  induction parts generalizing first records with
  | nil =>
    obtain rfl := Option.some.inj h
    simp [IsBody]
  | cons part parts ih =>
    simp only [pagedRecords, Option.bind_eq_bind, Option.bind_eq_some_iff] at h
    obtain ⟨rest, hrest, h⟩ := h
    have hbody := ih (fun other hother => hparts other (List.mem_cons_of_mem part hother)) hrest
    have hpart : (dataRecord part).IsWritable ∧ dataRecord part ≠ .endOfFile :=
      ⟨isWritable_dataRecord (hparts part List.mem_cons_self), by simp [dataRecord]⟩
    split at h
    · obtain ⟨page, hpage, h⟩ := Option.bind_eq_some_iff.1 h
      obtain rfl := Option.some.inj h
      rw [pageRecord?] at hpage
      split at hpage
      · next hbounds =>
        obtain rfl := Option.some.inj hpage
        have hwritable : Record.IsWritable (.linearBase (Int.fdiv part.1 pageSize).toNat) := by
          simp only [Record.IsWritable]
          omega
        exact List.forall_mem_cons.2
          ⟨⟨hwritable, by simp⟩, List.forall_mem_cons.2 ⟨hpart, hbody⟩⟩
      · simp at hpage
    · obtain rfl := Option.some.inj h
      exact List.forall_mem_cons.2 ⟨hpart, hbody⟩

/-- There are records for all bytes below 4 GiB, and a loader that has read nothing takes them. -/
theorem loads_ofBytes (address : Nat) (bytes : List UInt8)
    (hend : address + bytes.length ≤ 0x100000000) :
    ∃ records, ofBytes? address bytes = some (records ++ [.endOfFile]) ∧ IsBody records ∧
      Loads .empty records address bytes := by
  have hfree : ∀ x, address ≤ x → Loader.empty.memory[x]? = none :=
    fun x _ => Std.TreeMap.getElem?_emptyc
  simp only [ofBytes?]
  by_cases hshort : (address : Int) + (bytes.length : Nat) - 1 ≤ 65535
  · rw [if_pos hshort]
    exact ⟨_, rfl, isBody_map_dataRecord address bytes,
      loads_within address bytes rfl (by omega) hfree⟩
  · rw [if_neg hshort]
    obtain ⟨records, hrecords, hloads⟩ := loads_paged address bytes hend true
    rw [hrecords]
    exact ⟨records, rfl, isBody_pagedRecords (length_le_of_mem_chunks address bytes) hrecords,
      hloads .empty (.inl rfl) hfree⟩

/-- A file is made of digits, colons and line ends. -/
theorem mem_render {d : Document} {c : Char} (h : c ∈ d.render) :
    c = '\n' ∨ 48 ≤ c.toNat ∧ c.toNat < 128 := by
  obtain ⟨r, -, hc⟩ := List.mem_flatMap.1 h
  rcases List.mem_append.1 hc with hc | hc
  · exact .inr (r.encode_bounds c hc)
  · exact .inl (List.mem_singleton.1 hc)

theorem plain_render (d : Document) : ∀ c ∈ d.render, c.toNat < 128 := by
  intro c hc
  rcases mem_render hc with rfl | ⟨-, hc⟩
  · decide
  · exact hc

end Document

namespace Memory

open Document (IsBody)

/-- The lines of records are loaded as the records are, up to the one that ends the file. -/
theorem runLines_encode {records : List Record} (hbody : IsBody records) {l l' : Loader}
    (hload : records.foldlM Loader.step l = .ok l') (line : Nat) :
    runLines line ((records ++ [Record.endOfFile]).map Record.encode) l =
      .ok (.atRecord l'.memory) := by
  induction records generalizing l line with
  | nil =>
    obtain rfl := Except.ok.inj hload
    rfl
  | cons r records ih =>
    obtain ⟨⟨hwritable, hne⟩, hrest⟩ := List.forall_mem_cons.1 hbody
    have hdecode := Record.decode_encode hwritable
    rw [List.foldlM_cons] at hload
    cases hstep : l.step r with
    | error cause => simp [hstep, bind, Except.bind] at hload
    | ok next =>
      rw [hstep] at hload
      have hnext := ih hrest (l := next) hload (line + 1)
      rw [List.cons_append, List.map_cons]
      obtain ⟨c, cs, hcs⟩ := List.exists_cons_of_ne_nil r.encode_ne_nil
      rw [hcs] at hdecode ⊢
      rw [runLines, hdecode]
      · cases r with
        | endOfFile => exact absurd rfl hne
        | data | segmentBase | linearBase | start => simp only [hstep, hnext]
      · simp

/-- **A file written for bytes at consecutive addresses describes exactly these bytes.** -/
theorem ofFile_ofBytes (address : Nat) (bytes : List UInt8)
    (hend : address + bytes.length ≤ 0x100000000) :
    ∃ document memory, Document.ofBytes? address bytes = some document ∧
      ofFile (String.ofList document.render).toUTF8 = .ok memory ∧
      ∀ x, memory[x]? = if address ≤ x then bytes[x - address]? else none := by
  obtain ⟨records, hrecords, hbody, l', hload, hview⟩ :=
    Document.loads_ofBytes address bytes hend
  have hlines : Utf8.linesFrom false [] (Document.render (records ++ [.endOfFile])) =
      (records ++ [Record.endOfFile]).map Record.encode := by
    have hends : ∀ line ∈ (records ++ [Record.endOfFile]).map Record.encode,
        ∀ c ∈ line, c ≠ '\n' ∧ c ≠ '\r' := by
      intro line hline c hc
      obtain ⟨r, -, rfl⟩ := List.mem_map.1 hline
      exact (r.encode_plain c hc).2
    have hsplit := Utf8.linesFrom_flatMap hends
    rwa [List.flatMap_map] at hsplit
  refine ⟨_, l'.memory, hrecords, ?_, fun x => ?_⟩
  · rw [ofFile, Utf8.read_ofList (Document.plain_render _), ofText, Utf8.Text.lines,
      Option.isSome_none, hlines, runLines_encode hbody hload]
  · rw [hview, overlay]
    by_cases hx : address ≤ x ∧ x < address + bytes.length
    · rw [if_pos hx, if_pos hx.1]
    · rw [if_neg hx]
      split
      · rw [List.getElem?_eq_none (by omega)]
        exact Std.TreeMap.getElem?_emptyc
      · exact Std.TreeMap.getElem?_emptyc

end Memory

end NorFlash.IntelHex
