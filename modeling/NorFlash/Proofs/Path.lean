import NorFlash.FileTree.Lookup
import NorFlash.Path

/-!
# Names of a path

The file tree follows the components of a text, and a `Path` is written as a text. For the paths
that `Path.ofString` reads, the components of the text are the names of the path again
(`Path.components_render`), so that the parent of a path is followed by all its names but the last.
A word without separators that stands in the text of a path stands in the text that was read
(`Path.infix_of_infix_render`).
-/

namespace NorFlash

namespace Path

/-! ## Splitting -/

/-- No part between separators holds one. -/
theorem not_mem_of_mem_splitOn {separator : Char} {cs part : List Char}
    (h : part ∈ cs.splitOn separator) : separator ∉ part := by
  induction cs generalizing part with
  | nil =>
    obtain rfl : part = [] := by simpa using h
    exact List.not_mem_nil
  | cons c cs ih =>
    rw [List.splitOn_cons_eq_if_modifyHead] at h
    split at h
    · rcases List.mem_cons.1 h with rfl | hrest
      · exact List.not_mem_nil
      · exact ih hrest
    · next hc =>
      have hne : separator ≠ c := fun hbad => hc (by simp [hbad])
      cases hsplit : cs.splitOn separator with
      | nil => exact absurd hsplit (List.splitOn_ne_nil separator cs)
      | cons first rest =>
        rw [hsplit, List.modifyHead_cons] at h
        rcases List.mem_cons.1 h with rfl | hrest
        · exact List.not_mem_cons_of_ne_of_not_mem hne (ih (hsplit ▸ List.mem_cons_self))
        · exact ih (hsplit ▸ List.mem_cons_of_mem _ hrest)

theorem infix_intercalate {parts : List (List Char)} {part : List Char} (h : part ∈ parts) :
    part <:+: ['/'].intercalate parts := by
  induction parts with
  | nil => simp at h
  | cons first rest ih =>
    cases rest with
    | nil =>
      obtain rfl := List.mem_singleton.1 h
      simp
    | cons next rest =>
      rw [List.intercalate_cons_cons, List.append_assoc]
      rcases List.mem_cons.1 h with rfl | hrest
      · exact List.infix_append_left
      · exact List.infix_append_of_infix_right (List.infix_append_of_infix_right (ih hrest))

/-- A name of a path stands in the text that the path was read from. -/
theorem infix_of_mem_names {text name : String} (h : name ∈ (ofString text).names) :
    name.toList <:+: text.toList := by
  obtain ⟨cs, hcs, rfl⟩ := List.mem_map.1 h
  have hmem : cs ∈ text.toList.splitOn '/' := (List.mem_filter.1 hcs).1
  simpa [List.intercalate_splitOn] using infix_intercalate hmem

/-! ## Proper paths -/

/-- The names of a path are names indeed: none is empty, stands for the directory itself or holds a
separator. -/
def IsProper (p : Path) : Prop :=
  ∀ name ∈ p.names, name ≠ "" ∧ name ≠ "." ∧ '/' ∉ name.toList

theorem isProper_ofString (text : String) : (ofString text).IsProper := by
  intro name hname
  obtain ⟨cs, hcs, rfl⟩ := List.mem_map.1 hname
  obtain ⟨hmem, hisName⟩ := List.mem_filter.1 hcs
  simp only [isName, Bool.and_eq_true, decide_eq_true_eq] at hisName
  refine ⟨?_, ?_, by simpa using not_mem_of_mem_splitOn hmem⟩
  · intro hempty
    exact hisName.1 (by simpa using congrArg String.toList hempty)
  · intro hdot
    exact hisName.2 (by simpa using congrArg String.toList hdot)

theorem mem_of_mem_names {text name : String} {c : Char} (h : name ∈ (ofString text).names)
    (hc : c ∈ name.toList) : c ∈ text.toList :=
  (infix_of_mem_names h).subset hc

theorem IsProper.parent {p : Path} (h : p.IsProper) : p.parent.IsProper :=
  fun name hname => h name (List.dropLast_subset _ hname)

/-! ## The text of a path -/

/-- Where following a path starts, seen from a directory. -/
def start (p : Path) (directory : Location) : Location :=
  if p.root = .relative then directory else []

/-- The names that are followed for a path; the path without names leads to where it starts. -/
def steps (p : Path) : List String :=
  if p.root = .relative ∧ p.names = [] then ["."] else p.names

theorem toList_render {p : Path} (h : ¬ (p.root = .relative ∧ p.names = [])) :
    p.render.toList = p.root.text.toList ++ ['/'].intercalate (p.names.map String.toList) := by
  obtain ⟨first, names⟩ := p
  rw [render]
  split
  · next hroot hnames => exact absurd ⟨hroot, hnames⟩ h
  · rw [String.toList_append, String.toList_intercalate]
    rfl

theorem splitOn_intercalate_names {p : Path} (h : p.IsProper) :
    (['/'].intercalate (p.names.map String.toList)).splitOn '/' =
      if p.names = [] then [[]] else p.names.map String.toList := by
  split
  · next hnil => simp [hnil]
  · next hne =>
    refine List.splitOn_intercalate '/' (fun cs hcs => ?_) (by simpa using hne)
    obtain ⟨name, hname, rfl⟩ := List.mem_map.1 hcs
    exact (h name hname).2.2

/-- Separators in front leave nothing behind. -/
theorem splitOn_root_append (first : PathRoot) (cs : List Char) :
    (first.text.toList ++ cs).splitOn '/' =
      List.replicate first.text.toList.length [] ++ cs.splitOn '/' := by
  cases first with
  | relative => rfl
  | root | doubleRoot => simp [PathRoot.text, List.splitOn_cons_eq_if_modifyHead]

theorem components_render {p : Path} (h : p.IsProper) :
    FileTree.components p.render = p.steps := by
  by_cases hempty : p.root = .relative ∧ p.names = []
  · rw [steps, if_pos hempty, render, hempty.1, hempty.2]
    decide
  · have hparts : (p.render.toList.splitOn '/').map String.ofList =
        List.replicate p.root.text.toList.length "" ++
          if p.names = [] then [""] else p.names := by
      rw [toList_render hempty, splitOn_root_append, splitOn_intercalate_names h]
      split <;> simp [Function.comp_def]
    have hnames : ((p.render.toList.splitOn '/').map String.ofList).filter (· ≠ "") =
        p.names := by
      have hkept : p.names.filter (· ≠ "") = p.names :=
        List.filter_eq_self.2 fun name hname => by simpa using (h name hname).1
      rw [hparts, List.filter_append, List.filter_replicate, if_neg (by simp), List.nil_append]
      by_cases hnil : p.names = []
      · rw [if_pos hnil, hnil]
        rfl
      · rw [if_neg hnil, hkept]
    rw [steps, if_neg hempty, FileTree.components]
    simp only [hnames]
    refine if_neg ?_
    rintro ⟨hne, hlast⟩
    rw [hparts, if_neg hne, List.getLast?_append, List.getLast?_eq_some_getLast hne] at hlast
    exact (h _ (List.getLast_mem hne)).1 (Option.some.inj hlast)

theorem startOf_render_of_absolute {p : Path} (h : p.root ≠ .relative) (directory : Location) :
    FileTree.startOf p.render directory = [] := by
  rw [FileTree.startOf, toList_render fun hempty => h hempty.1]
  obtain ⟨first, names⟩ := p
  cases first with
  | relative => exact absurd rfl h
  | root | doubleRoot => simp [PathRoot.text]

theorem startOf_render {p : Path} (h : p.IsProper) (directory : Location) :
    FileTree.startOf p.render directory = p.start directory := by
  by_cases hempty : p.root = .relative ∧ p.names = []
  · rw [start, if_pos hempty.1, render, hempty.1, hempty.2]
    rfl
  · rw [FileTree.startOf, toList_render hempty, start]
    obtain ⟨first, names⟩ := p
    cases first with
    | root | doubleRoot => simp [PathRoot.text]
    | relative =>
      cases names with
      | nil => exact absurd ⟨rfl, rfl⟩ hempty
      | cons name names =>
        obtain ⟨hne, -, hslash⟩ := h name List.mem_cons_self
        obtain ⟨c, cs, hcs⟩ : ∃ c cs, name.toList = c :: cs :=
          List.exists_cons_of_ne_nil fun hnil => hne (String.toList_eq_nil_iff.1 hnil)
        have hc : c ≠ '/' := by
          rintro rfl
          simp [hcs] at hslash
        cases names <;> simp [PathRoot.text, hcs, hc, List.intercalate_cons_cons]

theorem render_ne_empty {p : Path} (h : p.IsProper) : p.render ≠ "" := by
  intro hrender
  have hsteps := components_render h
  by_cases hempty : p.root = .relative ∧ p.names = []
  · rw [render, hempty.1, hempty.2] at hrender
    exact absurd hrender (by decide)
  · rw [hrender, steps, if_neg hempty] at hsteps
    have hnames : p.names = [] := hsteps.symm
    have hroot : p.root ≠ .relative := fun hroot => hempty ⟨hroot, hnames⟩
    obtain ⟨first, names⟩ := p
    cases first <;> simp_all [render, PathRoot.text]

theorem intercalate_prefix (parts : List (List Char)) (last : List Char) :
    ['/'].intercalate parts <+: ['/'].intercalate (parts ++ [last]) := by
  induction parts with
  | nil => exact List.nil_prefix
  | cons part rest ih =>
    cases rest with
    | nil => simp [List.intercalate_cons_cons]
    | cons next rest =>
      rw [List.cons_append, List.cons_append, List.intercalate_cons_cons,
        List.intercalate_cons_cons]
      exact (List.prefix_append_right_inj _).2 ih

theorem utf8ByteSize_le_of_prefix {text longer : String} (h : text.toList <+: longer.toList) :
    text.utf8ByteSize ≤ longer.utf8ByteSize := by
  obtain ⟨rest, hrest⟩ := h
  have hsplit : longer = text ++ String.ofList rest := by
    rw [← String.toList_inj, String.toList_append, String.toList_ofList, hrest]
  rw [hsplit, String.utf8ByteSize_append]
  exact Nat.le_add_right _ _

/-- The text of the parent is no longer than that of the path. -/
theorem utf8ByteSize_render_parent_le {p : Path} (hp : p.IsProper) :
    p.parent.render.utf8ByteSize ≤ p.render.utf8ByteSize := by
  by_cases hempty : p.parent.root = .relative ∧ p.parent.names = []
  · have hpos : p.render.utf8ByteSize ≠ 0 := fun hzero =>
      render_ne_empty hp (String.utf8ByteSize_eq_zero_iff.1 hzero)
    have hone : p.parent.render.utf8ByteSize = 1 := by
      rw [render, hempty.1, hempty.2]
      decide
    omega
  · refine utf8ByteSize_le_of_prefix ?_
    have hnames : ¬ (p.root = .relative ∧ p.names = []) := fun h =>
      hempty ⟨h.1, by rw [parent, h.2]; rfl⟩
    rw [toList_render hempty, toList_render hnames]
    refine (List.prefix_append_right_inj _).2 ?_
    rcases List.eq_nil_or_concat p.names with hnil | ⟨names, last, hlast⟩
    · rw [parent, hnil]
      exact List.prefix_rfl
    · rw [parent, hlast, List.concat_eq_append, List.dropLast_concat, List.map_append]
      exact intercalate_prefix _ _

theorem mem_intercalate {c separator : Char} (hc : c ≠ separator) (parts : List (List Char)) :
    c ∈ [separator].intercalate parts ↔ ∃ part ∈ parts, c ∈ part := by
  induction parts with
  | nil => simp
  | cons part parts ih =>
    cases parts with
    | nil => simp
    | cons next parts =>
      rw [List.intercalate_cons_cons]
      simp only [List.mem_append, ih, hc, List.mem_cons, exists_eq_or_imp, List.not_mem_nil,
        or_false]

/-- A character that is neither a separator nor a dot stands in the text of a path as it stands in
its names. -/
theorem mem_render {p : Path} {c : Char} (hslash : c ≠ '/') (hdot : c ≠ '.') :
    c ∈ p.render.toList ↔ ∃ name ∈ p.names, c ∈ name.toList := by
  by_cases hempty : p.root = .relative ∧ p.names = []
  · rw [render, hempty.1, hempty.2]
    simp [hdot]
  · have hroot : c ∉ p.root.text.toList := by
      cases p.root <;> simp [PathRoot.text, hslash]
    rw [toList_render hempty, List.mem_append, mem_intercalate hslash]
    constructor
    · rintro (hbad | ⟨cs, hcs, hc⟩)
      · exact absurd hbad hroot
      · obtain ⟨name, hname, rfl⟩ := List.mem_map.1 hcs
        exact ⟨name, hname, hc⟩
    · rintro ⟨name, hname, hc⟩
      exact .inr ⟨_, List.mem_map_of_mem hname, hc⟩

/-! ## Words of a path -/

section

variable {word before after : List Char}

/-- A word without separators stands on one side of each separator. -/
theorem infix_append_slash (hword : '/' ∉ word) (h : word <:+: before ++ '/' :: after) :
    word <:+: before ∨ word <:+: after := by
  rcases List.infix_append_iff.1 h with hleft | hright | ⟨first, second, rfl, hfirst, hsecond⟩
  · exact .inl hleft
  · rcases List.infix_cons_iff.1 hright with hprefix | hrest
    · cases word with
      | nil => exact .inl List.nil_infix
      | cons c cs =>
        exfalso
        exact hword ((List.cons_prefix_cons.1 hprefix).1 ▸ List.mem_cons_self)
    · exact .inr hrest
  · cases second with
    | nil =>
      left
      simpa using hfirst.isInfix
    | cons c cs =>
      exfalso
      have hc : c = '/' := (List.cons_prefix_cons.1 hsecond).1
      exact hword (by simp [hc])

theorem exists_infix_of_intercalate (hword : '/' ∉ word) (hne : word ≠ [])
    {parts : List (List Char)} (h : word <:+: ['/'].intercalate parts) :
    ∃ part ∈ parts, word <:+: part := by
  induction parts with
  | nil =>
    exfalso
    exact hne (by simpa using h)
  | cons part rest ih =>
    cases rest with
    | nil => exact ⟨part, List.mem_cons_self, by simpa using h⟩
    | cons next rest =>
      rw [List.intercalate_cons_cons, List.append_assoc] at h
      rcases infix_append_slash hword h with hpart | hrest
      · exact ⟨part, List.mem_cons_self, hpart⟩
      · obtain ⟨other, hmem, hother⟩ := ih hrest
        exact ⟨other, List.mem_cons_of_mem _ hmem, hother⟩

/-- **A word of a path stands in the text that the path was read from**: what is left out of the
text, separators and names of the directory itself, brings no word together. -/
theorem infix_of_infix_render {text : String} (hword : '/' ∉ word) (hdot : word ≠ ['.'])
    (hne : word ≠ []) (h : word <:+: (ofString text).render.toList) : word <:+: text.toList := by
  by_cases hempty : (ofString text).root = .relative ∧ (ofString text).names = []
  · exfalso
    rw [render, hempty.1, hempty.2] at h
    have hshort : word <+: ['.'] ∨ word <:+: [] := List.infix_cons_iff.1 h
    rcases hshort with ⟨rest, hrest⟩ | hnil
    · cases word with
      | nil => exact hne rfl
      | cons c cs =>
        obtain ⟨rfl, hcs⟩ := List.cons.inj hrest
        obtain ⟨rfl, -⟩ := List.append_eq_nil_iff.1 hcs
        exact hdot rfl
    · exact hne (by simpa using hnil)
  · rw [toList_render hempty] at h
    have hnames : word <:+: ['/'].intercalate ((ofString text).names.map String.toList) := by
      cases hroot : (ofString text).root with
      | relative => simpa [hroot, PathRoot.text] using h
      | root =>
        rw [hroot] at h
        have hafter : word <:+: [] ∨ word <:+: _ := infix_append_slash hword h
        rcases hafter with hnil | hrest
        · exact absurd (List.infix_nil.1 hnil) hne
        · exact hrest
      | doubleRoot =>
        rw [hroot] at h
        have hafter : word <:+: ['/'] ∨ word <:+: _ := infix_append_slash hword h
        rcases hafter with hslash | hrest
        · have hnil : word <:+: [] ∨ word <:+: [] := infix_append_slash hword hslash
          exact absurd (List.infix_nil.1 (or_self_iff.1 hnil)) hne
        · exact hrest
    obtain ⟨part, hpart, hin⟩ := exists_infix_of_intercalate hword hne hnames
    obtain ⟨name, hname, rfl⟩ := List.mem_map.1 hpart
    exact hin.trans (infix_of_mem_names hname)

end

end Path

end NorFlash
