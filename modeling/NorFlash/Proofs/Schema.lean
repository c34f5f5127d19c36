import Mathlib.Data.List.Nodup
import NorFlash.Schema

/-!
# What a schema allows

An object that a schema allows (`Schema.Allows`) has the form that the schema asks for: a mapping
has all keys that are required, each with a value (`Schema.Allows.exists_entry`), and the value of
each named key is one that its own schema allows (`Schema.Allows.entry`).
-/

namespace NorFlash.Schema

open Yaml (Document ObjectId Part)

/-- Nothing is wrong with an object, at whatever path it is looked at. -/
def Allows (schema : Schema) (d : Document) (id : ObjectId) : Prop :=
  ∃ path, violationsAt d path (.object id) schema = []

variable {d : Document} {id key value : ObjectId} {path : String}

/-! ## Scalars -/

theorem allows_text_iff :
    Allows .text d id ↔
      (∃ s, d.object id = .atom (.text s)) ∨ (∃ data, d.object id = .atom (.binary data)) ∨
        d.object id = .atom .null := by
  have hpart : d.partObject? (.object id) = some (d.object id) := rfl
  constructor
  · rintro ⟨path, h⟩
    rw [violationsAt, hpart] at h
    split at h
    · next s hobject => exact .inl ⟨s, Option.some.inj hobject⟩
    · next data hobject => exact .inr (.inl ⟨data, Option.some.inj hobject⟩)
    · next hobject => exact .inr (.inr (Option.some.inj hobject))
    · simp at h
  · rintro (⟨s, h⟩ | ⟨data, h⟩ | h)
    all_goals exact ⟨"", by rw [violationsAt, hpart, h]⟩

theorem Allows.integer {least : Int} (h : Allows (.integer least) d id) :
    d.object id = .atom .null ∨ ∃ i, d.object id = .atom (.integer i) ∧ least ≤ i := by
  have hpart : d.partObject? (.object id) = some (d.object id) := rfl
  obtain ⟨path, h⟩ := h
  rw [violationsAt, hpart] at h
  split at h
  · next hobject => exact .inl (Option.some.inj hobject)
  · next i hobject =>
    refine .inr ⟨i, Option.some.inj hobject, ?_⟩
    by_contra hsmall
    rw [if_pos (by omega)] at h
    simp at h
  · simp at h

/-! ## Lists -/

theorem violationsAt_of_mem {item : Schema} {parts : List Part} {part : Part}
    (h : (parts.zipIdx.flatMap fun entry =>
      violationsAt d (path ++ "/" ++ Numeral.decimal entry.2) entry.1 item) = [])
    (hmem : part ∈ parts) : ∃ path, violationsAt d path part item = [] := by
  obtain ⟨i, hi⟩ := List.mem_iff_getElem?.1 hmem
  have hentry := List.mk_mem_zipIdx_iff_getElem?.2 hi
  exact ⟨_, List.flatMap_eq_nil_iff.1 h _ hentry⟩

/-- An object that is allowed as a list of texts is a list of such, or an empty list of keys and
values: a key with its value is no text. -/
theorem Allows.list_text (h : Allows (.list .text) d id) :
    (∃ items, d.object id = .list items ∧ ∀ item ∈ items, Allows .text d item) ∨
      d.object id = .pairs [] := by
  have hpart : d.partObject? (.object id) = some (d.object id) := rfl
  obtain ⟨path, h⟩ := h
  rw [violationsAt, hpart] at h
  split at h
  · next items hobject =>
    refine .inl ⟨items, Option.some.inj hobject, fun item hitem => ?_⟩
    exact violationsAt_of_mem h (List.mem_map_of_mem hitem)
  · next items hobject =>
    cases items with
    | nil => exact .inr (Option.some.inj hobject)
    | cons pair rest =>
      obtain ⟨path, hbad⟩ := violationsAt_of_mem h List.mem_cons_self
      simp [violationsAt, Document.partObject?] at hbad
  · simp at h

/-! ## Mappings -/

theorem isText_eq_false {s t : String} (h : d.isText s id = true) (hne : s ≠ t) :
    d.isText t id = false := by
  rw [Document.isText, beq_iff_eq] at h
  rw [Document.isText, h]
  simp [hne]

/-- A key is looked at as the one field of its name. -/
theorem entryViolations_eq {fields : List (FieldName × Schema)} {name : FieldName}
    {schema : Schema} (hdistinct : (fields.map (·.1.text)).Nodup) (hmem : (name, schema) ∈ fields)
    (hkey : d.isText name.text key = true) :
    entryViolations d path key value fields =
      if name.required && d.isNull value then [⟨.noValue, path ++ "/" ++ name.text⟩]
      else violationsAt d (path ++ "/" ++ name.text) (.object value) schema := by
  induction fields with
  | nil => exact absurd hmem List.not_mem_nil
  | cons field rest ih =>
    obtain ⟨other, otherSchema⟩ := field
    rw [List.map_cons, List.nodup_cons] at hdistinct
    rcases List.mem_cons.1 hmem with heq | hrest
    · obtain ⟨rfl, rfl⟩ := Prod.mk.inj heq
      rw [entryViolations, if_pos hkey]
    · have hne : name.text ≠ other.text := by
        intro hbad
        exact hdistinct.1 (hbad ▸ List.mem_map_of_mem hrest)
      rw [entryViolations, if_neg (by simp [isText_eq_false hkey hne]), ih hdistinct.2 hrest]

theorem Allows.map {fields : List (FieldName × Schema)} (h : Allows (.map fields) d id) :
    ∃ path entries, d.object id = .map entries ∧ missingKeys d path entries fields = [] ∧
      ∀ entry ∈ entries, entryViolations d path entry.1 entry.2 fields = [] := by
  obtain ⟨path, h⟩ := h
  have hpart : d.partObject? (.object id) = some (d.object id) := rfl
  rw [violationsAt, hpart] at h
  split at h
  · next entries hobject =>
    rw [List.append_eq_nil_iff, List.flatMap_eq_nil_iff] at h
    exact ⟨path, entries, Option.some.inj hobject, h⟩
  · simp at h

theorem entry?_eq {entries : List (ObjectId × ObjectId)} (h : d.object id = .map entries)
    (name : String) :
    d.entry? name id = (entries.find? fun entry => d.isText name entry.1).map (·.2) := by
  rw [Document.entry?, h]

/-- A key that is there has a value if it is required, and its value is allowed. -/
theorem Allows.entry {fields : List (FieldName × Schema)} {name : FieldName} {schema : Schema}
    (h : Allows (.map fields) d id) (hdistinct : (fields.map (·.1.text)).Nodup)
    (hmem : (name, schema) ∈ fields) (hentry : d.entry? name.text id = some value) :
    (name.required = true → d.isNull value = false) ∧ Allows schema d value := by
  obtain ⟨path, entries, hobject, -, hvalid⟩ := h.map
  rw [entry?_eq hobject, Option.map_eq_some_iff] at hentry
  obtain ⟨found, hfind, rfl⟩ := hentry
  have hkey := List.find?_some hfind
  have hnone := hvalid found (List.mem_of_find?_eq_some hfind)
  rw [entryViolations_eq hdistinct hmem hkey] at hnone
  split at hnone
  · simp at hnone
  · next hnull =>
    rw [Bool.and_eq_true, not_and, Bool.not_eq_true] at hnull
    exact ⟨hnull, _, hnone⟩

/-- A required key is there. -/
theorem Allows.exists_entry {fields : List (FieldName × Schema)} {name : FieldName}
    {schema : Schema} (h : Allows (.map fields) d id) (hmem : (name, schema) ∈ fields)
    (hrequired : name.required = true) : ∃ value, d.entry? name.text id = some value := by
  obtain ⟨path, entries, hobject, hmissing, -⟩ := h.map
  rw [missingKeys, List.map_eq_nil_iff, List.filter_eq_nil_iff] at hmissing
  have hany := hmissing _ hmem
  rw [Bool.and_eq_true, not_and, Bool.not_eq_true, Bool.not_eq_false'] at hany
  obtain ⟨entry, hentry, hkey⟩ := List.any_eq_true.1 (hany hrequired)
  obtain ⟨found, hfound⟩ := Option.isSome_iff_exists.1
    (List.find?_isSome (p := fun entry => d.isText name.text entry.1).2 ⟨entry, hentry, hkey⟩)
  exact ⟨found.2, by rw [entry?_eq hobject, hfound, Option.map_some]⟩

end NorFlash.Schema
