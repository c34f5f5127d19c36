import NorFlash.Proofs.Schema

/-!
# The shape of what a schema allows

`Schema.Shaped` says at once what an allowed object looks like down to its atoms: each mapping in
it has keys that the schema names at that place and no others, each list has items of one schema,
and everything else is an atom of the kind that is asked for. All that a schema allows is so shaped
(`Schema.Allows.shaped`).
-/

namespace NorFlash.Schema

open Yaml (Document ObjectId Part)

variable {d : Document} {id key value : ObjectId} {path : String}

/-- An object has the form that a schema describes, and so has each object in it. -/
inductive Shaped (d : Document) : Schema → ObjectId → Prop where
  /-- A text. -/
  | text {id : ObjectId} {s : String} (object : d.object id = .atom (.text s)) : Shaped d .text id
  /-- Bytes in the place of a text. -/
  | bytes {id : ObjectId} {data : List UInt8} (object : d.object id = .atom (.binary data)) :
    Shaped d .text id
  /-- Nothing in the place of a text. -/
  | noText {id : ObjectId} (object : d.object id = .atom .null) : Shaped d .text id
  /-- An integer that is large enough. -/
  | integer {least i : Int} {id : ObjectId} (object : d.object id = .atom (.integer i))
    (large : least ≤ i) : Shaped d (.integer least) id
  /-- Nothing in the place of an integer. -/
  | noInteger {least : Int} {id : ObjectId} (object : d.object id = .atom .null) :
    Shaped d (.integer least) id
  /-- A list. -/
  | list {item : Schema} {items : List ObjectId} {id : ObjectId}
    (object : d.object id = .list items) (shaped : ∀ part ∈ items, Shaped d item part) :
    Shaped d (.list item) id
  /-- An empty list of keys with their values in the place of a list. -/
  | noPairs {item : Schema} {id : ObjectId} (object : d.object id = .pairs []) :
    Shaped d (.list item) id
  /-- A mapping: each of its keys is that of a field, and its value has the form of the field. -/
  | map {fields : List (FieldName × Schema)} {entries : List (ObjectId × ObjectId)} {id : ObjectId}
    (field : ObjectId × ObjectId → FieldName × Schema) (object : d.object id = .map entries)
    (named : ∀ entry ∈ entries, field entry ∈ fields ∧ d.isText (field entry).1.text entry.1 = true)
    (valued : ∀ entry ∈ entries, (field entry).1.required = true → d.isNull entry.2 = false)
    (shaped : ∀ entry ∈ entries, Shaped d (field entry).2 entry.2)
    (complete : ∀ f ∈ fields, f.1.required = true → ∃ value, d.entry? f.1.text id = some value) :
    Shaped d (.map fields) id

/-! ## Lists -/

/-- A key with its value has the form of no schema. -/
theorem violationsAt_pair (schema : Schema) :
    violationsAt d path (.pair key value) schema ≠ [] := by
  cases schema <;> simp [violationsAt, Document.partObject?]

/-- An object that is allowed as a list is one of allowed items, or an empty list of keys with their
values. -/
theorem Allows.list {item : Schema} (h : Allows (.list item) d id) :
    (∃ items, d.object id = .list items ∧ ∀ part ∈ items, Allows item d part) ∨
      d.object id = .pairs [] := by
  have hpart : d.partObject? (.object id) = some (d.object id) := rfl
  obtain ⟨path, h⟩ := h
  rw [violationsAt, hpart] at h
  split at h
  · next items hobject =>
    refine .inl ⟨items, Option.some.inj hobject, fun part hmem => ?_⟩
    exact violationsAt_of_mem h (List.mem_map_of_mem hmem)
  · next items hobject =>
    cases items with
    | nil => exact .inr (Option.some.inj hobject)
    | cons pair rest =>
      obtain ⟨path, hbad⟩ := violationsAt_of_mem h List.mem_cons_self
      exact absurd hbad (violationsAt_pair item)
  · simp at h

/-! ## Mappings -/

/-- An entry with which nothing is wrong is that of a field. -/
theorem exists_field {fields : List (FieldName × Schema)}
    (h : entryViolations d path key value fields = []) :
    ∃ field ∈ fields, d.isText field.1.text key = true ∧
      (field.1.required = true → d.isNull value = false) ∧ Allows field.2 d value := by
  induction fields with
  | nil => simp [entryViolations] at h
  | cons field rest ih =>
    rw [entryViolations] at h
    split at h
    · next hkey =>
      split at h
      · simp at h
      · next hnull =>
        rw [Bool.and_eq_true, not_and, Bool.not_eq_true] at hnull
        exact ⟨field, List.mem_cons_self, hkey, hnull, _, h⟩
    · obtain ⟨found, hmem, hfound⟩ := ih h
      exact ⟨found, List.mem_cons_of_mem _ hmem, hfound⟩

/-- The schema of a field is smaller than that of its mapping, which has the size `1` of its own. -/
theorem sizeOf_field_lt {fields : List (FieldName × Schema)} {field : FieldName × Schema}
    (h : field ∈ fields) : sizeOf field.2 < 1 + sizeOf fields := by
  have hmem := List.sizeOf_lt_of_mem h
  obtain ⟨name, schema⟩ := field
  simp only [Prod.mk.sizeOf_spec] at hmem ⊢
  omega

/-- **What a schema allows has its shape.** -/
theorem Allows.shaped : ∀ {schema : Schema} {id : ObjectId}, Allows schema d id →
    Shaped d schema id
  | .text, id, h => by
    rcases allows_text_iff.1 h with ⟨s, h⟩ | ⟨data, h⟩ | h
    · exact .text h
    · exact .bytes h
    · exact .noText h
  | .integer least, id, h => by
    rcases h.integer with h | ⟨i, h, hle⟩
    · exact .noInteger h
    · exact .integer h hle
  | .list item, id, h => by
    rcases h.list with ⟨items, hobject, hitems⟩ | h
    · exact .list hobject fun part hmem => (hitems part hmem).shaped
    · exact .noPairs h
  | .map fields, id, h => by
    obtain ⟨path, entries, hobject, -, hvalid⟩ := h.map
    have hfield : ∀ entry : ObjectId × ObjectId, ∃ field : FieldName × Schema, entry ∈ entries →
        field ∈ fields ∧ d.isText field.1.text entry.1 = true ∧
          (field.1.required = true → d.isNull entry.2 = false) ∧ Allows field.2 d entry.2 := by
      intro entry
      by_cases hmem : entry ∈ entries
      · obtain ⟨field, hfield⟩ := exists_field (hvalid entry hmem)
        exact ⟨field, fun _ => hfield⟩
      · exact ⟨(⟨"", false⟩, .text), fun h => absurd h hmem⟩
    choose field hfield using hfield
    refine .map field hobject (fun entry hmem => ?_) (fun entry hmem => (hfield entry hmem).2.2.1)
      (fun entry hmem => ?_) (fun f hmem => h.exists_entry hmem)
    · exact ⟨(hfield entry hmem).1, (hfield entry hmem).2.1⟩
    · have hlt := sizeOf_field_lt (hfield entry hmem).1
      exact (hfield entry hmem).2.2.2.shaped
termination_by schema => sizeOf schema

end NorFlash.Schema
