import NorFlash.Configuration.Settings
import NorFlash.Proofs.Schema

/-!
# Settings of a document

A document that the schema allows says all that `Settings` ask for
(`Settings.exists_ofDocument?`): the keys that are read without a default are required, and a
mapping or a list is never nothing.
-/

namespace NorFlash.Settings

open Yaml (Document ObjectId)
open Schema (Allows)

variable {d : Document} {id : ObjectId}

/-! ## Values -/

theorem exists_word? (h : Allows .text d id) (hnull : d.isNull id = false) :
    ∃ word, word? d id = some word := by
  rcases Schema.allows_text_iff.1 h with ⟨s, h⟩ | ⟨data, h⟩ | h
  · exact ⟨.text s, by simp [word?, Document.atom?, h]⟩
  · exact ⟨.bytes data, by simp [word?, Document.atom?, h]⟩
  · simp [Document.isNull, h] at hnull

theorem exists_integer? {least : Int} (h : Allows (.integer least) d id)
    (hnull : d.isNull id = false) : ∃ i, integer? d id = some i := by
  rcases h.integer with h | ⟨i, h, -⟩
  · simp [Document.isNull, h] at hnull
  · exact ⟨i, by simp [integer?, Document.atom?, h]⟩

theorem exists_words? (h : Allows (.list .text) d id) : ∃ words, words? d id = some words := by
  rcases h.list_text with ⟨items, h, -⟩ | h
  · exact ⟨items.map (word? d), by simp only [words?, h]⟩
  · exact ⟨[], by simp only [words?, h]⟩

/-! ## Keys -/

section

variable {fields : List (FieldName × Schema)} {name : String} {schema : Schema}

/-- A required key has a value that is allowed. -/
theorem exists_required (h : Allows (.map fields) d id)
    (hdistinct : (fields.map (·.1.text)).Nodup) (hmem : required name schema ∈ fields) :
    ∃ value, d.entry? name id = some value ∧ d.isNull value = false ∧ Allows schema d value := by
  obtain ⟨value, hentry⟩ := h.exists_entry hmem rfl
  obtain ⟨hnull, hvalue⟩ := h.entry hdistinct hmem hentry
  exact ⟨value, hentry, hnull rfl, hvalue⟩

theorem exists_wordAt? (h : Allows (.map fields) d id)
    (hdistinct : (fields.map (·.1.text)).Nodup) (hmem : required name .text ∈ fields) :
    ∃ word, wordAt? d name id = some word := by
  obtain ⟨value, hentry, hnull, hvalue⟩ := exists_required h hdistinct hmem
  obtain ⟨word, hword⟩ := exists_word? hvalue hnull
  exact ⟨word, by rw [wordAt?, hentry, Option.bind_some, hword]⟩

theorem exists_integerAt {least : Int} (h : Allows (.map fields) d id)
    (hdistinct : (fields.map (·.1.text)).Nodup) (hmem : required name (.integer least) ∈ fields) :
    ∃ i, (d.entry? name id).bind (integer? d) = some i := by
  obtain ⟨value, hentry, hnull, hvalue⟩ := exists_required h hdistinct hmem
  obtain ⟨i, hi⟩ := exists_integer? hvalue hnull
  exact ⟨i, by rw [hentry, Option.bind_some, hi]⟩

end

/-! ## Documents -/

theorem exists_buildOf? (h : Allows buildSchema d id) : ∃ build, buildOf? d id = some build := by
  obtain ⟨command, hcommand, -, hlist⟩ := exists_required h (by decide) (.head _)
  obtain ⟨words, hwords⟩ := exists_words? hlist
  obtain ⟨result, hresult⟩ := exists_wordAt? h (by decide) (.tail _ (.head _))
  simp [buildOf?, hcommand, hwords, hresult]

theorem exists_artifactOf? (h : Allows artifactSchema d id) :
    ∃ artifact, artifactOf? d id = some artifact := by
  obtain ⟨binary, hbinary⟩ := exists_wordAt? h (by decide) (.head _)
  cases hentry : d.entry? "build" id with
  | none => simp [artifactOf?, hbinary, hentry]
  | some value =>
    have hvalue := (h.entry (by decide) (.tail _ (.head _)) hentry).2
    obtain ⟨build, hbuild⟩ := exists_buildOf? hvalue
    simp [artifactOf?, hbinary, hentry, hbuild]

/-- **A document that the schema allows has settings.** -/
theorem exists_ofDocument? (h : Settings.schema.violations d = []) :
    ∃ settings, ofDocument? d = some settings := by
  have hroot : Allows schema d d.root := ⟨"", h⟩
  obtain ⟨name, hname⟩ := exists_wordAt? hroot (by decide) (.head _)
  obtain ⟨flash, hflash, -, hdevice⟩ := exists_required hroot (by decide) (.tail _ (.head _))
  obtain ⟨deviceSize, hdeviceSize⟩ := exists_integerAt hdevice (by decide) (.head _)
  obtain ⟨blockSize, hblockSize⟩ := exists_integerAt hdevice (by decide) (.tail _ (.head _))
  cases hentry : d.entry? "artifact" d.root with
  | none => simp [ofDocument?, hname, hflash, hdeviceSize, hblockSize, hentry]
  | some value =>
    have hvalue := (hroot.entry (by decide) (.tail _ (.tail _ (.head _))) hentry).2
    obtain ⟨artifact, hartifact⟩ := exists_artifactOf? hvalue
    simp [ofDocument?, hname, hflash, hdeviceSize, hblockSize, hentry, hartifact]

end NorFlash.Settings
