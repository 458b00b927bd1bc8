/-
SqlAtlas.Proofs.SqlType.Built — the SQL types that can be built.

A SQL type is made from a text that has a base name, and is changed by the
setters, which leave both names alone. So the two never part: `Sound` says that
the name is the text without the blanks around it, and that the base name is the
one that this name has. Every type that is sound can be built, from its own name
(`built_iff`).
-/
import SqlAtlas.Proofs.NativeDescriptor.Built
import SqlAtlas.Proofs.SqlName.BaseName

namespace SqlAtlas.SqlType

open Text (trim)

/-- A type that the setters lead to from a text. -/
inductive Built : SqlType → Prop
  | ofName {text : List Char} {t : SqlType} (h : SqlType.ofName text = .ok t) : Built t
  | withLength {t : SqlType} (h : Built t) (length : Length) : Built (t.withLength length)
  | withPrecision {t : SqlType} (h : Built t) (precision : UInt16) :
      Built (t.withPrecision precision)
  | withPrecisionScale {t : SqlType} (h : Built t) (precision scale : UInt16) :
      Built (t.withPrecisionScale precision scale)
  | withUnicode {t : SqlType} (h : Built t) (unicode : Bool) : Built (t.withUnicode unicode)
  | withFixed {t : SqlType} (h : Built t) (fixed : Bool) : Built (t.withFixed fixed)

/-- A trimmed name, its base name, and sizes that the setters lead to. -/
structure Sound (t : SqlType) : Prop where
  trimmed : trim t.name.toList = t.name.toList
  name_ne : t.name ≠ ""
  base : t.baseName = String.ofList (SqlAtlas.baseName t.name.toList)
  base_ne : t.baseName ≠ ""
  scaled : t.Scaled

theorem sound_of_ofName {text : List Char} {t : SqlType} (h : ofName text = .ok t) : t.Sound := by
  simp only [ofName] at h
  split at h
  · cases h
  · rename_i hne
    simp only [Bool.or_eq_true, List.isEmpty_iff, not_or] at hne
    cases h
    refine ⟨?_, ?_, rfl, ?_, Sizing.scaled_unsized false⟩
    · rw [plain, String.toList_ofList, Text.trim_trim]
    · simp [plain, hne.1]
    · simp [plain, hne.2]

theorem Built.sound {t : SqlType} (h : t.Built) : t.Sound := by
  induction h with
  | ofName h => exact sound_of_ofName h
  | withLength _ length ih => exact { ih with scaled := ih.scaled }
  | withPrecision _ precision ih =>
      exact { ih with scaled := Sizing.scaled_setPrecision _ precision }
  | withPrecisionScale _ precision scale ih =>
      exact { ih with scaled := Sizing.scaled_setPrecisionScale _ precision scale }
  | withUnicode _ unicode ih => exact { ih with scaled := ih.scaled }
  | withFixed _ fixed ih => exact { ih with scaled := ih.scaled }

/-- A type that is sound is the type of its own name, before the sizes are set. -/
theorem Sound.ofName_eq {t : SqlType} (h : t.Sound) :
    ofName t.name.toList = .ok { t with toSizing := Sizing.unsized false } := by
  have hne : SqlAtlas.baseName (trim t.name.toList) ≠ [] := by
    have hbase := h.base_ne
    rw [h.base] at hbase
    rw [h.trimmed]
    simpa using hbase
  rw [ofName_eq_ok hne, h.trimmed, String.ofList_toList, plain, ← h.base]

/-- **What can be built, seen from its names and sizes.** -/
theorem built_iff {t : SqlType} : t.Built ↔ t.Sound := by
  refine ⟨Built.sound, fun h => ?_⟩
  exact h.scaled.reached (P := fun z => Built { t with toSizing := z }) (.ofName h.ofName_eq)
    (fun _ unicode hz => hz.withUnicode unicode) (fun _ fixed hz => hz.withFixed fixed)
    (fun _ length _ hz => hz.withLength length)
    (fun _ precision hz => hz.withPrecision precision)
    (fun _ precision scale hz => hz.withPrecisionScale precision scale)

end SqlAtlas.SqlType
