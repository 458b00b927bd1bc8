/-
SqlAtlas.Proofs.Gate.Keyword — an additional keyword denies the same in whatever
case it is configured.

Everything that a rule is made from does not tell an ASCII capital from its small
letter: the characters of keywords, the two that mark the beginning of a word,
and the folding that occurrences are judged by. So keywords that differ in the
case of such letters only are keywords together (`SameKeyword.isKeyword`) and
have rules that occur in the same texts (`SameKeyword.occurs`).
-/
import SqlAtlas.Proofs.Gate.Occurrence
import SqlAtlas.Proofs.Gate.Rules
import SqlAtlas.Proofs.Text.Ascii

namespace SqlAtlas.Gate

open Text (isAscii isWordChar map_eq_map_of_sameIgnoringCase sameIgnoringCase trim)

/-! ## 1. The characters of keywords -/

theorem isAscii_of_isKeywordChar {c : Char} (h : isKeywordChar c = true) : isAscii c = true := by
  simp only [isKeywordChar, Bool.or_eq_true, decide_eq_true_eq] at h
  rcases h with (halnum | rfl) | rfl
  · exact Text.isAscii_of_isAlphanum halnum
  · decide
  · decide

/-- The dot is the only character of keywords at which no word goes on. -/
theorem isWordChar_of_isKeywordChar {c : Char} (h : isKeywordChar c = true) :
    isWordChar c = true ↔ c ≠ '.' := by
  have hall : ∀ n < 0x80, isKeywordChar (Char.ofNat n) = true →
      (isWordChar (Char.ofNat n) = true ↔ Char.ofNat n ≠ '.') := by decide +kernel
  have hc := hall c.toNat (by simpa [isAscii] using isAscii_of_isKeywordChar h)
  rw [Char.ofNat_toNat] at hc
  exact hc h

section

variable {s t : List Char} (h : sameIgnoringCase s t = true)

include h

theorem sameLetters_of_sameIgnoringCase : SameLetters s t :=
  map_eq_map_of_sameIgnoringCase (by decide +kernel) h

theorem all_isKeywordChar_of_sameIgnoringCase : s.all isKeywordChar = t.all isKeywordChar := by
  have hall : ∀ u : List Char, u.all isKeywordChar = (u.map isKeywordChar).all id := by
    intro u
    rw [List.all_map, Function.id_comp]
  rw [hall s, hall t, map_eq_map_of_sameIgnoringCase (by decide +kernel) h]

theorem marksPrefix_of_sameIgnoringCase : marksPrefix s = marksPrefix t := by
  have hlast : ∀ u : List Char, marksPrefix u
      = decide ((u.map (fun c => decide (c = '_' ∨ c = '.'))).getLast? = some true) := by
    intro u
    rw [marksPrefix, List.getLast?_map]
    cases u.getLast? <;> simp
  rw [hlast s, hlast t, map_eq_map_of_sameIgnoringCase (by decide +kernel) h]

end

/-! ## 2. Keywords and their rules -/

/-- Two additional keywords are the same up to the case of ASCII letters and the
blanks at their ends. -/
def SameKeyword (a b : String) : Prop :=
  sameIgnoringCase (trim a.toList) (trim b.toList) = true

instance (a b : String) : Decidable (SameKeyword a b) := inferInstanceAs (Decidable (_ = true))

namespace SameKeyword

variable {a b : String} (h : SameKeyword a b)

include h

theorem symm : SameKeyword b a := by
  rw [SameKeyword, sameIgnoringCase, BEq.comm]
  exact h

/-- Whatever is the same as a keyword is one. -/
theorem isKeyword (ha : IsKeyword a) : IsKeyword b where
  nonempty hnil := by
    have hlength := (sameLetters_of_sameIgnoringCase h).length_eq
    rw [hnil, List.length_nil] at hlength
    exact ha.nonempty (List.length_eq_zero_iff.mp hlength)
  plain := by
    have hall : (trim a.toList).all isKeywordChar = true := List.all_eq_true.mpr ha.plain
    rw [all_isKeywordChar_of_sameIgnoringCase h] at hall
    exact List.all_eq_true.mp hall

theorem denies (p k s : List Char) (hk : (extraRule a).Denies p k s) :
    (extraRule b).Denies p k s := by
  obtain ⟨hletters, hbegins, hends⟩ := hk
  refine ⟨?_, hbegins, ?_⟩
  · rw [extraRule, String.toList_ofList] at hletters ⊢
    exact hletters.trans (sameLetters_of_sameIgnoringCase h)
  · rw [extraRule] at hends ⊢
    rwa [← marksPrefix_of_sameIgnoringCase h]

theorem occurs {text : List Char} (ha : (extraRule a).Occurs text) :
    (extraRule b).Occurs text := by
  obtain ⟨p, k, s, htext, hk⟩ := ha
  exact ⟨p, k, s, htext, h.denies p k s hk⟩

end SameKeyword

end SqlAtlas.Gate
