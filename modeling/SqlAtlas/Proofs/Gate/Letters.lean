/-
SqlAtlas.Proofs.Gate.Letters — what texts with the same letters have in common.

A keyword is found by its letters, and a text spells it in any case. A function
that does not tell a character from what it is folded to reads all spellings
alike (`SameLetters.map_eq_map`), and whether it tells them apart is tried on
ASCII and on the two characters that are folded into it. So a spelling has words,
dots and blanks where the keyword has them.
-/
import SqlAtlas.Proofs.Gate.Occurrence
import SqlAtlas.Proofs.Text.Ascii
import SqlAtlas.Text.Blank

namespace SqlAtlas.Gate

open Text (apply_toLower isBlank isWordChar)

section

variable {α : Type} {f : Char → α}
  (hf : ∀ n < 0x80, f (Char.ofNat n).toLower = f (Char.ofNat n)) (hk : f 'k' = f '\u212A')
  (hs : f 's' = f '\u017F')

include hf hk hs

theorem apply_fold (c : Char) : f (fold c) = f c := by
  rw [fold]
  split
  · rename_i hc
    rw [hc, hk]
  · split
    · rename_i hc
      rw [hc, hs]
    · exact apply_toLower hf c

/-- A function that does not tell a character from what it is folded to reads
texts with the same letters alike. -/
theorem SameLetters.map_eq_map {s t : List Char} (h : SameLetters s t) : s.map f = t.map f := by
  have hmap : ∀ u : List Char, (u.map fold).map f = u.map f := by
    intro u
    rw [List.map_map]
    exact List.map_congr_left (fun c _ => apply_fold hf hk hs c)
  rw [← hmap s, ← hmap t, h]

end

theorem SameLetters.map_isWordChar {s t : List Char} (h : SameLetters s t) :
    s.map isWordChar = t.map isWordChar :=
  h.map_eq_map (by decide +kernel) (by decide +kernel) (by decide +kernel)

/-- The dot has no other spelling. -/
theorem SameLetters.head?_eq_dot_iff {s t : List Char} (h : SameLetters s t) :
    s.head? = some '.' ↔ t.head? = some '.' := by
  have hmap : s.map (fun c => decide (c = '.')) = t.map (fun c => decide (c = '.')) :=
    h.map_eq_map (by decide +kernel) (by decide) (by decide)
  have hdot : ∀ u : List Char,
      u.head? = some '.' ↔ (u.map (fun c => decide (c = '.'))).head? = some true := by
    intro u
    cases u <;> simp
  rw [hdot s, hdot t, hmap]

theorem isWordAt_eq_getD (o : Option Char) : isWordAt o = (o.map isWordChar).getD false := by
  cases o <;> rfl

theorem SameLetters.isWordAt_head? {s t : List Char} (h : SameLetters s t) :
    isWordAt s.head? = isWordAt t.head? := by
  rw [isWordAt_eq_getD, isWordAt_eq_getD, ← List.head?_map, ← List.head?_map, h.map_isWordChar]

theorem SameLetters.isWordAt_getLast? {s t : List Char} (h : SameLetters s t) :
    isWordAt s.getLast? = isWordAt t.getLast? := by
  rw [isWordAt_eq_getD, isWordAt_eq_getD, ← List.getLast?_map, ← List.getLast?_map,
    h.map_isWordChar]

/-- No spelling of a keyword without blanks holds one. -/
theorem SameLetters.not_isBlank {s t : List Char} (h : SameLetters s t)
    (ht : ∀ c ∈ t, isBlank c = false) : ∀ c ∈ s, isBlank c = false := by
  have hmap : s.map isBlank = t.map isBlank :=
    h.map_eq_map (by decide +kernel) (by decide) (by decide)
  have hnone : ∀ b ∈ t.map isBlank, b = false := by
    intro b hb
    obtain ⟨c, hc, rfl⟩ := List.mem_map.mp hb
    exact ht c hc
  intro c hc
  exact hnone _ (hmap ▸ List.mem_map_of_mem hc)

end SqlAtlas.Gate
