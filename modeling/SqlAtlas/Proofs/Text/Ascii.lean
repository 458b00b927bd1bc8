/-
SqlAtlas.Proofs.Text.Ascii — texts that differ in the case of ASCII letters
only.

A function that does not tell an ASCII capital from its small letter reads such
texts alike (`map_eq_map_of_sameIgnoringCase`), and whether it tells them apart
is tried on the characters of ASCII.
-/
import SqlAtlas.Text.Ascii
import SqlAtlas.Text.Range

namespace SqlAtlas.Text

/-- Beyond ASCII no character has another small letter. -/
theorem toLower_of_not_isAscii {c : Char} (h : isAscii c = false) : c.toLower = c := by
  refine dif_neg (fun hup => ?_)
  have hle : c.val ≤ 90 := hup.2
  rw [UInt32.le_iff_toNat_le] at hle
  rw [isAscii, decide_eq_false_iff_not] at h
  exact h (Nat.lt_of_le_of_lt hle (by decide))

/-- Letters and digits are those of ASCII. -/
theorem isAscii_of_isAlphanum {c : Char} (h : c.isAlphanum = true) : isAscii c = true := by
  have hupper : c.isUpper = true → c.toNat ≤ 90 := fun hu => (of_decide_eq_true hu).2
  have hlower : c.isLower = true → c.toNat ≤ 122 := fun hl =>
    of_decide_eq_true (Bool.and_eq_true_iff.mp hl).2
  have hdigit : c.isDigit = true → c.toNat ≤ 57 := fun hd =>
    of_decide_eq_true (Bool.and_eq_true_iff.mp hd).2
  rw [isAscii, decide_eq_true_eq]
  rcases Bool.or_eq_true_iff.mp h with halpha | hd
  · rcases Bool.or_eq_true_iff.mp halpha with hu | hl
    · have := hupper hu
      omega
    · have := hlower hl
      omega
  · have := hdigit hd
    omega

theorem apply_toLower {α : Type} {f : Char → α}
    (hf : ∀ n < 0x80, f (Char.ofNat n).toLower = f (Char.ofNat n)) (c : Char) :
    f c.toLower = f c := by
  cases hc : isAscii c with
  | false => rw [toLower_of_not_isAscii hc]
  | true =>
      have hn := hf c.toNat (by simpa [isAscii] using hc)
      rwa [Char.ofNat_toNat] at hn

/-- A function that does not tell a capital from its small letter reads texts
with the same letters alike. -/
theorem map_eq_map_of_sameIgnoringCase {α : Type} {f : Char → α}
    (hf : ∀ n < 0x80, f (Char.ofNat n).toLower = f (Char.ofNat n)) {s t : List Char}
    (h : sameIgnoringCase s t = true) : s.map f = t.map f := by
  have hlower : ∀ u : List Char, (lowerAscii u).map f = u.map f := by
    intro u
    rw [lowerAscii, List.map_map]
    exact List.map_congr_left (fun c _ => apply_toLower hf c)
  rw [← hlower s, ← hlower t, eq_of_beq h]

/-- What such a function says of all characters of a text, it says of those of a
text with the same letters. -/
theorem forall_mem_of_sameIgnoringCase {α : Type} {f : Char → α}
    (hf : ∀ n < 0x80, f (Char.ofNat n).toLower = f (Char.ofNat n)) {s t : List Char}
    (h : sameIgnoringCase s t = true) {v : α} (hs : ∀ c ∈ s, f c = v) : ∀ c ∈ t, f c = v := by
  intro c hc
  have hmem := List.mem_map_of_mem (f := f) hc
  rw [← map_eq_map_of_sameIgnoringCase hf h] at hmem
  obtain ⟨d, hd, heq⟩ := List.mem_map.mp hmem
  rw [← heq, hs d hd]

end SqlAtlas.Text
