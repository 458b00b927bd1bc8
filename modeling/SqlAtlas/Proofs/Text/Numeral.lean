/-
SqlAtlas.Proofs.Text.Numeral — a number that is written in decimal digits
reads back as itself.

Writing gives ASCII digits only, so none of the other forms that reading
understands (a plus sign, leading zeros) comes into play. The lemmas carry
this from digits to widths (`Length.read_toString`) and to numbers of digits
(`SqlName.readPrecision_toString`).
-/
import SqlAtlas.Proofs.Text.Blank
import SqlAtlas.SqlName
import SqlAtlas.Text.WordChar

namespace SqlAtlas

namespace Text

/-! ## 1. Digits -/

theorem isDigit_of_mem_toString {n : Nat} {c : Char} (h : c ∈ (toString n).toList) :
    c.isDigit = true := by
  rw [Nat.toString_eq_ofList_toDigits, String.toList_ofList] at h
  exact Nat.isDigit_of_mem_toDigits (by decide) (by decide) h

theorem isAlphanum_of_mem_toString {n : Nat} {c : Char} (h : c ∈ (toString n).toList) :
    c.isAlphanum = true := by
  rw [Char.isAlphanum, isDigit_of_mem_toString h, Bool.or_true]

/-- The digits of ASCII are digits of words. -/
theorem isWordDigit_of_isDigit {c : Char} (h : c.isDigit = true) : isWordDigit c = true := by
  have hall : ∀ n < 58, 48 ≤ n → isWordDigit (Char.ofNat n) = true := by decide +kernel
  simp only [Char.isDigit, Bool.and_eq_true, decide_eq_true_eq] at h
  have hlo : 48 ≤ c.toNat := h.1
  have hhi : c.toNat ≤ 57 := h.2
  simpa using hall c.toNat (by omega) hlo

theorem toLower_of_isDigit {c : Char} (h : c.isDigit = true) : c.toLower = c := by
  have hle : c.val ≤ 57 := by
    simp only [Char.isDigit, Bool.and_eq_true, decide_eq_true_eq] at h
    exact h.2
  refine dif_neg (fun hup => ?_)
  have hge : (65 : UInt32) ≤ c.val := hup.1
  simp only [UInt32.le_iff_toNat_le] at hge hle
  exact absurd (hge.trans hle) (by decide)

theorem trim_toString (n : Nat) : trim (toString n).toList = (toString n).toList :=
  trim_eq_self_of_forall (fun _ h => not_isBlank_of_isAlphanum (isAlphanum_of_mem_toString h))

theorem readDigits_toString (n : Nat) : readDigits (toString n).toList = some n := by
  have hall : (toString n).toList.all Char.isDigit = true :=
    List.all_eq_true.mpr (fun _ h => isDigit_of_mem_toString h)
  rw [readDigits, hall]
  simp [Nat.ofDigitChars_ten_toDigits, Nat.toDigits_ne_nil]

/-- A written number within the bound reads back. -/
theorem readUnsigned_toString {bound n : Nat} (h : n ≤ bound) :
    readUnsigned bound (toString n).toList = some n := by
  rw [readUnsigned, readDigits_toString]
  · simp [h]
  · -- a plus sign in front would be a digit
    intro r hr
    have hmem : '+' ∈ (toString n).toList := by rw [hr]; exact List.mem_cons_self
    exact absurd (isDigit_of_mem_toString hmem) (by decide)

end Text

open Text

/-! ## 2. Widths -/

/-- Signs and digits are not the word for the widest length. -/
theorem Length.ne_max_of_forall {s : List Char} (h : ∀ c ∈ s, c = '+' ∨ c.isDigit = true) :
    sameIgnoringCase s "max".toList = false := by
  by_contra hmax
  simp only [sameIgnoringCase, Bool.not_eq_false, beq_iff_eq] at hmax
  have hm : 'm' ∈ lowerAscii s := by rw [hmax]; decide
  obtain ⟨c, hc, hlow⟩ := List.mem_map.mp hm
  rcases h c hc with rfl | hd
  · exact absurd hlow (by decide)
  · rw [toLower_of_isDigit hd] at hlow
    rw [hlow] at hd
    exact absurd hd (by decide)

theorem Length.toString_ne_max (n : Nat) :
    sameIgnoringCase (toString n).toList "max".toList = false :=
  ne_max_of_forall (fun _ h => .inr (isDigit_of_mem_toString h))

/-- A written width reads back as a length, zero as none. -/
theorem Length.read_toString (width : UInt32) :
    Length.read (toString width.toNat).toList
      = if width = 0 then none else some (.bounded width) := by
  have hle : width.toNat ≤ greatestWidth := by
    have := width.toNat_lt_size
    simp only [greatestWidth]
    omega
  rw [Length.read, trim_toString, toString_ne_max, if_neg (by simp), readWidth,
      readUnsigned_toString hle]
  cases hw : width.toNat with
  | zero =>
      have hzero : width = 0 := UInt32.toNat_inj.mp (by simpa using hw)
      simp [hzero]
  | succ k =>
      have hne : width ≠ 0 := by rintro rfl; simp at hw
      have hval : UInt32.ofNat (k + 1) = width := by rw [← hw, UInt32.ofNat_toNat]
      simp only [if_neg hne, hval]

/-! ## 3. Precision and scale -/

theorem SqlName.readPrecision_toString (p : UInt16) :
    readPrecision (toString p.toNat) = some p := by
  have hle : p.toNat ≤ UInt16.size - 1 := by
    have := p.toNat_lt_size
    omega
  rw [readPrecision, readUnsigned_toString hle]
  simp

end SqlAtlas
