/-
SqlAtlas.Proofs.Text.Blank — which characters are blank, and which texts
trimming leaves alone.

`isBlank` looks a character up in a table of ranges. `isBlank_iff` lists what
the table holds, one code point after the other, so that a property of no
blank is checked on twenty-five characters (`not_isBlank_of`). A text whose
ends have such a property has nothing to trim.

Trimming is `List.dropWhile` at the front and `List.rdropWhile` at the end
(`trimEnd_eq_rdropWhile`), so what it takes away is read off the library.
-/
import Mathlib.Data.List.DropRight
import Mathlib.Data.List.TakeWhile
import Mathlib.Tactic.IntervalCases
import SqlAtlas.Text.Blank

namespace SqlAtlas.Text

/-! ## 1. Lists and ranges -/

/-- A property of the characters of a list is decided on the list, not on all
characters that there are. -/
instance (priority := high) decidableForallMem (s : List Char) (p : Char → Prop)
    [DecidablePred p] : Decidable (∀ c ∈ s, p c) := List.decidableBAll p s

/-- A code point that is found lies in one of the ranges. -/
theorem Ranges.exists_of_has : ∀ {rs : Ranges} {n : Nat},
    rs.has n = true → ∃ r ∈ rs, r.1 ≤ n ∧ n ≤ r.2
  | [], _, h => by simp [Ranges.has] at h
  | (lo, hi) :: rest, n, h => by
      rw [Ranges.has] at h
      split at h
      · simp at h
      · rename_i hlo
        split at h
        · rename_i hhi
          exact ⟨(lo, hi), by simp, by omega, hhi⟩
        · obtain ⟨r, hr, hn⟩ := Ranges.exists_of_has h
          exact ⟨r, List.mem_cons_of_mem _ hr, hn⟩

/-! ## 2. Blanks -/

/-- The code points of the blanks. -/
def blankCodes : List Nat :=
  [0x9, 0xA, 0xB, 0xC, 0xD, 0x20, 0x85, 0xA0, 0x1680, 0x2000, 0x2001, 0x2002, 0x2003, 0x2004,
   0x2005, 0x2006, 0x2007, 0x2008, 0x2009, 0x200A, 0x2028, 0x2029, 0x202F, 0x205F, 0x3000]

theorem mem_blankCodes_of_has {n : Nat} (h : blankTable.has n = true) : n ∈ blankCodes := by
  obtain ⟨r, hr, hlo, hhi⟩ := Ranges.exists_of_has h
  simp only [blankTable, List.mem_cons, List.not_mem_nil, or_false] at hr
  rcases hr with rfl | rfl | rfl | rfl | rfl | rfl | rfl | rfl <;>
    (simp only at hlo hhi; interval_cases n <;> decide)

/-- A blank of ASCII is the space or one of the five controls from the tab to
the carriage return. -/
theorem mem_blankCodes_of_ascii {c : Char} (h : c = ' ' ∨ ('\t' ≤ c ∧ c ≤ '\r')) :
    c.toNat ∈ blankCodes := by
  rcases h with rfl | ⟨hlo, hhi⟩
  · decide
  · have hlo' : 9 ≤ c.toNat := hlo
    have hhi' : c.toNat ≤ 13 := hhi
    generalize c.toNat = n at hlo' hhi'
    interval_cases n <;> decide

/-- The blanks are the characters of `blankCodes`. -/
theorem isBlank_iff {c : Char} : isBlank c = true ↔ c.toNat ∈ blankCodes := by
  constructor
  · intro h
    rw [isBlank] at h
    split at h
    · refine mem_blankCodes_of_ascii ?_
      simpa using h
    · exact mem_blankCodes_of_has h
  · intro h
    have hall : ∀ n ∈ blankCodes, isBlank (Char.ofNat n) = true := by decide
    simpa using hall c.toNat h

/-- A property that none of the listed blanks has keeps a character from being
blank. -/
theorem not_isBlank_of {p : Char → Bool} (hp : ∀ n ∈ blankCodes, p (Char.ofNat n) = false)
    {c : Char} (h : p c = true) : isBlank c = false := by
  by_contra hb
  have hc := hp c.toNat (isBlank_iff.mp (by simpa using hb))
  rw [Char.ofNat_toNat, h] at hc
  cases hc

theorem not_isBlank_of_isAlphanum {c : Char} (h : c.isAlphanum = true) : isBlank c = false :=
  not_isBlank_of (by decide) h

/-- Nothing but blanks. -/
def IsBlanks (s : List Char) : Prop := ∀ c ∈ s, isBlank c = true

instance (s : List Char) : Decidable (IsBlanks s) :=
  inferInstanceAs (Decidable (∀ c ∈ s, isBlank c = true))

theorem isBlanks_nil : IsBlanks [] := List.forall_mem_nil _

theorem IsBlanks.append {s t : List Char} (hs : IsBlanks s) (ht : IsBlanks t) :
    IsBlanks (s ++ t) :=
  List.forall_mem_append.mpr ⟨hs, ht⟩

/-! ## 3. Trimming -/

theorem trimEnd_eq_rdropWhile (s : List Char) : trimEnd s = s.rdropWhile isBlank := rfl

theorem trimStart_eq_self : ∀ {s : List Char}, (∀ c ∈ s.head?, isBlank c = false) →
    trimStart s = s
  | [], _ => rfl
  | c :: r, h => by
      have hc : isBlank c = false := h c (by simp)
      simp [trimStart, hc]

theorem trimEnd_eq_self {s : List Char} (h : ∀ c ∈ s.getLast?, isBlank c = false) :
    trimEnd s = s := by
  have hrev : trimStart s.reverse = s.reverse :=
    trimStart_eq_self (fun c hc => h c (by simpa using hc))
  rw [trimEnd, ← trimStart, hrev, List.reverse_reverse]

theorem trim_eq_self {s : List Char} (hs : ∀ c ∈ s.head?, isBlank c = false)
    (he : ∀ c ∈ s.getLast?, isBlank c = false) : trim s = s := by
  rw [trim, trimStart_eq_self hs, trimEnd_eq_self he]

theorem trim_eq_self_of_forall {s : List Char} (h : ∀ c ∈ s, isBlank c = false) : trim s = s :=
  trim_eq_self (fun c hc => h c (List.mem_of_mem_head? hc))
    (fun c hc => h c (List.mem_of_mem_getLast? hc))

/-- What is left of leading blanks does not begin with one. -/
theorem head?_trimStart {s : List Char} {c : Char} (h : c ∈ (trimStart s).head?) :
    isBlank c = false := by
  have hnot := List.head?_dropWhile_not isBlank s
  rw [trimStart, Option.mem_def] at h
  simpa [h] using hnot

theorem exists_trimEnd (s : List Char) : ∃ e, s = trimEnd s ++ e ∧ IsBlanks e := by
  refine ⟨s.rtakeWhile isBlank, ?_, fun _ => List.mem_rtakeWhile_imp⟩
  rw [trimEnd_eq_rdropWhile, List.rdropWhile_append_rtakeWhile]

theorem getLast?_trimEnd {s : List Char} {c : Char} (h : c ∈ (trimEnd s).getLast?) :
    isBlank c = false := by
  rw [trimEnd, List.getLast?_reverse] at h
  exact head?_trimStart h

/-- Trimming takes blanks away and nothing else. -/
theorem exists_trim (s : List Char) :
    ∃ b e, s = b ++ trim s ++ e ∧ (∀ c ∈ b, isBlank c = true) ∧ ∀ c ∈ e, isBlank c = true := by
  obtain ⟨e, hs, he⟩ := exists_trimEnd (trimStart s)
  refine ⟨s.takeWhile isBlank, e, ?_, fun _ => List.mem_takeWhile_imp, he⟩
  rw [List.append_assoc, trim, ← hs, trimStart, List.takeWhile_append_dropWhile]

/-- Blanks behind a text that does not end in one are no characters. -/
theorem eq_nil_of_getLast? {s b : List Char} (hb : ∀ c ∈ b, isBlank c = true)
    (h : ∀ c ∈ (s ++ b).getLast?, isBlank c = false) : b = [] := by
  cases hlast : b.getLast? with
  | none => exact List.getLast?_eq_none_iff.mp hlast
  | some c =>
      have hc := h c (by rw [List.getLast?_append, hlast]; rfl)
      rw [hb c (List.mem_of_getLast? hlast)] at hc
      cases hc

theorem getLast?_trim {s : List Char} {c : Char} (h : c ∈ (trim s).getLast?) :
    isBlank c = false := getLast?_trimEnd h

theorem head?_trim {s : List Char} {c : Char} (h : c ∈ (trim s).head?) : isBlank c = false := by
  have hpre : trim s <+: trimStart s := by
    rw [trim, trimEnd_eq_rdropWhile]
    exact List.rdropWhile_prefix isBlank _
  obtain ⟨t, ht⟩ := hpre
  refine head?_trimStart (s := s) ?_
  rw [← ht, List.head?_append, Option.mem_def.mp h]
  rfl

theorem trim_trim (s : List Char) : trim (trim s) = trim s :=
  trim_eq_self (fun _ => head?_trim) (fun _ => getLast?_trim)

theorem trim_blanks_append {b : List Char} (hb : IsBlanks b) (s : List Char) :
    trim (b ++ s) = trim s := by
  rw [trim, trimStart, List.dropWhile_append_of_pos hb, ← trimStart, ← trim]

theorem trimEnd_append_blanks (s : List Char) {b : List Char} (hb : IsBlanks b) :
    trimEnd (s ++ b) = trimEnd s := by
  have hrev : ∀ c ∈ b.reverse, isBlank c = true := fun c hc => hb c (List.mem_reverse.mp hc)
  rw [trimEnd, List.reverse_append, List.dropWhile_append_of_pos hrev, ← trimEnd]

theorem trim_append_blanks (s : List Char) {b : List Char} (hb : IsBlanks b) :
    trim (s ++ b) = trim s := by
  have hnil : trimStart b = [] := List.dropWhile_eq_nil_iff.mpr hb
  rw [trim, trim, trimStart, List.dropWhile_append]
  split
  · rename_i hs
    rw [List.isEmpty_iff, ← trimStart] at hs
    rw [← trimStart, hnil, hs]
  · rw [← trimStart, trimEnd_append_blanks _ hb]

theorem dropWhile_append_cons {p : Char → Bool} {c : Char} (hc : p c = false)
    (s r : List Char) : (s ++ c :: r).dropWhile p = s.dropWhile p ++ c :: r := by
  rw [List.dropWhile_append]
  split
  · rename_i hs
    rw [List.isEmpty_iff.mp hs, List.nil_append, List.dropWhile_cons_of_neg (by simp [hc])]
  · rfl

/-- Each end of a text is trimmed up to the next character that is no blank. -/
theorem trim_append_cons {c : Char} (hc : isBlank c = false) (s r : List Char) :
    trim (s ++ c :: r) = trimStart s ++ c :: trimEnd r := by
  have hend : trimEnd (trimStart s ++ c :: r) = trimStart s ++ c :: trimEnd r := by
    rw [trimEnd, List.reverse_append, List.reverse_cons, List.append_assoc,
      List.singleton_append, dropWhile_append_cons hc]
    simp [trimEnd]
  rw [trim, trimStart, dropWhile_append_cons hc, ← trimStart, hend]

theorem trim_trimStart (s : List Char) : trim (trimStart s) = trim s := by
  have hb : IsBlanks (s.takeWhile isBlank) := fun _ => List.mem_takeWhile_imp
  have hs := trim_blanks_append hb (trimStart s)
  rw [trimStart, List.takeWhile_append_dropWhile] at hs
  exact hs.symm

theorem trim_trimEnd (s : List Char) : trim (trimEnd s) = trim s := by
  obtain ⟨e, hs, he⟩ := exists_trimEnd s
  have htrim := trim_append_blanks (trimEnd s) he
  rwa [← hs, eq_comm] at htrim

/-- Nothing is left of blanks, and of them only. -/
theorem trim_eq_nil_iff {s : List Char} : trim s = [] ↔ IsBlanks s := by
  constructor
  · intro h
    obtain ⟨b, e, hs, hb, he⟩ := exists_trim s
    rw [h, List.append_nil] at hs
    rw [hs]
    exact IsBlanks.append hb he
  · intro h
    have hnil := trim_append_blanks [] h
    rwa [List.nil_append] at hnil

/-- Of a text that does not begin with a blank only the end is trimmed. -/
theorem exists_trim_of_head {s : List Char} (h : ∀ c ∈ s.head?, isBlank c = false) :
    ∃ e, s = trim s ++ e ∧ ∀ c ∈ e, isBlank c = true := by
  obtain ⟨b, e, hs, hb, he⟩ := exists_trim s
  cases b with
  | nil => exact ⟨e, hs, he⟩
  | cons c b =>
      have hc : isBlank c = false := h c (by rw [hs]; rfl)
      rw [hb c List.mem_cons_self] at hc
      cases hc

end SqlAtlas.Text
