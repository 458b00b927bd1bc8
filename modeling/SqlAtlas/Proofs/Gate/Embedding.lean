/-
SqlAtlas.Proofs.Gate.Embedding — a rejected text cannot be hidden in a longer
one.

Outside views, every condition of the gate but the first passes from a text to
its parts (`Condition.Holds.part`): the limit, the characters, the comments
and the semicolons of a part are those of the whole, and a keyword that occurs
in a part occurs in the whole. The last is where the edges matter. A part cut
out of the middle of a word may hold a keyword that the whole does not, so a
part has to end where no word goes on.

The first condition goes the other way, so blank parts are left out. Views are
left out because SELECT has to stand at their beginning.
-/
import SqlAtlas.Proofs.Gate.Conditions

namespace SqlAtlas.Gate

open Text (isBlank isWordChar)

/-! ## 1. Edges of parts -/

theorem isWordAt_eq_false_iff {o : Option Char} :
    isWordAt o = false ↔ ∀ c ∈ o, isWordChar c = false := by
  cases o <;> simp [isWordAt]

/-- No word goes on at a blank. -/
theorem not_isWordChar_of_isBlank {c : Char} (h : isBlank c = true) : isWordChar c = false := by
  by_contra hword
  have hnot : isBlank c = false :=
    Text.not_isBlank_of (p := isWordChar) (by decide +kernel) (by simpa using hword)
  rw [h] at hnot
  cases hnot

/-! ## 2. Conditions on parts -/

/-- What holds for a text holds for its parts, unless it is that the text has
something to read. -/
theorem Condition.Holds.part {options : Options} {kind : Kind} (hk : kind ≠ .view)
    {p text s : List Char} (hp : ∀ c ∈ p.getLast?, isWordChar c = false)
    (hs : ∀ c ∈ s.head?, isWordChar c = false) {c : Condition} (hc : c ≠ .notBlank)
    (h : c.Holds options kind (p ++ text ++ s)) : c.Holds options kind text := by
  cases c with
  | notBlank => exact absurd rfl hc
  | withinLimit =>
      simp only [Condition.Holds, List.length_append] at h ⊢
      omega
  | noControl => exact fun c hmem => h c (by simp [hmem])
  | noComment =>
      have hpart : text <:+: p ++ text ++ s := List.infix_append p text s
      exact ⟨fun hdash => h.1 (hdash.trans hpart), fun hslash => h.2 (hslash.trans hpart)⟩
  | opensWithSelect => exact fun hview => absurd hview hk
  | oneStatement =>
      obtain ⟨hcount, hrest⟩ := h
      constructor
      · simp only [List.count_append] at hcount
        omega
      · rintro q r rfl c hmem
        exact hrest (p ++ q) (r ++ s) (by simp) c (by simp [hmem])
  | nothingDenied =>
      intro rule hr hocc
      exact h rule hr (hocc.embed (isWordAt_eq_false_iff.mpr hp) (isWordAt_eq_false_iff.mpr hs))

/-! ## 3. The check on parts -/

section

variable {options : Options} {gate : Gate} (h : ofOptions options = .ok gate)
variable {kind : Kind} (hk : kind ≠ .view)

include h hk

/-- What is accepted is accepted in parts. -/
theorem check_part_eq_ok {p text s : List Char} (htext : ∃ c ∈ text, isBlank c = false)
    (hp : ∀ c ∈ p.getLast?, isWordChar c = false) (hs : ∀ c ∈ s.head?, isWordChar c = false)
    (hok : gate.check kind (p ++ text ++ s) = .ok ()) : gate.check kind text = .ok () := by
  rw [check_eq_ok_iff h] at hok ⊢
  intro c
  by_cases hc : c = .notBlank
  · rw [hc]
    exact htext
  · exact (hok c).part hk hp hs hc

end

theorem exists_error_iff {r : Except Rejection Unit} : (∃ e, r = .error e) ↔ r ≠ .ok () := by
  cases r <;> simp

/-- **Rejection survives embedding.** A check or default that is refused is
refused wherever it stands between no words, and so whatever stands between
blanks in an accepted expression is accepted by itself. -/
theorem rejected_of_part {options : Options} {gate : Gate} (h : ofOptions options = .ok gate)
    {kind : Kind} (hk : kind ≠ .view) :
    (∀ p text s : List Char, (∃ c ∈ text, isBlank c = false) →
        (∀ c ∈ p.getLast?, isWordChar c = false) → (∀ c ∈ s.head?, isWordChar c = false) →
        (∃ e, gate.check kind text = .error e) →
        ∃ e, gate.check kind (p ++ text ++ s) = .error e)
      ∧ ∀ p text s : List Char, (∃ c ∈ text, isBlank c = false) →
        (∀ c ∈ p.getLast?, isBlank c = true) → (∀ c ∈ s.head?, isBlank c = true) →
        gate.check kind (p ++ text ++ s) = .ok () → gate.check kind text = .ok () := by
  constructor
  · intro p text s htext hp hs hrejected
    rw [exists_error_iff] at hrejected ⊢
    exact fun hok => hrejected (check_part_eq_ok h hk htext hp hs hok)
  · intro p text s htext hp hs hok
    exact check_part_eq_ok h hk htext (fun c hc => not_isWordChar_of_isBlank (hp c hc))
      (fun c hc => not_isWordChar_of_isBlank (hs c hc)) hok

/-- A keyword at both ends of its text, between a parenthesis and a comma. -/
theorem rejected_of_part_dropInList :
    ofOptions ⟨60, ["dbo."]⟩ = .ok ⟨60, builtIn ++ [⟨"dbo.", .wordStart⟩]⟩
      ∧ Kind.check ≠ .view
      ∧ (∃ e, Gate.check ⟨60, builtIn ++ [⟨"dbo.", .wordStart⟩]⟩ .check
          ("x in (".toList ++ "dbo.f or DROP".toList ++ ", 1)".toList) = .error e)
      ∧ Gate.check ⟨60, builtIn ++ [⟨"dbo.", .wordStart⟩]⟩ .check "x_dbo.f".toList = .ok () := by
  have hgate : ofOptions ⟨60, ["dbo."]⟩ = .ok ⟨60, builtIn ++ [⟨"dbo.", .wordStart⟩]⟩ := by rfl
  have hkind : Kind.check ≠ .view := by decide
  have hpart := rejected_of_part hgate hkind
  refine ⟨hgate, hkind, ?_, ?_⟩
  · refine hpart.1 "x in (".toList "dbo.f or DROP".toList ", 1)".toList ⟨'d', by decide⟩
      (fun c hc => ?_) (fun c hc => ?_) ⟨⟨.check, .denied "DROP"⟩, by rfl⟩
    · cases hc
      decide
    · cases hc
      decide
  · refine hpart.2 "1 < ".toList "x_dbo.f".toList "\tand y".toList ⟨'x', by decide⟩
      (fun c hc => ?_) (fun c hc => ?_) (by rfl)
    · cases hc
      decide
    · cases hc
      decide

end SqlAtlas.Gate
