/-
SqlAtlas.Proofs.Gate.Occurrence — where a denied keyword occurs in a text.

The search of a rule walks through a text with nothing but the character
before it in hand. `DenyRule.Occurs` says what is looked for without any
walking: the text is cut in three, the middle part is the keyword in some
letter case, and words begin and end at its edges. `occursIn_iff` says that
the search finds exactly this.

The edges are judged by the neighbours on both sides, so an occurrence stays
one when the text is put between others whose near ends are no word
characters (`DenyRule.Occurs.embed`).

A keyword without characters is left out: between no characters the two edges
fall together, and the search does not look at them that way.
-/
import Mathlib.Data.List.Basic
import SqlAtlas.Gate.DenyRule

namespace SqlAtlas.Gate

/-! ## 1. The statement -/

/-- A word begins or ends between two neighbours: exactly one of them is a
word character. The ends of a text have no neighbour. -/
def WordEdge (before after : Option Char) : Prop := Xor (isWordAt before) (isWordAt after)

/-- Two texts differ at most in the case of their letters. -/
def SameLetters (s t : List Char) : Prop := s.map fold = t.map fold

/-- The part `k` of the text `p ++ k ++ s` is what the rule denies. -/
structure DenyRule.Denies (rule : DenyRule) (p k s : List Char) : Prop where
  letters : SameLetters k rule.keyword.toList
  begins : WordEdge p.getLast? (k ++ s).head?
  ends : rule.extent = .word → WordEdge (p ++ k).getLast? s.head?

/-- The rule's keyword occurs in the text. -/
def DenyRule.Occurs (rule : DenyRule) (text : List Char) : Prop :=
  ∃ p k s, text = p ++ k ++ s ∧ rule.Denies p k s

/-! ## 2. Letters and edges -/

theorem isBoundary_iff {before after : Option Char} :
    isBoundary before after = true ↔ WordEdge before after := by
  rw [isBoundary, WordEdge]
  cases isWordAt before <;> cases isWordAt after <;> simp [Xor]

theorem SameLetters.length_eq {s t : List Char} (h : SameLetters s t) : s.length = t.length := by
  simpa using congrArg List.length h

/-- A keyword stands at the beginning of a text exactly if the text begins with
a spelling of it. -/
theorem beginsWith_iff : ∀ {keyword text : List Char},
    beginsWith keyword text = true ↔ ∃ k s, text = k ++ s ∧ SameLetters k keyword
  | [], text => by
      simp only [beginsWith, true_iff]
      exact ⟨[], text, rfl, rfl⟩
  | c :: cs, [] => by
      simp only [beginsWith, Bool.false_eq_true, false_iff]
      rintro ⟨k, s, htext, hk⟩
      obtain ⟨rfl, rfl⟩ := List.append_eq_nil_iff.mp htext.symm
      simp [SameLetters] at hk
  | c :: cs, d :: ds => by
      simp only [beginsWith, Bool.and_eq_true, decide_eq_true_eq, beginsWith_iff]
      constructor
      · rintro ⟨hc, k, s, rfl, hk⟩
        exact ⟨d :: k, s, rfl, by simp only [SameLetters, List.map_cons, hc]; rw [hk]⟩
      · rintro ⟨k, s, htext, hk⟩
        cases k with
        | nil => simp [SameLetters] at hk
        | cons x k =>
            obtain ⟨rfl, rfl⟩ := List.cons.inj htext
            obtain ⟨hx, hk⟩ := List.cons.inj hk
            exact ⟨hx.symm, k, s, rfl, hk⟩

/-- Whether a word ends behind the keyword is asked of its last character, whatever
stands before it. -/
theorem boundaryBehind_iff {keyword : String} (hne : keyword.toList ≠ []) {k : List Char}
    (hk : SameLetters k keyword.toList) (p s : List Char) :
    DenyRule.boundaryBehind keyword.length (k ++ s) = true
      ↔ WordEdge (p ++ k).getLast? s.head? := by
  have hlen : keyword.length = k.length := by
    rw [hk.length_eq, String.length_toList]
  have hkne : k ≠ [] := by
    rintro rfl
    exact hne (List.length_eq_zero_iff.mp hk.length_eq.symm)
  rw [DenyRule.boundaryBehind, hlen, List.take_left, List.drop_left, isBoundary_iff,
      List.getLast?_append_of_ne_nil p hkne]

/-! ## 3. The search -/

/-- What is found at one place. -/
theorem occursHere_iff {rule : DenyRule} (hne : rule.keyword.toList ≠ []) {p text : List Char} :
    rule.occursHere p.getLast? text = true ↔ ∃ k s, text = k ++ s ∧ rule.Denies p k s := by
  rw [DenyRule.occursHere, Bool.and_eq_true, Bool.and_eq_true, beginsWith_iff]
  constructor
  · rintro ⟨⟨⟨k, s, rfl, hk⟩, hbegins⟩, hends⟩
    refine ⟨k, s, rfl, hk, isBoundary_iff.mp hbegins, fun hword => ?_⟩
    rw [hword] at hends
    exact (boundaryBehind_iff hne hk p s).mp hends
  · rintro ⟨k, s, rfl, hk, hbegins, hends⟩
    refine ⟨⟨⟨k, s, rfl, hk⟩, isBoundary_iff.mpr hbegins⟩, ?_⟩
    cases hextent : rule.extent with
    | word => exact (boundaryBehind_iff hne hk p s).mpr (hends hextent)
    | wordStart => rfl

/-- What is found behind a text `b` that has been passed over: the occurrence
may begin at once or further on, and `b` counts as what comes before it. -/
theorem occursBehind_iff {rule : DenyRule} (hne : rule.keyword.toList ≠ []) :
    ∀ {text b : List Char}, rule.occursBehind b.getLast? text = true ↔
      ∃ p k s, text = p ++ k ++ s ∧ rule.Denies (b ++ p) k s
  | [], b => by
      rw [DenyRule.occursBehind, occursHere_iff hne]
      constructor
      · rintro ⟨k, s, htext, h⟩
        exact ⟨[], k, s, htext, by rwa [List.append_nil]⟩
      · rintro ⟨p, k, s, htext, h⟩
        obtain ⟨hpk, rfl⟩ := List.append_eq_nil_iff.mp htext.symm
        obtain ⟨rfl, rfl⟩ := List.append_eq_nil_iff.mp hpk
        exact ⟨[], [], rfl, by rwa [List.append_nil] at h⟩
  | c :: r, b => by
      have hlast : some c = (b ++ [c]).getLast? := by simp
      rw [DenyRule.occursBehind, Bool.or_eq_true, occursHere_iff hne, hlast, occursBehind_iff hne]
      constructor
      · rintro (⟨k, s, htext, h⟩ | ⟨p, k, s, rfl, h⟩)
        · exact ⟨[], k, s, htext, by rwa [List.append_nil]⟩
        · exact ⟨c :: p, k, s, rfl, by rwa [List.append_cons]⟩
      · rintro ⟨p, k, s, htext, h⟩
        cases p with
        | nil => exact .inl ⟨k, s, htext, by rwa [List.append_nil] at h⟩
        | cons d p =>
            obtain ⟨rfl, rfl⟩ := List.cons.inj htext
            exact .inr ⟨p, k, s, rfl, by rwa [List.append_cons] at h⟩

/-- **The search finds a keyword exactly where it occurs.** -/
theorem occursIn_iff {rule : DenyRule} (hne : rule.keyword.toList ≠ []) {text : List Char} :
    rule.occursIn text = true ↔ rule.Occurs text := by
  have h : rule.occursBehind ([] : List Char).getLast? text = true ↔
      ∃ p k s, text = p ++ k ++ s ∧ rule.Denies ([] ++ p) k s := occursBehind_iff hne
  exact h

/-! ## 4. Occurrences within longer texts -/

theorem isWordAt_getLast?_append {q : List Char} (hq : isWordAt q.getLast? = false)
    (p : List Char) : isWordAt (q ++ p).getLast? = isWordAt p.getLast? := by
  cases h : p.getLast? with
  | none => rw [List.getLast?_eq_none_iff.mp h, List.append_nil, hq]; rfl
  | some c => rw [List.getLast?_append, h, Option.some_or]

theorem isWordAt_head?_append {t : List Char} (ht : isWordAt t.head? = false)
    (s : List Char) : isWordAt (s ++ t).head? = isWordAt s.head? := by
  cases h : s.head? with
  | none => rw [List.head?_eq_none_iff.mp h, List.nil_append, ht]; rfl
  | some c => rw [List.head?_append, h, Option.some_or]

/-- An occurrence stays one between texts whose near ends are no word
characters. -/
theorem DenyRule.Occurs.embed {rule : DenyRule} {text : List Char} (h : rule.Occurs text)
    {q t : List Char} (hq : isWordAt q.getLast? = false) (ht : isWordAt t.head? = false) :
    rule.Occurs (q ++ text ++ t) := by
  obtain ⟨p, k, s, rfl, hletters, hbegins, hends⟩ := h
  refine ⟨q ++ p, k, s ++ t, by simp only [List.append_assoc], hletters, ?_, fun hword => ?_⟩
  · rw [WordEdge, isWordAt_getLast?_append hq, ← List.append_assoc, isWordAt_head?_append ht]
    exact hbegins
  · rw [WordEdge, List.append_assoc q, isWordAt_getLast?_append hq, isWordAt_head?_append ht]
    exact hends hword

end SqlAtlas.Gate
