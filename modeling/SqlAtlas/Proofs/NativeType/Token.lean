/-
SqlAtlas.Proofs.NativeType.Token — the tokens of a text that is put together
from paths and marks.

A token knows where it starts, and two runs of path characters are one path
only if nothing stands between them. `tokens_shift` says that apart from this
the position does not matter, so the rest of the proofs is about tokens
without positions: a path in front of a text that does not go on with it is
one token (`tokens_path`), and so is a mark (`tokens_mark`).

The condition of `tokens_path` is about what follows the path: a path in
front of another path would become part of it. Where this cannot happen, a
text has the tokens of its two parts (`tokens_append`), and so blanks beside a
mark or at an end are in no token. `exists_first_token` is the way back, from
the tokens to the text.
-/
import SqlAtlas.NativeType.Token
import SqlAtlas.Proofs.Text.Blank

namespace SqlAtlas.NativeType

open Text (IsBlanks isBlank isBlanks_nil not_isBlank_of)

/-! ## 1. Positions -/

/-- A token a number of characters further on. -/
def Lexeme.shift (k : Nat) (l : Lexeme) : Lexeme := { l with start := l.start + k }

theorem join_shift (k : Nat) (c : Char) (pos : Nat) (ls : List Lexeme) :
    join c (pos + k) (ls.map (Lexeme.shift k)) = (join c pos ls).map (Lexeme.shift k) := by
  match ls with
  | [] => rfl
  | ⟨.mark _, _⟩ :: _ => rfl
  | ⟨.path p, start⟩ :: rest =>
      by_cases h : start = pos + 1
      · have h' : pos + 1 + k = pos + k + 1 := by omega
        simp [join, Lexeme.shift, h, h']
      · have h' : ¬ start + k = pos + k + 1 := by omega
        simp [join, Lexeme.shift, h, h']

theorem lexemes_shift (k : Nat) (s : List Char) (pos : Nat) :
    lexemes (pos + k) s = (lexemes pos s).map (Lexeme.shift k) := by
  induction s generalizing pos with
  | nil => rfl
  | cons c r ih =>
      have hpos : pos + k + 1 = pos + 1 + k := by omega
      simp only [lexemes, hpos, ih (pos + 1)]
      split
      · rfl
      · split
        · exact join_shift k c pos _
        · rfl

/-- Tokens without positions do not depend on where the text starts. -/
theorem tokens_shift (pos : Nat) (s : List Char) : (lexemes pos s).map Lexeme.token = tokens s := by
  have h := lexemes_shift pos s 0
  rw [Nat.zero_add] at h
  rw [h, List.map_map, tokens]
  rfl

/-! ## 2. Tokens in front of a text -/

theorem not_isBlank_of_isPathChar {c : Char} (h : isPathChar c = true) : isBlank c = false :=
  not_isBlank_of (by decide +kernel) h

/-- A character that is a token of its own. -/
def isMark (c : Char) : Bool := !isBlank c && !isPathChar c

/-- A text that no path in front of it goes on with. -/
def StartsDetached (s : List Char) : Prop := ∀ c ∈ s.head?, isPathChar c = false

theorem isMark_iff {c : Char} : isMark c = true ↔ isBlank c = false ∧ isPathChar c = false := by
  simp [isMark]

theorem tokens_blank {c : Char} (h : isBlank c = true) (s : List Char) :
    tokens (c :: s) = tokens s := by
  rw [tokens, lexemes, if_pos h, tokens_shift]

theorem tokens_mark {c : Char} (h : isMark c = true) (s : List Char) :
    tokens (c :: s) = .mark c :: tokens s := by
  simp only [isMark, Bool.and_eq_true, Bool.not_eq_true'] at h
  rw [tokens, lexemes, h.1, h.2]
  simp only [Bool.false_eq_true, if_false, List.map_cons, tokens_shift]

theorem le_start_of_mem_join {c : Char} {pos : Nat} {ls : List Lexeme}
    (h : ∀ l ∈ ls, pos < l.start) : ∀ l ∈ join c pos ls, pos ≤ l.start := by
  intro l hl
  rw [join.eq_def] at hl
  split at hl
  · split at hl
    · rcases List.mem_cons.mp hl with rfl | hl
      · exact Nat.le_refl pos
      · exact Nat.le_of_lt (h l (List.mem_cons_of_mem _ hl))
    · rcases List.mem_cons.mp hl with rfl | hl
      · exact Nat.le_refl pos
      · exact Nat.le_of_lt (h l hl)
  · rcases List.mem_cons.mp hl with rfl | hl
    · exact Nat.le_refl pos
    · exact Nat.le_of_lt (h l hl)

/-- No token starts before its text does. -/
theorem le_start_of_mem_lexemes : ∀ {s : List Char} {pos : Nat}, ∀ l ∈ lexemes pos s,
    pos ≤ l.start
  | c :: r, pos, l, hl => by
      have ih : ∀ l ∈ lexemes (pos + 1) r, pos < l.start := fun l => le_start_of_mem_lexemes l
      rw [lexemes] at hl
      split at hl
      · exact Nat.le_of_lt (ih l hl)
      · split at hl
        · exact le_start_of_mem_join ih l hl
        · rcases List.mem_cons.mp hl with rfl | hl
          · exact Nat.le_refl pos
          · exact Nat.le_of_lt (ih l hl)

/-- A path character that no path follows is a path by itself. -/
theorem join_of_lt {c : Char} {pos : Nat} : ∀ {ls : List Lexeme},
    (∀ l ∈ ls, pos + 1 < l.start) → join c pos ls = ⟨.path [c], pos⟩ :: ls
  | [], _ => rfl
  | ⟨.mark _, _⟩ :: _, _ => rfl
  | ⟨.path _, _⟩ :: _, h => if_neg (Nat.ne_of_gt (h _ List.mem_cons_self))

theorem join_lexemes {rest : List Char} (hrest : StartsDetached rest) (c : Char) (pos : Nat) :
    join c pos (lexemes (pos + 1) rest) = ⟨.path [c], pos⟩ :: lexemes (pos + 1) rest := by
  cases rest with
  | nil => rfl
  | cons d r =>
      rw [lexemes, hrest d rfl]
      split
      · exact join_of_lt (fun l hl => le_start_of_mem_lexemes l hl)
      · rfl

theorem lexemes_path {rest : List Char} (hrest : StartsDetached rest) :
    ∀ (p : List Char) (pos : Nat), p ≠ [] → (∀ c ∈ p, isPathChar c = true) →
      lexemes pos (p ++ rest) = ⟨.path p, pos⟩ :: lexemes (pos + p.length) rest
  | [], _, hne, _ => absurd rfl hne
  | [c], pos, _, hp => by
      -- nothing that follows is a path, so there is nothing to join
      have hc := hp c (by simp)
      rw [List.singleton_append, lexemes, not_isBlank_of_isPathChar hc, hc]
      exact join_lexemes hrest c pos
  | c :: d :: p, pos, _, hp => by
      -- the rest of the path starts right behind its first character, which joins it
      have hc := hp c (by simp)
      have ih := lexemes_path hrest (d :: p) (pos + 1) (by simp)
        (fun e he => hp e (List.mem_cons_of_mem c he))
      rw [List.cons_append, lexemes, not_isBlank_of_isPathChar hc, hc, ih]
      have hpos : pos + 1 + (d :: p).length = pos + (c :: d :: p).length := by
        simp only [List.length_cons]
        omega
      rw [hpos]
      simp [join]

/-- A path that nothing goes on with is one token. -/
theorem tokens_path {p rest : List Char} (hne : p ≠ []) (hp : ∀ c ∈ p, isPathChar c = true)
    (hrest : StartsDetached rest) : tokens (p ++ rest) = .path p :: tokens rest := by
  rw [tokens, lexemes_path hrest p 0 hne hp, List.map_cons, tokens_shift]

/-! ## 3. Texts put together -/

theorem tokens_blanks_append : ∀ {b : List Char}, IsBlanks b → ∀ s, tokens (b ++ s) = tokens s
  | [], _, _ => rfl
  | c :: b, h, s => by
      obtain ⟨hc, hb⟩ := List.forall_mem_cons.mp h
      rw [List.cons_append, tokens_blank hc, tokens_blanks_append hb]

theorem tokens_of_isBlanks {b : List Char} (h : IsBlanks b) : tokens b = [] := by
  have hnone := tokens_blanks_append h []
  rwa [List.append_nil] at hnone

/-- The characters of a token. -/
def Token.text : Token → List Char
  | path p => p
  | mark c => [c]

/-- What a token may be in front of a text, so that it is read as one. -/
def Token.FitsBefore (s : List Char) : Token → Prop
  | path p => p ≠ [] ∧ (∀ c ∈ p, isPathChar c = true) ∧ StartsDetached s
  | mark c => isMark c = true

theorem tokens_text : ∀ {token : Token} {s : List Char}, token.FitsBefore s →
    tokens (token.text ++ s) = token :: tokens s
  | .path _, _, h => tokens_path h.1 h.2.1 h.2.2
  | .mark _, s, h => tokens_mark h s

theorem Token.FitsBefore.text_ne_nil : ∀ {token : Token} {s : List Char}, token.FitsBefore s →
    token.text ≠ []
  | .path _, _, h => h.1
  | .mark c, _, _ => List.cons_ne_nil c []

theorem StartsDetached.append {s t : List Char} (hs : StartsDetached s) (ht : StartsDetached t) :
    StartsDetached (s ++ t) := by
  cases s with
  | nil => exact ht
  | cons c s => exact hs

theorem Token.FitsBefore.append {t : List Char} (ht : StartsDetached t) :
    ∀ {token : Token} {s : List Char}, token.FitsBefore s → token.FitsBefore (s ++ t)
  | .path _, _, h => ⟨h.1, h.2.1, h.2.2.append ht⟩
  | .mark _, _, h => h

/-- **A text is blank, or it is its first token behind blanks and what
follows.** -/
theorem exists_first_token (s : List Char) : IsBlanks s ∨
    ∃ (b : List Char) (token : Token) (r : List Char),
      s = b ++ (token.text ++ r) ∧ IsBlanks b ∧ token.FitsBefore r := by
  induction s with
  | nil => exact .inl isBlanks_nil
  | cons c s ih =>
      cases hblank : isBlank c with
      | true =>
          rcases ih with hs | ⟨b, token, r, rfl, hb, hfits⟩
          · exact .inl (List.forall_mem_cons.mpr ⟨hblank, hs⟩)
          · exact .inr ⟨c :: b, token, r, rfl, List.forall_mem_cons.mpr ⟨hblank, hb⟩, hfits⟩
      | false =>
          cases hpath : isPathChar c with
          | false =>
              have hmark : isMark c = true := isMark_iff.mpr ⟨hblank, hpath⟩
              exact .inr ⟨[], .mark c, s, rfl, isBlanks_nil, hmark⟩
          | true =>
              -- the path goes on as long as it can
              let p := (c :: s).takeWhile isPathChar
              let r := (c :: s).dropWhile isPathChar
              have hsplit : c :: s = p ++ r := List.takeWhile_append_dropWhile.symm
              have hne : p ≠ [] := by simp [p, hpath]
              have hp : ∀ d ∈ p, isPathChar d = true := fun _ => List.mem_takeWhile_imp
              have hr : StartsDetached r := by
                intro d hd
                have hnot := List.head?_dropWhile_not isPathChar (c :: s)
                change d ∈ ((c :: s).dropWhile isPathChar).head? at hd
                simpa [Option.mem_def.mp hd] using hnot
              exact .inr ⟨[], .path p, r, hsplit, isBlanks_nil, hne, hp, hr⟩

/-- **Where no path goes on, a text has the tokens of its two parts.** -/
theorem tokens_append (s : List Char) {t : List Char} (ht : StartsDetached t) :
    tokens (s ++ t) = tokens s ++ tokens t := by
  rcases exists_first_token s with hb | ⟨b, token, r, hs, hb, hfits⟩
  · rw [tokens_blanks_append hb, tokens_of_isBlanks hb, List.nil_append]
  · have hrest := tokens_append r ht
    rw [hs, List.append_assoc, List.append_assoc, tokens_blanks_append hb,
      tokens_blanks_append hb, tokens_text (hfits.append ht), tokens_text hfits, hrest,
      List.cons_append]
termination_by s.length
decreasing_by
  have hpos := List.length_pos_iff.mpr hfits.text_ne_nil
  rw [hs]
  simp only [List.length_append]
  omega

theorem StartsDetached.of_isBlanks {b : List Char} (h : IsBlanks b) : StartsDetached b := by
  intro c hc
  cases hpath : isPathChar c with
  | false => rfl
  | true =>
      have hblank := h c (List.mem_of_mem_head? hc)
      rw [not_isBlank_of_isPathChar hpath] at hblank
      cases hblank

/-- Blanks behind a text are in none of its tokens. -/
theorem tokens_append_blanks (s : List Char) {b : List Char} (h : IsBlanks b) :
    tokens (s ++ b) = tokens s := by
  rw [tokens_append s (.of_isBlanks h), tokens_of_isBlanks h, List.append_nil]

/-- A mark parts the tokens before it from those behind it. -/
theorem tokens_append_mark (s : List Char) {c : Char} (h : isMark c = true) (t : List Char) :
    tokens (s ++ c :: t) = tokens s ++ .mark c :: tokens t := by
  have hc : StartsDetached (c :: t) := by
    intro d hd
    cases hd
    exact (isMark_iff.mp h).2
  rw [tokens_append s hc, tokens_mark h]

end SqlAtlas.NativeType
