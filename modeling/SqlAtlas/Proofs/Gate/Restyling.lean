/-
SqlAtlas.Proofs.Gate.Restyling — the verdict does not depend on the looks of an
expression.

No scan of the gate tells a character from what it is folded to, and so the gate
judges a text as it judges the folded one (`check_map_fold`), whatever its rules
are. Texts with the same letters have the same folded text.

Blanks around an expression are taken one by one. A blank at an end is a seam that
nothing stands across, neither a comment nor a keyword, and behind a semicolon it
is allowed. So one more blank leaves the verdict as it is (`check_cons_blank`,
`check_append_blank`), and any number of them does, as long as there is room. The
rules matter here: a keyword that held blanks could be completed by them.
-/
import Mathlib.Data.List.Find
import SqlAtlas.Proofs.Gate.Kinds
import SqlAtlas.Proofs.Gate.Keyword

namespace SqlAtlas.Gate

open Text (isBlank isWordChar sameIgnoringCase trimStart)

/-! ## 1. Folded texts -/

theorem fold_fold (c : Char) : fold (fold c) = fold c :=
  apply_fold (by decide +kernel) (by decide) (by decide) c

theorem isBlank_fold (c : Char) : isBlank (fold c) = isBlank c :=
  apply_fold (by decide +kernel) (by decide) (by decide) c

theorem isForbiddenControl_fold (c : Char) : isForbiddenControl (fold c) = isForbiddenControl c :=
  apply_fold (by decide +kernel) (by decide) (by decide) c

theorem isWordChar_fold (c : Char) : isWordChar (fold c) = isWordChar c :=
  apply_fold (by decide +kernel) (by decide +kernel) (by decide +kernel) c

theorem isWordAt_map_fold (o : Option Char) : isWordAt (o.map fold) = isWordAt o := by
  cases o with
  | none => rfl
  | some c => exact isWordChar_fold c

theorem isBoundary_map_fold (before after : Option Char) :
    isBoundary (before.map fold) (after.map fold) = isBoundary before after := by
  rw [isBoundary, isBoundary, isWordAt_map_fold, isWordAt_map_fold]

theorem beginsWith_map_fold : ∀ keyword text : List Char,
    beginsWith keyword (text.map fold) = beginsWith keyword text
  | [], _ => rfl
  | _ :: _, [] => rfl
  | k :: ks, c :: cs => by
      rw [List.map_cons, beginsWith, beginsWith, fold_fold, beginsWith_map_fold ks cs]

theorem boundaryBehind_map_fold (n : Nat) (text : List Char) :
    DenyRule.boundaryBehind n (text.map fold) = DenyRule.boundaryBehind n text := by
  rw [DenyRule.boundaryBehind, DenyRule.boundaryBehind, ← List.map_take, ← List.map_drop,
    List.getLast?_map, List.head?_map, isBoundary_map_fold]

theorem trimStart_map_fold (text : List Char) :
    trimStart (text.map fold) = (trimStart text).map fold := by
  have hblank : isBlank ∘ fold = isBlank := funext isBlank_fold
  rw [trimStart, trimStart, List.dropWhile_map, hblank]

theorem startsWithSelect_map_fold (text : List Char) :
    startsWithSelect (text.map fold) = startsWithSelect text := by
  rw [startsWithSelect, startsWithSelect, trimStart_map_fold, beginsWith_map_fold,
    boundaryBehind_map_fold]

/-- Characters that nothing else is folded to are found where they are. -/
theorem contains_map_fold {part : List Char} (h : ∀ k ∈ part, ∀ c, (k == fold c) = (k == c)) :
    ∀ text : List Char, Text.contains part (text.map fold) = Text.contains part text
  | [] => rfl
  | c :: r => by
      have hprefix : ∀ {part : List Char}, (∀ k ∈ part, ∀ c, (k == fold c) = (k == c)) →
          ∀ text : List Char, part.isPrefixOf (text.map fold) = part.isPrefixOf text := by
        intro part h text
        induction part generalizing text with
        | nil => simp
        | cons k ks ih =>
            obtain ⟨hk, hks⟩ := List.forall_mem_cons.mp h
            cases text with
            | nil => rfl
            | cons c r => rw [List.map_cons, List.isPrefixOf, List.isPrefixOf, hk, ih hks]
      rw [List.map_cons, Text.contains, Text.contains, contains_map_fold h r, ← List.map_cons,
        hprefix h]

theorem hasComment_map_fold (text : List Char) : hasComment (text.map fold) = hasComment text := by
  have hmark : ∀ k ∈ ['-', '/', '*'], ∀ c, (k == fold c) = (k == c) := by
    intro k hk c
    have hall : ∀ k ∈ ['-', '/', '*'], (∀ n < 0x80, (k == (Char.ofNat n).toLower)
        = (k == Char.ofNat n)) ∧ (k == 'k') = (k == '\u212A') ∧ (k == 's') = (k == '\u017F') := by
      decide +kernel
    obtain ⟨hlower, hkelvin, hlong⟩ := hall k hk
    exact apply_fold (f := fun d => k == d) hlower hkelvin hlong c
  have hdash : ∀ k ∈ "--".toList, k ∈ ['-', '/', '*'] := by decide
  have hslash : ∀ k ∈ "/*".toList, k ∈ ['-', '/', '*'] := by decide
  rw [hasComment, hasComment, contains_map_fold (fun k hk => hmark k (hdash k hk)),
    contains_map_fold (fun k hk => hmark k (hslash k hk))]

theorem hasSecondStatement_map_fold : ∀ text : List Char,
    hasSecondStatement (text.map fold) = hasSecondStatement text
  | [] => rfl
  | c :: r => by
      have hsemicolon : decide (fold c = ';') = decide (c = ';') :=
        apply_fold (f := fun d => decide (d = ';')) (by decide +kernel) (by decide) (by decide) c
      have hblank : isBlank ∘ fold = isBlank := funext isBlank_fold
      rw [List.map_cons, hasSecondStatement, hasSecondStatement, hasSecondStatement_map_fold r,
        List.all_map, hblank, hsemicolon]

theorem occursHere_map_fold (rule : DenyRule) (before : Option Char) (text : List Char) :
    rule.occursHere (before.map fold) (text.map fold) = rule.occursHere before text := by
  rw [DenyRule.occursHere, DenyRule.occursHere, beginsWith_map_fold, List.head?_map,
    isBoundary_map_fold, boundaryBehind_map_fold]

theorem occursBehind_map_fold (rule : DenyRule) : ∀ (before : Option Char) (text : List Char),
    rule.occursBehind (before.map fold) (text.map fold) = rule.occursBehind before text
  | before, [] => occursHere_map_fold rule before []
  | before, c :: r => by
      have hhere := occursHere_map_fold rule before (c :: r)
      have hrest := occursBehind_map_fold rule (some c) r
      rw [List.map_cons] at hhere ⊢
      rw [DenyRule.occursBehind, DenyRule.occursBehind, hhere]
      exact congrArg _ hrest

theorem deniedKeyword?_map_fold (gate : Gate) (kind : Kind) (text : List Char) :
    gate.deniedKeyword? kind (text.map fold) = gate.deniedKeyword? kind text := by
  have hoccurs : (fun rule : DenyRule => rule.occursIn (text.map fold))
      = fun rule => rule.occursIn text :=
    funext (fun rule => occursBehind_map_fold rule none text)
  rw [deniedKeyword?, deniedKeyword?, hoccurs]

/-- **The gate judges a text as it judges the folded one.** -/
theorem check_map_fold (gate : Gate) (kind : Kind) (text : List Char) :
    gate.check kind (text.map fold) = gate.check kind text := by
  have hblank : isBlank ∘ fold = isBlank := funext isBlank_fold
  have hcontrol : isForbiddenControl ∘ fold = isForbiddenControl := funext isForbiddenControl_fold
  rw [check, check, cause?, cause?, List.all_map, hblank, List.length_map, List.any_map, hcontrol,
    hasComment_map_fold, startsWithSelect_map_fold, hasSecondStatement_map_fold,
    deniedKeyword?_map_fold]

theorem SameLetters.check_eq {s t : List Char} (h : SameLetters s t) (gate : Gate) (kind : Kind) :
    gate.check kind s = gate.check kind t := by
  rw [← check_map_fold, h, check_map_fold]

/-! ## 2. Padded texts -/

/-- The blanks that no condition forbids around an expression. -/
def IsPadding (s : List Char) : Prop := ∀ c ∈ s, c = ' ' ∨ c = '\t' ∨ c = '\r' ∨ c = '\n'

instance (s : List Char) : Decidable (IsPadding s) :=
  inferInstanceAs (Decidable (∀ c ∈ s, c = ' ' ∨ c = '\t' ∨ c = '\r' ∨ c = '\n'))

section

variable {c : Char} (hc : c = ' ' ∨ c = '\t' ∨ c = '\r' ∨ c = '\n')

include hc

theorem isBlank_of_padding : isBlank c = true := by
  rcases hc with rfl | rfl | rfl | rfl <;> decide

theorem not_isForbiddenControl_of_padding : isForbiddenControl c = false := by
  rcases hc with rfl | rfl | rfl | rfl <;> decide

theorem ne_semicolon_of_padding : c ≠ ';' := by
  rcases hc with rfl | rfl | rfl | rfl <;> decide

/-- No comment begins on one side of a blank and ends on the other. -/
theorem hasComment_seam (q t : List Char) :
    hasComment (q ++ c :: t) = (hasComment q || hasComment t) := by
  have hseam : ∀ part ∈ ["--".toList, "/*".toList],
      Text.contains part (q ++ c :: t) = (Text.contains part q || Text.contains part t) := by
    intro part hpart
    have hsolid : c ∉ part := by
      have hall : ∀ part ∈ ["--".toList, "/*".toList], ∀ d ∈ part, isBlank d = false := by decide
      intro hmem
      have hblank := isBlank_of_padding hc
      rw [hall part hpart c hmem] at hblank
      cases hblank
    rw [Bool.eq_iff_iff, Bool.or_eq_true, Text.contains_iff, Text.contains_iff, Text.contains_iff]
    refine ⟨Text.infix_append_cons hsolid, ?_⟩
    rintro (h | h)
    · exact h.trans (List.prefix_append q (c :: t)).isInfix
    · exact h.trans ((List.suffix_cons c t).trans (List.suffix_append q (c :: t))).isInfix
  rw [hasComment, hasComment, hasComment, hseam _ (by simp), hseam _ (by simp)]
  cases Text.contains "--".toList q <;> cases Text.contains "/*".toList q <;>
    cases Text.contains "--".toList t <;> rfl

theorem startsWithSelect_cons (text : List Char) :
    startsWithSelect (c :: text) = startsWithSelect text := by
  rw [startsWithSelect, startsWithSelect, trimStart,
    List.dropWhile_cons_of_pos (isBlank_of_padding hc), ← trimStart]

theorem startsWithSelect_append (text : List Char) :
    startsWithSelect (text ++ [c]) = startsWithSelect text := by
  have hedge : isWordAt [c].head? = false :=
    isWordAt_of_isBlank (by simpa using isBlank_of_padding hc)
  rw [Bool.eq_iff_iff, startsWithSelect_iff, startsWithSelect_iff]
  constructor
  · rintro ⟨p, k, s, htext, hp, hk, hend⟩
    have hsolid : c ∉ k := by
      intro hmem
      have hblank := isBlank_of_padding hc
      rw [hk.not_isBlank (by decide) c hmem] at hblank
      cases hblank
    rcases Text.exists_side htext.symm hsolid with ⟨s', rfl, rfl⟩ | ⟨p', hnil, -⟩
    · refine ⟨p, k, s', rfl, hp, hk, ?_⟩
      rwa [WordEdge, isWordAt_head?_append hedge] at hend
    · have hknil : k = [] := by simp_all
      rw [hknil] at hk
      simp [SameLetters] at hk
  · rintro ⟨p, k, s, rfl, hp, hk, hend⟩
    refine ⟨p, k, s ++ [c], by simp, hp, hk, ?_⟩
    rwa [WordEdge, isWordAt_head?_append hedge]

theorem hasSecondStatement_cons (text : List Char) :
    hasSecondStatement (c :: text) = hasSecondStatement text := by
  rw [hasSecondStatement, decide_eq_false (ne_semicolon_of_padding hc), Bool.false_and,
    Bool.false_or]

theorem hasSecondStatement_append (text : List Char) :
    hasSecondStatement (text ++ [c]) = hasSecondStatement text := by
  induction text with
  | nil => exact hasSecondStatement_cons hc []
  | cons d r ih =>
      rw [List.cons_append, hasSecondStatement, hasSecondStatement, ih, List.all_append,
        List.all_cons, isBlank_of_padding hc, List.all_nil, Bool.and_self, Bool.and_true]

end

/-! ## 3. The check -/

section

variable {options : Options} {gate : Gate} (h : ofOptions options = .ok gate)

include h

theorem deniedKeyword?_congr {kind : Kind} {s t : List Char}
    (hocc : ∀ rule ∈ options.rules kind, rule.Occurs s ↔ rule.Occurs t) :
    gate.deniedKeyword? kind s = gate.deniedKeyword? kind t := by
  rw [deniedKeyword?, deniedKeyword?, rulesFor_eq h]
  refine congrArg (Option.map DenyRule.keyword) (List.find?_congr (fun rule hr => ?_))
  have hne := keyword_ne_nil h hr
  rw [Bool.eq_iff_iff, occursIn_iff hne, occursIn_iff hne, hocc rule hr]

theorem not_occurs_nil {kind : Kind} {rule : DenyRule} (hr : rule ∈ options.rules kind) :
    ¬ rule.Occurs [] := by
  rintro ⟨p, k, s, htext, hk, -, -⟩
  have hnil : k = [] := by simp_all
  have hlength := hk.length_eq
  rw [hnil] at hlength
  exact keyword_ne_nil h hr (List.length_eq_zero_iff.mp hlength.symm)

variable {c : Char} (hc : c = ' ' ∨ c = '\t' ∨ c = '\r' ∨ c = '\n') {kind : Kind}
  {text : List Char}

include hc

/-- **One more blank in front of an expression does not change the verdict.** -/
theorem check_cons_blank (hlength : (c :: text).length ≤ options.maxLength) :
    gate.check kind (c :: text) = gate.check kind text := by
  have hdenied : gate.deniedKeyword? kind (c :: text) = gate.deniedKeyword? kind text := by
    refine deniedKeyword?_congr h (fun rule hr => ?_)
    have hseam := occurs_append_blank_iff (not_isBlank_of_mem_rules h hr) (q := []) (t := text)
      (isBlank_of_padding hc)
    rwa [or_iff_right (not_occurs_nil h hr)] at hseam
  have hcomment : hasComment (c :: text) = hasComment text := hasComment_seam hc [] text
  have hlong : ¬ options.maxLength < (c :: text).length := Nat.not_lt.mpr hlength
  have hlong' : ¬ options.maxLength < text.length :=
    Nat.not_lt.mpr (Nat.le_trans (Nat.le_succ _) hlength)
  rw [check, check, cause?, cause?, maxLength_eq h, if_neg hlong, if_neg hlong', List.all_cons,
    isBlank_of_padding hc, Bool.true_and, List.any_cons, not_isForbiddenControl_of_padding hc,
    Bool.false_or, hcomment, startsWithSelect_cons hc, hasSecondStatement_cons hc, hdenied]

/-- **One more blank behind an expression does not change the verdict.** -/
theorem check_append_blank (hlength : (text ++ [c]).length ≤ options.maxLength) :
    gate.check kind (text ++ [c]) = gate.check kind text := by
  have hdenied : gate.deniedKeyword? kind (text ++ [c]) = gate.deniedKeyword? kind text := by
    refine deniedKeyword?_congr h (fun rule hr => ?_)
    have hseam := occurs_append_blank_iff (not_isBlank_of_mem_rules h hr) (q := text) (t := [])
      (isBlank_of_padding hc)
    rwa [or_iff_left (not_occurs_nil h hr)] at hseam
  have hcomment : hasComment (text ++ [c]) = hasComment text := by
    rw [hasComment_seam hc, show hasComment [] = false from rfl, Bool.or_false]
  have hlong : ¬ options.maxLength < (text ++ [c]).length := Nat.not_lt.mpr hlength
  have hlong' : ¬ options.maxLength < text.length := by
    rw [List.length_append] at hlength
    omega
  rw [check, check, cause?, cause?, maxLength_eq h, if_neg hlong, if_neg hlong', List.all_append,
    List.all_cons, isBlank_of_padding hc, List.all_nil, Bool.and_self, Bool.and_true,
    List.any_append, List.any_cons, not_isForbiddenControl_of_padding hc, List.any_nil,
    Bool.or_self, Bool.or_false, hcomment, startsWithSelect_append hc,
    hasSecondStatement_append hc, hdenied]

omit hc

theorem check_padding_append {p : List Char} (hp : IsPadding p)
    (hlength : (p ++ text).length ≤ options.maxLength) :
    gate.check kind (p ++ text) = gate.check kind text := by
  induction p with
  | nil => rfl
  | cons c p ih =>
      obtain ⟨hc, hp⟩ := List.forall_mem_cons.mp hp
      rw [List.cons_append] at hlength ⊢
      rw [check_cons_blank h hc hlength]
      exact ih hp (Nat.le_trans (Nat.le_succ _) hlength)

theorem check_append_padding {s : List Char} (hs : IsPadding s)
    (hlength : (text ++ s).length ≤ options.maxLength) :
    gate.check kind (text ++ s) = gate.check kind text := by
  induction s generalizing text with
  | nil => rw [List.append_nil]
  | cons c s ih =>
      obtain ⟨hc, hs⟩ := List.forall_mem_cons.mp hs
      have hfirst : (text ++ [c]).length ≤ options.maxLength := by
        simp only [List.length_append, List.length_cons, List.length_nil] at hlength ⊢
        omega
      rw [List.append_cons] at hlength ⊢
      rw [ih hs hlength, check_append_blank h hc hfirst]

end

/-- **The verdict ignores letter case and outer blanks.** With other cases of its
ASCII letters an expression has the whole verdict that it has, and so it has with
spaces, tabs and line ends around it, as long as there is room for them. -/
theorem check_restyled {options : Options} {gate : Gate} (h : ofOptions options = .ok gate)
    (kind : Kind) (text : List Char) :
    (∀ text', sameIgnoringCase text text' = true → gate.check kind text' = gate.check kind text)
      ∧ ∀ p s, IsPadding p → IsPadding s → (p ++ text ++ s).length ≤ options.maxLength →
          gate.check kind (p ++ text ++ s) = gate.check kind text := by
  refine ⟨fun text' hcase => ?_, fun p s hp hs hlength => ?_⟩
  · exact ((sameLetters_of_sameIgnoringCase hcase).check_eq gate kind).symm
  · rw [check_append_padding h hs hlength]
    refine check_padding_append h hp (Nat.le_trans ?_ hlength)
    simp only [List.length_append]
    omega

theorem check_restyled_dropTable :
    ofOptions ⟨24, ["tmp_"]⟩ = .ok ⟨24, builtIn ++ [⟨"tmp_", .wordStart⟩]⟩
      ∧ Gate.check ⟨24, builtIn ++ [⟨"tmp_", .wordStart⟩]⟩ .check "DROP table TMP_a".toList
        = Gate.check ⟨24, builtIn ++ [⟨"tmp_", .wordStart⟩]⟩ .check "drop Table tmp_a".toList
      ∧ Gate.check ⟨24, builtIn ++ [⟨"tmp_", .wordStart⟩]⟩ .check " \t drop Table tmp_a\r\n".toList
        = Gate.check ⟨24, builtIn ++ [⟨"tmp_", .wordStart⟩]⟩ .check "drop Table tmp_a".toList := by
  have hgate : ofOptions ⟨24, ["tmp_"]⟩ = .ok ⟨24, builtIn ++ [⟨"tmp_", .wordStart⟩]⟩ := by rfl
  have hverdict := check_restyled hgate .check "drop Table tmp_a".toList
  exact ⟨hgate, hverdict.1 _ (by decide),
    hverdict.2 " \t ".toList "\r\n".toList (by decide) (by decide) (by decide)⟩

end SqlAtlas.Gate
