/-
SqlAtlas.Proofs.Gate.Kinds — one text held to the conditions of several kinds.

Checks and defaults are held to the same conditions, so their verdicts differ in
the kind alone. A view is told from them by SELECT: it has to begin with the word,
and they may not hold it. What opens a view is an occurrence of the denied keyword
(`OpensWithSelect.occurs`), so no text passes as both.

The way back is to put SELECT in front of a check. The blank between them carries
it: no comment, no semicolon and no keyword has a blank in it, so none of them
stands across the seam (`exists_side`). A keyword occurs in a text with a blank in
it exactly if it occurs on one side of the blank (`occurs_append_blank_iff`). So a
check becomes a view as long as no keyword denies SELECT itself.
-/
import SqlAtlas.Proofs.Gate.Embedding
import SqlAtlas.Proofs.Gate.Letters
import SqlAtlas.Proofs.Gate.Tightening

namespace SqlAtlas

namespace Text

/-! ## 1. Seams -/

/-- A part of a text that does not hold the character `c` lies on one side of
it. -/
theorem exists_side {p k s q t : List Char} {c : Char} (h : p ++ k ++ s = q ++ c :: t)
    (hc : c ∉ k) :
    (∃ s', q = p ++ k ++ s' ∧ s = s' ++ c :: t) ∨ ∃ p', t = p' ++ k ++ s ∧ p = q ++ c :: p' := by
  rcases List.append_eq_append_iff.mp h with ⟨s', hq, hs⟩ | ⟨r, hpk, hr⟩
  · exact .inl ⟨s', hq, hs⟩
  · cases r with
    | nil => exact .inl ⟨[], by simpa using hpk.symm, by simpa using hr.symm⟩
    | cons d r =>
        obtain ⟨rfl, rfl⟩ := List.cons.inj hr
        rcases List.append_eq_append_iff.mp hpk with ⟨a, -, hk⟩ | ⟨a, hp, hk⟩
        · exact absurd (by simp [hk]) hc
        · cases a with
          | nil => exact absurd (by simp [← show c :: r = k from hk]) hc
          | cons d p' =>
              obtain ⟨rfl, rfl⟩ := List.cons.inj hk
              exact .inr ⟨p', rfl, hp⟩

/-- What stands in a text stands on one side of a character that it does not
hold. -/
theorem infix_append_cons {k q t : List Char} {c : Char} (hc : c ∉ k)
    (h : k <:+: q ++ c :: t) : k <:+: q ∨ k <:+: t := by
  obtain ⟨p, s, hps⟩ := h
  rcases exists_side hps hc with ⟨s', rfl, -⟩ | ⟨p', rfl, -⟩
  · exact .inl ⟨p, s', rfl⟩
  · exact .inr ⟨p', s, rfl⟩

end Text

namespace Gate

open Text (exists_side infix_append_cons isBlank)

theorem isWordAt_of_isBlank {o : Option Char} (h : ∀ c ∈ o, isBlank c = true) :
    isWordAt o = false :=
  isWordAt_eq_false_iff.mpr (fun c hc => not_isWordChar_of_isBlank (h c hc))

/-- **A keyword does not stand across a blank**: it occurs on one of its sides. -/
theorem occurs_append_blank_iff {rule : DenyRule}
    (hr : ∀ c ∈ rule.keyword.toList, isBlank c = false) {q t : List Char} {c : Char}
    (hc : isBlank c = true) : rule.Occurs (q ++ c :: t) ↔ rule.Occurs q ∨ rule.Occurs t := by
  have hedge : ∀ s : List Char, isWordAt (c :: s).head? = false :=
    fun s => isWordAt_of_isBlank (by simpa using hc)
  have hend : ∀ p : List Char, isWordAt (p ++ [c]).getLast? = false :=
    fun p => isWordAt_of_isBlank (by simpa using hc)
  constructor
  · rintro ⟨p, k, s, htext, hk, hbegins, hends⟩
    have hck : c ∉ k := by
      intro hmem
      rw [hk.not_isBlank hr c hmem] at hc
      cases hc
    rcases exists_side htext.symm hck with ⟨s', rfl, rfl⟩ | ⟨p', rfl, rfl⟩
    · refine .inl ⟨p, k, s', rfl, hk, ?_, fun hword => ?_⟩
      · rwa [WordEdge, ← List.append_assoc, isWordAt_head?_append (hedge t)] at hbegins
      · have h := hends hword
        rwa [WordEdge, isWordAt_head?_append (hedge t)] at h
    · rw [List.append_cons] at hbegins hends
      refine .inr ⟨p', k, s, rfl, hk, ?_, fun hword => ?_⟩
      · rwa [WordEdge, isWordAt_getLast?_append (hend q)] at hbegins
      · have h := hends hword
        rwa [WordEdge, List.append_assoc, isWordAt_getLast?_append (hend q)] at h
  · rintro (h | h)
    · have hembed := h.embed (q := []) rfl (hedge t)
      exact hembed
    · have hembed := h.embed (hend q) (t := []) rfl
      rwa [List.append_nil, ← List.append_cons] at hembed

/-! ## 2. The kinds -/

section

variable {options : Options} {text : List Char}

/-- The characters of the keywords are no blanks. -/
theorem not_isBlank_of_mem_rules {gate : Gate} (h : ofOptions options = .ok gate) {kind : Kind}
    {rule : DenyRule} (hr : rule ∈ options.rules kind) :
    ∀ c ∈ rule.keyword.toList, isBlank c = false :=
  forall_keyword h (P := fun keyword => ∀ c ∈ keyword, isBlank c = false) (by decide)
    (fun _ hextra c hc => Text.not_isBlank_of (p := isKeywordChar) (by decide) (hextra.plain c hc))
    hr

/-- Outside views, SELECT is denied before anything else. -/
theorem Options.rules_eq_cons {kind : Kind} (hk : kind ≠ .view) :
    options.rules kind = selectRule :: options.rules .view := by
  simp [Options.rules, hk, selectRule]

/-- Two conditions look at the kind of an expression. -/
theorem Condition.holds_congr {c : Condition} (hselect : c ≠ .opensWithSelect)
    (hdenied : c ≠ .nothingDenied) (kind kind' : Kind) :
    c.Holds options kind text ↔ c.Holds options kind' text := by
  cases c with
  | opensWithSelect => exact absurd rfl hselect
  | nothingDenied => exact absurd rfl hdenied
  | _ => exact Iff.rfl

/-- What opens a view is the denied keyword. -/
theorem OpensWithSelect.occurs (h : OpensWithSelect text) : selectRule.Occurs text := by
  obtain ⟨p, k, s, rfl, hp, hk, hends⟩ := h
  have hne : k ≠ [] := by
    rintro rfl
    simp [SameLetters] at hk
  have hbefore : isWordAt p.getLast? = false :=
    isWordAt_of_isBlank (fun c hc => hp c (List.mem_of_getLast? hc))
  have hhead : isWordAt (k ++ s).head? = true := by
    rw [List.head?_append, Option.or_of_isSome (by simpa using hne), hk.isWordAt_head?]
    decide
  refine ⟨p, k, s, rfl, hk, ?_, fun _ => hends⟩
  rw [WordEdge, hbefore, hhead]
  simp [Xor]

end

/-! ## 3. The check -/

section

variable {options : Options} {gate : Gate} (h : ofOptions options = .ok gate) {text : List Char}

/-- The cause of a rejection does not tell checks from defaults. -/
theorem cause?_check_eq_default (gate : Gate) (text : List Char) :
    gate.cause? .check text = gate.cause? .default text := rfl

include h

/-- What passes as a view is refused as anything else, since it holds SELECT. -/
theorem cause?_of_view (hview : gate.check .view text = .ok ()) {kind : Kind}
    (hk : kind ≠ .view) : gate.cause? kind text = some (.denied "SELECT") := by
  have hholds := (check_eq_ok_iff h).mp hview
  have hocc : selectRule.Occurs text := (hholds .opensWithSelect rfl).occurs
  have hrules : options.rules kind = [] ++ selectRule :: options.rules .view :=
    Options.rules_eq_cons hk
  have hmem : selectRule ∈ options.rules kind := by simp [hrules]
  have hall : Condition.all = [.notBlank, .withinLimit, .noControl, .noComment,
      .opensWithSelect, .oneStatement] ++ .nothingDenied :: [] := rfl
  rw [cause?_eq_some_iff h]
  refine ⟨.nothingDenied, ⟨_, _, hall, fun hnone => hnone selectRule hmem hocc, ?_⟩,
    selectRule, ⟨[], _, hrules, hocc, by simp⟩, rfl⟩
  intro c hc
  rw [not_not]
  by_cases hselect : c = .opensWithSelect
  · rw [hselect]
    exact fun hview => absurd hview hk
  · have hdenied : c ≠ .nothingDenied := by
      rintro rfl
      exact absurd hc (by decide)
    exact (Condition.holds_congr hselect hdenied kind .view).mpr (hholds c)

/-- **A check becomes a view behind SELECT**, if there is room for the word and no
rule denies it. -/
theorem check_view_of_check (hfree : ∀ rule ∈ options.rules .view, ¬ rule.Occurs "SELECT".toList)
    (hlength : ("SELECT".toList ++ ' ' :: text).length ≤ options.maxLength)
    (hok : gate.check .check text = .ok ()) :
    gate.check .view ("SELECT".toList ++ ' ' :: text) = .ok () := by
  rw [check_eq_ok_iff h] at hok ⊢
  intro c
  cases c with
  | notBlank => exact ⟨'S', by simp, by decide⟩
  | withinLimit => exact hlength
  | noControl =>
      intro c hc
      rcases List.mem_append.mp hc with hword | hrest
      · have hplain : ∀ c ∈ "SELECT".toList, isControl c = false := by decide
        intro hcontrol
        rw [← isControl_iff, hplain c hword] at hcontrol
        cases hcontrol
      · rcases List.mem_cons.mp hrest with rfl | hmem
        · intro hcontrol
          rw [← isControl_iff] at hcontrol
          exact absurd hcontrol (by decide)
        · exact hok .noControl c hmem
  | noComment =>
      obtain ⟨hdash, hslash⟩ := hok .noComment
      constructor <;> intro hcomment <;> rcases infix_append_cons (by decide) hcomment with h | h
      · exact absurd (h.subset (by simp : '-' ∈ _)) (by decide)
      · exact hdash h
      · exact absurd (h.subset (by simp : '/' ∈ _)) (by decide)
      · exact hslash h
  | opensWithSelect =>
      have hedge : isBoundary "SELECT".toList.getLast? (some ' ') = true := by decide
      exact fun _ => ⟨[], "SELECT".toList, ' ' :: text, rfl, by simp, rfl, isBoundary_iff.mp hedge⟩
  | oneStatement =>
      obtain ⟨hcount, hrest⟩ := hok .oneStatement
      refine ⟨by simpa [List.count_append, List.count_cons] using hcount, fun p s hps => ?_⟩
      have hcut : p ++ [';'] ++ s = "SELECT".toList ++ ' ' :: text := by
        rw [hps, List.append_assoc, List.singleton_append]
      rcases exists_side hcut (by decide) with ⟨s', hword, -⟩ | ⟨p', rfl, -⟩
      · have hmem : ';' ∈ "SELECT".toList := by simp [hword]
        exact absurd hmem (by decide)
      · exact hrest p' s (by simp)
  | nothingDenied =>
      intro rule hr hocc
      rcases (occurs_append_blank_iff (not_isBlank_of_mem_rules h hr) (by decide)).mp hocc
        with hword | htext
      · exact hfree rule hr hword
      · refine hok .nothingDenied rule ?_ htext
        rw [Options.rules_eq_cons (by decide)]
        exact List.mem_cons_of_mem _ hr

end

/-- No built-in rule denies SELECT. -/
theorem not_occurs_select : ∀ rule ∈ Options.rules {} .view, ¬ rule.Occurs "SELECT".toList := by
  intro rule hr
  have hnone : ∀ rule ∈ Options.rules {} .view, rule.occursIn "SELECT".toList = false := by
    decide +kernel
  rw [← occursIn_iff (keyword_ne_nil ofOptions_default hr), hnone rule hr]
  decide

/-- **How the kinds relate.** A check and a default have the same verdict up to the
kind. What passes as a view is refused as a check and as a default because of
SELECT. And with the gate without choices, a check becomes a view behind SELECT,
as long as there is room for the word. -/
theorem verdict_across_kinds {options : Options} {gate : Gate} (h : ofOptions options = .ok gate)
    (text : List Char) :
    ((gate.check .check text = .ok () ∧ gate.check .default text = .ok ())
        ∨ ∃ cause, gate.check .check text = .error ⟨.check, cause⟩
          ∧ gate.check .default text = .error ⟨.default, cause⟩)
      ∧ (gate.check .view text = .ok () →
          gate.check .check text = .error ⟨.check, .denied "SELECT"⟩
            ∧ gate.check .default text = .error ⟨.default, .denied "SELECT"⟩)
      ∧ (standard.check .check text = .ok () →
          ("SELECT ".toList ++ text).length ≤ standard.maxLength →
          standard.check .view ("SELECT ".toList ++ text) = .ok ()) := by
  refine ⟨?_, fun hview => ?_, fun hok hlength => ?_⟩
  · cases hcause : gate.cause? .check text with
    | none =>
        rw [check, check, ← cause?_check_eq_default, hcause]
        exact .inl ⟨rfl, rfl⟩
    | some cause =>
        refine .inr ⟨cause, check_eq_error_iff.mpr ⟨rfl, hcause⟩, check_eq_error_iff.mpr ⟨rfl, ?_⟩⟩
        rwa [← cause?_check_eq_default]
  · exact ⟨check_eq_error_iff.mpr ⟨rfl, cause?_of_view h hview (by decide)⟩,
      check_eq_error_iff.mpr ⟨rfl, cause?_of_view h hview (by decide)⟩⟩
  · exact check_view_of_check ofOptions_default not_occurs_select hlength hok

/-- A view that is refused otherwise, and a check that is taken into a view. -/
theorem verdict_across_kinds_schemaCount :
    ofOptions ⟨60, ["dbo."]⟩ = .ok ⟨60, builtIn ++ [⟨"dbo.", .wordStart⟩]⟩
      ∧ Gate.check ⟨60, builtIn ++ [⟨"dbo.", .wordStart⟩]⟩ .check "\t\u017Felect dbo;".toList
        = .error ⟨.check, .denied "SELECT"⟩
      ∧ standard.check .view ("SELECT ".toList ++ "count(*) - 1;".toList) = .ok () := by
  have hgate : ofOptions ⟨60, ["dbo."]⟩ = .ok ⟨60, builtIn ++ [⟨"dbo.", .wordStart⟩]⟩ := by rfl
  refine ⟨hgate, ((verdict_across_kinds hgate _).2.1 (by rfl)).1, ?_⟩
  exact (verdict_across_kinds hgate _).2.2 (by rfl) (by decide)

end Gate

end SqlAtlas
