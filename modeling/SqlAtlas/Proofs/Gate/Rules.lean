/-
SqlAtlas.Proofs.Gate.Rules — the rules of a gate that is made from options.

`ofOptions_eq_ok_iff` says which options make a gate and which gate that is:
the limit has to leave room for an expression, every additional keyword has to
be one (`IsKeyword`), and the gate holds the built-in rules and behind them
one rule for each additional keyword, in the order of the options.

`Options.rules` lists the rules that a kind of expression is held to by the
options alone, so that statements about a gate need not look into it.
-/
import SqlAtlas.Gate

namespace SqlAtlas.Gate

open Text (trim)

/-! ## 1. Additional keywords -/

/-- A text that makes a rule: without the blanks at its ends it has
characters, and all of them may stand in keywords. -/
structure IsKeyword (extra : String) : Prop where
  nonempty : trim extra.toList ≠ []
  plain : ∀ c ∈ trim extra.toList, isKeywordChar c = true

/-- The rule of an additional keyword: its characters at the beginning of
every word if it ends in an underscore or a dot, otherwise as a whole word. -/
def extraRule (extra : String) : DenyRule :=
  ⟨String.ofList (trim extra.toList),
    if marksPrefix (trim extra.toList) then .wordStart else .word⟩

/-- Nothing else is asked of an additional keyword. -/
theorem isKeyword_iff {extra : String} : IsKeyword extra ↔
    ¬ ((trim extra.toList).isEmpty || !(trim extra.toList).all isKeywordChar) = true := by
  simp only [Bool.or_eq_true, List.isEmpty_iff, Bool.not_eq_true', not_or, Bool.not_eq_false,
    List.all_eq_true]
  exact ⟨fun h => ⟨h.nonempty, h.plain⟩, fun h => ⟨h.1, h.2⟩⟩

theorem ruleOf_eq_ok_iff {extra : String} {rule : DenyRule} :
    ruleOf extra = .ok rule ↔ IsKeyword extra ∧ rule = extraRule extra := by
  rw [isKeyword_iff, ruleOf]
  split
  · rename_i hbad
    constructor
    · rintro ⟨⟩
    · rintro ⟨hgood, -⟩
      exact absurd hbad hgood
  · rename_i hgood
    constructor
    · rintro ⟨⟩
      exact ⟨hgood, rfl⟩
    · rintro ⟨-, rfl⟩
      rfl

theorem rulesOf_eq_ok_iff : ∀ {extras : List String} {rules : List DenyRule},
    rulesOf extras = .ok rules ↔
      (∀ extra ∈ extras, IsKeyword extra) ∧ rules = extras.map extraRule
  | [], rules => by
      simp only [rulesOf, List.not_mem_nil, false_implies, implies_true, true_and, List.map_nil]
      constructor
      · rintro ⟨⟩
        rfl
      · rintro rfl
        rfl
  | extra :: rest, rules => by
      rw [rulesOf, List.forall_mem_cons, List.map_cons]
      constructor
      · intro h
        split at h
        · cases h
        · rename_i rule hrule
          split at h
          · cases h
          · rename_i others hothers
            cases h
            obtain ⟨hextra, rfl⟩ := ruleOf_eq_ok_iff.mp hrule
            obtain ⟨hrest, rfl⟩ := rulesOf_eq_ok_iff.mp hothers
            exact ⟨⟨hextra, hrest⟩, rfl⟩
      · rintro ⟨⟨hextra, hrest⟩, rfl⟩
        rw [ruleOf_eq_ok_iff.mpr ⟨hextra, rfl⟩]
        simp only
        rw [rulesOf_eq_ok_iff.mpr ⟨hrest, rfl⟩]

/-! ## 2. Gates -/

/-- **Which options make a gate, and which gate they make.** -/
theorem ofOptions_eq_ok_iff {options : Options} {gate : Gate} :
    ofOptions options = .ok gate ↔
      options.maxLength ≠ 0 ∧ (∀ extra ∈ options.extraKeywords, IsKeyword extra)
        ∧ gate = ⟨options.maxLength, builtIn ++ options.extraKeywords.map extraRule⟩ := by
  rw [ofOptions]
  constructor
  · intro h
    split at h
    · cases h
    · rename_i hzero
      split at h
      · cases h
      · rename_i extra hextra
        cases h
        obtain ⟨hall, rfl⟩ := rulesOf_eq_ok_iff.mp hextra
        exact ⟨hzero, hall, rfl⟩
  · rintro ⟨hzero, hall, rfl⟩
    rw [if_neg hzero, rulesOf_eq_ok_iff.mpr ⟨hall, rfl⟩]

/-! ## 3. The rules of a kind -/

/-- The rules that a kind of expression is held to, in the order in which they
are asked: SELECT outside views, the built-in keywords, the built-in
beginnings of words, and the additional keywords. -/
def Options.rules (options : Options) (kind : Kind) : List DenyRule :=
  (if kind = .view then [] else [⟨"SELECT", .word⟩])
    ++ deniedKeywords.map (⟨·, .word⟩) ++ deniedPrefixes.map (⟨·, .wordStart⟩)
    ++ options.extraKeywords.map extraRule

theorem rulesFor_eq {options : Options} {gate : Gate} (h : ofOptions options = .ok gate)
    (kind : Kind) : gate.rulesFor kind = options.rules kind := by
  obtain ⟨-, -, rfl⟩ := ofOptions_eq_ok_iff.mp h
  cases kind <;> simp [rulesFor, Options.rules, builtIn, selectRule]

theorem maxLength_eq {options : Options} {gate : Gate} (h : ofOptions options = .ok gate) :
    gate.maxLength = options.maxLength := by
  obtain ⟨-, -, rfl⟩ := ofOptions_eq_ok_iff.mp h
  rfl

/-- What holds of the fixed keywords and of every additional one holds of the
keyword of every rule. -/
theorem forall_keyword {options : Options} {gate : Gate} (h : ofOptions options = .ok gate)
    {P : List Char → Prop}
    (hfixed : ∀ keyword ∈ "SELECT" :: (deniedKeywords ++ deniedPrefixes), P keyword.toList)
    (hextra : ∀ extra, IsKeyword extra → P (trim extra.toList)) {kind : Kind} {rule : DenyRule}
    (hr : rule ∈ options.rules kind) : P rule.keyword.toList := by
  obtain ⟨-, hextras, -⟩ := ofOptions_eq_ok_iff.mp h
  simp only [Options.rules, List.mem_append] at hr
  rcases hr with ((hselect | hword) | hstart) | hadded
  · split at hselect
    · cases hselect
    · rw [List.mem_singleton.mp hselect]
      exact hfixed _ List.mem_cons_self
  · obtain ⟨keyword, hk, rfl⟩ := List.mem_map.mp hword
    exact hfixed keyword (by simp [hk])
  · obtain ⟨keyword, hk, rfl⟩ := List.mem_map.mp hstart
    exact hfixed keyword (by simp [hk])
  · obtain ⟨extra, he, rfl⟩ := List.mem_map.mp hadded
    rw [extraRule, String.toList_ofList]
    exact hextra extra (hextras extra he)

/-- No keyword that a gate denies is empty. -/
theorem keyword_ne_nil {options : Options} {gate : Gate} (h : ofOptions options = .ok gate)
    {kind : Kind} {rule : DenyRule} (hr : rule ∈ options.rules kind) :
    rule.keyword.toList ≠ [] :=
  forall_keyword h (P := (· ≠ [])) (by decide) (fun _ hextra => hextra.nonempty) hr

end SqlAtlas.Gate
