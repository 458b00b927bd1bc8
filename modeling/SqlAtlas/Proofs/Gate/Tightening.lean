/-
SqlAtlas.Proofs.Gate.Tightening — options can only tighten the gate.

`Options.KeywordsIn` compares the additional keywords of two options without
regard to order, repetition, letter case and the blanks at their ends. Options
that hold every keyword of others and leave no more room than they do are met by
no text that does not meet the others (`Condition.Holds.of_rules`, one condition
after the other). The built-in rules are in all options, so everything
else is a case of this: the gate without choices has no keywords to hold, and
two options that hold each other's keywords accept the same texts.
-/
import SqlAtlas.Proofs.Gate.Conditions
import SqlAtlas.Proofs.Gate.Keyword

namespace SqlAtlas.Gate

/-! ## 1. Options that hold the keywords of others -/

/-- Every additional keyword of `a` is one of `b`. -/
def Options.KeywordsIn (a b : Options) : Prop :=
  ∀ extra ∈ a.extraKeywords, ∃ other ∈ b.extraKeywords, SameKeyword extra other

instance (a b : Options) : Decidable (a.KeywordsIn b) :=
  inferInstanceAs (Decidable (∀ extra ∈ a.extraKeywords, ∃ other ∈ b.extraKeywords, _))

/-- Whatever breaks a rule of the one breaks a rule of the other. -/
theorem Options.KeywordsIn.exists_occurs {a b : Options} (hab : a.KeywordsIn b) {kind : Kind}
    {rule : DenyRule} (hr : rule ∈ a.rules kind) {text : List Char} (hocc : rule.Occurs text) :
    ∃ other ∈ b.rules kind, other.Occurs text := by
  rcases List.mem_append.mp hr with hbuiltIn | hextra
  · exact ⟨rule, List.mem_append_left _ hbuiltIn, hocc⟩
  · obtain ⟨extra, he, rfl⟩ := List.mem_map.mp hextra
    obtain ⟨other, ho, hsame⟩ := hab extra he
    have hmem : extraRule other ∈ b.rules kind :=
      List.mem_append_right _ (List.mem_map_of_mem ho)
    exact ⟨extraRule other, hmem, hsame.occurs hocc⟩

/-! ## 2. The conditions and the check -/

section

variable {a b : Options} (hlength : b.maxLength ≤ a.maxLength) {kind : Kind} {text : List Char}
variable (hrules : ∀ rule ∈ a.rules kind, rule.Occurs text →
  ∃ other ∈ b.rules kind, other.Occurs text)

include hlength hrules

/-- What meets a condition of options meets that of others that leave as much
room and have no more rules to break. -/
theorem Condition.Holds.of_rules {c : Condition} (h : c.Holds b kind text) :
    c.Holds a kind text := by
  cases c with
  | withinLimit => exact Nat.le_trans h hlength
  | nothingDenied =>
      intro rule hr hocc
      obtain ⟨other, ho, hother⟩ := hrules rule hr hocc
      exact h other ho hother
  | notBlank | noControl | noComment | opensWithSelect | oneStatement => exact h

theorem check_ok_of_rules {gateA gateB : Gate} (ha : ofOptions a = .ok gateA)
    (hb : ofOptions b = .ok gateB) (hok : gateB.check kind text = .ok ()) :
    gateA.check kind text = .ok () := by
  rw [check_eq_ok_iff hb] at hok
  rw [check_eq_ok_iff ha]
  exact fun c => (hok c).of_rules hlength hrules

end

theorem check_ok_of_tighter {a b : Options} {gateA gateB : Gate} (ha : ofOptions a = .ok gateA)
    (hb : ofOptions b = .ok gateB) (hlength : b.maxLength ≤ a.maxLength) (hab : a.KeywordsIn b)
    {kind : Kind} {text : List Char} (hok : gateB.check kind text = .ok ()) :
    gateA.check kind text = .ok () :=
  check_ok_of_rules hlength (fun _ hr => hab.exists_occurs hr) ha hb hok

/-- The gate without choices is that of the options that choose nothing. -/
theorem ofOptions_default : ofOptions {} = .ok standard := rfl

/-- Options that hold no other keywords than valid ones are valid. -/
theorem exists_ofOptions_of_keywordsIn {a b : Options} {gateA : Gate}
    (ha : ofOptions a = .ok gateA) (hlength : a.maxLength = b.maxLength) (hba : b.KeywordsIn a) :
    ∃ gateB, ofOptions b = .ok gateB := by
  obtain ⟨hzero, hextras, -⟩ := ofOptions_eq_ok_iff.mp ha
  refine ⟨_, ofOptions_eq_ok_iff.mpr ⟨hlength ▸ hzero, fun extra he => ?_, rfl⟩⟩
  obtain ⟨other, ho, hsame⟩ := hba extra he
  exact hsame.symm.isKeyword (hextras other ho)

/-! ## 3. The statement -/

/-- **Options can only tighten the gate.** A text that passes with more keywords
and no more room passes with fewer and with more room. So it passes without
choices, if the options left no more room than those; and order, repetition and
letter case of the keywords change neither whether the options are valid nor
which texts pass. -/
theorem accepted_of_tighter :
    (∀ (a b : Options) (gateA gateB : Gate), ofOptions a = .ok gateA → ofOptions b = .ok gateB →
        b.maxLength ≤ a.maxLength → a.KeywordsIn b →
        ∀ kind text, gateB.check kind text = .ok () → gateA.check kind text = .ok ())
      ∧ (∀ (options : Options) (gate : Gate), ofOptions options = .ok gate →
        options.maxLength ≤ 2048 →
        ∀ kind text, gate.check kind text = .ok () → standard.check kind text = .ok ())
      ∧ ∀ (a b : Options) (gateA : Gate), ofOptions a = .ok gateA → a.maxLength = b.maxLength →
        a.KeywordsIn b → b.KeywordsIn a →
        ∃ gateB, ofOptions b = .ok gateB
          ∧ ∀ kind text, gateA.check kind text = .ok () ↔ gateB.check kind text = .ok () := by
  refine ⟨fun a b gateA gateB ha hb hlength hab kind text => ?_,
    fun options gate h hlength kind text => ?_, fun a b gateA ha hlength hab hba => ?_⟩
  · exact check_ok_of_tighter ha hb hlength hab
  · have hnone : Options.KeywordsIn {} options := fun extra he => absurd he List.not_mem_nil
    exact check_ok_of_tighter ofOptions_default h hlength hnone
  · obtain ⟨gateB, hb⟩ := exists_ofOptions_of_keywordsIn ha hlength hba
    refine ⟨gateB, hb, fun kind text => ⟨?_, ?_⟩⟩
    · exact check_ok_of_tighter hb ha hlength.le hba
    · exact check_ok_of_tighter ha hb hlength.ge hab

/-- A keyword is written in capitals behind a beginning of words, and then twice. -/
theorem accepted_of_tighter_mergeTwice :
    ofOptions ⟨90, ["merge"]⟩ = .ok ⟨90, builtIn ++ [⟨"merge", .word⟩]⟩
      ∧ ofOptions ⟨40, ["dbo_", " MERGE\t"]⟩
          = .ok ⟨40, builtIn ++ [⟨"dbo_", .wordStart⟩, ⟨"MERGE", .word⟩]⟩
      ∧ Options.KeywordsIn ⟨90, ["merge"]⟩ ⟨40, ["dbo_", " MERGE\t"]⟩
      ∧ Gate.check ⟨90, builtIn ++ [⟨"merge", .word⟩]⟩ .check "merged > 0".toList = .ok ()
      ∧ standard.check .check "merged > 0".toList = .ok ()
      ∧ ∃ gate, ofOptions ⟨40, ["Merge", "DBO_", "merge"]⟩ = .ok gate
          ∧ gate.check .check "merged > 0".toList = .ok () := by
  have ha : ofOptions ⟨90, ["merge"]⟩ = .ok ⟨90, builtIn ++ [⟨"merge", .word⟩]⟩ := by rfl
  have hb : ofOptions ⟨40, ["dbo_", " MERGE\t"]⟩
      = .ok ⟨40, builtIn ++ [⟨"dbo_", .wordStart⟩, ⟨"MERGE", .word⟩]⟩ := by rfl
  have hab : Options.KeywordsIn ⟨90, ["merge"]⟩ ⟨40, ["dbo_", " MERGE\t"]⟩ := by decide +kernel
  have hok : Gate.check ⟨40, builtIn ++ [⟨"dbo_", .wordStart⟩, ⟨"MERGE", .word⟩]⟩ .check
      "merged > 0".toList = .ok () := by rfl
  obtain ⟨htighter, hstandard, hsame⟩ := accepted_of_tighter
  obtain ⟨gate, hgate, hiff⟩ := hsame ⟨40, ["dbo_", " MERGE\t"]⟩ ⟨40, ["Merge", "DBO_", "merge"]⟩
    _ hb rfl (by decide +kernel) (by decide +kernel)
  exact ⟨ha, hb, hab, htighter _ _ _ _ ha hb (by decide) hab _ _ hok,
    hstandard _ _ hb (by decide) _ _ hok, gate, hgate, (hiff _ _).mp hok⟩

end SqlAtlas.Gate
