/-
SqlAtlas.Proofs.Gate.Conditions — what an expression has to meet, and which
failure is reported.

`Condition.Holds` states the seven conditions of the gate on a whole text, in
the words of the options: no scanning, no position, no trimming. Two results
tie the check to them. `check_eq_ok_iff` says that an expression passes
exactly if all seven hold, and `check_conditions` adds that a rejection always
has the cause of the first condition that fails, and under the last one the
keyword of the first rule that occurs.

Letters are compared by simple case folding throughout, in the SELECT of a
view as in the denied keywords.
-/
import Mathlib.Data.List.TakeWhile
import SqlAtlas.Proofs.Gate.Occurrence
import SqlAtlas.Proofs.Gate.Rules
import SqlAtlas.Proofs.Text.Blank

namespace SqlAtlas

namespace Text

/-- A search for a text finds it exactly if it stands somewhere. -/
theorem contains_iff {part : List Char} : ∀ {text : List Char},
    contains part text = true ↔ part <:+: text
  | [] => by simp [contains]
  | c :: r => by
      rw [contains, Bool.or_eq_true, List.infix_cons_iff, List.isPrefixOf_iff_prefix,
          contains_iff]

end Text

namespace Gate

open Text (contains_iff isBlank trimStart)

/-! ## 1. The statement -/

/-- The conditions on an expression. -/
inductive Condition where
  | notBlank
  | withinLimit
  | noControl
  | noComment
  | opensWithSelect
  | oneStatement
  | nothingDenied
  deriving DecidableEq, Repr

/-- The conditions in the order in which they are asked. -/
def Condition.all : List Condition :=
  [.notBlank, .withinLimit, .noControl, .noComment, .opensWithSelect, .oneStatement,
    .nothingDenied]

/-- A control character: the general category Cc. -/
def IsControl (c : Char) : Prop := c.toNat ≤ 0x1F ∨ (0x7F ≤ c.toNat ∧ c.toNat ≤ 0x9F)

/-- The text is the word SELECT in some letter case, blanks before it or not,
and whatever follows the word. -/
def OpensWithSelect (text : List Char) : Prop :=
  ∃ p k s, text = p ++ k ++ s ∧ (∀ c ∈ p, isBlank c = true) ∧ SameLetters k "SELECT".toList
    ∧ WordEdge (p ++ k).getLast? s.head?

/-- What each condition asks of a text. -/
def Condition.Holds (options : Options) (kind : Kind) (text : List Char) : Condition → Prop
  | notBlank => ∃ c ∈ text, isBlank c = false
  | withinLimit => text.length ≤ options.maxLength
  | noControl => ∀ c ∈ text, IsControl c → c = '\t' ∨ c = '\n' ∨ c = '\r'
  | noComment => ¬ ['-', '-'] <:+: text ∧ ¬ ['/', '*'] <:+: text
  | opensWithSelect => kind = .view → OpensWithSelect text
  | oneStatement => text.count ';' ≤ 1 ∧ ∀ p s, text = p ++ ';' :: s → ∀ c ∈ s, isBlank c = true
  | nothingDenied => ∀ rule ∈ options.rules kind, ¬ rule.Occurs text

/-- The member `a` of a list is the first that has a property. -/
def IsFirst {α : Type} (P : α → Prop) (l : List α) (a : α) : Prop :=
  ∃ before after, l = before ++ a :: after ∧ P a ∧ ∀ b ∈ before, ¬ P b

/-- The cause that a condition has when it fails. -/
def Condition.Explains (options : Options) (kind : Kind) (text : List Char) (cause : Cause) :
    Condition → Prop
  | notBlank => cause = .empty
  | withinLimit => cause = .tooLong text.length options.maxLength
  | noControl => cause = .controlCharacters
  | noComment => cause = .comment
  | opensWithSelect => cause = .noSelect
  | oneStatement => cause = .denied ";"
  | nothingDenied =>
    ∃ rule, IsFirst (fun rule => rule.Occurs text) (options.rules kind) rule
      ∧ cause = .denied rule.keyword

/-! ## 2. The scans -/

theorem hasComment_iff {text : List Char} :
    hasComment text = true ↔ ¬ (¬ ['-', '-'] <:+: text ∧ ¬ ['/', '*'] <:+: text) := by
  rw [hasComment, Bool.or_eq_true, contains_iff, contains_iff, not_and_or, not_not,
      not_not]
  rfl

theorem isControl_iff {c : Char} : isControl c = true ↔ IsControl c := by
  simp only [isControl, IsControl, Bool.or_eq_true, Bool.and_eq_true, decide_eq_true_eq]
  omega

theorem isForbiddenControl_iff {c : Char} :
    isForbiddenControl c = true ↔ ¬ (IsControl c → c = '\t' ∨ c = '\n' ∨ c = '\r') := by
  simp only [isForbiddenControl, Bool.and_eq_true, isControl_iff, decide_eq_true_eq, ne_eq,
    Classical.not_imp, not_or, and_assoc]

/-- No blank is a spelling of the letter that SELECT begins with. -/
theorem not_isBlank_of_fold {c : Char} (h : fold c = fold 'S') : isBlank c = false := by
  have hs : decide (fold c = fold 'S') = true := decide_eq_true h
  exact Text.not_isBlank_of (p := fun c => decide (fold c = fold 'S')) (by decide) hs

theorem startsWithSelect_iff {text : List Char} :
    startsWithSelect text = true ↔ OpensWithSelect text := by
  have hne : selectRule.keyword.toList ≠ [] := by decide
  rw [startsWithSelect, Bool.and_eq_true, beginsWith_iff]
  constructor
  · rintro ⟨⟨k, s, hrest, hk⟩, hedge⟩
    refine ⟨text.takeWhile isBlank, k, s, ?_, ?_, hk, ?_⟩
    · rw [List.append_assoc, ← hrest, trimStart, List.takeWhile_append_dropWhile]
    · exact fun c hc => List.mem_takeWhile_imp hc
    · rw [hrest] at hedge
      exact (boundaryBehind_iff hne hk _ s).mp hedge
  · rintro ⟨p, k, s, rfl, hp, hk, hedge⟩
    have hrest : trimStart (p ++ k ++ s) = k ++ s := by
      rw [trimStart, List.append_assoc, List.dropWhile_append_of_pos hp]
      cases k with
      | nil => simp [SameLetters] at hk
      | cons c k =>
          have hc : isBlank c = false := not_isBlank_of_fold (List.cons.inj hk).1
          simp [hc]
    rw [hrest]
    exact ⟨⟨k, s, rfl, hk⟩, (boundaryBehind_iff hne hk p s).mpr hedge⟩

theorem hasSecondStatement_eq_false_iff : ∀ {text : List Char},
    hasSecondStatement text = false ↔ ∀ p s, text = p ++ ';' :: s → ∀ c ∈ s, isBlank c = true
  | [] => by simp [hasSecondStatement]
  | c :: r => by
      rw [hasSecondStatement, Bool.or_eq_false_iff, hasSecondStatement_eq_false_iff]
      constructor
      · rintro ⟨hhere, hrest⟩ p s htext
        cases p with
        | nil =>
            obtain ⟨rfl, rfl⟩ := List.cons.inj htext
            simpa using hhere
        | cons d p => exact hrest p s (List.cons.inj htext).2
      · intro h
        refine ⟨?_, fun p s hr => h (c :: p) s (by rw [hr, List.cons_append])⟩
        by_cases hc : c = ';'
        · have hblank := h [] r (by rw [hc, List.nil_append])
          simpa [hc] using hblank
        · simp [hc]

/-- Behind a semicolon there is no room for another one. -/
theorem count_semicolon_le_one : ∀ {text : List Char},
    (∀ p s, text = p ++ ';' :: s → ∀ c ∈ s, isBlank c = true) → text.count ';' ≤ 1
  | [], _ => by simp
  | c :: r, h => by
      by_cases hc : c = ';'
      · have hnone : r.count ';' = 0 := by
          refine List.count_eq_zero.mpr (fun hmem => ?_)
          have := h [] r (by rw [hc, List.nil_append]) ';' hmem
          exact absurd this (by decide)
        rw [hc, List.count_cons_self, hnone]
      · rw [List.count_cons_of_ne hc]
        exact count_semicolon_le_one
          (fun p s hr => h (c :: p) s (by rw [hr, List.cons_append]))

theorem hasSecondStatement_iff {text : List Char} : hasSecondStatement text = true ↔
    ¬ (text.count ';' ≤ 1 ∧ ∀ p s, text = p ++ ';' :: s → ∀ c ∈ s, isBlank c = true) := by
  rw [← Bool.not_eq_false, hasSecondStatement_eq_false_iff]
  exact not_congr ⟨fun h => ⟨count_semicolon_le_one h, h⟩, fun h => h.2⟩

/-! ## 3. One condition at a time -/

/-- The cause that the check finds when it asks for one condition. -/
def Condition.cause? (gate : Gate) (kind : Kind) (text : List Char) : Condition → Option Cause
  | notBlank => if text.all isBlank then some .empty else none
  | withinLimit =>
    if gate.maxLength < text.length then some (.tooLong text.length gate.maxLength) else none
  | noControl => if text.any isForbiddenControl then some .controlCharacters else none
  | noComment => if hasComment text then some .comment else none
  | opensWithSelect => if kind = .view && !startsWithSelect text then some .noSelect else none
  | oneStatement => if hasSecondStatement text then some (.denied ";") else none
  | nothingDenied => (gate.deniedKeyword? kind text).map .denied

/-- The check asks for one condition after the other. -/
theorem cause?_eq_findSome? (gate : Gate) (kind : Kind) (text : List Char) :
    gate.cause? kind text = Condition.all.findSome? (Condition.cause? gate kind text) := by
  simp only [Gate.cause?, Condition.all, List.findSome?, Condition.cause?]
  split
  · rfl
  · split
    · rfl
    · split
      · rfl
      · split
        · rfl
        · split
          · rfl
          · split
            · rfl
            · cases gate.deniedKeyword? kind text <;> rfl

section

variable {options : Options} {gate : Gate} (h : ofOptions options = .ok gate)
variable {kind : Kind} {text : List Char}

include h

theorem deniedKeyword?_eq_none_iff : gate.deniedKeyword? kind text = none ↔
    ∀ rule ∈ options.rules kind, ¬ rule.Occurs text := by
  rw [deniedKeyword?, rulesFor_eq h, Option.map_eq_none_iff, List.find?_eq_none]
  exact forall₂_congr (fun rule hr => not_congr (occursIn_iff (keyword_ne_nil h hr)))

theorem deniedKeyword?_eq_some_iff {keyword : String} :
    gate.deniedKeyword? kind text = some keyword ↔
      ∃ rule, IsFirst (fun rule => rule.Occurs text) (options.rules kind) rule
        ∧ keyword = rule.keyword := by
  have hocc : ∀ rule ∈ options.rules kind, rule.occursIn text = true ↔ rule.Occurs text :=
    fun rule hr => occursIn_iff (keyword_ne_nil h hr)
  rw [deniedKeyword?, rulesFor_eq h, Option.map_eq_some_iff]
  constructor
  · rintro ⟨rule, hfind, rfl⟩
    obtain ⟨hrule, before, after, hlist, hbefore⟩ := List.find?_eq_some_iff_append.mp hfind
    rw [hlist] at hocc
    refine ⟨rule, ⟨before, after, hlist, (hocc rule (by simp)).mp hrule, fun b hb hb' => ?_⟩, rfl⟩
    have hfound : b.occursIn text = true := (hocc b (by simp [hb])).mpr hb'
    simpa [hfound] using hbefore b hb
  · rintro ⟨rule, ⟨before, after, hlist, hrule, hbefore⟩, rfl⟩
    refine ⟨rule, List.find?_eq_some_iff_append.mpr ?_, rfl⟩
    rw [hlist] at hocc
    refine ⟨(hocc rule (by simp)).mpr hrule, before, after, hlist, fun b hb => ?_⟩
    have hnot : ¬ b.occursIn text = true := mt (hocc b (by simp [hb])).mp (hbefore b hb)
    simpa using hnot

/-- Nothing is found for a condition exactly if it holds. -/
theorem condition_cause?_eq_none_iff {c : Condition} :
    Condition.cause? gate kind text c = none ↔ c.Holds options kind text := by
  have hif : ∀ {b : Bool} {P : Prop} {own : Cause}, (b = true ↔ ¬ P) →
      ((if b = true then some own else none) = none ↔ P) := by
    intro b P own hb
    rw [← not_not (a := P), ← hb]
    cases b <;> simp
  cases c with
  | notBlank => exact hif (by simp [Condition.Holds])
  | withinLimit =>
      rw [Condition.cause?, maxLength_eq h]
      simp [Condition.Holds]
  | noControl => exact hif (by simp [Condition.Holds, isForbiddenControl_iff])
  | noComment => exact hif hasComment_iff
  | opensWithSelect =>
      refine hif ?_
      rw [Bool.and_eq_true, Bool.not_eq_true', Bool.eq_false_iff, ne_eq, startsWithSelect_iff]
      simp [Condition.Holds]
  | oneStatement => exact hif hasSecondStatement_iff
  | nothingDenied =>
      rw [Condition.cause?, Option.map_eq_none_iff, deniedKeyword?_eq_none_iff h]
      rfl

/-- What is found for a condition that fails explains the failure. -/
theorem condition_cause?_eq_some_iff {c : Condition} (hc : ¬ c.Holds options kind text)
    {cause : Cause} :
    Condition.cause? gate kind text c = some cause ↔ c.Explains options kind text cause := by
  have hif : ∀ {P : Prop} [Decidable P] {own : Cause}, ¬ (if P then some own else none) = none →
      ((if P then some own else none) = some cause ↔ cause = own) := by
    intro P _ own hne
    split at hne
    · rename_i hP
      simp [hP, eq_comm]
    · exact absurd rfl hne
  rw [← condition_cause?_eq_none_iff h] at hc
  cases c with
  | withinLimit =>
      rw [Condition.Explains, ← maxLength_eq h]
      exact hif hc
  | nothingDenied =>
      rw [Condition.cause?, Condition.Explains, Option.map_eq_some_iff]
      constructor
      · rintro ⟨keyword, hkeyword, rfl⟩
        obtain ⟨rule, hfirst, rfl⟩ := (deniedKeyword?_eq_some_iff h).mp hkeyword
        exact ⟨rule, hfirst, rfl⟩
      · rintro ⟨rule, hfirst, rfl⟩
        exact ⟨_, (deniedKeyword?_eq_some_iff h).mpr ⟨rule, hfirst, rfl⟩, rfl⟩
  | notBlank | noControl | noComment | opensWithSelect | oneStatement => exact hif hc

/-! ## 4. The check -/

theorem cause?_eq_none_iff :
    gate.cause? kind text = none ↔ ∀ c : Condition, c.Holds options kind text := by
  have hall : ∀ c : Condition, c ∈ Condition.all := by
    intro c
    cases c <;> decide
  rw [cause?_eq_findSome?, List.findSome?_eq_none_iff]
  constructor
  · exact fun hnone c => (condition_cause?_eq_none_iff h).mp (hnone c (hall c))
  · exact fun hholds c _ => (condition_cause?_eq_none_iff h).mpr (hholds c)

theorem cause?_eq_some_iff {cause : Cause} : gate.cause? kind text = some cause ↔
    ∃ c, IsFirst (fun c : Condition => ¬ c.Holds options kind text) Condition.all c
      ∧ c.Explains options kind text cause := by
  rw [cause?_eq_findSome?, List.findSome?_eq_some_iff]
  constructor
  · rintro ⟨before, c, after, hlist, hc, hbefore⟩
    have hfails : ¬ c.Holds options kind text := by
      rw [← condition_cause?_eq_none_iff h, hc]
      exact Option.some_ne_none cause
    refine ⟨c, ⟨before, after, hlist, hfails, fun b hb => not_not.mpr ?_⟩,
      (condition_cause?_eq_some_iff h hfails).mp hc⟩
    exact (condition_cause?_eq_none_iff h).mp (hbefore b hb)
  · rintro ⟨c, ⟨before, after, hlist, hfails, hbefore⟩, hexplains⟩
    refine ⟨before, c, after, hlist, (condition_cause?_eq_some_iff h hfails).mpr hexplains, ?_⟩
    exact fun b hb => (condition_cause?_eq_none_iff h).mpr (not_not.mp (hbefore b hb))

/-- An expression passes exactly if it meets every condition. -/
theorem check_eq_ok_iff :
    gate.check kind text = .ok () ↔ ∀ c : Condition, c.Holds options kind text := by
  rw [← cause?_eq_none_iff h, check]
  cases gate.cause? kind text <;> simp

end

theorem check_eq_error_iff {gate : Gate} {kind : Kind} {text : List Char} {rejection : Rejection} :
    gate.check kind text = .error rejection ↔
      rejection.kind = kind ∧ gate.cause? kind text = some rejection.cause := by
  rw [check]
  cases gate.cause? kind text with
  | none => simp
  | some cause =>
      obtain ⟨own, found⟩ := rejection
      simp [eq_comm]

/-- **The gate accepts exactly what meets its conditions, and reports the
first that fails.** -/
theorem check_conditions {options : Options} {gate : Gate} (h : ofOptions options = .ok gate)
    (kind : Kind) (text : List Char) :
    (gate.check kind text = .ok () ↔ ∀ c : Condition, c.Holds options kind text)
      ∧ ∀ rejection, gate.check kind text = .error rejection ↔
          rejection.kind = kind
            ∧ ∃ c, IsFirst (fun c : Condition => ¬ c.Holds options kind text) Condition.all c
                ∧ c.Explains options kind text rejection.cause := by
  refine ⟨check_eq_ok_iff h, fun rejection => ?_⟩
  rw [check_eq_error_iff, cause?_eq_some_iff h]

/-- Two additional keywords occur, and the second of them first. -/
theorem check_conditions_mergeBehindSchema :
    ∃ gate, ofOptions ⟨40, ["merge", " dbo_ "]⟩ = .ok gate
      ∧ (gate.check .check "DBO_f(1) > 0 or Merge".toList = .ok () ↔
          ∀ c : Condition,
            c.Holds ⟨40, ["merge", " dbo_ "]⟩ .check "DBO_f(1) > 0 or Merge".toList)
      ∧ ∃ c, IsFirst
            (fun c : Condition =>
              ¬ c.Holds ⟨40, ["merge", " dbo_ "]⟩ .check "DBO_f(1) > 0 or Merge".toList)
            Condition.all c
          ∧ c.Explains ⟨40, ["merge", " dbo_ "]⟩ .check "DBO_f(1) > 0 or Merge".toList
              (.denied "merge") := by
  have hgate : ofOptions ⟨40, ["merge", " dbo_ "]⟩
      = .ok ⟨40, builtIn ++ [⟨"merge", .word⟩, ⟨"dbo_", .wordStart⟩]⟩ := by rfl
  have hconditions := check_conditions hgate .check "DBO_f(1) > 0 or Merge".toList
  exact ⟨_, hgate, hconditions.1, ((hconditions.2 ⟨.check, .denied "merge"⟩).mp (by rfl)).2⟩

end Gate

end SqlAtlas
