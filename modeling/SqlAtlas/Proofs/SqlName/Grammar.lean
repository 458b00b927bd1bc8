/-
SqlAtlas.Proofs.SqlName.Grammar — the names that are safe to splice, as a
formal language.

`isSafe` judges a text by taking it apart. `columnName` says what such a text
looks like from outside, as a regular language over characters: words, at most
one list of numbers or identifiers, more words, and bracket groups of digits.
`mem_columnName_of_isSafe` takes the first to the second. From the language
alone follows what matters to a statement that the name is spliced into: two
parentheses at most and no quote, separator or comment (`Harmless`).
-/
import Mathlib.Computability.Language
import SqlAtlas.Proofs.SqlName.Layout
import SqlAtlas.Proofs.Text.Words
import SqlAtlas.SqlName
import SqlAtlas.SqlName.Safe

namespace SqlAtlas.SqlName.Grammar

open Text (isBlank isWordDigit pieces trim words)
open scoped Computability

/-! ## 1. The language -/

/-- One character of a kind. -/
def one (p : Char → Bool) : Language Char := {s | ∃ c, s = [c] ∧ p c = true}

/-- One given character. -/
def mark (c : Char) : Language Char := one (· = c)

def blanks : Language Char := (one isBlank)∗

def gap : Language Char := one isBlank * blanks

/-- A word: an ASCII letter or an underscore, then also digits and dots. -/
def word : Language Char := one isIdentStart * (one (fun c => isIdentChar c || c = '.'))∗

def identifier : Language Char := one isIdentStart * (one isIdentChar)∗

/-- Decimal digits of any script, or none. -/
def digits : Language Char := (one isWordDigit)∗

def number : Language Char := one isWordDigit * digits

/-- A parameter with blanks around it. -/
def parameter : Language Char := blanks * (number + identifier) * blanks

/-- Parameters with commas between them. -/
def parameters : Language Char := parameter * (mark ',' * parameter)∗

/-- The parameter list in its parentheses. -/
def list : Language Char := blanks * (mark '(' * (parameters * mark ')'))

/-- Words, each behind a blank. -/
def furtherWords : Language Char := (gap * word)∗

def wordRow : Language Char := word * furtherWords

def group : Language Char := blanks * (mark '[' * (digits * mark ']'))

/-- The names of column types: words, perhaps a list, more words, groups. -/
def columnName : Language Char := wordRow * (1 + list) * furtherWords * group∗

/-! ## 2. Membership -/

theorem mem_one {p : Char → Bool} {c : Char} (h : p c = true) : [c] ∈ one p := ⟨c, rfl, h⟩

theorem mem_mark (c : Char) : [c] ∈ mark c := mem_one (by simp)

theorem mem_kstar_of_mem {L : Language Char} {s : List Char} (h : s ∈ L) : s ∈ L∗ :=
  Set.mem_of_mem_of_subset h (le_kstar (a := L))

theorem kstar_append_mem {L : Language Char} {s t : List Char} (hs : s ∈ L∗) (ht : t ∈ L∗) :
    s ++ t ∈ L∗ := by
  rw [← kstar_mul_kstar]
  exact Language.append_mem_mul hs ht

theorem append_mem_kstar {L : Language Char} {s t : List Char} (hs : s ∈ L) (ht : t ∈ L∗) :
    s ++ t ∈ L∗ :=
  kstar_append_mem (mem_kstar_of_mem hs) ht

/-- A run of characters of one kind. -/
theorem mem_kstar_one {p : Char → Bool} : ∀ {s : List Char},
    (∀ c ∈ s, p c = true) → s ∈ (one p)∗
  | [], _ => Language.nil_mem_kstar _
  | c :: s, h => by
      obtain ⟨hc, hs⟩ := List.forall_mem_cons.mp h
      exact append_mem_kstar (mem_one hc) (mem_kstar_one hs)

theorem mem_blanks {b : List Char} (h : ∀ c ∈ b, isBlank c = true) : b ∈ blanks :=
  mem_kstar_one h

theorem mem_gap {b : List Char} (hb : ∀ c ∈ b, isBlank c = true) (hne : b ≠ []) : b ∈ gap := by
  cases b with
  | nil => exact absurd rfl hne
  | cons c b =>
      obtain ⟨hc, hrest⟩ := List.forall_mem_cons.mp hb
      exact Language.append_mem_mul (mem_one hc) (mem_blanks hrest)

theorem mem_word {w : List Char} (h : isTypeWord w = true) : w ∈ word := by
  cases w with
  | nil => cases h
  | cons c r =>
      simp only [isTypeWord, Bool.and_eq_true, List.all_eq_true] at h
      exact Language.append_mem_mul (mem_one h.1) (mem_kstar_one h.2)

theorem mem_identifier {w : List Char} (h : isIdentifier w = true) : w ∈ identifier := by
  cases w with
  | nil => cases h
  | cons c r =>
      simp only [isIdentifier, Bool.and_eq_true, List.all_eq_true] at h
      exact Language.append_mem_mul (mem_one h.1) (mem_kstar_one h.2)

theorem mem_number {s : List Char} (hne : s ≠ []) (h : ∀ c ∈ s, isWordDigit c = true) :
    s ∈ number := by
  cases s with
  | nil => exact absurd rfl hne
  | cons c r =>
      obtain ⟨hc, hr⟩ := List.forall_mem_cons.mp h
      exact Language.append_mem_mul (mem_one hc) (mem_kstar_one hr)

theorem mem_item {s : List Char} (h : isSafeParameter s = true) : s ∈ number + identifier := by
  simp only [isSafeParameter, Bool.or_eq_true, Bool.and_eq_true, Bool.not_eq_true',
    List.isEmpty_eq_false_iff, List.all_eq_true] at h
  rcases h with ⟨hne, hall⟩ | hid
  · exact .inl (mem_number hne hall)
  · exact .inr (mem_identifier hid)

theorem mem_parameter {s : List Char} (h : isSafeParameter (trim s) = true) :
    s ∈ parameter := by
  obtain ⟨b, e, hs, hb, he⟩ := Text.exists_trim s
  rw [hs]
  exact Language.append_mem_mul (Language.append_mem_mul (mem_blanks hb) (mem_item h))
    (mem_blanks he)

/-! ## 3. Members of one kind of character -/

/-- Every character of every member is of a kind. -/
def Over (p : Char → Bool) (L : Language Char) : Prop := ∀ s ∈ L, ∀ c ∈ s, p c = true

theorem over_one {p q : Char → Bool} (h : ∀ c, p c = true → q c = true) : Over q (one p) := by
  rintro s ⟨c, rfl, hc⟩ d hd
  rw [List.mem_singleton.mp hd]
  exact h c hc

theorem Over.mul {p : Char → Bool} {L M : Language Char} (hL : Over p L) (hM : Over p M) :
    Over p (L * M) := by
  intro s hs c hc
  obtain ⟨a, ha, b, hb, rfl⟩ := Language.mem_mul.mp hs
  rcases List.mem_append.mp hc with hc | hc
  · exact hL a ha c hc
  · exact hM b hb c hc

theorem Over.add {p : Char → Bool} {L M : Language Char} (hL : Over p L) (hM : Over p M) :
    Over p (L + M)
  | s, .inl hs => hL s hs
  | s, .inr hs => hM s hs

theorem Over.kstar {p : Char → Bool} {L : Language Char} (hL : Over p L) : Over p L∗ := by
  rintro s ⟨ss, rfl, hss⟩ c hc
  obtain ⟨t, ht, hct⟩ := List.mem_flatten.mp hc
  exact hL t (hss t ht) c hct

/-! ## 4. Parts of a safe name -/

/-- A text whose pieces all belong to a language is one of its members after the
other, with commas between them. -/
theorem mem_of_pieces {L : Language Char} {s : List Char}
    (h : ∀ q ∈ pieces (· = ',') s, q ∈ L) : s ∈ L * (mark ',' * L)∗ := by
  induction s using Text.pieces_induction (· = ',') with
  | last s hs hone =>
      rw [hone] at h
      have hmem := Language.append_mem_mul (h s (by simp)) (Language.nil_mem_kstar (mark ',' * L))
      rwa [List.append_nil] at hmem
  | cut q c r hq hc hcut ih =>
      rw [hcut] at h
      obtain ⟨hqL, hrest⟩ := List.forall_mem_cons.mp h
      obtain ⟨t, ht, u, hu, rfl⟩ := Language.mem_mul.mp (ih hrest)
      rw [of_decide_eq_true hc]
      exact Language.append_mem_mul hqL
        (append_mem_kstar (Language.append_mem_mul (mem_mark ',') ht) hu)

/-- Words that all begin behind a blank. -/
theorem mem_furtherWords {s : List Char} (hhead : ∀ c ∈ s.head?, isBlank c = true)
    (h : ∀ w ∈ words s, isTypeWord w = true) : s ∈ furtherWords * blanks := by
  rcases Text.exists_first_word s with ⟨hb, -⟩ | ⟨b, w, r, hs, hb, hne, hw, hr, hwords⟩
  · exact Language.append_mem_mul (Language.nil_mem_kstar _) (mem_blanks hb)
  · rw [hwords] at h
    obtain ⟨hword, hrest⟩ := List.forall_mem_cons.mp h
    have hbne : b ≠ [] := by
      rintro rfl
      obtain ⟨c, v, rfl⟩ := List.exists_cons_of_ne_nil hne
      have hc := hw c (by simp)
      rw [hhead c (by rw [hs]; rfl)] at hc
      cases hc
    obtain ⟨t, ht, e, he, rfl⟩ := Language.mem_mul.mp (mem_furtherWords hr hrest)
    rw [hs, ← List.append_assoc, ← List.append_assoc]
    exact Language.append_mem_mul
      (append_mem_kstar (Language.append_mem_mul (mem_gap hb hbne) (mem_word hword)) ht) he
termination_by s.length
decreasing_by
  have := List.length_pos_of_ne_nil hne
  rw [hs]
  simp only [List.length_append]
  omega

/-- Blanks at the end do not count where a text does not end in one. -/
theorem mem_of_mem_blanks {L : Language Char} {s : List Char} (h : s ∈ L * blanks)
    (hlast : ∀ c ∈ s.getLast?, isBlank c = false) : s ∈ L := by
  obtain ⟨t, ht, b, hb, rfl⟩ := Language.mem_mul.mp h
  rw [Text.eq_nil_of_getLast? ((over_one (fun _ => id)).kstar b hb) hlast, List.append_nil]
  exact ht

/-- The words in front of the list. -/
theorem mem_wordRow {s : List Char} (h : isSafeBase s = true)
    (hhead : ∀ c ∈ s.head?, isBlank c = false) : s ∈ wordRow * blanks := by
  simp only [isSafeBase, Bool.and_eq_true, Bool.not_eq_true', List.isEmpty_eq_false_iff,
    List.all_eq_true] at h
  rcases Text.exists_first_word s with ⟨-, hnone⟩ | ⟨b, w, r, hs, hb, hne, hw, hr, hwords⟩
  · exact absurd hnone h.1
  · have hbnil : b = [] := by
      cases b with
      | nil => rfl
      | cons c b =>
          have hc := hhead c (by rw [hs]; rfl)
          rw [hb c (by simp)] at hc
          cases hc
    rw [hwords] at h
    obtain ⟨hword, hrest⟩ := List.forall_mem_cons.mp h.2
    rw [hs, hbnil, List.nil_append, wordRow, mul_assoc]
    exact Language.append_mem_mul (mem_word hword) (mem_furtherWords hr hrest)

theorem mem_modifiers {s : List Char} (h : areSafeModifiers s = true)
    (hlast : ∀ c ∈ s.getLast?, isBlank c = false) : s ∈ furtherWords := by
  cases s with
  | nil => exact Language.nil_mem_kstar _
  | cons c r =>
      simp only [areSafeModifiers, Bool.and_eq_true, List.all_eq_true] at h
      refine mem_of_mem_blanks (mem_furtherWords ?_ h.2) hlast
      intro d hd
      cases hd
      exact h.1

/-- Safe parameters in parentheses, with blanks in front. -/
theorem mem_list {b p : List Char} (hb : b ∈ blanks)
    (h : ∀ q ∈ pieces (· = ',') p, isSafeParameter (trim q) = true) :
    b ++ ('(' :: p ++ [')']) ∈ list :=
  Language.append_mem_mul hb
    (Language.append_mem_mul (a := ['(']) (mem_mark '(')
      (Language.append_mem_mul (mem_of_pieces (fun q hq => mem_parameter (h q hq)))
        (mem_mark ')')))

theorem mem_group {b content : List Char} (hb : b ∈ blanks)
    (h : ∀ c ∈ content, isWordDigit c = true) : b ++ '[' :: content ++ [']'] ∈ group := by
  rw [List.append_assoc, List.cons_append]
  exact Language.append_mem_mul hb
    (Language.append_mem_mul (a := ['[']) (mem_mark '[')
      (Language.append_mem_mul (mem_kstar_one h) (mem_mark ']')))

/-- A run of groups of digits, up to the blanks behind it. -/
theorem mem_groups {gs : List (List Char)} {t : List Char} (h : GroupRun gs t)
    (hg : ∀ g ∈ gs, ∀ c ∈ g, isWordDigit c = true) : t ∈ group∗ * blanks := by
  induction h with
  | nil => exact Language.append_mem_mul (Language.nil_mem_kstar _) (Language.nil_mem_kstar _)
  | blank h hc ih =>
      obtain ⟨g, hmem, b, hb, rfl⟩ := Language.mem_mul.mp (ih hg)
      rw [List.append_assoc]
      exact Language.append_mem_mul hmem
        (kstar_append_mem hb (mem_kstar_of_mem (mem_one hc)))
  | @group gs t content h _ ih =>
      have hgs : ∀ g ∈ gs, ∀ c ∈ g, isWordDigit c = true :=
        fun g hmem => hg g (List.mem_append_left _ hmem)
      obtain ⟨g, hmem, b, hb, rfl⟩ := Language.mem_mul.mp (ih hgs)
      have hlast := mem_group hb (hg content (by simp))
      rw [List.append_assoc, List.append_assoc, ← List.append_assoc b]
      have hall := Language.append_mem_mul
        (kstar_append_mem hmem (mem_kstar_of_mem hlast)) (Language.nil_mem_kstar (one isBlank))
      rwa [List.append_nil] at hall

/-! ## 5. Safe names -/

theorem append_mem_columnName {base list further groups : List Char} (hb : base ∈ wordRow)
    (hl : list ∈ 1 + Grammar.list) (hf : further ∈ furtherWords) (hg : groups ∈ group∗) :
    base ++ list ++ further ++ groups ∈ columnName :=
  Language.append_mem_mul (Language.append_mem_mul (Language.append_mem_mul hb hl) hf) hg

/-- The text of a safe layout in front of its groups. -/
theorem mem_stem {l : Layout} (hsafe : l.isSafe = true) (hshape : l.WellShaped)
    (hhead : ∀ c ∈ l.base.head?, isBlank c = false)
    (hlast : ∀ c ∈ l.stem.getLast?, isBlank c = false) :
    l.stem ∈ wordRow * (1 + list) * furtherWords := by
  simp only [Layout.isSafe, Bool.and_eq_true] at hsafe
  obtain ⟨⟨⟨hbase, hmods⟩, -⟩, hparams⟩ := hsafe
  have hrow := mem_wordRow hbase hhead
  rw [Layout.stem] at hlast ⊢
  cases hp : l.parameters? with
  | none =>
      -- the words are all there is, and no blank stands behind them
      rw [Layout.listText, hp, hshape.unlisted hp] at hlast ⊢
      rw [List.append_nil, List.append_nil] at hlast
      exact Language.append_mem_mul
        (Language.append_mem_mul (mem_of_mem_blanks hrow hlast) (.inl rfl))
        (Language.nil_mem_kstar _)
  | some p =>
      rw [hp] at hparams
      simp only [List.all_eq_true] at hparams
      obtain ⟨row, hmem, b, hb, hsplit⟩ := Language.mem_mul.mp hrow
      -- the blanks in front of the list belong to it
      have hlist := mem_list hb hparams
      rw [Layout.listText, hp, ← hsplit, List.append_assoc row]
      refine Language.append_mem_mul (Language.append_mem_mul hmem (.inr hlist)) ?_
      refine mem_modifiers hmods (fun c hc => hlast c ?_)
      rw [List.getLast?_append, Option.mem_def.mp hc]
      rfl

/-- **A safe text belongs to the language.** -/
theorem mem_columnName_of_isSafe {text : List Char} (h : isSafe text = true) :
    trim text ∈ columnName := by
  simp only [isSafe, Bool.and_eq_true] at h
  have hl := h.2
  split at hl
  · cases hl
  · rename_i l hof
    obtain ⟨⟨t, hname, hrun⟩, hshape, -, hlast⟩ := Layout.of_eq_some hof
    have hhead : ∀ c ∈ l.base.head?, isBlank c = false := by
      intro c hc
      refine Text.head?_trim (s := text) ?_
      rw [hname, Layout.stem, List.append_assoc, List.append_assoc, List.head?_append,
          Option.mem_def.mp hc]
      rfl
    have hdigits : ∀ g ∈ l.groups, ∀ c ∈ g, isWordDigit c = true := by
      simp only [Layout.isSafe, Bool.and_eq_true, List.all_eq_true] at hl
      exact hl.1.2
    have hmem : l.stem ++ t ∈ columnName * blanks := by
      rw [columnName, mul_assoc]
      exact Language.append_mem_mul (mem_stem hl hshape hhead hlast) (mem_groups hrun hdigits)
    rw [← hname] at hmem
    exact mem_of_mem_blanks hmem (fun _ => Text.getLast?_trim)

/-- Bracket groups behind a name of the language leave it there. -/
theorem append_dimensions_mem {s : List Char} (h : s ∈ columnName) :
    ∀ k : Nat, s ++ spellDimensions k ∈ columnName := by
  obtain ⟨stem, hstem, g, hg, rfl⟩ := Language.mem_mul.mp h
  have hempty : [] ++ '[' :: [] ++ [']'] ∈ group :=
    mem_group (Language.nil_mem_kstar _) (List.forall_mem_nil _)
  have hdims : ∀ k : Nat, spellDimensions k ∈ group∗ := by
    intro k
    induction k with
    | zero => exact Language.nil_mem_kstar _
    | succ k ih => exact append_mem_kstar hempty ih
  intro k
  rw [List.append_assoc]
  exact Language.append_mem_mul hstem (kstar_append_mem hg (hdims k))

/-! ## 6. Spelled names -/

theorem mem_parameter_of_item {s : List Char} (h : isSafeParameter s = true) :
    s ∈ parameter := by
  have hmem := Language.append_mem_mul
    (Language.append_mem_mul (Language.nil_mem_kstar (one isBlank)) (mem_item h))
    (Language.nil_mem_kstar (one isBlank))
  rwa [List.append_nil, List.nil_append] at hmem

theorem mem_spellArguments : ∀ {as : List String}, as ≠ [] →
    (∀ a ∈ as, isSafeParameter a.toList = true) → spellArguments as ∈ parameters
  | [], hne, _ => absurd rfl hne
  | [a], _, h => by
      have hmem := Language.append_mem_mul (mem_parameter_of_item (h a (by simp)))
        (Language.nil_mem_kstar (mark ',' * parameter))
      rwa [List.append_nil] at hmem
  | a :: b :: as, _, h => by
      obtain ⟨ha, hrest⟩ := List.forall_mem_cons.mp h
      obtain ⟨p, hp, more, hmore, hsplit⟩ := Language.mem_mul.mp
        (mem_spellArguments (by simp) hrest)
      rw [spellArguments, ← hsplit]
      exact Language.append_mem_mul (mem_parameter_of_item ha)
        (append_mem_kstar (Language.append_mem_mul (mem_mark ',') hp) hmore)

/-- A name that is spelled from words and safe parameters. -/
theorem spell_mem_columnName {base : String} {arguments : List String}
    (hb : base.toList ∈ wordRow) (ha : ∀ a ∈ arguments, isSafeParameter a.toList = true) :
    (spell base arguments 0).toList ∈ columnName := by
  have hlist : spellParameters arguments ∈ 1 + list := by
    cases arguments with
    | nil => exact .inl rfl
    | cons a as =>
        exact .inr (Language.append_mem_mul (a := []) (Language.nil_mem_kstar _)
          (Language.append_mem_mul (a := ['(']) (mem_mark '(')
            (Language.append_mem_mul (mem_spellArguments (by simp) ha) (mem_mark ')'))))
  have hmem := append_mem_columnName hb hlist (Language.nil_mem_kstar _)
    (Language.nil_mem_kstar _)
  rw [List.append_nil, List.append_nil] at hmem
  rw [spell, spellDimensions, List.append_nil, String.toList_ofList]
  exact hmem

/-! ## 7. What a member cannot hold -/

/-- A character of a name, parentheses apart. -/
def isInnerChar (c : Char) : Bool :=
  isIdentChar c || c = '.' || isBlank c || isWordDigit c || c = ',' || c = '[' || c = ']'

theorem over_blanks : Over isInnerChar blanks :=
  (over_one (fun c h => by simp [isInnerChar, h])).kstar

theorem over_start : Over isInnerChar (one isIdentStart) :=
  over_one (fun c h => by
    simp only [isIdentStart, Bool.or_eq_true] at h
    rcases h with h | h <;> simp [isInnerChar, isIdentChar, Char.isAlphanum, h])

theorem over_word : Over isInnerChar word :=
  over_start.mul (over_one (fun c h => by simp [isInnerChar, h])).kstar

theorem over_digits : Over isInnerChar digits :=
  (over_one (fun c h => by simp [isInnerChar, h])).kstar

theorem over_parameters : Over isInnerChar parameters := by
  have hnumber : Over isInnerChar number :=
    (over_one (fun c h => by simp [isInnerChar, h])).mul over_digits
  have hidentifier : Over isInnerChar identifier :=
    over_start.mul (over_one (fun c h => by simp [isInnerChar, h])).kstar
  have hparameter : Over isInnerChar parameter :=
    (over_blanks.mul (hnumber.add hidentifier)).mul over_blanks
  have hcomma : Over isInnerChar (mark ',') := over_one (fun c h => by simp [isInnerChar, h])
  exact hparameter.mul (hcomma.mul hparameter).kstar

theorem over_furtherWords : Over isInnerChar furtherWords :=
  (((over_one (fun c h => by simp [isInnerChar, h])).mul over_blanks).mul over_word).kstar

theorem over_groups : Over isInnerChar group∗ := by
  have hopen : Over isInnerChar (mark '[') := over_one (fun c h => by simp [isInnerChar, h])
  have hclose : Over isInnerChar (mark ']') := over_one (fun c h => by simp [isInnerChar, h])
  exact (over_blanks.mul (hopen.mul (over_digits.mul hclose))).kstar

/-- **A name of the language has at most one list, and nothing is nested in
it.** -/
theorem flat_of_mem_columnName {s : List Char} (h : s ∈ columnName) :
    (∀ c ∈ s, isInnerChar c = true) ∨
      ∃ front inner rear, s = front ++ '(' :: inner ++ ')' :: rear
        ∧ (∀ c ∈ front, isInnerChar c = true) ∧ (∀ c ∈ inner, isInnerChar c = true)
        ∧ ∀ c ∈ rear, isInnerChar c = true := by
  obtain ⟨stem, hstem, groups, hgroups, rfl⟩ := Language.mem_mul.mp h
  obtain ⟨front, hfront, further, hfurther, rfl⟩ := Language.mem_mul.mp hstem
  obtain ⟨row, hrow, l, hl, rfl⟩ := Language.mem_mul.mp hfront
  have hrear := over_furtherWords.mul over_groups _ (Language.append_mem_mul hfurther hgroups)
  rcases hl with rfl | hl
  · left
    have hall := (over_word.mul over_furtherWords).mul (over_furtherWords.mul over_groups) _
      (Language.append_mem_mul hrow (Language.append_mem_mul hfurther hgroups))
    simpa using hall
  · right
    obtain ⟨b, hb, _, ⟨_, ⟨_, rfl, hopen⟩, _, ⟨p, hp, _, ⟨_, rfl, hclose⟩, rfl⟩, rfl⟩, rfl⟩ := hl
    rw [decide_eq_true_eq] at hopen hclose
    refine ⟨row ++ b, p, further ++ groups, ?_, ?_, over_parameters p hp, hrear⟩
    · simp [hopen, hclose]
    · exact (over_word.mul over_furtherWords).mul over_blanks _ (Language.append_mem_mul hrow hb)

/-- What a name that is spliced must not hold: quotes, separators, comments and
nested lists. -/
structure Harmless (s : List Char) : Prop where
  quotes : ∀ c ∈ ['\x22', '\x27', '\x60'], c ∉ s
  separator : ';' ∉ s
  lineComment : ¬ ['-', '-'] <:+: s
  blockComment : ¬ ['/', '*'] <:+: s
  opened : s.count '(' ≤ 1
  closed : s.count ')' ≤ 1

/-- A character that is no part of any name. -/
theorem not_mem_of_mem_columnName {s : List Char} (h : s ∈ columnName) {c : Char}
    (hc : isInnerChar c = false) (hopen : c ≠ '(') (hclose : c ≠ ')') : c ∉ s := by
  have hinner : ∀ {t : List Char}, (∀ d ∈ t, isInnerChar d = true) → c ∉ t := by
    intro t ht hmem
    rw [ht c hmem] at hc
    cases hc
  rcases flat_of_mem_columnName h with hall | ⟨front, inner, rear, rfl, hf, hi, hr⟩
  · exact hinner hall
  · simp [hinner hf, hinner hi, hinner hr, hopen, hclose]

theorem count_paren_le {s : List Char} (h : s ∈ columnName) :
    s.count '(' ≤ 1 ∧ s.count ')' ≤ 1 := by
  have hnone : ∀ {t : List Char}, (∀ d ∈ t, isInnerChar d = true) →
      t.count '(' = 0 ∧ t.count ')' = 0 := by
    intro t ht
    refine ⟨List.count_eq_zero.mpr (fun hmem => ?_), List.count_eq_zero.mpr (fun hmem => ?_)⟩
    · exact absurd (ht _ hmem) (by decide)
    · exact absurd (ht _ hmem) (by decide)
  rcases flat_of_mem_columnName h with hall | ⟨front, inner, rear, rfl, hf, hi, hr⟩
  · simp [hnone hall]
  · simp [hnone hf, hnone hi, hnone hr]

/-- **Names of the language are harmless.** -/
theorem harmless_of_mem_columnName {s : List Char} (h : s ∈ columnName) : Harmless s where
  quotes := by
    intro c hc
    simp only [List.mem_cons, List.not_mem_nil, or_false] at hc
    rcases hc with rfl | rfl | rfl <;>
      exact not_mem_of_mem_columnName h (by decide) (by decide) (by decide)
  separator := not_mem_of_mem_columnName h (by decide) (by decide) (by decide)
  lineComment := fun hpart =>
    not_mem_of_mem_columnName h (c := '-') (by decide) (by decide) (by decide)
      (hpart.subset (by simp))
  blockComment := fun hpart =>
    not_mem_of_mem_columnName h (c := '/') (by decide) (by decide) (by decide)
      (hpart.subset (by simp))
  opened := (count_paren_le h).1
  closed := (count_paren_le h).2

end SqlAtlas.SqlName.Grammar
