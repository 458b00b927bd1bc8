/-
SqlAtlas.Proofs.SqlName.Reading — what reading makes of a safe name.

A layout of the name holds its parts, so reading the name gives them back, with
one exception: the language takes the digits of any script between brackets,
reading takes those of ASCII (`NameText.read_eq`, `NameText.read_eq_none`). The
base name of the type never depends on the groups (`NameText.baseName_eq`).
-/
import SqlAtlas.Proofs.SqlName.BaseName
import SqlAtlas.Proofs.SqlName.Safe
import SqlAtlas.Proofs.Text.Ascii

namespace SqlAtlas.SqlName.Grammar

open Text
open scoped Computability

/-! ## 1. Keys -/

/-- The words of the parts in small letters, with one space between
neighbours. -/
def Parts.key (parts : Parts) : List Char := unwords ((parts.words ++ parts.further).map lowerCase)

/-- Whether the digits between the brackets are those of ASCII. -/
def Parts.hasAsciiGroups (parts : Parts) : Bool := parts.groups.all (fun g => g.all Char.isDigit)

theorem Parts.Valid.key_ne_nil {parts : Parts} (h : parts.Valid) : parts.key ≠ [] := by
  obtain ⟨w, ws, hws⟩ := List.exists_cons_of_ne_nil h.words_ne_nil
  obtain ⟨c, hc⟩ := List.exists_mem_of_ne_nil _
    (lowerCase_ne_nil (solid_of_mem_word (h.words w (by simp [hws]))).1)
  refine List.ne_nil_of_mem (mem_unwords hc ?_)
  simp [hws]

theorem isAscii_of_mem_word {w : List Char} (h : w ∈ word) : ∀ c ∈ w, isAscii c = true := by
  have hident : ∀ {c : Char}, isIdentChar c = true → isAscii c = true := by
    intro c hc
    simp only [isIdentChar, Bool.or_eq_true, decide_eq_true_eq] at hc
    rcases hc with hc | rfl
    · exact isAscii_of_isAlphanum hc
    · decide
  have hover : Over isAscii word := by
    refine (over_one (fun c hc => hident (isIdentChar_of_isIdentStart hc))).mul
      (over_one (fun c hc => ?_)).kstar
    simp only [Bool.or_eq_true, decide_eq_true_eq] at hc
    rcases hc with hc | rfl
    · exact hident hc
    · decide
  exact hover w h

/-- Digits are a size when they are those of ASCII. -/
theorem isGroupSize_of_digits {g : List Char} (h : ∀ c ∈ g, isWordDigit c = true) :
    isGroupSize g = g.all Char.isDigit := by
  rw [isGroupSize, trim_eq_self_of_forall (fun c hc => not_isBlank_of_isWordDigit (h c hc))]

theorem sigma_not_mem_word {w : List Char} (h : w ∈ word) : 'Σ' ∉ w :=
  fun hmem => absurd (isAscii_of_mem_word h _ hmem) (by decide)

/-- The small letters of a word are plain. -/
theorem isPlain_lowerCase_word {w : List Char} (h : w ∈ word) : isPlain (lowerCase w) = true := by
  have hword : Over (fun c => isPlain [c]) word := by
    refine (over_one (fun c hc => ?_)).mul (over_one (fun c hc => ?_)).kstar
    · simp [isPlain, isIdentStart, Char.isAlphanum] at hc ⊢
      tauto
    · simp [isPlain, isIdentChar] at hc ⊢
      tauto
  have hlower : ∀ c : Char, isPlain [c.toLower] = isPlain [c] :=
    apply_toLower (f := fun c => isPlain [c]) (by decide +kernel)
  rw [lowerCase_of_ascii (isAscii_of_mem_word h), isPlain, lowerAscii, List.all_map,
    List.all_eq_true]
  intro c hc
  have hplain : isPlain [c.toLower] = true := (hlower c).trans (hword w h c hc)
  simpa [isPlain] using hplain

/-- Words of the language are normal words once they are in small letters. -/
theorem normalWords_of_words {s : List Char} {ws : List (List Char)} (hs : words s = ws)
    (hws : ∀ w ∈ ws, w ∈ word) : normalWords s = unwords (ws.map lowerCase)
      ∧ isPlain (normalWords s) = true := by
  have heq : normalWords s = unwords (ws.map lowerCase) := by
    rw [normalWords, hs, lowerCase_unwords (fun w hw => sigma_not_mem_word (hws w hw))]
  refine ⟨heq, ?_⟩
  rw [heq]
  refine isPlain_unwords (fun v hv => ?_)
  obtain ⟨w, hw, rfl⟩ := List.mem_map.mp hv
  exact isPlain_lowerCase_word (hws w hw)

section

variable {parts : Parts} {l : Layout} (hv : parts.Valid) (hl : Holds l parts)

include hv hl

/-- The base and the modifiers of the layout, side by side, have the words of the
parts. -/
theorem Holds.normalWords_eq : normalWords (l.base ++ l.modifiers) = parts.key := by
  have hwords : Text.words (l.base ++ l.modifiers) = parts.words ++ parts.further := by
    rw [← hl.words, ← hl.further]
    cases hm : l.modifiers with
    | nil => rw [List.append_nil, words_nil, List.append_nil]
    | cons c r =>
        refine words_append_of_blank (.inr ⟨c, rfl, hl.gap c ?_⟩)
        rw [hm]
        rfl
  have hall : ∀ w ∈ parts.words ++ parts.further, w ∈ word :=
    fun w hw => (List.mem_append.mp hw).elim (hv.words w) (hv.further w)
  exact (normalWords_of_words hwords hall).1

/-- The layout is a name when the digits of its groups are those of ASCII. -/
theorem Holds.isName_iff : l.IsName ↔ parts.hasAsciiGroups = true := by
  have hsizes : l.groups.all isGroupSize = true ↔ parts.hasAsciiGroups = true := by
    rw [hl.groups, Parts.hasAsciiGroups, List.all_eq_true, List.all_eq_true]
    refine forall₂_congr (fun g hg => ?_)
    rw [isGroupSize_of_digits (hv.groups g hg)]
  have hbase := normalWords_of_words hl.words hv.words
  have hmodifiers := normalWords_of_words hl.further hv.further
  constructor
  · intro h
    exact hsizes.mp h.groups
  · intro h
    refine ⟨hsizes.mpr h, ?_, hbase.2, hmodifiers.2⟩
    -- the key of the words alone
    rw [hbase.1]
    have hbare : Parts.Valid ⟨parts.words, [], [], []⟩ :=
      ⟨hv.words_ne_nil, hv.words, by simp, by simp⟩
    have hkey := hbare.key_ne_nil
    rwa [Parts.key, List.append_nil] at hkey

end

namespace NameText

variable {parts : Parts} {s : List Char} (h : NameText parts s)

include h

theorem trim_eq : trim s = s := trim_of_mem_columnName (mem_columnName_iff.mpr ⟨parts, h⟩)

/-- **The base name is put together from the words**, whatever the groups hold. -/
theorem baseName_eq : baseName s = parts.key := by
  obtain ⟨l, stem, g, rfl, hg, hl, hholds⟩ := h.exists_layout
  have hflat : ∀ content ∈ l.groups, ∀ c ∈ content, isFlat c = true :=
    fun content hc c hmem => isFlat_of (by decide +kernel) (hg.run.2 content hc c hmem)
  have hbrackets := hl.flat
  rw [← hl.text] at hbrackets ⊢
  rw [baseName_layout hl.shaped hbrackets hg.run.1 hflat, hholds.normalWords_eq h.valid]

/-- Reading a name goes by a layout that holds its parts. -/
theorem exists_read_eq : ∃ l, read s = ofLayout? s l ∧ Holds l parts := by
  obtain ⟨l, stem, g, hs, hg, hl, hholds⟩ := h.exists_layout
  refine ⟨l, ?_, hholds⟩
  rw [SqlName.read, h.trim_eq, hs, hl.of_append hg, Option.bind_some]

/-- **Reading gives the parts back when the digits between the brackets are those
of ASCII.** -/
theorem read_eq (hgroups : parts.hasAsciiGroups = true) :
    ∃ n, read s = some n ∧ n.name = String.ofList s
      ∧ n.arguments = parts.parameters.map String.ofList
      ∧ n.dimensions = parts.groups.length ∧ n.key = String.ofList parts.key := by
  obtain ⟨l, hread, hl⟩ := h.exists_read_eq
  have hname : l.IsName := (hl.isName_iff h.valid).mpr hgroups
  have hapart : ¬ l.Joins := by
    rintro ⟨_, d, -, -, hd, hdb⟩
    rw [hl.gap d hd] at hdb
    cases hdb
  refine ⟨_, hread.trans (ofLayout?_eq_some_iff.mpr ⟨hname, _, hl.parameters, rfl⟩), rfl, rfl,
    by rw [hl.groups], ?_⟩
  rw [Layout.key_eq, ← hname.apart hapart, hl.normalWords_eq h.valid]

/-- With other digits there the name is not read. -/
theorem read_eq_none (hgroups : parts.hasAsciiGroups = false) : read s = none := by
  obtain ⟨l, hread, hl⟩ := h.exists_read_eq
  rw [hread]
  cases hof : ofLayout? s l with
  | none => rfl
  | some n =>
      obtain ⟨hname, -⟩ := ofLayout?_eq_some_iff.mp hof
      rw [(hl.isName_iff h.valid).mp hname] at hgroups
      cases hgroups

end NameText

end SqlAtlas.SqlName.Grammar
