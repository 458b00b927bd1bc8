/-
SqlAtlas.Proofs.SqlName.Spelling — a name that is spelled from its parts is
taken apart into the same parts.

`read_spell` is the round trip: a base and its arguments, written by `spell`,
come back as they were. `read_append_dimensions` adds bracket groups behind
any name that reads, whatever its own parts are.

The side conditions are what makes a base a base and an argument an argument.
A base is in normal words already (`IsBase`), since reading would normalise
it; an argument holds no comma, bracket or blank (`isArgumentText`), since
reading would cut or trim there.
-/
import SqlAtlas.Proofs.SqlName.Layout
import SqlAtlas.Proofs.Text.Nesting
import SqlAtlas.Proofs.Text.Numeral

namespace SqlAtlas.SqlName

open Text

/-! ## 1. Bases and arguments -/

/-- A base as it is kept: with no blank at its ends, in normal words, and
plain. -/
structure IsBase (s : List Char) : Prop where
  head : ∃ c ∈ s.head?, isBlank c = false
  last : ∃ c ∈ s.getLast?, isBlank c = false
  normal : normalWords s = s
  plain : isPlain s = true

/-- The same by computation. -/
def isBase (s : List Char) : Bool :=
  s.head?.any (fun c => !isBlank c) && s.getLast?.any (fun c => !isBlank c)
    && normalWords s = s && isPlain s

theorem isBase_iff {s : List Char} : isBase s = true ↔ IsBase s := by
  simp only [isBase, Bool.and_eq_true, Option.any_eq_true, Bool.not_eq_true', decide_eq_true_eq]
  constructor
  · rintro ⟨⟨⟨⟨c, hc, hhead⟩, ⟨d, hd, hlast⟩⟩, hnormal⟩, hplain⟩
    exact ⟨⟨c, hc, hhead⟩, ⟨d, hd, hlast⟩, hnormal, hplain⟩
  · rintro ⟨⟨c, hc, hhead⟩, ⟨d, hd, hlast⟩, hnormal, hplain⟩
    exact ⟨⟨⟨⟨c, hc, hhead⟩, ⟨d, hd, hlast⟩⟩, hnormal⟩, hplain⟩

instance (s : List Char) : Decidable (IsBase s) := decidable_of_iff _ isBase_iff

/-- An argument of ASCII letters and digits. -/
def isArgumentText (s : List Char) : Bool := !s.isEmpty && s.all Char.isAlphanum

/-- A character of a plain text has no part in the layout of a name. -/
theorem isFlat_of_plain {c : Char} (h : (c.isAlphanum || c = '_' || c = ' ' || c = '.') = true) :
    isFlat c = true :=
  isFlat_of (p := fun c => c.isAlphanum || c = '_' || c = ' ' || c = '.') (by decide) h

theorem IsBase.flat {s : List Char} (h : IsBase s) : ∀ c ∈ s, isFlat c = true :=
  fun c hc => isFlat_of_plain (List.all_eq_true.mp h.plain c hc)

theorem isFlat_of_isArgumentText {s : List Char} (h : isArgumentText s = true) :
    ∀ c ∈ s, isFlat c = true ∧ c ∉ [','] := by
  simp only [isArgumentText, Bool.and_eq_true] at h
  intro c hc
  have han : c.isAlphanum = true := List.all_eq_true.mp h.2 c hc
  refine ⟨isFlat_of_plain (by simp [han]), ?_⟩
  simp only [List.mem_singleton]
  rintro rfl
  exact absurd han (by decide)

theorem isArgumentText_toString (n : Nat) : isArgumentText (toString n).toList = true := by
  have hall : (toString n).toList.all Char.isAlphanum = true :=
    List.all_eq_true.mpr (fun _ h => isAlphanum_of_mem_toString h)
  rw [isArgumentText, hall]
  simp [Nat.toDigits_ne_nil]

theorem trim_argument {s : List Char} (h : isArgumentText s = true) : trim s = s := by
  simp only [isArgumentText, Bool.and_eq_true] at h
  exact trim_eq_self_of_forall
    (fun c hc => not_isBlank_of_isAlphanum (List.all_eq_true.mp h.2 c hc))

/-! ## 2. Arguments -/

theorem isFlat_of_mem_spellArguments : ∀ (as : List String),
    (∀ a ∈ as, isArgumentText a.toList = true) → ∀ c ∈ spellArguments as, isFlat c = true
  | [], _, c, hc => by simp [spellArguments] at hc
  | [a], h, c, hc => (isFlat_of_isArgumentText (h a (by simp)) c hc).1
  | a :: b :: as, h, c, hc => by
      simp only [spellArguments, List.mem_append, List.mem_cons] at hc
      rcases hc with hc | rfl | hc
      · exact (isFlat_of_isArgumentText (h a (by simp)) c hc).1
      · decide
      · exact isFlat_of_mem_spellArguments (b :: as) (fun x hx => h x (by simp [hx])) c hc

theorem cut_spellArguments : ∀ (as : List String), as ≠ [] →
    (∀ a ∈ as, isArgumentText a.toList = true) →
    cut [','] .zero (spellArguments as) = as.map String.toList
  | [], hne, _ => absurd rfl hne
  | [a], _, h => by
      have ha := isFlat_of_isArgumentText (h a (by simp))
      exact cut_of_uncut (by decide) (.of_not_mem (fun c hc => (ha c hc).2) _)
  | a :: b :: as, _, h => by
      have ha := isFlat_of_isArgumentText (h a (by simp))
      have hdepth := Depth.behind_flat .zero (fun c hc => (ha c hc).1)
      rw [spellArguments, cut_append_delimiter (by decide) (.of_not_mem (fun c hc => (ha c hc).2) _)
            hdepth (by simp) _,
          cut_spellArguments (b :: as) (by simp) (fun x hx => h x (by simp [hx]))]
      rfl

theorem readArguments_spellArguments {as : List String} (hne : as ≠ [])
    (h : ∀ a ∈ as, isArgumentText a.toList = true) :
    readArguments (some (spellArguments as)) = some as := by
  have htrim : (as.map String.toList).map trim = as.map String.toList := by
    rw [List.map_map]
    exact List.map_congr_left (fun a ha => trim_argument (h a ha))
  have hfull : (as.map String.toList).filter (fun p => !p.isEmpty) = as.map String.toList := by
    refine List.filter_eq_self.mpr (fun p hp => ?_)
    obtain ⟨a, ha, rfl⟩ := List.mem_map.mp hp
    have := h a ha
    simp only [isArgumentText, Bool.and_eq_true] at this
    exact this.1
  have hsplit : splitOutside [','] (spellArguments as) = as.map String.toList := by
    rw [splitOutside, cut_spellArguments as hne h, htrim, hfull]
  cases as with
  | nil => exact absurd rfl hne
  | cons a as =>
      rw [List.map_cons] at hsplit
      simp only [readArguments, hsplit, ← List.map_cons (f := String.toList)]
      simp [Function.comp_def]

/-! ## 3. Layouts -/

theorem noBrackets_of_flat {s : List Char} (h : ∀ c ∈ s, isFlat c = true) :
    noBrackets s = true := by
  refine List.all_eq_true.mpr (fun c hc => ?_)
  obtain ⟨_, _, hopen, hclose⟩ := isFlat_iff.mp (h c hc)
  simp [hopen, hclose]

theorem noParens_of_flat {s : List Char} (h : ∀ c ∈ s, isFlat c = true) :
    noParens s = true := by
  refine List.all_eq_true.mpr (fun c hc => ?_)
  obtain ⟨hopen, hclose, _, _⟩ := isFlat_iff.mp (h c hc)
  simp [hopen, hclose]

/-! ## 4. Whole names -/

theorem toList_spell_zero (base : String) (arguments : List String) :
    (spell base arguments 0).toList = base.toList ++ spellParameters arguments := by
  simp [spell, spellDimensions]

theorem getLast?_spell {base : String} (hb : IsBase base.toList) (arguments : List String) :
    ∀ c ∈ (spell base arguments 0).toList.getLast?, isBlank c = false := by
  intro c hc
  rw [toList_spell_zero] at hc
  cases arguments with
  | nil =>
      obtain ⟨d, hd, hblank⟩ := hb.last
      rw [spellParameters, List.append_nil, Option.mem_def.mp hd] at hc
      cases hc
      exact hblank
  | cons a as =>
      rw [spellParameters, ← List.append_assoc, List.getLast?_concat] at hc
      cases hc
      decide

/-- The layout of a spelled name. -/
def spelledLayout (base : String) (arguments : List String) : Layout :=
  ⟨base.toList, if arguments = [] then none else some (spellArguments arguments), [], []⟩

theorem stem_spelledLayout (base : String) (arguments : List String) :
    (spelledLayout base arguments).stem = (spell base arguments 0).toList := by
  rw [toList_spell_zero]
  cases arguments <;> simp [Layout.stem, Layout.listText, spelledLayout, spellParameters]

theorem Layout.of_spell {base : String} {arguments : List String} (hb : IsBase base.toList)
    (ha : ∀ a ∈ arguments, isArgumentText a.toList = true) :
    Layout.of (spell base arguments 0).toList = some (spelledLayout base arguments) := by
  have hinner := isFlat_of_mem_spellArguments arguments ha
  have hshape : (spelledLayout base arguments).WellShaped := by
    refine ⟨noParens_of_flat hb.flat, fun p hp => ?_, rfl, fun _ => rfl⟩
    simp only [spelledLayout, Option.mem_def] at hp
    split at hp
    · cases hp
    · cases hp
      exact noParens_of_flat hinner
  have hflat : noBrackets (spelledLayout base arguments).stem = true := by
    rw [stem_spelledLayout, toList_spell_zero]
    cases arguments <;>
      simp [spellParameters, noBrackets_of_flat hb.flat, noBrackets_of_flat hinner]
  have hlast : ∀ c ∈ (spelledLayout base arguments).stem.getLast?, isBlank c = false := by
    rw [stem_spelledLayout]
    exact getLast?_spell hb arguments
  have hof := Layout.of_stem hshape hflat hlast .nil
  rwa [List.append_nil, stem_spelledLayout] at hof

theorem trim_spell {base : String} (hb : IsBase base.toList) (arguments : List String) :
    trim (spell base arguments 0).toList = (spell base arguments 0).toList := by
  refine trim_eq_self (fun c hc => ?_) (getLast?_spell hb arguments)
  obtain ⟨d, hd, hblank⟩ := hb.head
  rw [toList_spell_zero, List.head?_append, Option.mem_def.mp hd, Option.some_or] at hc
  cases hc
  exact hblank

/-- **The round trip of spelling.** A base and its arguments read back as
they were written. -/
theorem read_spell {base : String} {arguments : List String} (hb : IsBase base.toList)
    (ha : ∀ a ∈ arguments, isArgumentText a.toList = true) :
    read (spell base arguments 0).toList
      = some ⟨spell base arguments 0, base, arguments, "", 0⟩ := by
  have hargs : readArguments (if arguments = [] then none else some (spellArguments arguments))
      = some arguments := by
    by_cases h : arguments = []
    · rw [if_pos h, h, readArguments]
    · rw [if_neg h, readArguments_spellArguments h ha]
  have hne : base.toList.isEmpty = false := by
    obtain ⟨c, hc, _⟩ := hb.head
    cases h : base.toList with
    | nil => rw [h] at hc; cases hc
    | cons _ _ => rfl
  rw [read, trim_spell hb, Layout.of_spell hb ha, Option.bind_some, ofLayout?]
  simp only [spelledLayout, hb.normal, hb.plain, hne, hargs]
  simp [normalWords, words, unwords, Text.lowerCase, lowerFrom, pieces, isPlain]

/-! ## 5. Dimensions -/

theorem spellDimensions_eq_flatten : ∀ k : Nat,
    spellDimensions k = (List.replicate k ['[', ']']).flatten
  | 0 => rfl
  | k + 1 => by
      rw [spellDimensions, spellDimensions_eq_flatten k]
      rfl

theorem spellDimensions_succ : ∀ k : Nat, spellDimensions (k + 1) = spellDimensions k ++ ['[', ']']
  | 0 => rfl
  | k + 1 =>
      calc spellDimensions (k + 2)
          = '[' :: ']' :: (spellDimensions k ++ ['[', ']']) := by
            rw [← spellDimensions_succ k]; rfl
        _ = spellDimensions (k + 1) ++ ['[', ']'] := rfl

/-- Empty groups go on with a run of groups. -/
theorem GroupRun.append_dimensions {gs : List (List Char)} {t : List Char} (h : GroupRun gs t) :
    ∀ k : Nat, GroupRun (gs ++ List.replicate k []) (t ++ spellDimensions k)
  | 0 => by simpa [spellDimensions] using h
  | k + 1 => by
      have hnext := (h.append_dimensions k).group (List.not_mem_nil (a := '['))
      simpa [spellDimensions_succ, List.replicate_succ'] using hnext

/-- Bracket groups behind a text are added to its layout. -/
theorem Layout.of_append_dimensions {s : List Char} {l : Layout} (h : Layout.of s = some l)
    (k : Nat) : Layout.of (s ++ spellDimensions k)
      = some { l with groups := l.groups ++ List.replicate k [] } := by
  obtain ⟨⟨t, hs, hrun⟩, hshape, hflat, hlast⟩ := Layout.of_eq_some h
  rw [hs, List.append_assoc]
  exact Layout.of_stem (l := { l with groups := l.groups ++ List.replicate k [] })
    ⟨hshape.base, hshape.parameters, hshape.modifiers, hshape.unlisted⟩ hflat hlast
    (hrun.append_dimensions k)

/-- Bracket groups behind a trimmed text leave nothing to trim. -/
theorem trim_append_dimensions {s : List Char} (hs : trim s = s) (hne : s ≠ []) (k : Nat) :
    trim (s ++ spellDimensions k) = s ++ spellDimensions k := by
  refine trim_eq_self (fun c hc => ?_) (fun c hc => ?_)
  · obtain ⟨d, r, rfl⟩ := List.exists_cons_of_ne_nil hne
    refine head?_trim (s := d :: r) ?_
    rw [hs]
    exact hc
  · cases k with
    | zero =>
        refine getLast?_trim (s := s) ?_
        rwa [spellDimensions, List.append_nil, ← hs] at hc
    | succ k =>
        rw [spellDimensions_succ, ← List.append_assoc, List.getLast?_append] at hc
        cases hc
        decide

/-- Bracket groups behind a name are its dimensions. The groups that the name
has itself stay where they are. -/
theorem read_append_dimensions {s : List Char} {n : SqlName} (h : read s = some n)
    (hs : trim s = s) (k : Nat) :
    read (s ++ spellDimensions k)
      = some { n with
          name := String.ofList (s ++ spellDimensions k), dimensions := n.dimensions + k } := by
  have hne : s ≠ [] := by
    rintro rfl
    cases h
  rw [read, hs] at h
  obtain ⟨l, hl, hn⟩ := Option.bind_eq_some_iff.mp h
  rw [read, trim_append_dimensions hs hne, Layout.of_append_dimensions hl, Option.bind_some]
  have hempty : (List.replicate k []).all isGroupSize = true :=
    List.all_eq_true.mpr (fun g hg => by rw [List.eq_of_mem_replicate hg]; rfl)
  rw [ofLayout?] at hn ⊢
  dsimp only at hn ⊢
  split at hn
  · rename_i hcond
    obtain ⟨as, has, rfl⟩ := Option.map_eq_some_iff.mp hn
    rw [List.all_append, hempty, Bool.and_true, if_pos hcond, has]
    simp
  · cases hn

/-- The round trip of spelling, for names with dimensions. -/
theorem read_spell_dimensions {base : String} {arguments : List String} (hb : IsBase base.toList)
    (ha : ∀ a ∈ arguments, isArgumentText a.toList = true) (k : Nat) :
    read (spell base arguments k).toList
      = some ⟨spell base arguments k, base, arguments, "", k⟩ := by
  have hread := read_append_dimensions (read_spell hb ha) (trim_spell hb arguments) k
  rwa [toList_spell_zero, Nat.zero_add, ← spell, ← String.toList_ofList (l := _ ++ _), ← spell]
    at hread

/-! ## 6. Base names -/

theorem outsideBrackets_append {s : List Char} (h : ∀ c ∈ s, isFlat c = true) (t : List Char) :
    outsideBrackets 0 (s ++ t) = s ++ outsideBrackets 0 t := by
  induction s with
  | nil => rfl
  | cons c s ih =>
      obtain ⟨h1, h2, h3, h4⟩ := isFlat_iff.mp (h c List.mem_cons_self)
      rw [List.cons_append, outsideBrackets, ih (fun d hd => h d (List.mem_cons_of_mem c hd))]
      simp [h1, h2, h3, h4]

/-- Nothing flat is kept behind a bracket that is open. -/
theorem outsideBrackets_inside {s : List Char} (h : ∀ c ∈ s, isFlat c = true) (depth : Nat)
    (t : List Char) : outsideBrackets (depth + 1) (s ++ t) = outsideBrackets (depth + 1) t := by
  induction s with
  | nil => rfl
  | cons c s ih =>
      obtain ⟨h1, h2, h3, h4⟩ := isFlat_iff.mp (h c List.mem_cons_self)
      rw [List.cons_append, outsideBrackets, ih (fun d hd => h d (List.mem_cons_of_mem c hd))]
      simp [h1, h2, h3, h4]

theorem outsideBrackets_parameters {arguments : List String}
    (h : ∀ a ∈ arguments, isArgumentText a.toList = true) (t : List Char) :
    outsideBrackets 0 (spellParameters arguments ++ t) = outsideBrackets 0 t := by
  cases arguments with
  | nil => rfl
  | cons a as =>
      rw [spellParameters, List.append_assoc, List.cons_append, outsideBrackets, if_pos (by decide),
        outsideBrackets_inside (isFlat_of_mem_spellArguments _ h)]
      rfl

theorem outsideBrackets_dimensions : ∀ k : Nat, outsideBrackets 0 (spellDimensions k) = []
  | 0 => rfl
  | k + 1 => outsideBrackets_dimensions k

/-- **A spelled name has the base name that it was spelled from.** -/
theorem baseName_spell {base : String} {arguments : List String} (hb : IsBase base.toList)
    (ha : ∀ a ∈ arguments, isArgumentText a.toList = true) (k : Nat) :
    baseName (spell base arguments k).toList = base.toList := by
  rw [baseName, spell, String.toList_ofList, List.append_assoc, outsideBrackets_append hb.flat,
    outsideBrackets_parameters ha, outsideBrackets_dimensions, List.append_nil, hb.normal]

end SqlAtlas.SqlName
