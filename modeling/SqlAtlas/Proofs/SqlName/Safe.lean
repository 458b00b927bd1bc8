/-
SqlAtlas.Proofs.SqlName.Safe — the language of safe names, read again.

A safe text belongs to the language `columnName`; here is the way back. A name
of the language is put together from parts, and taking it apart finds a layout
that holds the same parts (`NameText.exists_layout`): the words are words, the
list is cut at its commas, and the groups come off its end. So `isSafe` asks for
nothing but a name of the language that is short enough (`isSafe_iff`).

Every part is written with blanks in it. Whether they belong to the part in
front or to the one behind makes a difference to the layout, but to nothing
that is asked about it.
-/
import SqlAtlas.Proofs.SqlName.Parts

namespace SqlAtlas.SqlName.Grammar

open Text
open scoped Computability

/-! ## 1. Safe parts -/

theorem isTypeWord_of_mem {w : List Char} (h : w ∈ word) : isTypeWord w = true := by
  obtain ⟨_, ⟨c, rfl, hc⟩, r, hr, rfl⟩ := Language.mem_mul.mp h
  rw [List.singleton_append, isTypeWord, hc, Bool.true_and, List.all_eq_true]
  exact forall_of_mem_kstar_one hr

theorem isSafeBase_of_words {s w : List Char} {ws : List (List Char)} (hs : words s = w :: ws)
    (h : ∀ v ∈ w :: ws, v ∈ word) : isSafeBase s = true := by
  rw [isSafeBase, hs, List.isEmpty_cons, Bool.not_false, Bool.true_and, List.all_eq_true]
  exact fun v hv => isTypeWord_of_mem (h v hv)

theorem WordsText.areSafe {ws : List (List Char)} {s : List Char} (h : WordsText ws s) :
    areSafeModifiers s = true := by
  obtain ⟨hhead, hws⟩ := h.words_eq
  cases s with
  | nil => rfl
  | cons c r =>
      rw [areSafeModifiers, hhead c rfl, hws, Bool.true_and, List.all_eq_true]
      exact fun w hw => isTypeWord_of_mem (h.forall_mem w hw)

/-- **The pieces of a list are its parameters.** -/
theorem ParametersText.areSafe {ps : List (List Char)} {t : List Char}
    (h : ParametersText ps t) : ∀ q ∈ pieces (· = ',') t, isSafeParameter (trim q) = true := by
  induction h with
  | last hb hp he =>
      intro q hq
      rw [pieces_eq_splitOnP, List.splitOnP_eq_singleton (ne_comma_of_mem_parameter hb hp he)] at hq
      rw [List.mem_singleton.mp hq, (trim_parameter hb hp he).1]
      exact (isSafeParameter_of_mem hp).1
  | cons hb hp he _ ih =>
      intro q hq
      rw [pieces_eq_splitOnP, List.splitOnP_append_cons_of_forall_mem
        (ne_comma_of_mem_parameter hb hp he) ',' (by simp), ← pieces_eq_splitOnP] at hq
      rcases List.mem_cons.mp hq with rfl | hq
      · rw [(trim_parameter hb hp he).1]
        exact (isSafeParameter_of_mem hp).1
      · exact ih q hq

/-! ## 2. Ends -/

/-- A text that ends in a word still does with further words behind it. -/
theorem WordsText.getLast?_append {ws : List (List Char)} {f : List Char} (h : WordsText ws f) :
    ∀ s : List Char, (∀ c ∈ s.getLast?, isBlank c = false) →
      ∀ c ∈ (s ++ f).getLast?, isBlank c = false := by
  induction h with
  | nil => exact fun s hs => by rwa [List.append_nil]
  | @cons w g f ws _ hw _ ih =>
      intro s _
      obtain ⟨hwne, hsolid⟩ := solid_of_mem_word hw
      rw [← List.append_assoc]
      refine ih (s ++ (g ++ w)) (fun c hc => hsolid c ?_)
      rw [← List.append_assoc, List.getLast?_append_of_ne_nil _ hwne] at hc
      exact List.mem_of_mem_getLast? hc

theorem GroupsText.getLast?_append {gs : List (List Char)} {g s : List Char}
    (h : GroupsText gs g) (hs : ∀ c ∈ s.getLast?, isBlank c = false) :
    ∀ c ∈ (s ++ g).getLast?, isBlank c = false := by
  cases h with
  | nil => rwa [List.append_nil]
  | snoc _ _ _ =>
      intro c hc
      simp only [← List.append_assoc, List.getLast?_concat] at hc
      cases hc
      decide

/-! ## 3. Layouts -/

/-- A layout that writes down a name of the language. -/
structure IsLayoutOf (l : Layout) (stem : List Char) : Prop where
  text : l.stem = stem
  safe : l.isSafe = true
  shaped : l.WellShaped
  flat : noBrackets stem = true
  last : ∀ c ∈ stem.getLast?, isBlank c = false

/-- A layout with the given parts, and a gap between its list and the words
behind it. -/
structure Holds (l : Layout) (parts : Parts) : Prop where
  words : words l.base = parts.words
  further : Text.words l.modifiers = parts.further
  gap : ∀ c ∈ l.modifiers.head?, isBlank c = true
  parameters : readArguments l.parameters? = some (parts.parameters.map String.ofList)
  groups : l.groups = parts.groups

/-- Words alone are a base. -/
theorem isLayoutOf_words {w f g : List Char} {ws gs : List (List Char)} (hw : w ∈ word)
    (hf : WordsText ws f) (hg : GroupsText gs g) : IsLayoutOf ⟨w ++ f, none, [], gs⟩ (w ++ f) where
  text := by simp [Layout.stem, Layout.listText]
  safe := by
    have hwords := words_row hw hf isBlanks_nil
    rw [List.append_nil] at hwords
    have hbase := isSafeBase_of_words hwords (List.forall_mem_cons.mpr ⟨hw, hf.forall_mem⟩)
    simp [Layout.isSafe, hbase, areSafeModifiers, hg.all_isWordDigit]
  shaped := ⟨noParens_of_flat (flat_wordRow _ (Language.append_mem_mul hw hf.mem)), by simp, rfl,
    fun _ => rfl⟩
  flat := noBrackets_of_flat (flat_wordRow _ (Language.append_mem_mul hw hf.mem))
  last := hf.getLast?_append w
    (fun c hc => (solid_of_mem_word hw).2 c (List.mem_of_mem_getLast? hc))

/-- A list goes to the parameters, and the words behind it are modifiers. -/
theorem isLayoutOf_list {w f b p v g : List Char} {ws ps vs gs : List (List Char)} (hw : w ∈ word)
    (hf : WordsText ws f) (hb : b ∈ blanks) (hp : ParametersText ps p) (hv : WordsText vs v)
    (hg : GroupsText gs g) :
    IsLayoutOf ⟨w ++ f ++ b, some p, v, gs⟩ (w ++ f ++ b ++ ('(' :: p ++ [')']) ++ v) where
  text := rfl
  safe := by
    have hbase := isSafeBase_of_words (words_row hw hf (forall_of_mem_kstar_one hb))
      (List.forall_mem_cons.mpr ⟨hw, hf.forall_mem⟩)
    have hpieces := List.all_eq_true.mpr hp.areSafe
    simp only [Layout.isSafe, hbase, hv.areSafe, hg.all_isWordDigit, hpieces, Bool.and_self]
  shaped := by
    have hrow := Language.append_mem_mul (Language.append_mem_mul hw hf.mem) hb
    refine ⟨noParens_of_flat ((flat_wordRow.mul flat_blanks) _ hrow), fun q hq => ?_,
      noParens_of_flat (flat_furtherWords _ hv.mem), fun h => by cases h⟩
    cases hq
    exact noParens_of_flat (flat_parameters _ hp.mem)
  flat := by
    have hrow := Language.append_mem_mul (Language.append_mem_mul hw hf.mem) hb
    have hbase := noBrackets_of_flat ((flat_wordRow.mul flat_blanks) _ hrow)
    simp [-List.append_assoc, hbase, noBrackets_of_flat (flat_parameters _ hp.mem),
      noBrackets_of_flat (flat_furtherWords _ hv.mem)]
  last := by
    refine hv.getLast?_append _ (fun c hc => ?_)
    rw [← List.append_assoc, List.getLast?_concat] at hc
    cases hc
    decide

/-- **A name of the language has a safe layout that holds its parts**, with groups
of digits behind it. -/
theorem NameText.exists_layout {parts : Parts} {s : List Char} (h : NameText parts s) :
    ∃ l stem g, s = stem ++ g ∧ GroupsText l.groups g ∧ IsLayoutOf l stem ∧ Holds l parts := by
  cases h with
  | plain hw hf hg =>
      have hwords := words_row hw hf isBlanks_nil
      rw [List.append_nil] at hwords
      exact ⟨_, _, _, rfl, hg, isLayoutOf_words hw hf hg, ⟨hwords, words_nil, by simp, rfl, rfl⟩⟩
  | listed hw hf hb hp hv hg =>
      have hwords := words_row hw hf (forall_of_mem_kstar_one hb)
      obtain ⟨hgap, hfurther⟩ := hv.words_eq
      exact ⟨_, _, _, rfl, hg, isLayoutOf_list hw hf hb hp hv hg,
        ⟨hwords, hfurther, hgap, hp.readArguments, rfl⟩⟩

/-- A name is taken apart into the layout that writes it down. -/
theorem IsLayoutOf.of_append {l : Layout} {stem g : List Char} (hl : IsLayoutOf l stem)
    (hg : GroupsText l.groups g) : Layout.of (stem ++ g) = some l := by
  have hflat := hl.flat
  have hlast := hl.last
  rw [← hl.text] at hflat hlast ⊢
  exact Layout.of_stem hl.shaped hflat hlast hg.run.1

/-! ## 4. Whole names -/

/-- No blank stands at the ends of a name of the language. -/
theorem trim_of_mem_columnName {s : List Char} (h : s ∈ columnName) : trim s = s := by
  refine trim_eq_self (fun c hc => ?_) ?_
  · obtain ⟨stem, hstem, g, hg, rfl⟩ := Language.mem_mul.mp h
    obtain ⟨front, hfront, further, _, rfl⟩ := Language.mem_mul.mp hstem
    obtain ⟨row, hrow, list, _, rfl⟩ := Language.mem_mul.mp hfront
    obtain ⟨_, ⟨_, ⟨d, rfl, hd⟩, _, _, rfl⟩, _, _, rfl⟩ := Language.mem_mul.mp hrow
    cases hc
    exact not_isBlank_of_isIdentChar (isIdentChar_of_isIdentStart hd)
  · obtain ⟨parts, hparts⟩ := mem_columnName_iff.mp h
    obtain ⟨l, stem, g, rfl, hg, hl, -⟩ := hparts.exists_layout
    exact hg.getLast?_append hl.last

/-- **Safe are the names of the language that are short enough.** -/
theorem isSafe_iff {text : List Char} :
    isSafe text = true ↔ byteLength (trim text) ≤ longestSafe ∧ trim text ∈ columnName := by
  constructor
  · intro h
    refine ⟨?_, mem_columnName_of_isSafe h⟩
    simp only [isSafe, Bool.and_eq_true, decide_eq_true_eq] at h
    exact h.1
  · rintro ⟨hlength, hmem⟩
    obtain ⟨parts, hparts⟩ := mem_columnName_iff.mp hmem
    obtain ⟨l, stem, g, htext, hg, hl, -⟩ := hparts.exists_layout
    have hof : Layout.of (trim text) = some l := by
      rw [htext]
      exact hl.of_append hg
    rw [isSafe, hof]
    simp [hlength, hl.safe]

end SqlAtlas.SqlName.Grammar
