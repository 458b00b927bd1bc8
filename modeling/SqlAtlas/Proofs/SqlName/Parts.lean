/-
SqlAtlas.Proofs.SqlName.Parts — the parts of a safe name.

`NameText parts s` is one way to derive `s` in the language of safe names, with
its words, its parameters and the contents of its groups written down in the
order in which they stand in the text. Every name of the language has such parts
(`mem_columnName_iff`).

Each kind of part is found again by what takes texts apart: the words at the
blanks (`WordsText.words_append`), the parameters at the commas
(`ParametersText.map_trim_cut`), the groups at the brackets (`GroupsText.run`).
-/
import SqlAtlas.Proofs.SqlName.Grammar
import SqlAtlas.Proofs.SqlName.Spelling

namespace SqlAtlas.SqlName.Grammar

open Text
open scoped Computability

/-! ## 1. Repetitions -/

/-- What holds of nothing and of one more member in front. -/
theorem kstar_induction {L : Language Char} {P : List Char → Prop} (hnil : P [])
    (happend : ∀ s ∈ L, ∀ t, P t → P (s ++ t)) : ∀ s ∈ L∗, P s := by
  rintro s ⟨ss, rfl, hss⟩
  induction ss with
  | nil => exact hnil
  | cons s ss ih =>
      rw [List.flatten_cons]
      exact happend s (hss s (by simp)) _ (ih (fun t ht => hss t (by simp [ht])))

/-- What holds of nothing and of one more member behind. -/
theorem kstar_induction_right {L : Language Char} {P : List Char → Prop} (hnil : P [])
    (happend : ∀ s, P s → ∀ t ∈ L, P (s ++ t)) : ∀ s ∈ L∗, P s := by
  rintro s ⟨ss, rfl, hss⟩
  induction ss using List.reverseRecOn with
  | nil => exact hnil
  | append_singleton ss s ih =>
      rw [List.flatten_concat]
      exact happend _ (ih (fun t ht => hss t (by simp [ht]))) s (hss s (by simp))

theorem forall_of_mem_kstar_one {p : Char → Bool} {s : List Char} (h : s ∈ (one p)∗) :
    ∀ c ∈ s, p c = true :=
  (over_one (fun _ => id)).kstar s h

/-! ## 2. Characters -/

theorem not_isBlank_of_isWordDigit {c : Char} (h : isWordDigit c = true) : isBlank c = false :=
  not_isBlank_of (by decide +kernel) h

theorem not_isBlank_of_isIdentChar {c : Char} (h : isIdentChar c = true) : isBlank c = false :=
  not_isBlank_of (by decide) h

theorem isIdentChar_of_isIdentStart {c : Char} (h : isIdentStart c = true) :
    isIdentChar c = true := by
  simp only [isIdentStart, Bool.or_eq_true] at h
  rcases h with h | h <;> simp [isIdentChar, Char.isAlphanum, h]

/-- Characters that have no part in the layout of a name. -/
theorem flat_one {p : Char → Bool} (hp : ∀ c ∈ ['(', ')', '[', ']'], p c = false) :
    Over isFlat (one p) :=
  over_one (fun _ hc => isFlat_of hp hc)

theorem flat_blanks : Over isFlat blanks := (flat_one (by decide)).kstar

theorem flat_word : Over isFlat word := (flat_one (by decide)).mul (flat_one (by decide)).kstar

theorem flat_furtherWords : Over isFlat furtherWords :=
  (((flat_one (by decide)).mul flat_blanks).mul flat_word).kstar

theorem flat_wordRow : Over isFlat wordRow := flat_word.mul flat_furtherWords

theorem flat_parameters : Over isFlat parameters := by
  have hdigit : Over isFlat (one isWordDigit) := flat_one (by decide +kernel)
  have hidentifier : Over isFlat identifier :=
    (flat_one (by decide)).mul (flat_one (by decide)).kstar
  have hparameter : Over isFlat parameter :=
    (flat_blanks.mul ((hdigit.mul hdigit.kstar).add hidentifier)).mul flat_blanks
  have hcomma : Over isFlat (mark ',') := flat_one (by decide)
  exact hparameter.mul (hcomma.mul hparameter).kstar

/-! ## 3. Parts -/

/-- The parts of a safe name, in reading order. A name without a list has no
parameters and no words behind them. -/
structure Parts where
  words : List (List Char)
  parameters : List (List Char)
  further : List (List Char)
  groups : List (List Char)

/-- Words, each behind a gap. -/
inductive WordsText : List (List Char) → List Char → Prop
  | nil : WordsText [] []
  | cons {w g t : List Char} {ws : List (List Char)} (hg : g ∈ gap) (hw : w ∈ word)
      (h : WordsText ws t) : WordsText (w :: ws) (g ++ w ++ t)

/-- Parameters with commas between them, each with blanks around it. -/
inductive ParametersText : List (List Char) → List Char → Prop
  | last {b p e : List Char} (hb : b ∈ blanks) (hp : p ∈ number + identifier) (he : e ∈ blanks) :
      ParametersText [p] (b ++ p ++ e)
  | cons {b p e t : List Char} {ps : List (List Char)} (hb : b ∈ blanks)
      (hp : p ∈ number + identifier) (he : e ∈ blanks) (h : ParametersText ps t) :
      ParametersText (p :: ps) (b ++ p ++ e ++ ',' :: t)

/-- Bracket groups of digits, with blanks in front of each. -/
inductive GroupsText : List (List Char) → List Char → Prop
  | nil : GroupsText [] []
  | snoc {b content t : List Char} {gs : List (List Char)} (h : GroupsText gs t) (hb : b ∈ blanks)
      (hc : content ∈ digits) : GroupsText (gs ++ [content]) (t ++ (b ++ '[' :: content ++ [']']))

/-- A name with its parts. -/
inductive NameText : Parts → List Char → Prop
  | plain {w f g : List Char} {ws gs : List (List Char)} (hw : w ∈ word) (hf : WordsText ws f)
      (hg : GroupsText gs g) : NameText ⟨w :: ws, [], [], gs⟩ (w ++ f ++ g)
  | listed {w f b p v g : List Char} {ws ps vs gs : List (List Char)} (hw : w ∈ word)
      (hf : WordsText ws f) (hb : b ∈ blanks) (hp : ParametersText ps p) (hv : WordsText vs v)
      (hg : GroupsText gs g) :
      NameText ⟨w :: ws, ps, vs, gs⟩ (w ++ f ++ b ++ ('(' :: p ++ [')']) ++ v ++ g)

/-! ## 4. Words -/

/-- A word is not empty and has no blank in it. -/
theorem solid_of_mem_word {w : List Char} (h : w ∈ word) :
    w ≠ [] ∧ ∀ c ∈ w, isBlank c = false := by
  have hsolid : Over (fun c => isIdentChar c || c = '.') word :=
    (over_one (fun c hc => by simp [isIdentChar_of_isIdentStart hc])).mul
      (over_one (fun _ => id)).kstar
  refine ⟨?_, fun c hc =>
    not_isBlank_of (p := fun c => isIdentChar c || c = '.') (by decide) (hsolid w h c hc)⟩
  obtain ⟨_, ⟨c, rfl, _⟩, r, _, rfl⟩ := Language.mem_mul.mp h
  exact List.cons_ne_nil c r

theorem isBlanks_of_mem_gap {g : List Char} (h : g ∈ gap) : g ≠ [] ∧ IsBlanks g := by
  obtain ⟨_, ⟨c, rfl, hc⟩, b, hb, rfl⟩ := Language.mem_mul.mp h
  exact ⟨List.cons_ne_nil c b, List.forall_mem_cons.mpr ⟨hc, forall_of_mem_kstar_one hb⟩⟩

theorem WordsText.mem {ws : List (List Char)} {t : List Char} (h : WordsText ws t) :
    t ∈ furtherWords := by
  induction h with
  | nil => exact Language.nil_mem_kstar _
  | cons hg hw _ ih => exact append_mem_kstar (Language.append_mem_mul hg hw) ih

theorem exists_wordsText : ∀ t ∈ furtherWords, ∃ ws, WordsText ws t := by
  refine kstar_induction ⟨[], .nil⟩ ?_
  rintro _ hs t ⟨ws, h⟩
  obtain ⟨g, hg, w, hw, rfl⟩ := Language.mem_mul.mp hs
  exact ⟨w :: ws, .cons hg hw h⟩

theorem WordsText.append {ws vs : List (List Char)} {s t : List Char} (hs : WordsText ws s)
    (ht : WordsText vs t) : WordsText (ws ++ vs) (s ++ t) := by
  induction hs with
  | nil => exact ht
  | cons hg hw _ ih =>
      rw [List.cons_append, List.append_assoc]
      exact .cons hg hw ih

theorem WordsText.forall_mem {ws : List (List Char)} {t : List Char} (h : WordsText ws t) :
    ∀ w ∈ ws, w ∈ word := by
  induction h with
  | nil => exact List.forall_mem_nil _
  | cons _ hw _ ih => exact List.forall_mem_cons.mpr ⟨hw, ih⟩

/-- Words behind gaps are the words of their text, whatever blank follows. -/
theorem WordsText.words_append {ws : List (List Char)} {s t : List Char} (h : WordsText ws s)
    (ht : ∀ c ∈ t.head?, isBlank c = true) :
    (∀ c ∈ (s ++ t).head?, isBlank c = true) ∧ words (s ++ t) = ws ++ words t := by
  induction h with
  | nil => exact ⟨ht, rfl⟩
  | @cons w g s ws hg hw _ ih =>
      obtain ⟨hgne, hblank⟩ := isBlanks_of_mem_gap hg
      obtain ⟨hwne, hsolid⟩ := solid_of_mem_word hw
      rw [List.append_assoc, List.append_assoc]
      constructor
      · obtain ⟨d, b, rfl⟩ := List.exists_cons_of_ne_nil hgne
        intro c hc
        cases hc
        exact hblank _ List.mem_cons_self
      · rw [words_blanks_append hblank, words_append_of_blank_head hwne hsolid ih.1, ih.2,
          List.cons_append]

theorem WordsText.words_eq {ws : List (List Char)} {s : List Char} (h : WordsText ws s) :
    (∀ c ∈ s.head?, isBlank c = true) ∧ words s = ws := by
  have hall := h.words_append (t := []) (by simp)
  rwa [List.append_nil, words_nil, List.append_nil] at hall

/-- A row of words, with blanks behind it. -/
theorem words_row {w f b : List Char} {ws : List (List Char)} (hw : w ∈ word)
    (hf : WordsText ws f) (hb : IsBlanks b) : words (w ++ f ++ b) = w :: ws := by
  obtain ⟨hwne, hsolid⟩ := solid_of_mem_word hw
  obtain ⟨hhead, hwords⟩ := hf.words_append (fun c hc => hb c (List.mem_of_mem_head? hc))
  rw [List.append_assoc, words_append_of_blank_head hwne hsolid hhead, hwords, words_eq_nil hb,
    List.append_nil]

/-! ## 5. Parameters -/

theorem ParametersText.mem {ps : List (List Char)} {t : List Char} (h : ParametersText ps t) :
    t ∈ parameters := by
  induction h with
  | last hb hp he =>
      have hone := Language.append_mem_mul
        (Language.append_mem_mul (Language.append_mem_mul hb hp) he)
        (Language.nil_mem_kstar (mark ',' * parameter))
      rwa [List.append_nil] at hone
  | cons hb hp he _ ih =>
      obtain ⟨q, hq, more, hmore, hsplit⟩ := Language.mem_mul.mp ih
      rw [← hsplit]
      exact Language.append_mem_mul (Language.append_mem_mul (Language.append_mem_mul hb hp) he)
        (append_mem_kstar (Language.append_mem_mul (mem_mark ',') hq) hmore)

theorem exists_parametersText {t : List Char} (h : t ∈ parameters) :
    ∃ ps, ParametersText ps t := by
  obtain ⟨first, hfirst, more, hmore, rfl⟩ := Language.mem_mul.mp h
  refine kstar_induction (P := fun more => ∀ first ∈ parameter,
    ∃ ps, ParametersText ps (first ++ more)) ?_ ?_ more hmore first hfirst
  · intro first hfirst
    obtain ⟨_, hbp, e, he, rfl⟩ := Language.mem_mul.mp hfirst
    obtain ⟨b, hb, p, hp, rfl⟩ := Language.mem_mul.mp hbp
    rw [List.append_nil]
    exact ⟨[p], .last hb hp he⟩
  · intro s hs t ih first hfirst
    obtain ⟨_, ⟨c, rfl, hc⟩, next, hnext, rfl⟩ := Language.mem_mul.mp hs
    obtain ⟨_, hbp, e, he, rfl⟩ := Language.mem_mul.mp hfirst
    obtain ⟨b, hb, p, hp, rfl⟩ := Language.mem_mul.mp hbp
    obtain ⟨ps, hps⟩ := ih next hnext
    rw [decide_eq_true_eq] at hc
    rw [hc, List.append_assoc [','], List.singleton_append]
    exact ⟨p :: ps, .cons hb hp he hps⟩

theorem isSafeParameter_of_mem {s : List Char} (h : s ∈ number + identifier) :
    isSafeParameter s = true ∧ ∀ c ∈ s, isBlank c = false ∧ c ≠ ',' := by
  rcases h with h | h
  · obtain ⟨_, ⟨c, rfl, hc⟩, r, hr, rfl⟩ := Language.mem_mul.mp h
    have hall : ∀ d ∈ [c] ++ r, isWordDigit d = true :=
      List.forall_mem_cons.mpr ⟨hc, forall_of_mem_kstar_one hr⟩
    refine ⟨?_, fun d hd => ⟨not_isBlank_of_isWordDigit (hall d hd), ?_⟩⟩
    · rw [isSafeParameter, List.all_eq_true.mpr hall]
      rfl
    · rintro rfl
      exact absurd (hall ',' hd) (by decide +kernel)
  · obtain ⟨_, ⟨c, rfl, hc⟩, r, hr, rfl⟩ := Language.mem_mul.mp h
    have hrest := forall_of_mem_kstar_one hr
    have hall : ∀ d ∈ [c] ++ r, isIdentChar d = true :=
      List.forall_mem_cons.mpr ⟨isIdentChar_of_isIdentStart hc, hrest⟩
    refine ⟨?_, fun d hd => ⟨not_isBlank_of_isIdentChar (hall d hd), ?_⟩⟩
    · rw [isSafeParameter, List.singleton_append, isIdentifier, hc, List.all_eq_true.mpr hrest]
      simp
    · rintro rfl
      exact absurd (hall ',' hd) (by decide)

theorem parameter_ne_nil {p : List Char} (h : p ∈ number + identifier) : p ≠ [] := by
  rcases h with h | h
  all_goals
    obtain ⟨_, ⟨c, rfl, -⟩, r, -, rfl⟩ := Language.mem_mul.mp h
    exact List.cons_ne_nil c r

theorem ParametersText.ne_nil {ps : List (List Char)} {t : List Char} (h : ParametersText ps t) :
    ps ≠ [] ∧ ∀ p ∈ ps, p ≠ [] := by
  induction h with
  | last _ hp _ => exact ⟨by simp, by simpa using parameter_ne_nil hp⟩
  | cons _ hp _ _ ih =>
      exact ⟨by simp, List.forall_mem_cons.mpr ⟨parameter_ne_nil hp, ih.2⟩⟩

/-- Between two commas stands a parameter with blanks around it. -/
theorem trim_parameter {b p e : List Char} (hb : b ∈ blanks) (hp : p ∈ number + identifier)
    (he : e ∈ blanks) : trim (b ++ p ++ e) = p ∧ ∀ c ∈ b ++ p ++ e, isFlat c = true ∧ c ∉ [','] := by
  have hbefore : IsBlanks b := forall_of_mem_kstar_one hb
  have hbehind : IsBlanks e := forall_of_mem_kstar_one he
  have hsolid := (isSafeParameter_of_mem hp).2
  constructor
  · rw [trim_append_blanks _ hbehind, trim_blanks_append hbefore,
      trim_eq_self_of_forall (fun c hc => (hsolid c hc).1)]
  · intro c hc
    refine ⟨flat_parameters _ (ParametersText.mem (.last hb hp he)) c hc, ?_⟩
    simp only [List.mem_append, List.mem_singleton] at hc ⊢
    rcases hc with (hc | hc) | hc
    · rintro rfl
      exact absurd (hbefore ',' hc) (by decide)
    · exact (hsolid c hc).2
    · rintro rfl
      exact absurd (hbehind ',' hc) (by decide)

theorem ne_comma_of_mem_parameter {b p e : List Char} (hb : b ∈ blanks)
    (hp : p ∈ number + identifier) (he : e ∈ blanks) :
    ∀ c ∈ b ++ p ++ e, decide (c = ',') = false := by
  intro c hc
  simpa using ((trim_parameter hb hp he).2 c hc).2

/-- The list is cut into its parameters. -/
theorem ParametersText.map_trim_cut {ps : List (List Char)} {t : List Char}
    (h : ParametersText ps t) : (cut [','] .zero t).map trim = ps := by
  induction h with
  | last hb hp he =>
      obtain ⟨htrim, hin⟩ := trim_parameter hb hp he
      rw [cut_of_uncut (by decide) (.of_not_mem (fun c hc => (hin c hc).2) _), List.map_singleton,
        htrim]
  | cons hb hp he _ ih =>
      obtain ⟨htrim, hin⟩ := trim_parameter hb hp he
      have hdepth := Depth.behind_flat .zero (fun c hc => (hin c hc).1)
      rw [cut_append_delimiter (by decide) (.of_not_mem (fun c hc => (hin c hc).2) _) hdepth
        (by simp), List.map_cons, htrim, ih]

/-- **The arguments are the listed parameters**, without the blanks around
them. -/
theorem ParametersText.readArguments {ps : List (List Char)} {t : List Char}
    (h : ParametersText ps t) : readArguments (some t) = some (ps.map String.ofList) := by
  obtain ⟨hne, hfull⟩ := h.ne_nil
  have hsplit : splitOutside [','] t = ps := by
    rw [splitOutside, h.map_trim_cut]
    exact List.filter_eq_self.mpr (fun p hp => by simpa using hfull p hp)
  obtain ⟨p, ps, rfl⟩ := List.exists_cons_of_ne_nil hne
  rw [SqlName.readArguments, hsplit]

/-! ## 6. Groups -/

theorem GroupsText.mem {gs : List (List Char)} {t : List Char} (h : GroupsText gs t) :
    t ∈ group∗ := by
  induction h with
  | nil => exact Language.nil_mem_kstar _
  | snoc _ hb hc ih =>
      exact kstar_append_mem ih (mem_kstar_of_mem (mem_group hb (forall_of_mem_kstar_one hc)))

theorem exists_groupsText : ∀ t ∈ group∗, ∃ gs, GroupsText gs t := by
  refine kstar_induction_right ⟨[], .nil⟩ ?_
  rintro s ⟨gs, h⟩ _ ht
  obtain ⟨b, hb, _, ⟨_, ⟨o, rfl, ho⟩, _, ⟨content, hc, _, ⟨e, rfl, he⟩, rfl⟩, rfl⟩, rfl⟩ := ht
  rw [decide_eq_true_eq] at ho he
  have hlast := h.snoc hb hc
  rw [List.append_assoc b] at hlast
  rw [ho, he]
  exact ⟨gs ++ [content], hlast⟩

theorem GroupsText.run {gs : List (List Char)} {t : List Char} (h : GroupsText gs t) :
    GroupRun gs t ∧ ∀ g ∈ gs, ∀ c ∈ g, isWordDigit c = true := by
  induction h with
  | nil => exact ⟨.nil, by simp⟩
  | @snoc b content t gs _ hb hc ih =>
      have hdigits : ∀ c ∈ content, isWordDigit c = true := forall_of_mem_kstar_one hc
      have hopen : '[' ∉ content := fun hmem => absurd (hdigits '[' hmem) (by decide +kernel)
      constructor
      · have hlast := (ih.1.append_blanks (forall_of_mem_kstar_one hb)).group hopen
        simpa using hlast
      · intro g hg
        rcases List.mem_append.mp hg with hg | hg
        · exact ih.2 g hg
        · rw [List.mem_singleton.mp hg]
          exact hdigits

theorem GroupsText.all_isWordDigit {gs : List (List Char)} {t : List Char} (h : GroupsText gs t) :
    gs.all (fun g => g.all isWordDigit) = true :=
  List.all_eq_true.mpr (fun g hg => List.all_eq_true.mpr (h.run.2 g hg))

/-! ## 7. Names of the language -/

/-- **The names of the language are those that have parts.** -/
theorem mem_columnName_iff {s : List Char} : s ∈ columnName ↔ ∃ parts, NameText parts s := by
  constructor
  · intro h
    obtain ⟨stem, hstem, g, hg, rfl⟩ := Language.mem_mul.mp h
    obtain ⟨front, hfront, v, hv, rfl⟩ := Language.mem_mul.mp hstem
    obtain ⟨row, hrow, list, hlist, rfl⟩ := Language.mem_mul.mp hfront
    obtain ⟨w, hw, f, hf, rfl⟩ := Language.mem_mul.mp hrow
    obtain ⟨ws, hws⟩ := exists_wordsText f hf
    obtain ⟨vs, hvs⟩ := exists_wordsText v hv
    obtain ⟨gs, hgs⟩ := exists_groupsText g hg
    rcases hlist with rfl | hlist
    · -- without a list both rows of words are one
      have hall := NameText.plain hw (hws.append hvs) hgs
      rw [← List.append_assoc] at hall
      rw [List.append_nil]
      exact ⟨_, hall⟩
    · obtain ⟨b, hb, _, ⟨_, ⟨o, rfl, ho⟩, _, ⟨p, hp, _, ⟨e, rfl, he⟩, rfl⟩, rfl⟩, rfl⟩ := hlist
      obtain ⟨ps, hps⟩ := exists_parametersText hp
      rw [decide_eq_true_eq] at ho he
      have hall := NameText.listed hw hws hb hps hvs hgs
      rw [ho, he, ← List.append_assoc _ b]
      exact ⟨_, hall⟩
  · rintro ⟨parts, h⟩
    cases h with
    | plain hw hf hg =>
        have hall := append_mem_columnName (Language.append_mem_mul hw hf.mem) (.inl rfl)
          (Language.nil_mem_kstar _) hg.mem
        rwa [List.append_nil, List.append_nil] at hall
    | listed hw hf hb hp hv hg =>
        have hlist := Language.append_mem_mul hb
          (Language.append_mem_mul (mem_mark '(') (Language.append_mem_mul hp.mem (mem_mark ')')))
        have hall := append_mem_columnName (Language.append_mem_mul hw hf.mem) (.inr hlist)
          hv.mem hg.mem
        simpa using hall

/-- What the parts of a name are made of. -/
structure Parts.Valid (parts : Parts) : Prop where
  words_ne_nil : parts.words ≠ []
  words : ∀ w ∈ parts.words, w ∈ word
  further : ∀ w ∈ parts.further, w ∈ word
  groups : ∀ g ∈ parts.groups, ∀ c ∈ g, isWordDigit c = true

theorem NameText.valid {parts : Parts} {s : List Char} (h : NameText parts s) : parts.Valid := by
  cases h with
  | plain hw hf hg =>
      exact ⟨by simp, List.forall_mem_cons.mpr ⟨hw, hf.forall_mem⟩, by simp, hg.run.2⟩
  | listed hw hf _ _ hv hg =>
      exact ⟨by simp, List.forall_mem_cons.mpr ⟨hw, hf.forall_mem⟩, hv.forall_mem, hg.run.2⟩

end SqlAtlas.SqlName.Grammar
