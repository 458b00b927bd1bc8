/-
SqlAtlas.Proofs.SqlName.BaseName — the base name of a type and the key of its
parts.

A name is read twice. `baseName` drops what stands in brackets, character by
character, and brings the rest to single spaces; `read` splits the name at its
list and brings the two sides to single spaces apart. For a text that `read`
accepts, what stands outside the brackets is the base with the modifiers right
behind it (`outsideBrackets_stem`), so all that can differ is the seam. Where a
blank stands there the two readings agree. Where none does, as in
`int(10)unsigned`, dropping the list leaves one word of what were two
(`baseName_of_read`).

Lower-casing the sides apart is the same as lower-casing them together because
plain words hold no sigma.
-/
import Mathlib.Data.List.Basic
import SqlAtlas.Proofs.SqlName.Marked
import SqlAtlas.Proofs.SqlName.Spelling

namespace SqlAtlas

open Text (IsBlanks isBlank isFlat isFlat_iff lowerCase trim unwords words)

/-- A text with a base name names a type. -/
theorem SqlType.ofName_eq_ok {text : List Char} (h : SqlAtlas.baseName (trim text) ≠ []) :
    SqlType.ofName text = .ok (plain (String.ofList (trim text))) := by
  have hne : trim text ≠ [] := by
    intro hnil
    rw [hnil] at h
    exact h rfl
  simp [SqlType.ofName, h, hne]

namespace SqlName

/-! ## 1. Outside the brackets -/

theorem isFlat_of_noParens {s : List Char} (hp : noParens s = true) (hb : noBrackets s = true) :
    ∀ c ∈ s, isFlat c = true := by
  intro c hc
  have hparen := List.all_eq_true.mp hp c hc
  have hbracket := List.all_eq_true.mp hb c hc
  simp only [Bool.and_eq_true, decide_eq_true_eq] at hparen hbracket
  exact isFlat_iff.mpr ⟨hparen.1, hparen.2, hbracket.1, hbracket.2⟩

/-- In a stem without brackets the parts are flat. -/
theorem Layout.WellShaped.isFlat_parts {l : Layout} (h : l.WellShaped)
    (hflat : noBrackets l.stem = true) :
    (∀ c ∈ l.base, isFlat c = true) ∧ (∀ p ∈ l.parameters?, ∀ c ∈ p, isFlat c = true)
      ∧ ∀ c ∈ l.modifiers, isFlat c = true := by
  obtain ⟨hb, hlist, hm⟩ : noBrackets l.base = true ∧ noBrackets l.listText = true
      ∧ noBrackets l.modifiers = true := by
    simpa [Layout.stem, and_assoc] using hflat
  refine ⟨isFlat_of_noParens h.base hb, fun p hp => ?_, isFlat_of_noParens h.modifiers hm⟩
  have hinner : noBrackets p = true := by
    rw [Layout.listText, Option.mem_def.mp hp] at hlist
    simpa using hlist
  exact isFlat_of_noParens (h.parameters p hp) hinner

/-- Nothing is left of flat characters between an opener and a closer. -/
theorem outsideBrackets_enclosed {o e : Char} (ho : o = '(' ∨ o = '[') (he : e = ')' ∨ e = ']')
    {s : List Char} (hs : ∀ c ∈ s, isFlat c = true) (t : List Char) :
    outsideBrackets 0 (o :: s ++ e :: t) = outsideBrackets 0 t := by
  have hopen : outsideBrackets 0 (o :: s ++ e :: t) = outsideBrackets 1 (s ++ e :: t) := by
    rcases ho with rfl | rfl <;> rfl
  rw [hopen, outsideBrackets_inside hs]
  rcases he with rfl | rfl <;> rfl

/-- Of bracket groups only the blanks around them are left. -/
theorem outsideBrackets_groupRun {gs : List (List Char)} {t : List Char} (h : GroupRun gs t)
    (hg : ∀ g ∈ gs, ∀ c ∈ g, isFlat c = true) :
    ∃ b, IsBlanks b ∧ ∀ u, outsideBrackets 0 (t ++ u) = b ++ outsideBrackets 0 u := by
  induction h with
  | nil => exact ⟨[], Text.isBlanks_nil, fun u => rfl⟩
  | @blank gs t c h hc ih =>
      obtain ⟨b, hb, hout⟩ := ih hg
      refine ⟨b ++ [c], hb.append (by simpa [IsBlanks] using hc), fun u => ?_⟩
      have hflat : ∀ d ∈ [c], isFlat d = true := by
        intro d hd
        rw [List.mem_singleton.mp hd]
        exact Text.isFlat_of_isBlank hc
      rw [List.append_assoc, hout, outsideBrackets_append hflat, List.append_assoc]
  | @group gs t content h hc ih =>
      obtain ⟨b, hb, hout⟩ := ih (fun g hmem => hg g (List.mem_append_left _ hmem))
      refine ⟨b, hb, fun u => ?_⟩
      have hassoc : t ++ '[' :: content ++ [']'] ++ u = t ++ ('[' :: content ++ ']' :: u) := by simp
      rw [hassoc, hout, outsideBrackets_enclosed (.inr rfl) (.inr rfl) (hg content (by simp))]

/-- **Outside its brackets a name is its base with its modifiers behind it.** -/
theorem outsideBrackets_stem {l : Layout} (hshape : l.WellShaped)
    (hflat : noBrackets l.stem = true) (u : List Char) :
    outsideBrackets 0 (l.stem ++ u) = l.base ++ l.modifiers ++ outsideBrackets 0 u := by
  obtain ⟨hbase, hparameters, hmodifiers⟩ := hshape.isFlat_parts hflat
  rw [Layout.stem, List.append_assoc, List.append_assoc, outsideBrackets_append hbase,
    List.append_assoc]
  congr 1
  cases hp : l.parameters? with
  | none =>
      rw [Layout.listText, hp, List.nil_append, outsideBrackets_append hmodifiers]
  | some p =>
      have hsplit : l.listText ++ (l.modifiers ++ u) = '(' :: p ++ ')' :: (l.modifiers ++ u) := by
        simp [Layout.listText, hp]
      rw [hsplit, outsideBrackets_enclosed (.inl rfl) (.inl rfl)
        (hparameters p hp), outsideBrackets_append hmodifiers]

theorem baseName_layout {l : Layout} (hshape : l.WellShaped) (hflat : noBrackets l.stem = true)
    {t : List Char} (ht : GroupRun l.groups t) (hg : ∀ g ∈ l.groups, ∀ c ∈ g, isFlat c = true) :
    baseName (l.stem ++ t) = normalWords (l.base ++ l.modifiers) := by
  obtain ⟨b, hb, hout⟩ := outsideBrackets_groupRun ht hg
  have hend : outsideBrackets 0 t = b := by
    have h := hout []
    rwa [List.append_nil, outsideBrackets, List.append_nil] at h
  rw [baseName, outsideBrackets_stem hshape hflat, hend, normalWords, normalWords,
    Text.words_append_blanks _ hb]

/-! ## 2. The seam -/

/-- Words that are plain in small letters had no sigma. -/
theorem sigma_not_mem_of_isPlain {s : List Char} (h : isPlain (lowerCase s) = true) : 'Σ' ∉ s := by
  intro hmem
  rcases Text.small_sigma_mem_lowerFrom hmem [] with hsmall | hsmall
  · exact absurd (List.all_eq_true.mp h _ hsmall) (by decide)
  · exact absurd (List.all_eq_true.mp h _ hsmall) (by decide)

theorem isPlain_unwords : ∀ {ws : List (List Char)}, (∀ w ∈ ws, isPlain w = true) →
    isPlain (unwords ws) = true
  | [], _ => rfl
  | [w], h => h w (by simp)
  | w :: v :: ws, h => by
      obtain ⟨hw, hrest⟩ := List.forall_mem_cons.mp h
      have hmore := isPlain_unwords hrest
      rw [isPlain] at hw hmore ⊢
      rw [Text.unwords_cons w (by simp), List.all_append, List.all_cons, hw, hmore]
      rfl

theorem normalWords_of_isBlanks {s : List Char} (h : IsBlanks s) : normalWords s = [] := by
  rw [normalWords, Text.words_eq_nil h]
  rfl

theorem normalWords_ne_nil {s : List Char} {c : Char} (hc : c ∈ s) (hb : isBlank c = false) :
    normalWords s ≠ [] := by
  rcases Text.mem_words hc with h | ⟨w, hw, hcw⟩
  · rw [hb] at h
    cases h
  · exact Text.lowerCase_ne_nil (List.ne_nil_of_mem (Text.mem_unwords hcw hw))

section

variable {s t : List Char} (hs : isPlain (normalWords s) = true)
  (ht : isPlain (normalWords t) = true)

include hs ht

/-- Two texts with a blank at the seam keep their words. -/
theorem normalWords_append_of_blank (hsn : words s ≠ []) (htn : words t ≠ [])
    (hseam : (∃ c ∈ s.getLast?, isBlank c = true) ∨ ∃ c ∈ t.head?, isBlank c = true) :
    normalWords (s ++ t) = normalWords s ++ ' ' :: normalWords t := by
  have hspace : 'Σ' ∉ ' ' :: unwords (words t) := by
    simpa using sigma_not_mem_of_isPlain ht
  rw [normalWords, Text.words_append_of_blank hseam, Text.unwords_append hsn htn,
    Text.lowerCase_append (sigma_not_mem_of_isPlain hs) hspace, ← List.singleton_append,
    Text.lowerCase_append (by decide) (sigma_not_mem_of_isPlain ht)]
  rfl

/-- Without a blank at the seam two words become one. -/
theorem normalWords_append_of_solid {c d : Char} (hc : s.getLast? = some c)
    (hcb : isBlank c = false) (hd : t.head? = some d) (hdb : isBlank d = false) :
    normalWords (s ++ t) = normalWords s ++ normalWords t := by
  have hhead : ∀ e ∈ t.head?, isBlank e = false := by
    intro e he
    rw [Option.mem_unique he hd]
    exact hdb
  rw [normalWords, Text.unwords_words_append hhead hc hcb,
    Text.lowerCase_append (sigma_not_mem_of_isPlain hs) (sigma_not_mem_of_isPlain ht)]
  rfl

end

/-! ## 3. Names that are taken apart -/

/-- A text where words stand right before and right behind the list, so that
nothing but the list keeps them apart. -/
def JoinsWords (text : List Char) : Prop :=
  ∃ front c inner d rear, trim text = front ++ c :: '(' :: (inner ++ ')' :: d :: rear)
    ∧ isBlank c = false ∧ isBlank d = false ∧ d ≠ '['

/-- The same of the parts. -/
def Layout.Joins (l : Layout) : Prop :=
  ∃ c d, l.base.getLast? = some c ∧ isBlank c = false ∧ l.modifiers.head? = some d
    ∧ isBlank d = false

theorem isFlat_of_isGroupSize {s : List Char} (h : isGroupSize s = true) :
    ∀ c ∈ s, isFlat c = true := by
  obtain ⟨b, e, hs, hb, he⟩ := Text.exists_trim s
  intro c hc
  rw [hs] at hc
  simp only [List.mem_append] at hc
  rcases hc with (hc | hc) | hc
  · exact Text.isFlat_of_isBlank (hb c hc)
  · have hd : c.isDigit = true := List.all_eq_true.mp h c hc
    exact isFlat_of_plain (by simp [Char.isAlphanum, hd])
  · exact Text.isFlat_of_isBlank (he c hc)

/-- No parenthesis stands behind the stem. -/
theorem noParens_groupRun {gs : List (List Char)} {t : List Char} (h : GroupRun gs t)
    (hg : ∀ g ∈ gs, ∀ c ∈ g, isFlat c = true) : '(' ∉ t ∧ ')' ∉ t := by
  have hparen : ∀ {c}, isFlat c = true → c ≠ '(' ∧ c ≠ ')' := fun hc =>
    ⟨(isFlat_iff.mp hc).1, (isFlat_iff.mp hc).2.1⟩
  have hall : ∀ c ∈ t, c ≠ '(' ∧ c ≠ ')' :=
    h.forall_mem (fun c hc => hparen (Text.isFlat_of_isBlank hc)) (by decide) (by decide)
      (fun g hmem c hc => hparen (hg g hmem c hc))
  exact ⟨fun hmem => (hall _ hmem).1 rfl, fun hmem => (hall _ hmem).2 rfl⟩

/-- Groups begin with a blank or a bracket. -/
theorem head?_groupRun {gs : List (List Char)} {t : List Char} (h : GroupRun gs t) :
    ∀ c ∈ t.head?, isBlank c = true ∨ c = '[' := by
  induction h with
  | nil => simp
  | @blank gs t c h hc ih =>
      cases t with
      | nil => simpa using .inl hc
      | cons d r => exact ih
  | @group gs t content h hc ih =>
      cases t with
      | nil => simp
      | cons d r => exact ih

theorem not_mem_of_noParens {s : List Char} (h : noParens s = true) : '(' ∉ s ∧ ')' ∉ s :=
  ⟨fun hmem => absurd (List.all_eq_true.mp h _ hmem) (by decide),
    fun hmem => absurd (List.all_eq_true.mp h _ hmem) (by decide)⟩

/-- The text of a name with a list. -/
theorem Layout.stem_append {l : Layout} {p : List Char} (hp : l.parameters? = some p)
    (t : List Char) : l.stem ++ t = l.base ++ '(' :: (p ++ ')' :: (l.modifiers ++ t)) := by
  simp [Layout.stem, Layout.listText, hp]

/-- Only a name with a list can join words. -/
theorem Layout.Joins.exists_parameters {l : Layout} (h : l.Joins) (hshape : l.WellShaped) :
    ∃ p, l.parameters? = some p := by
  obtain ⟨c, d, -, -, hd, -⟩ := h
  cases hp : l.parameters? with
  | none =>
      rw [hshape.unlisted hp] at hd
      cases hd
  | some p => exact ⟨p, rfl⟩

section

variable {text t : List Char} {l : Layout} (htext : trim text = l.stem ++ t)
  (hshape : l.WellShaped)

include htext hshape

/-- Parts that join words do so in the text. -/
theorem Layout.Joins.joinsWords (h : l.Joins) (hflat : noBrackets l.stem = true) :
    JoinsWords text := by
  obtain ⟨p, hp⟩ := h.exists_parameters hshape
  obtain ⟨c, d, hc, hcb, hd, hdb⟩ := h
  obtain ⟨front, hfront⟩ := List.getLast?_eq_some_iff.mp hc
  obtain ⟨rear, hrear⟩ := List.head?_eq_some_iff.mp hd
  refine ⟨front, c, p, d, rear ++ t, ?_, hcb, hdb, ?_⟩
  · rw [htext, Layout.stem_append hp, hfront, hrear]
    simp
  · rintro rfl
    rw [Layout.stem, hrear] at hflat
    simp at hflat

/-- The parentheses of a text are those around the list of its layout. -/
theorem JoinsWords.joins (h : JoinsWords text) (ht : GroupRun l.groups t)
    (hg : ∀ g ∈ l.groups, ∀ c ∈ g, isFlat c = true) : l.Joins := by
  obtain ⟨hopen, hclose⟩ := noParens_groupRun ht hg
  obtain ⟨hbopen, -⟩ := not_mem_of_noParens hshape.base
  obtain ⟨hmopen, hmclose⟩ := not_mem_of_noParens hshape.modifiers
  obtain ⟨front, c, inner, d, rear, hname, hc, hd, hbracket⟩ := h
  rw [htext] at hname
  cases hp : l.parameters? with
  | none =>
      have hmem : '(' ∈ l.stem ++ t := by
        rw [hname]
        simp
      rw [Layout.stem, Layout.listText, hp, hshape.unlisted hp] at hmem
      simp [hbopen, hopen] at hmem
  | some p =>
      have hpp := not_mem_of_noParens (hshape.parameters p hp)
      have hsplit : l.base ++ '(' :: (p ++ ')' :: (l.modifiers ++ t))
          = (front ++ [c]) ++ '(' :: (inner ++ ')' :: d :: rear) := by
        rw [← Layout.stem_append hp, hname]
        simp
      obtain ⟨hbase, -, hrest⟩ := (List.append_cons_inj_of_notMem hbopen
        (by simp [hpp, hmopen, hopen])).mp hsplit
      obtain ⟨-, -, hrear⟩ := (List.append_cons_inj_of_notMem hpp.2
        (by simp [hmclose, hclose])).mp hrest
      refine ⟨c, d, by rw [hbase]; simp, hc, ?_, hd⟩
      cases hm : l.modifiers with
      | nil =>
          -- then groups stand right behind the list
          rw [hm, List.nil_append] at hrear
          rcases head?_groupRun ht d (by rw [hrear]; rfl) with hblank | hopen
          · rw [hd] at hblank
            cases hblank
          · exact absurd hopen hbracket
      | cons e r =>
          rw [hm] at hrear
          cases hrear
          rfl

/-- **A text joins words exactly when its parts do**: there is one list in it. -/
theorem joinsWords_iff (hflat : noBrackets l.stem = true) (ht : GroupRun l.groups t)
    (hg : ∀ g ∈ l.groups, ∀ c ∈ g, isFlat c = true) : JoinsWords text ↔ l.Joins :=
  ⟨fun h => h.joins htext hshape ht hg, fun h => h.joinsWords htext hshape hflat⟩

end

/-! ## 4. The two readings -/

/-- The key of a layout: its base words, then its modifiers behind a space. -/
def Layout.keyText (l : Layout) : List Char :=
  if normalWords l.modifiers = [] then normalWords l.base
  else normalWords l.base ++ ' ' :: normalWords l.modifiers

/-- The key of the parts that a layout is read as. -/
theorem Layout.key_eq (l : Layout) (name : String) (arguments : List String) (dimensions : Nat) :
    key ⟨name, String.ofList (normalWords l.base), arguments,
      String.ofList (normalWords l.modifiers), dimensions⟩ = String.ofList l.keyText := by
  unfold key Layout.keyText
  simp only [String.ofList_eq_empty_iff]
  split
  · rfl
  · simp [String.append_assoc]

theorem Layout.IsName.words_ne_nil {l : Layout} (h : l.IsName) : words l.base ≠ [] := by
  intro hnil
  apply h.nonempty
  rw [normalWords, hnil]
  rfl

/-- Where the sides are joined, the words at the seam are one. -/
theorem Layout.IsName.joined {l : Layout} (h : l.IsName) (hj : l.Joins) :
    normalWords (l.base ++ l.modifiers) = normalWords l.base ++ normalWords l.modifiers
      ∧ normalWords l.modifiers ≠ [] := by
  obtain ⟨c, d, hc, hcb, hd, hdb⟩ := hj
  constructor
  · exact normalWords_append_of_solid h.base h.modifiers hc hcb hd hdb
  · exact normalWords_ne_nil (List.mem_of_mem_head? hd) hdb

/-- Everywhere else the words of the two sides stay apart. -/
theorem Layout.IsName.apart {l : Layout} (h : l.IsName) (hj : ¬ l.Joins) :
    normalWords (l.base ++ l.modifiers) = l.keyText := by
  unfold Layout.keyText
  by_cases hb : IsBlanks l.modifiers
  · rw [normalWords, Text.words_append_blanks _ hb, if_pos (normalWords_of_isBlanks hb)]
    rfl
  · obtain ⟨d, hd, hdb⟩ : ∃ d ∈ l.modifiers, isBlank d = false := by
      simpa [IsBlanks] using hb
    obtain ⟨c, hc⟩ : ∃ c, l.base.getLast? = some c := by
      cases hlast : l.base.getLast? with
      | some c => exact ⟨c, rfl⟩
      | none =>
          have hnil := h.words_ne_nil
          rw [List.getLast?_eq_none_iff.mp hlast] at hnil
          exact absurd rfl hnil
    have hseam : (∃ c ∈ l.base.getLast?, isBlank c = true)
        ∨ ∃ c ∈ l.modifiers.head?, isBlank c = true := by
      by_contra hnone
      simp only [not_or, not_exists, not_and, Bool.not_eq_true] at hnone
      obtain ⟨e, r, hm⟩ := List.exists_cons_of_ne_nil (List.ne_nil_of_mem hd)
      have he : e ∈ l.modifiers.head? := by rw [hm]; rfl
      exact hj ⟨c, e, hc, hnone.1 c hc, he, hnone.2 e he⟩
    rw [if_neg (normalWords_ne_nil hd hdb)]
    exact normalWords_append_of_blank h.base h.modifiers h.words_ne_nil
      (Text.words_ne_nil hd hdb) hseam

/-- **A text that is taken apart names a type, and its base name is the key of
the parts, unless the list is all that keeps two words apart.** Then the base
name has one word where the key has two. -/
theorem baseName_of_read {text : List Char} {n : SqlName} (h : read text = some n) :
    ∃ t, SqlType.ofName text = .ok t
      ∧ (¬ JoinsWords text → t.baseName = n.key)
      ∧ (JoinsWords text → t.baseName = n.base ++ n.modifiers
          ∧ n.key = n.base ++ " " ++ n.modifiers) := by
  obtain ⟨l, hof, hname⟩ := Option.bind_eq_some_iff.mp h
  obtain ⟨⟨g, htext, hrun⟩, hshape, hflat, -⟩ := Layout.of_eq_some hof
  obtain ⟨hl, arguments, -, rfl⟩ := ofLayout?_eq_some_iff.mp hname
  have hg : ∀ content ∈ l.groups, ∀ c ∈ content, isFlat c = true :=
    fun content hmem => isFlat_of_isGroupSize (List.all_eq_true.mp hl.groups content hmem)
  have hbase : baseName (trim text) = normalWords (l.base ++ l.modifiers) := by
    rw [htext, baseName_layout hshape hflat hrun hg]
  have hne : baseName (trim text) ≠ [] := by
    rw [hbase]
    by_cases hj : l.Joins
    · rw [(hl.joined hj).1]
      simp [hl.nonempty]
    · rw [hl.apart hj, Layout.keyText]
      split <;> simp [hl.nonempty]
  refine ⟨_, SqlType.ofName_eq_ok hne, ?_⟩
  rw [joinsWords_iff htext hshape hflat hrun hg, SqlType.plain, String.toList_ofList, hbase]
  constructor
  · intro hj
    rw [hl.apart hj, Layout.key_eq]
  · intro hj
    obtain ⟨hjoin, hm⟩ := hl.joined hj
    rw [hjoin]
    simp [key, hm]

/-- The words of a time stamp stand apart behind its list, and it has one base
name. -/
theorem baseName_of_read_zonedTimestamp :
    ∃ n t, read "TIMESTAMP(3)   WITH TIME ZONE".toList = some n
      ∧ SqlType.ofName "TIMESTAMP(3)   WITH TIME ZONE".toList = .ok t
      ∧ n.key = "timestamp with time zone" ∧ t.baseName = n.key := by
  have hread : read "TIMESTAMP(3)   WITH TIME ZONE".toList
      = some ⟨"TIMESTAMP(3)   WITH TIME ZONE", "timestamp", ["3"], "with time zone", 0⟩ := by
    decide +kernel
  obtain ⟨t, ht, hagree, -⟩ := baseName_of_read hread
  refine ⟨_, t, hread, ht, by decide, hagree ?_⟩
  rw [joinsWords_iff (l := ⟨"TIMESTAMP".toList, some ['3'], "   WITH TIME ZONE".toList, []⟩)
    (t := []) (by decide +kernel) ⟨by decide, by decide, by decide, by decide⟩ (by decide) .nil
    (by decide)]
  rintro ⟨c, d, -, -, hd, hdb⟩
  cases hd
  exact absurd hdb (by decide)

/-- In `int(10)unsigned` only the list keeps the two words apart, and the two
readings differ. -/
theorem baseName_ne_key_intUnsigned :
    ∃ n t, read "int(10)unsigned".toList = some n
      ∧ SqlType.ofName "int(10)unsigned".toList = .ok t
      ∧ n.key = "int unsigned" ∧ t.baseName = "intunsigned" ∧ t.baseName ≠ n.key :=
  ⟨⟨"int(10)unsigned", "int", ["10"], "unsigned", 0⟩, SqlType.plain "int(10)unsigned",
    by decide +kernel, by decide +kernel, by decide, by decide +kernel, by decide +kernel⟩

end SqlName

end SqlAtlas
