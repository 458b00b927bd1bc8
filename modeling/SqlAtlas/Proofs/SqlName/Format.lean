/-
SqlAtlas.Proofs.SqlName.Format — the format of SQL type names.

A `Format` is a name written down by its parts: words, perhaps a parameter list
with more words behind it, and bracket groups.

    INT(10) Unsigned  [ 3 ] []
    base list modifiers groups

`read` works on the text from both its ends and rejects what does not fit.
`read_iff_format` says what is left: a text is read if and only if, trimmed, it
is the text of a valid format, and the parts that are returned are those of the
format. Nothing but blanks can be told apart in two formats of one text, because
both of them have the layout of the text (`Format.Valid.layout_eq`).
-/
import SqlAtlas.Proofs.SqlName.BaseName

namespace SqlAtlas

open Text (IsBlanks isBlank isFlat isFlat_iff lowerCase pieces trim trimEnd unwords words)

namespace SqlName

/-! ## 1. The format -/

/-- A bracket group: digits between brackets, with blanks around the digits and
around the brackets. -/
structure BracketGroup where
  before : List Char
  opening : List Char
  digits : List Char
  closing : List Char
  behind : List Char

namespace BracketGroup

/-- What stands between the brackets. -/
def content (g : BracketGroup) : List Char := g.opening ++ g.digits ++ g.closing

def text (g : BracketGroup) : List Char := g.before ++ '[' :: g.content ++ ']' :: g.behind

structure Valid (g : BracketGroup) : Prop where
  before : IsBlanks g.before
  opening : IsBlanks g.opening
  digits : ∀ c ∈ g.digits, c.isDigit = true
  closing : IsBlanks g.closing
  behind : IsBlanks g.behind

end BracketGroup

/-- The words of a text, each in small letters, with one space between
neighbours. -/
def lowerWords (s : List Char) : List Char := unwords ((words s).map lowerCase)

/-- ASCII letters and digits, underscores and dots. -/
def isNameChar (c : Char) : Bool := c.isAlphanum || c = '_' || c = '.'

/-- Whether the words of a text, in small letters, consist of name characters. -/
def HasNameWords (s : List Char) : Prop := ∀ w ∈ words s, ∀ c ∈ lowerCase w, isNameChar c = true

instance (s : List Char) : Decidable (HasNameWords s) :=
  inferInstanceAs (Decidable (∀ w ∈ words s, ∀ c ∈ lowerCase w, isNameChar c = true))

/-- The parts of a parameter list that are not blank, trimmed. -/
def partsOf (inside : List Char) : List (List Char) :=
  ((pieces (· = ',') inside).filter (fun q => ¬ IsBlanks q)).map trim

/-- A name written down by its parts. A list holds the parameters and the
modifiers behind them. -/
structure Format where
  base : List Char
  list? : Option (List Char × List Char)
  groups : List BracketGroup

namespace Format

/-- The list with its parentheses and what stands behind it. -/
def listText (f : Format) : List Char :=
  match f.list? with
  | none => []
  | some (parameters, modifiers) => '(' :: parameters ++ ')' :: modifiers

def text (f : Format) : List Char := f.base ++ f.listText ++ f.groups.flatMap BracketGroup.text

def modifiers (f : Format) : List Char := (f.list?.map Prod.snd).getD []

def arguments (f : Format) : List (List Char) :=
  match f.list? with
  | none => []
  | some (parameters, _) => partsOf parameters

/-- A parameter list is flat on both sides of its closing parenthesis, and one of
its parts is not blank. -/
structure ValidList (inside behind : List Char) : Prop where
  parameters : ∀ c ∈ inside, isFlat c = true
  part : ∃ q ∈ pieces (· = ',') inside, ¬ IsBlanks q
  modifiers : ∀ c ∈ behind, isFlat c = true
  words : HasNameWords behind

/-- What makes a format one of a name. -/
structure Valid (f : Format) : Prop where
  base : ∀ c ∈ f.base, isFlat c = true
  words_ne_nil : words f.base ≠ []
  words : HasNameWords f.base
  list : ∀ l ∈ f.list?, ValidList l.1 l.2
  groups : ∀ g ∈ f.groups, g.Valid

/-- The parts of the name. -/
def name (f : Format) : SqlName where
  name := String.ofList f.text
  base := String.ofList (lowerWords f.base)
  arguments := f.arguments.map String.ofList
  modifiers := String.ofList (lowerWords f.modifiers)
  dimensions := f.groups.length

/-- Two formats with the same parameters, and with the same words and groups but
for the blanks around them. -/
structure SameUpToBlanks (f f' : Format) : Prop where
  base : trim f.base = trim f'.base
  parameters : f.list?.map Prod.fst = f'.list?.map Prod.fst
  modifiers : trim f.modifiers = trim f'.modifiers
  groups : f.groups.map BracketGroup.digits = f'.groups.map BracketGroup.digits

end Format

/-! ## 2. Words -/

theorem isPlain_of_isNameChar {s : List Char} (h : ∀ c ∈ s, isNameChar c = true) :
    isPlain s = true := by
  refine List.all_eq_true.mpr (fun c hc => ?_)
  have hname := h c hc
  simp only [isNameChar, Bool.or_eq_true] at hname ⊢
  tauto

theorem isNameChar_of_isPlain {s : List Char} (h : isPlain s = true) (hspace : ' ' ∉ s) :
    ∀ c ∈ s, isNameChar c = true := by
  intro c hc
  have hplain := List.all_eq_true.mp h c hc
  have hne : c ≠ ' ' := by
    rintro rfl
    exact hspace hc
  simpa [isNameChar, hne] using hplain

theorem space_not_mem_of_mem_words {s w : List Char} (h : w ∈ words s) : ' ' ∉ w :=
  fun hmem => absurd (Text.not_isBlank_of_mem_words h _ hmem) (by decide)

/-- Words of which a sigma is left are no words of a name. -/
theorem HasNameWords.sigma_not_mem {s : List Char} (h : HasNameWords s) :
    ∀ w ∈ words s, 'Σ' ∉ w :=
  fun w hw => sigma_not_mem_of_isPlain (isPlain_of_isNameChar (h w hw))

theorem HasNameWords.normalWords_eq {s : List Char} (h : HasNameWords s) :
    normalWords s = lowerWords s := by
  rw [normalWords, lowerWords, Text.lowerCase_unwords h.sigma_not_mem]

/-- **Normal words are plain if and only if each of them, in small letters,
consists of name characters.** -/
theorem isPlain_normalWords_iff {s : List Char} :
    isPlain (normalWords s) = true ↔ HasNameWords s := by
  constructor
  · intro h w hw
    have hsigma : ∀ v ∈ words s, 'Σ' ∉ v := by
      intro v hv hmem
      exact sigma_not_mem_of_isPlain h (Text.mem_unwords hmem hv)
    rw [normalWords, Text.lowerCase_unwords hsigma] at h
    have hplain : isPlain (lowerCase w) = true := by
      refine List.all_eq_true.mpr (fun c hc => List.all_eq_true.mp h c ?_)
      exact Text.mem_unwords hc (List.mem_map_of_mem hw)
    exact isNameChar_of_isPlain hplain
      (Text.space_not_mem_lowerCase (hsigma w hw) (space_not_mem_of_mem_words hw))
  · intro h
    rw [h.normalWords_eq, lowerWords]
    refine isPlain_unwords (fun v hv => ?_)
    obtain ⟨w, hw, rfl⟩ := List.mem_map.mp hv
    exact isPlain_of_isNameChar (h w hw)

theorem normalWords_ne_nil_iff {s : List Char} : normalWords s ≠ [] ↔ words s ≠ [] := by
  constructor
  · intro h hnil
    rw [normalWords, hnil] at h
    exact h rfl
  · intro h
    rw [Ne, Text.words_eq_nil_iff] at h
    push Not at h
    obtain ⟨c, hc, hb⟩ := h
    exact normalWords_ne_nil hc (by simpa using hb)

/-! ## 3. Groups -/

theorem BracketGroup.Valid.trim_content {g : BracketGroup} (h : g.Valid) :
    trim g.content = g.digits := by
  rw [BracketGroup.content, List.append_assoc, Text.trim_blanks_append h.opening,
    Text.trim_append_blanks _ h.closing, Text.trim_eq_self_of_forall]
  exact fun c hc => Text.not_isBlank_of (by decide) (h.digits c hc)

theorem BracketGroup.Valid.isGroupSize {g : BracketGroup} (h : g.Valid) :
    isGroupSize g.content = true := by
  rw [SqlName.isGroupSize, h.trim_content]
  exact List.all_eq_true.mpr h.digits

/-- Groups behind a run of groups go on with it. -/
theorem GroupRun.append_groups {gs : List (List Char)} {t : List Char} (h : GroupRun gs t) :
    ∀ {groups : List BracketGroup}, (∀ g ∈ groups, g.Valid) →
      GroupRun (gs ++ groups.map BracketGroup.content) (t ++ groups.flatMap BracketGroup.text)
  | [], _ => by simpa using h
  | g :: groups, hall => by
      obtain ⟨hg, hgroups⟩ := List.forall_mem_cons.mp hall
      have hopen : '[' ∉ g.content := fun hmem =>
        absurd (isFlat_of_isGroupSize hg.isGroupSize _ hmem) (by decide)
      have hnext := ((h.append_blanks hg.before).group hopen).append_blanks hg.behind
      have hrun := hnext.append_groups hgroups
      simpa [BracketGroup.text] using hrun

/-- A run of groups with sizes, up to the blanks behind it. -/
theorem GroupRun.exists_groups {gs : List (List Char)} {t : List Char} (h : GroupRun gs t)
    (hsizes : ∀ g ∈ gs, isGroupSize g = true) :
    ∃ (groups : List BracketGroup) (e : List Char), (∀ g ∈ groups, g.Valid)
      ∧ groups.map BracketGroup.content = gs ∧ t = groups.flatMap BracketGroup.text ++ e
      ∧ IsBlanks e := by
  induction h with
  | nil => exact ⟨[], [], List.forall_mem_nil _, rfl, rfl, Text.isBlanks_nil⟩
  | @blank gs t c _ hc ih =>
      obtain ⟨groups, e, hvalid, hgs, rfl, he⟩ := ih hsizes
      refine ⟨groups, e ++ [c], hvalid, hgs, List.append_assoc _ _ _, he.append ?_⟩
      simpa [IsBlanks] using hc
  | @group gs t content _ _ ih =>
      obtain ⟨hrest, hsize⟩ := List.forall_mem_append.mp hsizes
      obtain ⟨groups, e, hvalid, hgs, rfl, he⟩ := ih hrest
      obtain ⟨b, d, hcontent, hb, hd⟩ := Text.exists_trim content
      -- the blanks behind the groups so far stand before the new one
      let g : BracketGroup := ⟨e, b, trim content, d, []⟩
      have hg : g.Valid := ⟨he, hb, List.all_eq_true.mp (hsize _ (by simp)), hd, Text.isBlanks_nil⟩
      have htext : g.content = content := hcontent.symm
      refine ⟨groups ++ [g], [], ?_, by simp [hgs, htext], ?_, Text.isBlanks_nil⟩
      · exact List.forall_mem_append.mpr ⟨hvalid, by simpa using hg⟩
      · simp [BracketGroup.text, htext, g]

/-! ## 4. Parameters -/

theorem splitOutside_flat {inside : List Char} (h : ∀ c ∈ inside, isFlat c = true) :
    Text.splitOutside [','] inside = partsOf inside := by
  have hcomma : (fun c => [','].contains c) = (fun c : Char => decide (c = ',')) := by
    funext c
    simp
  rw [Text.splitOutside_eq, Text.cut_eq_pieces h, hcomma, partsOf]

theorem partsOf_ne_nil_iff {inside : List Char} :
    partsOf inside ≠ [] ↔ ∃ q ∈ pieces (· = ',') inside, ¬ IsBlanks q := by
  simp [partsOf]

/-- The parts of a flat list are its arguments, and it needs one. -/
theorem readArguments_flat {inside : List Char} (h : ∀ c ∈ inside, isFlat c = true)
    {arguments : List String} :
    readArguments (some inside) = some arguments ↔
      partsOf inside ≠ [] ∧ arguments = (partsOf inside).map String.ofList := by
  rw [readArguments, splitOutside_flat h]
  cases partsOf inside with
  | nil => simp
  | cons q qs => simp [eq_comm]

/-! ## 5. Formats and layouts -/

namespace Format

/-- The layout of the text of a format: without the blanks that the reader of the
groups takes off with them. -/
def layout (f : Format) : Layout :=
  match f.list? with
  | none => ⟨trimEnd f.base, none, [], f.groups.map BracketGroup.content⟩
  | some (parameters, modifiers) =>
    ⟨f.base, some parameters, trimEnd modifiers, f.groups.map BracketGroup.content⟩

end Format

theorem noParens_of_isFlat {s : List Char} (h : ∀ c ∈ s, isFlat c = true) : noParens s = true := by
  refine List.all_eq_true.mpr (fun c hc => ?_)
  obtain ⟨hopen, hclose, -, -⟩ := isFlat_iff.mp (h c hc)
  simp [hopen, hclose]

theorem noBrackets_of_isFlat {s : List Char} (h : ∀ c ∈ s, isFlat c = true) :
    noBrackets s = true := by
  refine List.all_eq_true.mpr (fun c hc => ?_)
  obtain ⟨-, -, hopen, hclose⟩ := isFlat_iff.mp (h c hc)
  simp [hopen, hclose]

theorem isFlat_trimEnd {s : List Char} (h : ∀ c ∈ s, isFlat c = true) :
    ∀ c ∈ trimEnd s, isFlat c = true := by
  obtain ⟨e, hs, -⟩ := Text.exists_trimEnd s
  intro c hc
  refine h c ?_
  rw [hs]
  exact List.mem_append_left e hc

namespace Format

variable {f : Format}

theorem layout_groups (f : Format) :
    f.layout.groups = f.groups.map BracketGroup.content := by
  rw [layout]
  split <;> rfl

theorem layout_parameters? (f : Format) : f.layout.parameters? = f.list?.map Prod.fst := by
  rw [layout]
  split <;> (rename_i hlist; rw [hlist]; rfl)

theorem trim_layout_base (f : Format) : trim f.layout.base = trim f.base := by
  rw [layout]
  split
  · exact Text.trim_trimEnd f.base
  · rfl

theorem trim_layout_modifiers (f : Format) : trim f.layout.modifiers = trim f.modifiers := by
  rw [layout, modifiers]
  split
  · rename_i hlist
    rw [hlist]
    rfl
  · rename_i hlist
    rw [hlist]
    exact Text.trim_trimEnd _

/-- The text of a format is the stem of its layout, blanks, and its groups. -/
theorem exists_stem (f : Format) :
    ∃ e, f.text = f.layout.stem ++ (e ++ f.groups.flatMap BracketGroup.text) ∧ IsBlanks e := by
  obtain ⟨base, list?, groups⟩ := f
  cases list? with
  | none =>
      obtain ⟨e, hbase, he⟩ := Text.exists_trimEnd base
      refine ⟨e, ?_, he⟩
      simp only [text, listText, layout, Layout.stem, Layout.listText, List.append_nil]
      rw [← List.append_assoc, ← hbase]
  | some list =>
      obtain ⟨parameters, modifiers⟩ := list
      obtain ⟨e, hmodifiers, he⟩ := Text.exists_trimEnd modifiers
      refine ⟨e, ?_, he⟩
      simp only [text, listText, layout, Layout.stem, Layout.listText]
      conv => lhs; rw [hmodifiers]
      simp

namespace Valid

variable (h : f.Valid)

include h

theorem noBrackets_stem : noBrackets f.layout.stem = true := by
  obtain ⟨base, list?, groups⟩ := f
  cases list? with
  | none =>
      have hbase := noBrackets_of_isFlat (isFlat_trimEnd h.base)
      simpa [layout, Layout.stem, Layout.listText] using hbase
  | some list =>
      have hlist := h.list _ rfl
      have hbase := noBrackets_of_isFlat h.base
      have hparameters := noBrackets_of_isFlat hlist.parameters
      have hmodifiers := noBrackets_of_isFlat (isFlat_trimEnd hlist.modifiers)
      simp [layout, Layout.stem, Layout.listText, hbase, hparameters, hmodifiers]

theorem getLast?_stem : ∀ c ∈ f.layout.stem.getLast?, isBlank c = false := by
  obtain ⟨base, list?, groups⟩ := f
  intro c hc
  cases list? with
  | none =>
      simp only [layout, Layout.stem, Layout.listText, List.append_nil] at hc
      exact Text.getLast?_trimEnd hc
  | some list =>
      simp only [layout, Layout.stem, Layout.listText] at hc
      rw [List.getLast?_append] at hc
      cases hlast : (trimEnd list.2).getLast? with
      | none =>
          -- the list is closed last
          rw [hlast, Option.none_or, ← List.append_assoc, List.getLast?_concat] at hc
          cases hc
          decide
      | some d =>
          rw [hlast] at hc
          cases hc
          exact Text.getLast?_trimEnd hlast

theorem wellShaped : f.layout.WellShaped := by
  obtain ⟨base, list?, groups⟩ := f
  cases list? with
  | none => exact ⟨noParens_of_isFlat (isFlat_trimEnd h.base), by simp [layout], rfl, fun _ => rfl⟩
  | some list =>
      have hlist := h.list _ rfl
      refine ⟨noParens_of_isFlat h.base, ?_,
        noParens_of_isFlat (isFlat_trimEnd hlist.modifiers), fun hnone => by cases hnone⟩
      rintro p hp
      cases hp
      exact noParens_of_isFlat hlist.parameters

/-- **The text of a format has the layout of the format.** -/
theorem layout_eq : Layout.of f.text = some f.layout := by
  obtain ⟨e, htext, he⟩ := f.exists_stem
  have hrun := (GroupRun.nil.append_blanks he).append_groups h.groups
  rw [List.nil_append, List.nil_append, ← layout_groups] at hrun
  rw [htext]
  exact Layout.of_stem h.wellShaped h.noBrackets_stem h.getLast?_stem hrun

end Valid

end Format

/-! ## 6. Names -/

theorem words_trim (s : List Char) : words (trim s) = words s := by
  obtain ⟨b, e, hs, hb, he⟩ := Text.exists_trim s
  have hwords := Text.words_append_blanks (b ++ trim s) he
  rwa [← hs, Text.words_blanks_append hb, eq_comm] at hwords

/-- Words do not depend on the blanks around a text. -/
theorem words_congr {s t : List Char} (h : trim s = trim t) : words s = words t := by
  rw [← words_trim s, ← words_trim t, h]

namespace Format.Valid

variable {f : Format} (h : f.Valid)

include h

theorem hasNameWords_modifiers : HasNameWords f.modifiers := by
  obtain ⟨base, list?, groups⟩ := f
  cases list? with
  | none => exact List.forall_mem_nil _
  | some list => exact (h.list _ rfl).words

theorem readArguments_layout :
    readArguments f.layout.parameters? = some (f.arguments.map String.ofList) := by
  rw [layout_parameters?, arguments]
  split
  · rename_i hlist
    rw [hlist]
    rfl
  · rename_i parameters modifiers hlist
    have hvalid := h.list _ hlist
    rw [hlist, Option.map_some]
    exact (readArguments_flat hvalid.parameters).mpr ⟨partsOf_ne_nil_iff.mpr hvalid.part, rfl⟩

theorem normalWords_base : normalWords f.layout.base = lowerWords f.base := by
  rw [normalWords, words_congr f.trim_layout_base, ← normalWords, h.words.normalWords_eq]

theorem normalWords_modifiers : normalWords f.layout.modifiers = lowerWords f.modifiers := by
  rw [normalWords, words_congr f.trim_layout_modifiers, ← normalWords,
    h.hasNameWords_modifiers.normalWords_eq]

theorem isName : f.layout.IsName where
  groups := by
    rw [layout_groups, List.all_map, List.all_eq_true]
    exact fun g hg => (h.groups g hg).isGroupSize
  nonempty := by
    rw [normalWords_ne_nil_iff, words_congr f.trim_layout_base]
    exact h.words_ne_nil
  base := by
    rw [h.normalWords_base, ← h.words.normalWords_eq]
    exact isPlain_normalWords_iff.mpr h.words
  modifiers := by
    rw [h.normalWords_modifiers, ← h.hasNameWords_modifiers.normalWords_eq]
    exact isPlain_normalWords_iff.mpr h.hasNameWords_modifiers

/-- The parts of its layout are those of the format. -/
theorem ofLayout?_eq : ofLayout? f.text f.layout = some f.name := by
  refine ofLayout?_eq_some_iff.mpr ⟨h.isName, _, h.readArguments_layout, ?_⟩
  rw [h.normalWords_base, h.normalWords_modifiers, layout_groups, List.length_map]
  rfl

end Format.Valid

/-- **A text that is read is the text of a format.** -/
theorem exists_format {text : List Char} {n : SqlName} (h : read text = some n) :
    ∃ f : Format, f.Valid ∧ f.text = trim text := by
  obtain ⟨l, hof, hl⟩ := Option.bind_eq_some_iff.mp h
  obtain ⟨⟨t, hname, hrun⟩, hshape, hflat, -⟩ := Layout.of_eq_some hof
  obtain ⟨hisName, arguments, harguments, -⟩ := ofLayout?_eq_some_iff.mp hl
  obtain ⟨groups, e, hvalid, hgs, rfl, he⟩ :=
    hrun.exists_groups (List.all_eq_true.mp hisName.groups)
  have hend : e = [] := by
    refine Text.eq_nil_of_getLast? he (s := l.stem ++ groups.flatMap BracketGroup.text) ?_
    rw [List.append_assoc, ← hname]
    exact fun _ => Text.getLast?_trim
  obtain ⟨hbase, hparameters, hmodifiers⟩ := hshape.isFlat_parts hflat
  refine ⟨⟨l.base, l.parameters?.map (fun p => (p, l.modifiers)), groups⟩, ?_, ?_⟩
  · refine ⟨hbase, normalWords_ne_nil_iff.mp hisName.nonempty,
      isPlain_normalWords_iff.mp hisName.base, ?_, hvalid⟩
    intro pair hlisted
    obtain ⟨p, hp, rfl⟩ := Option.map_eq_some_iff.mp hlisted
    rw [hp] at harguments
    obtain ⟨hne, -⟩ := (readArguments_flat (hparameters p hp)).mp harguments
    exact ⟨hparameters p hp, partsOf_ne_nil_iff.mp hne, hmodifiers,
      isPlain_normalWords_iff.mp hisName.modifiers⟩
  · rw [hname, hend, List.append_nil, Format.text, Format.listText, Layout.stem, Layout.listText]
    cases hp : l.parameters? with
    | none => simp [hshape.unlisted hp]
    | some p => simp

theorem read_of_format {text : List Char} {f : Format} (h : f.Valid) (htext : f.text = trim text) :
    read text = some f.name := by
  rw [read, ← htext, h.layout_eq, Option.bind_some, h.ofLayout?_eq]

/-- Two formats of one text differ in blanks only. -/
theorem Format.Valid.sameUpToBlanks {f f' : Format} (h : f.Valid) (h' : f'.Valid)
    (htext : f.text = f'.text) : f.SameUpToBlanks f' := by
  have hlayout : f.layout = f'.layout := by
    have heq := h.layout_eq
    rw [htext, h'.layout_eq] at heq
    exact (Option.some.inj heq).symm
  have hdigits : ∀ {k : Format}, k.Valid →
      k.groups.map BracketGroup.digits = k.layout.groups.map trim := by
    intro k hk
    rw [Format.layout_groups, List.map_map]
    exact List.map_congr_left (fun g hg => (hk.groups g hg).trim_content.symm)
  constructor
  · rw [← trim_layout_base, ← trim_layout_base, hlayout]
  · rw [← layout_parameters?, ← layout_parameters?, hlayout]
  · rw [← trim_layout_modifiers, ← trim_layout_modifiers, hlayout]
  · rw [hdigits h, hdigits h', hlayout]

/-- **Reading accepts the texts of valid formats and no other**, and returns the
parts of the format. The format of a text is unique but for blanks. -/
theorem read_iff_format (text : List Char) :
    (∀ n, read text = some n ↔ ∃ f : Format, f.Valid ∧ f.text = trim text ∧ n = f.name)
      ∧ ∀ f f' : Format, f.Valid → f.text = trim text → f'.Valid → f'.text = trim text →
          f.SameUpToBlanks f' := by
  refine ⟨fun n => ⟨fun h => ?_, ?_⟩, ?_⟩
  · obtain ⟨f, hf, htext⟩ := exists_format h
    refine ⟨f, hf, htext, ?_⟩
    rw [read_of_format hf htext] at h
    exact (Option.some.inj h).symm
  · rintro ⟨f, hf, htext, rfl⟩
    exact read_of_format hf htext
  · intro f f' hf htext hf' htext'
    exact hf.sameUpToBlanks hf' (htext.trans htext'.symm)

theorem read_iff_format_intUnsigned :
    read " INT(10) Unsigned[ 3 ]\t".toList
        = some ⟨"INT(10) Unsigned[ 3 ]", "int", ["10"], "unsigned", 1⟩
      ∧ Format.SameUpToBlanks ⟨"int ".toList, none, [⟨[], [], [], [], []⟩]⟩
          ⟨"int".toList, none, [⟨[' '], [], [], [], []⟩]⟩ := by
  constructor
  · have hlist : Format.ValidList "10".toList " Unsigned".toList :=
      ⟨by decide, by decide, by decide, by decide +kernel⟩
    have hsize : BracketGroup.Valid ⟨[], [' '], ['3'], [' '], []⟩ :=
      ⟨by decide, by decide, by decide, by decide, by decide⟩
    let f : Format := ⟨"INT".toList, some ("10".toList, " Unsigned".toList),
      [⟨[], [' '], ['3'], [' '], []⟩]⟩
    have hf : f.Valid :=
      ⟨by decide, by decide, by decide +kernel, by rintro _ ⟨⟩; exact hlist, by simpa [f] using hsize⟩
    exact ((read_iff_format _).1 _).mpr ⟨f, hf, by decide, by decide +kernel⟩
  · have hnone : BracketGroup.Valid ⟨[], [], [], [], []⟩ :=
      ⟨by decide, by decide, by decide, by decide, by decide⟩
    have hspace : BracketGroup.Valid ⟨[' '], [], [], [], []⟩ :=
      ⟨by decide, by decide, by decide, by decide, by decide⟩
    exact (read_iff_format "int []".toList).2 _ _
      ⟨by decide, by decide, by decide +kernel, by simp, by simpa using hnone⟩ (by decide)
      ⟨by decide, by decide, by decide +kernel, by simp, by simpa using hspace⟩ (by decide)

end SqlName

end SqlAtlas
