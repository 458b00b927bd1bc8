/-
SqlAtlas.Proofs.SqlName.Listed — names without bracket groups, with a parameter
list and without one.

`read_words` and `read_listed` read such a name from its words. Blanks around it
need no care: they are trimmed off the name and are in none of its words. Which
lists are read does not depend on the words around them (`IsParameters`), so a
list that is read behind one base is read behind every other, and with any words
behind it (`parameters_of_read` is the way back).

Both kinds of names have the same key when they have the same words: the
modifiers behind a list are words behind a base (`words_key`).
-/
import SqlAtlas.Proofs.SqlName.Format

namespace SqlAtlas.SqlName

open Text (IsBlanks isAscii isBlank isFlat isFlat_iff lowerCase pieces trim trimEnd trimStart
  unwords words)

/-! ## 1. Words of a name -/

/-- Words of a name are flat: the small letter of an opener or a closer is that
character itself. -/
theorem HasNameWords.isFlat {s : List Char} (h : HasNameWords s) :
    ∀ c ∈ s, isFlat c = true := by
  have hnone : ∀ c ∈ ['(', ')', '[', ']'],
      isAscii c = true ∧ isBlank c = false ∧ isNameChar c.toLower = false := by decide
  have hall : ∀ c ∈ ['(', ')', '[', ']'], c ∉ s := by
    intro c hc hmem
    obtain ⟨hascii, hblank, hname⟩ := hnone c hc
    rcases Text.mem_words hmem with hb | ⟨w, hw, hcw⟩
    · rw [hblank] at hb
      cases hb
    · rw [h w hw c.toLower (Text.toLower_mem_lowerFrom hascii [] hcw)] at hname
      cases hname
  intro c hc
  refine isFlat_iff.mpr ⟨?_, ?_, ?_, ?_⟩ <;> (rintro rfl; exact hall _ (by simp) hc)

theorem HasNameWords.congr {s t : List Char} (h : HasNameWords s) (hwords : words t = words s) :
    HasNameWords t := by
  intro w hw
  rw [hwords] at hw
  exact h w hw

/-- Small letters leave words of a name solid. -/
theorem HasNameWords.solid {s : List Char} (h : HasNameWords s) :
    ∀ w ∈ (words s).map lowerCase, w ≠ [] ∧ ∀ c ∈ w, isBlank c = false := by
  intro v hv
  obtain ⟨w, hw, rfl⟩ := List.mem_map.mp hv
  constructor
  · have hne := (List.mem_filter.mp hw).2
    exact Text.lowerCase_ne_nil (by simpa using hne)
  · exact fun c hc => Text.not_isBlank_of (p := isNameChar) (by decide) (h w hw c hc)

theorem words_lowerWords {s : List Char} (h : HasNameWords s) :
    words (lowerWords s) = (words s).map lowerCase := Text.words_unwords h.solid

/-- **The key of a name has the words of its base and of its modifiers**, in
small letters. -/
theorem words_key {n : SqlName} {s m : List Char} (hs : HasNameWords s) (hm : HasNameWords m)
    (hbase : n.base = String.ofList (lowerWords s))
    (hmodifiers : n.modifiers = String.ofList (lowerWords m)) :
    words n.key.toList = (words s).map lowerCase ++ (words m).map lowerCase := by
  rw [key]
  split
  · rename_i hnone
    have hnil : lowerWords m = [] := by
      rw [hmodifiers] at hnone
      simpa using hnone
    rw [hbase, String.toList_ofList, words_lowerWords hs, ← words_lowerWords hm, hnil,
      Text.words_nil, List.append_nil]
  · have htext : (n.base ++ " " ++ n.modifiers).toList = lowerWords s ++ ' ' :: lowerWords m := by
      simp [hbase, hmodifiers]
    rw [htext, Text.words_append_cons (by decide), words_lowerWords hs, words_lowerWords hm]

/-! ## 2. Names -/

theorem read_words {s : List Char} (hs : HasNameWords s) (hne : words s ≠ []) :
    read s = some ⟨String.ofList (trim s), String.ofList (lowerWords s), [], "", 0⟩ := by
  have hwords : words (trim s) = words s := words_trim s
  have hname : HasNameWords (trim s) := hs.congr hwords
  have hvalid : Format.Valid ⟨trim s, none, []⟩ :=
    ⟨hname.isFlat, by rwa [hwords], hname, by simp, by simp⟩
  rw [read_of_format hvalid (by simp [Format.text, Format.listText])]
  simp [Format.name, Format.text, Format.listText, Format.arguments, Format.modifiers, lowerWords,
    hwords, unwords]

/-- What is between the parentheses of a list. -/
structure IsParameters (inside : List Char) : Prop where
  flat : ∀ c ∈ inside, isFlat c = true
  part : ∃ q ∈ pieces (· = ',') inside, ¬ IsBlanks q

section

variable {s a : List Char}

theorem trim_listed (s a m : List Char) :
    trim (s ++ '(' :: a ++ ')' :: m) = trimStart s ++ '(' :: a ++ ')' :: trimEnd m := by
  have hopen : trimStart (s ++ '(' :: a) = trimStart s ++ '(' :: a :=
    Text.dropWhile_append_cons (by decide) s a
  rw [Text.trim_append_cons (by decide), hopen]

theorem read_listed (hs : HasNameWords s) (hne : words s ≠ []) (ha : IsParameters a)
    {m : List Char} (hm : HasNameWords m) :
    read (s ++ '(' :: a ++ ')' :: m)
      = some ⟨String.ofList (trim (s ++ '(' :: a ++ ')' :: m)), String.ofList (lowerWords s),
          (partsOf a).map String.ofList, String.ofList (lowerWords m), 0⟩ := by
  have hstart : words (trimStart s) = words s := words_congr (Text.trim_trimStart s)
  have hend : words (trimEnd m) = words m := words_congr (Text.trim_trimEnd m)
  have hname : HasNameWords (trimStart s) := hs.congr hstart
  have hlist : Format.ValidList a (trimEnd m) :=
    ⟨ha.flat, ha.part, isFlat_trimEnd hm.isFlat, hm.congr hend⟩
  have hvalid : Format.Valid ⟨trimStart s, some (a, trimEnd m), []⟩ := by
    refine ⟨hname.isFlat, by rwa [hstart], hname, ?_, by simp⟩
    rintro l ⟨⟩
    exact hlist
  have htext : Format.text ⟨trimStart s, some (a, trimEnd m), []⟩
      = trim (s ++ '(' :: a ++ ')' :: m) := by
    rw [trim_listed]
    simp [Format.text, Format.listText]
  rw [read_of_format hvalid htext, Format.name, htext]
  simp [Format.arguments, Format.modifiers, lowerWords, hstart, hend]

/-- **A list that is read has parameters**, and they are its arguments. -/
theorem parameters_of_read {n : SqlName} (h : read (s ++ '(' :: a ++ [')']) = some n) :
    IsParameters a ∧ n.arguments = (partsOf a).map String.ofList := by
  obtain ⟨l, hof, hname⟩ := Option.bind_eq_some_iff.mp h
  obtain ⟨⟨t, htext, hrun⟩, hshape, hflat, -⟩ := Layout.of_eq_some hof
  obtain ⟨hl, arguments, harguments, rfl⟩ := ofLayout?_eq_some_iff.mp hname
  have hg : ∀ g ∈ l.groups, ∀ c ∈ g, isFlat c = true :=
    fun g hmem => isFlat_of_isGroupSize (List.all_eq_true.mp hl.groups g hmem)
  obtain ⟨hopen, hclose⟩ := noParens_groupRun hrun hg
  obtain ⟨hbopen, -⟩ := not_mem_of_noParens hshape.base
  obtain ⟨hmopen, hmclose⟩ := not_mem_of_noParens hshape.modifiers
  rw [trim_listed] at htext
  cases hp : l.parameters? with
  | none =>
      -- then there would be no parenthesis in the text
      have hmem : '(' ∈ l.stem ++ t := by
        rw [← htext]
        simp
      rw [Layout.stem, Layout.listText, hp, hshape.unlisted hp] at hmem
      simp [hbopen, hopen] at hmem
  | some p =>
      have hpp := not_mem_of_noParens (hshape.parameters p hp)
      have hsplit : l.base ++ '(' :: (p ++ ')' :: (l.modifiers ++ t))
          = trimStart s ++ '(' :: (a ++ ')' :: []) := by
        rw [← Layout.stem_append hp, ← htext]
        simp [trimEnd]
      obtain ⟨-, -, hrest⟩ := (List.append_cons_inj_of_notMem hbopen
        (by simp [hpp, hmopen, hopen])).mp hsplit
      obtain ⟨rfl, -, -⟩ := (List.append_cons_inj_of_notMem hpp.2
        (by simp [hmclose, hclose])).mp hrest
      have hpflat := (hshape.isFlat_parts hflat).2.1 p hp
      rw [hp] at harguments
      obtain ⟨hne, rfl⟩ := (readArguments_flat hpflat).mp harguments
      exact ⟨⟨hpflat, partsOf_ne_nil_iff.mp hne⟩, rfl⟩

end

end SqlAtlas.SqlName
