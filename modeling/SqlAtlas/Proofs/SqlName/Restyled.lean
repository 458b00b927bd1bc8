/-
SqlAtlas.Proofs.SqlName.Restyled — a name is read alike in any style.

The format of a name is carried over to every text with the same tokens, part by
part: each mark of the one text has its counterpart in the other
(`Format.exists_of_tokens`), and a part keeps what makes it valid, since that can
be told from its tokens (`Format.Valid.of_sameTokens`). So both texts are names or
neither is, with the same words and dimensions, and with arguments that have the
same tokens (`read_of_tokens`).
-/
import Mathlib.Data.List.Forall2
import SqlAtlas.Proofs.SqlName.Format
import SqlAtlas.Proofs.SqlName.Token

namespace SqlAtlas.SqlName

open Text (IsBlanks isBlank isFlat isFlat_iff lowerAscii lowerCase pieces readDigits
  sameIgnoringCase trim unwords words)

/-! ## 1. What tokens tell -/

section

variable {s t : List Char} (h : tokens s = tokens t)

include h

theorem unmarked_of_tokens (hs : ∀ c ∈ s, isMark c = false) : ∀ c ∈ t, isMark c = false := by
  intro c hc
  by_contra hmark
  rw [Bool.not_eq_false] at hmark
  rw [hs c ((mark_mem_iff_of_tokens h hmark).mpr hc)] at hmark
  cases hmark

theorem isFlat_of_tokens (hs : ∀ c ∈ s, isFlat c = true) : ∀ c ∈ t, isFlat c = true := by
  intro c hc
  refine isFlat_iff.mpr ⟨?_, ?_, ?_, ?_⟩ <;>
    (rintro rfl
     exact absurd (hs _ ((mark_mem_iff_of_tokens h (by decide)).mpr hc)) (by decide))

/-- The words of unmarked texts have the same small letters. -/
theorem lowerCase_words_of_tokens (hs : ∀ c ∈ s, isMark c = false) :
    (words s).map lowerCase = (words t).map lowerCase := by
  have hlower : ∀ ws : List (List Char), ws.map lowerCase = (ws.map lowerAscii).map lowerCase := by
    intro ws
    rw [List.map_map]
    exact List.map_congr_left (fun w _ => (Text.lowerCase_lowerAscii w).symm)
  have hwords := h
  rw [tokens_of_unmarked hs, tokens_of_unmarked (unmarked_of_tokens h hs)] at hwords
  rw [hlower, hlower (words t), hwords]

end

/-- No mark stands in a word of a name. -/
theorem HasNameWords.unmarked {s : List Char} (h : HasNameWords s) :
    ∀ c ∈ s, isMark c = false := by
  have hmarks : ∀ m ∈ marks, isBlank m = false ∧ m ∈ Text.lowerChar m ∧ isNameChar m = false := by
    decide
  intro c hc
  by_contra hmark
  rw [Bool.not_eq_false] at hmark
  obtain ⟨hsolid, hlower, hname⟩ := of_isMark hmarks hmark
  rcases Text.mem_words hc with hb | ⟨w, hw, hcw⟩
  · rw [hb] at hsolid
    cases hsolid
  · -- a mark is its own small form
    have hmem : c ∈ lowerCase w := by
      rw [lowerCase, Text.lowerFrom_eq_flatMap (h.sigma_not_mem w hw)]
      exact List.mem_flatMap.mpr ⟨c, hcw, hlower⟩
    rw [h w hw c hmem] at hname
    cases hname

/-- Words of a name stay so in any style, with the same small letters. -/
theorem HasNameWords.of_tokens {s t : List Char} (hs : HasNameWords s) (h : tokens s = tokens t) :
    HasNameWords t ∧ lowerWords s = lowerWords t := by
  have hwords := lowerCase_words_of_tokens h hs.unmarked
  refine ⟨fun w hw => ?_, by rw [lowerWords, lowerWords, hwords]⟩
  have hmem := List.mem_map_of_mem (f := lowerCase) hw
  rw [← hwords] at hmem
  obtain ⟨v, hv, hvw⟩ := List.mem_map.mp hmem
  rw [← hvw]
  exact hs v hv

/-! ## 2. Parameters -/

/-- The pieces between commas have their counterparts, one by one. -/
theorem map_tokens_pieces {s t : List Char} (h : tokens s = tokens t) :
    (pieces (· = ',') s).map tokens = (pieces (· = ',') t).map tokens := by
  have hcomma : isMark ',' = true := by decide
  have hnone : ∀ {q : List Char}, ',' ∉ q → ∀ c ∈ q, decide (c = ',') = false := by
    intro q hq c hc
    refine decide_eq_false ?_
    rintro rfl
    exact hq hc
  induction s using Text.pieces_induction (· = ',') generalizing t with
  | last s hs hone =>
      have ht : ',' ∉ t := by
        rw [← mark_mem_iff_of_tokens h hcomma]
        exact fun hmem => absurd (hs _ hmem) (by decide)
      rw [hone, Text.pieces_eq_splitOnP, List.splitOnP_eq_singleton (hnone ht),
        List.map_singleton, List.map_singleton, h]
  | cut q c r hq hc hcut ih =>
      rw [decide_eq_true_eq] at hc
      rw [hc, tokens_append_mark hcomma] at h
      obtain ⟨a, b, rfl, ha, hb⟩ := exists_of_tokens_eq_append hcomma h.symm
      have ha' : ',' ∉ a := by
        rw [mark_mem_iff_of_tokens ha hcomma]
        exact fun hmem => absurd (hq _ hmem) (by decide)
      have hpieces : pieces (· = ',') (a ++ ',' :: b) = a :: pieces (· = ',') b := by
        rw [Text.pieces_eq_splitOnP, Text.pieces_eq_splitOnP]
        exact List.splitOnP_append_cons_of_forall_mem (hnone ha') ',' (by decide) b
      rw [hcut, hpieces, List.map_cons, List.map_cons, ha, ih hb.symm]

theorem map_tokens_partsOf (s : List Char) :
    (partsOf s).map tokens = ((pieces (· = ',') s).map tokens).filter (fun ts => ts ≠ []) := by
  have hblank : (fun q => decide (¬ IsBlanks q)) = (fun ts => decide (ts ≠ [])) ∘ tokens := by
    funext q
    simp [tokens_eq_nil_iff]
  rw [partsOf, List.map_map, List.filter_map, hblank]
  exact List.map_congr_left (fun q _ => tokens_trim q)

/-! ## 3. Groups -/

/-- A character of a number: a plus sign or an ASCII digit. -/
def isNumberChar (c : Char) : Bool := c = '+' || c.isDigit

theorem lowerAscii_of_number {s : List Char} (h : ∀ c ∈ s, isNumberChar c = true) :
    lowerAscii s = s := by
  refine (List.map_congr_left (fun c hc => ?_)).trans (List.map_id s)
  have hc := h c hc
  simp only [isNumberChar, Bool.or_eq_true, decide_eq_true_eq] at hc
  rcases hc with rfl | hd
  · decide
  · exact Text.toLower_of_isDigit hd

/-- Numbers have no letters whose case could change. -/
theorem eq_of_sameIgnoringCase {s t : List Char} (hs : ∀ c ∈ s, isNumberChar c = true)
    (h : sameIgnoringCase s t = true) : s = t := by
  have ht := Text.forall_mem_of_sameIgnoringCase (by decide +kernel) h hs
  have hsame := eq_of_beq h
  rwa [lowerAscii_of_number hs, lowerAscii_of_number ht] at hsame

theorem isSolid_of_number {s : List Char} (hne : s ≠ [])
    (h : ∀ c ∈ s, isNumberChar c = true) : IsSolid s := by
  refine ⟨hne, fun c hc => ⟨Text.not_isBlank_of (by decide) (h c hc), ?_⟩⟩
  by_contra hm
  have hmark : isNumberChar c = false :=
    of_isMark (p := fun m => isNumberChar m = false) (by decide) ((Bool.not_eq_false _).mp hm)
  rw [h c hc] at hmark
  cases hmark

theorem readDigits_eq_some {s : List Char} {v : Nat} (h : readDigits s = some v) :
    s ≠ [] ∧ ∀ c ∈ s, isNumberChar c = true := by
  rw [readDigits] at h
  split at h
  · rename_i hs
    simp only [Bool.and_eq_true, Bool.not_eq_true', List.isEmpty_eq_false_iff,
      List.all_eq_true] at hs
    exact ⟨hs.1, fun c hc => by rw [isNumberChar, hs.2 c hc, Bool.or_true]⟩
  · cases h

/-- Whether a text is a size can be told from its tokens. -/
theorem isGroupSize_of_tokens {s t : List Char} (h : tokens s = tokens t) :
    isGroupSize s = isGroupSize t := by
  have hsize : ∀ u : List Char,
      isGroupSize u = ((tokens u).isEmpty || (readDigits (trim u)).isSome) := by
    intro u
    have hempty : (tokens u).isEmpty = (trim u).isEmpty := by
      rw [Bool.eq_iff_iff, List.isEmpty_iff, List.isEmpty_iff, tokens_eq_nil_iff,
        Text.trim_eq_nil_iff]
    rw [isGroupSize, hempty, readDigits]
    cases trim u with
    | nil => rfl
    | cons c r => cases (c :: r).all Char.isDigit <;> rfl
  have hdigits : readDigits (trim s) = readDigits (trim t) := by
    refine apply_trim_eq_of_tokens (fun hv => ?_) (fun hv hcase => ?_) h
    · obtain ⟨hne, hall⟩ := readDigits_eq_some hv
      exact isSolid_of_number hne hall
    · rwa [← eq_of_sameIgnoringCase (readDigits_eq_some hv).2 hcase]
  rw [hsize, hsize, h, hdigits]

/-- The tokens of a group and of what stands on its two sides. -/
theorem tokens_append_group (s : List Char) {g : BracketGroup} (hg : g.Valid) (t : List Char) :
    tokens (s ++ (g.text ++ t)) = tokens s ++ ['['] :: (tokens g.content ++ [']'] :: tokens t) := by
  have htext : s ++ (g.text ++ t)
      = (s ++ g.before) ++ '[' :: (g.content ++ ']' :: (g.behind ++ t)) := by
    simp [BracketGroup.text]
  rw [htext, tokens_append_mark (by decide), tokens_append_mark (by decide),
    tokens_append_blanks _ hg.before, tokens_blanks_append hg.behind]

theorem tokens_group_append {g : BracketGroup} (hg : g.Valid) (t : List Char) :
    tokens (g.text ++ t) = ['['] :: (tokens g.content ++ [']'] :: tokens t) := by
  have h := tokens_append_group [] hg t
  rwa [List.nil_append, show tokens [] = [] from rfl, List.nil_append] at h

theorem tokens_append_groups {groups : List BracketGroup} (h : ∀ g ∈ groups, g.Valid)
    (s : List Char) : tokens (s ++ groups.flatMap BracketGroup.text)
      = tokens s ++ tokens (groups.flatMap BracketGroup.text) := by
  cases groups with
  | nil => simp [tokens]
  | cons g groups =>
      have hg := h g List.mem_cons_self
      rw [List.flatMap_cons, tokens_append_group s hg, tokens_group_append hg]

/-- **Groups have their counterparts in every text with the same tokens.** -/
theorem exists_groups_of_tokens {groups : List BracketGroup} (h : ∀ g ∈ groups, g.Valid) :
    ∀ {t : List Char} {x : List (List Char)},
      tokens t = x ++ tokens (groups.flatMap BracketGroup.text) →
      ∃ (s : List Char) (groups' : List BracketGroup),
        t = s ++ groups'.flatMap BracketGroup.text ∧ tokens s = x
          ∧ (∀ g ∈ groups', g.Valid) ∧ groups'.length = groups.length := by
  induction groups with
  | nil =>
      intro t x ht
      exact ⟨t, [], by simp, by simpa [tokens] using ht, List.forall_mem_nil _, rfl⟩
  | cons g groups ih =>
      intro t x ht
      obtain ⟨hg, hgroups⟩ := List.forall_mem_cons.mp h
      rw [List.flatMap_cons, tokens_group_append hg] at ht
      obtain ⟨s, u, rfl, hs, hu⟩ := exists_of_tokens_eq_append (by decide) ht
      obtain ⟨content, v, rfl, hcontent, hv⟩ := exists_of_tokens_eq_append (by decide) hu
      obtain ⟨behind, groups', rfl, hbehind, hvalid, hlength⟩ := ih hgroups (x := []) hv
      obtain ⟨b, e, htrim, hb, he⟩ := Text.exists_trim content
      let g' : BracketGroup := ⟨[], b, trim content, e, behind⟩
      have hsize : isGroupSize content = true := by
        rw [isGroupSize_of_tokens hcontent]
        exact hg.isGroupSize
      have hg' : g'.Valid :=
        ⟨Text.isBlanks_nil, hb, List.all_eq_true.mp hsize, he, tokens_eq_nil_iff.mp hbehind⟩
      have htext : g'.content = content := htrim.symm
      refine ⟨s, g' :: groups', ?_, hs, List.forall_mem_cons.mpr ⟨hg', hvalid⟩, by simp [hlength]⟩
      simp [BracketGroup.text, htext, g']

/-! ## 4. Formats -/

namespace Format

/-- The tokens of the parameters and of the modifiers, if there is a list. -/
def listTokens (f : Format) : Option (List (List Char) × List (List Char)) :=
  f.list?.map (fun l => (tokens l.1, tokens l.2))

/-- Two formats whose parts have the same tokens, the groups aside. -/
structure SameTokens (f f' : Format) : Prop where
  base : tokens f.base = tokens f'.base
  list : f.listTokens = f'.listTokens
  groups : f.groups.length = f'.groups.length

/-- The parts of a format have their counterparts in every text with its
tokens. -/
theorem exists_of_tokens {f : Format} (hf : f.Valid) {t : List Char}
    (h : tokens f.text = tokens t) :
    ∃ f' : Format, f'.text = t ∧ f.SameTokens f' ∧ ∀ g ∈ f'.groups, g.Valid := by
  rw [text, tokens_append_groups hf.groups] at h
  obtain ⟨stem, groups', rfl, hstem, hvalid, hlength⟩ := exists_groups_of_tokens hf.groups h.symm
  cases hlist : f.list? with
  | none =>
      rw [listText, hlist, List.append_nil] at hstem
      refine ⟨⟨stem, none, groups'⟩, ?_, ⟨hstem.symm, ?_, hlength.symm⟩, hvalid⟩
      · simp [text, listText]
      · rw [listTokens, hlist]
        rfl
  | some l =>
      have htext : f.base ++ f.listText = f.base ++ '(' :: (l.1 ++ ')' :: l.2) := by
        rw [listText, hlist]
        simp
      rw [htext, tokens_append_mark (by decide), tokens_append_mark (by decide)] at hstem
      obtain ⟨base, u, rfl, hbase, hu⟩ := exists_of_tokens_eq_append (by decide) hstem
      obtain ⟨inside, behind, rfl, hinside, hbehind⟩ := exists_of_tokens_eq_append (by decide) hu
      refine ⟨⟨base, some (inside, behind), groups'⟩, ?_, ⟨hbase.symm, ?_, hlength.symm⟩, hvalid⟩
      · simp [text, listText]
      · rw [listTokens, hlist, listTokens, Option.map_some, Option.map_some, hinside, hbehind]

namespace SameTokens

variable {f f' : Format} (h : f.SameTokens f')

include h

theorem exists_list {l' : List Char × List Char} (hl' : f'.list? = some l') :
    ∃ l, f.list? = some l ∧ tokens l.1 = tokens l'.1 ∧ tokens l.2 = tokens l'.2 := by
  have hlist := h.list
  rw [listTokens, listTokens, hl', Option.map_some, Option.map_eq_some_iff] at hlist
  obtain ⟨l, hl, hpair⟩ := hlist
  exact ⟨l, hl, Prod.mk.inj hpair⟩

theorem modifiers : tokens f.modifiers = tokens f'.modifiers := by
  have hlist := congrArg (fun o => (o.map Prod.snd).getD []) h.list
  simp only [listTokens, Option.map_map, Function.comp_def] at hlist
  have hmodifiers : ∀ k : Format,
      tokens k.modifiers = (k.list?.map (fun l => tokens l.2)).getD [] := by
    intro k
    rw [Format.modifiers]
    cases k.list? <;> rfl
  rw [hmodifiers, hmodifiers, hlist]

theorem arguments : f.arguments.map tokens = f'.arguments.map tokens := by
  rw [Format.arguments, Format.arguments]
  cases hl' : f'.list? with
  | none =>
      have hlist := h.list
      rw [listTokens, listTokens, hl', Option.map_none, Option.map_eq_none_iff] at hlist
      rw [hlist]
  | some l' =>
      obtain ⟨l, hl, hinside, -⟩ := h.exists_list hl'
      rw [hl, map_tokens_partsOf, map_tokens_partsOf, map_tokens_pieces hinside]

end SameTokens

/-- **A format with the tokens of a valid one is valid.** -/
theorem Valid.of_sameTokens {f f' : Format} (hf : f.Valid) (h : f.SameTokens f')
    (hgroups : ∀ g ∈ f'.groups, g.Valid) : f'.Valid where
  base := isFlat_of_tokens h.base hf.base
  words_ne_nil := by
    rw [Ne, Text.words_eq_nil_iff]
    have hne := hf.words_ne_nil
    rw [Ne, Text.words_eq_nil_iff] at hne
    intro hblank
    exact hne (tokens_eq_nil_iff.mp (h.base.trans (tokens_eq_nil_iff.mpr hblank)))
  words := (hf.words.of_tokens h.base).1
  list := by
    intro l' hl'
    obtain ⟨l, hl, hinside, hbehind⟩ := h.exists_list hl'
    have hlist := hf.list l hl
    refine ⟨isFlat_of_tokens hinside hlist.parameters, ?_, isFlat_of_tokens hbehind hlist.modifiers,
      (hlist.words.of_tokens hbehind).1⟩
    have hparts := partsOf_ne_nil_iff.mpr hlist.part
    rw [← partsOf_ne_nil_iff, Ne, ← List.map_eq_nil_iff (f := tokens), map_tokens_partsOf,
      ← map_tokens_pieces hinside, ← map_tokens_partsOf, List.map_eq_nil_iff]
    exact hparts
  groups := hgroups

end Format

/-! ## 5. Names -/

/-- Two arguments with the same tokens and no blanks around them. -/
structure AlikeArguments (a a' : String) : Prop where
  tokens : tokens a.toList = tokens a'.toList
  left : trim a.toList = a.toList
  right : trim a'.toList = a'.toList

/-- Two names with the same words and dimensions, and with arguments that are
alike one by one. -/
structure Alike (n n' : SqlName) : Prop where
  base : n.base = n'.base
  modifiers : n.modifiers = n'.modifiers
  dimensions : n.dimensions = n'.dimensions
  arguments : List.Forall₂ AlikeArguments n.arguments n'.arguments

theorem trim_of_mem_arguments {f : Format} : ∀ a ∈ f.arguments, trim a = a := by
  intro a ha
  rw [Format.arguments] at ha
  split at ha
  · cases ha
  · obtain ⟨q, -, rfl⟩ := List.mem_map.mp ha
    exact Text.trim_trim q

/-- Trimmed arguments with the same tokens, one by one. -/
theorem forall₂_alikeArguments : ∀ {as as' : List (List Char)}, as.map tokens = as'.map tokens →
    (∀ a ∈ as, trim a = a) → (∀ a ∈ as', trim a = a) →
    List.Forall₂ AlikeArguments (as.map String.ofList) (as'.map String.ofList)
  | [], [], _, _, _ => .nil
  | a :: as, a' :: as', h, htrim, htrim' => by
      obtain ⟨ha, has⟩ := List.cons.inj h
      obtain ⟨hl, hls⟩ := List.forall_mem_cons.mp htrim
      obtain ⟨hr, hrs⟩ := List.forall_mem_cons.mp htrim'
      refine .cons ?_ (forall₂_alikeArguments has hls hrs)
      constructor <;> simpa only [String.toList_ofList]

/-- **A text with the tokens of a name is a name like it.** -/
theorem read_of_tokens {s t : List Char} (h : tokens s = tokens t) {n : SqlName}
    (hn : read s = some n) : ∃ n', read t = some n' ∧ n.Alike n' := by
  obtain ⟨f, hf, htext⟩ := exists_format hn
  obtain ⟨f', htext', hsame, hgroups⟩ := Format.exists_of_tokens hf (t := trim t)
    (by rw [htext, tokens_trim, tokens_trim, h])
  have hf' := hf.of_sameTokens hsame hgroups
  refine ⟨f'.name, read_of_format hf' htext', ?_⟩
  rw [read_of_format hf htext] at hn
  obtain rfl := Option.some.inj hn
  exact ⟨congrArg String.ofList (hf.words.of_tokens hsame.base).2,
    congrArg String.ofList (hf.hasNameWords_modifiers.of_tokens hsame.modifiers).2, hsame.groups,
    forall₂_alikeArguments hsame.arguments trim_of_mem_arguments trim_of_mem_arguments⟩

end SqlAtlas.SqlName
