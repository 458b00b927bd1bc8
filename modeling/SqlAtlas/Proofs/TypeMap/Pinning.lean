/-
SqlAtlas.Proofs.TypeMap.Pinning — a column that the map makes can be pinned.

The name of a column is written by the rules, and it is read again when it is
pinned: the reader of overrides cuts it out of their text, the judge of safe
names looks at its shape, and its sizes are taken from its arguments. Each of
them was made by itself, and each is met by the form that all names have: a
base, arguments in parentheses, and dimensions (`NamedBy`). Such a name is an
entry of overrides, since its commas are in parentheses. It is safe, since the
names of the map belong to the language of safe names. And its sizes read back
as those of the column.
-/
import SqlAtlas.Proofs.Overrides.Entries
import SqlAtlas.Proofs.SqlName.BaseName
import SqlAtlas.Proofs.SqlName.Safe
import SqlAtlas.Proofs.Text.Ascii
import SqlAtlas.Proofs.TypeMap.Consistency
import SqlAtlas.Proofs.TypeMap.Splicing

namespace SqlAtlas.TypeMap

open Overrides (IsEntry Pins braced separators)
open SqlName (IsBase isArgumentText isSafe longestSafe spellDimensions spellParameters)
open Text

/-! ## 1. The form of all names -/

/-- A column whose name is its base name, some arguments and dimensions. The
digits of a column are two arguments. -/
structure NamedBy (s : SqlType) (arguments : List String) (dimensions : Nat) : Prop where
  name : s.name = SqlName.spell s.baseName arguments dimensions
  base : IsBase s.baseName.toList
  plain : ∀ a ∈ arguments, isArgumentText a.toList = true
  digits : ∀ precision, s.precision = some precision → ∃ scale, s.scale = some scale
    ∧ arguments = [toString precision.toNat, toString scale.toNat]

theorem ShowsSizes.namedBy {dialect : Dialect} {dimensions : Nat} {s : SqlType}
    (h : ShowsSizes dialect dimensions s) :
    NamedBy s (sizeArguments dialect s.toSizing) dimensions := by
  refine ⟨h.name, h.base, isArgumentText_sizeArguments dialect _, fun precision hp => ?_⟩
  have hl : s.length = none := h.exclusive.resolve_right (by rw [hp]; exact Option.some_ne_none _)
  obtain ⟨scale, hs⟩ := Option.isSome_iff_exists.mp (h.scaled (by rw [hp]; rfl))
  exact ⟨scale, hs, by rw [sizeArguments, hl, hp, hs]; rfl⟩

theorem namedBy_spelled {base : String} {arguments : List String} (hb : IsBase base.toList)
    (ha : ∀ a ∈ arguments, isArgumentText a.toList = true) :
    NamedBy (spelled base arguments) arguments 0 := by
  have hbase := baseName_spelled hb ha
  refine ⟨by rw [hbase]; rfl, by rwa [hbase], ha, fun precision hp => ?_⟩
  cases hp

/-- **Every column of the map has a name of this form.** -/
theorem exists_namedBy_of_forward {dialect : Dialect} {d : NativeDescriptor} (hd : d.Built)
    {s : SqlType} (h : forward dialect d = some s) : ∃ arguments k, NamedBy s arguments k := by
  rcases exists_showsSizes_of_forward hd h with ⟨k, hs⟩ | ⟨_, _, rfl⟩ | ⟨g, _, _, rfl⟩
  · exact ⟨_, k, hs.namedBy⟩
  · exact ⟨_, _, namedBy_spelled (by decide) (by decide)⟩
  · exact ⟨_, _, namedBy_spelled (by decide) (by cases g <;> decide)⟩

theorem NamedBy.ne_nil {s : SqlType} {arguments : List String} {k : Nat}
    (h : NamedBy s arguments k) : s.baseName.toList ≠ [] ∧ s.name.toList ≠ [] := by
  obtain ⟨c, hc, _⟩ := h.base.head
  have hbase : s.baseName.toList ≠ [] := by
    rintro hnil
    rw [hnil] at hc
    cases hc
  refine ⟨hbase, ?_⟩
  rw [h.name, SqlName.spell, String.toList_ofList]
  simp [hbase]

/-! ## 2. Names as entries -/

theorem isEntry_of_isBase {s : List Char} (h : IsBase s) : IsEntry s := by
  refine .of_flat (fun c hc => ⟨h.flat c hc, fun hmem => ?_⟩)
  have hplain := List.all_eq_true.mp h.plain c hc
  have hnone : ∀ c ∈ separators, (c.isAlphanum || c = '_' || c = ' ' || c = '.') = false := by decide
  rw [hnone c hmem] at hplain
  cases hplain

theorem isEntry_dimensions : ∀ k : Nat, IsEntry (spellDimensions k)
  | 0 => by decide
  | k + 1 => IsEntry.append (s := ['[', ']']) (by decide) (isEntry_dimensions k)

/-- **A name of this form is one entry**, whatever its arguments are. -/
theorem NamedBy.isEntry {s : SqlType} {arguments : List String} {k : Nat}
    (h : NamedBy s arguments k) : IsEntry s.name.toList := by
  have hlist : IsEntry (spellParameters arguments) := by
    cases arguments with
    | nil => decide
    | cons a as => exact .parenthesised (SqlName.isFlat_of_mem_spellArguments _ h.plain)
  rw [h.name, SqlName.spell, String.toList_ofList]
  exact ((isEntry_of_isBase h.base).append hlist).append (isEntry_dimensions k)

/-! ## 3. In front of a name -/

/-- What stands in front of a pinned type: a spelling of the dialect in any case,
and a colon, with blanks around both. -/
inductive PinFront (dialect : Dialect) : List Char → Prop
  | mk {name : String} {b a e r : List Char} (hname : name ∈ dialect.aliases)
      (ha : sameIgnoringCase name.toList a = true) (hb : IsBlanks b) (he : IsBlanks e)
      (hr : IsBlanks r) : PinFront dialect (b ++ a ++ e ++ ':' :: r)

/-- A character of the spellings. -/
def isAliasChar (c : Char) : Bool := c.isAlphanum || c = '-' || c = '_'

/-- In any case a spelling has characters of spellings only. -/
theorem isAliasChar_of_sameIgnoringCase {dialect : Dialect} {name : String}
    (hname : name ∈ dialect.aliases) {a : List Char}
    (h : sameIgnoringCase name.toList a = true) : ∀ c ∈ a, isAliasChar c = true := by
  have hall : ∀ name ∈ dialect.aliases, name.toList.all isAliasChar = true := by
    cases dialect <;> decide
  have hmap := map_eq_map_of_sameIgnoringCase (f := isAliasChar) (by decide) h
  intro c hc
  obtain ⟨d, hd, hsame⟩ := List.mem_map.mp (hmap ▸ List.mem_map_of_mem hc)
  rw [← hsame]
  exact List.all_eq_true.mp (hall name hname) d hd

/-- The characters that give the text of overrides its shape, the colon apart. -/
def shapingChars : List Char := ['(', ')', '[', ']', '{', '}', ',', ';']

theorem PinFront.not_mem {dialect : Dialect} {front : List Char} (h : PinFront dialect front) :
    ∀ c ∈ shapingChars, c ∉ front := by
  obtain ⟨hname, ha, hb, he, hr⟩ := h
  have halias := isAliasChar_of_sameIgnoringCase hname ha
  have hnone : ∀ c ∈ shapingChars, isBlank c = false ∧ isAliasChar c = false ∧ c ≠ ':' := by decide
  intro c hc hmem
  obtain ⟨hblank, hchar, hcolon⟩ := hnone c hc
  have hblanks : ∀ {t : List Char}, IsBlanks t → c ∉ t := by
    intro t ht hct
    rw [ht c hct] at hblank
    cases hblank
  have hspelling : c ∉ _ := fun hct => by
    rw [halias c hct] at hchar
    cases hchar
  simp only [List.mem_append, List.mem_cons, hblanks hb, hblanks he, hblanks hr, hspelling,
    hcolon, or_self] at hmem

theorem PinFront.isEntry {dialect : Dialect} {front : List Char} (h : PinFront dialect front) :
    IsEntry front := by
  have hflat : ∀ c ∈ ['(', ')', '[', ']'], decide (c ∉ shapingChars) = false := by decide
  have hseparators : ∀ c ∈ separators, c ∈ shapingChars := by decide
  refine .of_flat (fun c hc => ?_)
  have hnot : c ∉ shapingChars := fun hmem => h.not_mem c hmem hc
  exact ⟨isFlat_of hflat (decide_eq_true hnot), fun hmem => hnot (hseparators c hmem)⟩

/-- **A text behind it is pinned.** -/
theorem PinFront.pins {dialect : Dialect} {front : List Char} (h : PinFront dialect front)
    {t : String} (hne : t.toList ≠ []) (htrim : trim t.toList = t.toList) :
    Pins (front ++ t.toList) dialect t := by
  obtain @⟨name, b, a, e, r, hname, ha, hb, he, hr⟩ := h
  have halias := isAliasChar_of_sameIgnoringCase hname ha
  have hspelling : trim (b ++ a ++ e) = a := by
    rw [trim_append_blanks _ he, trim_blanks_append hb]
    exact trim_eq_self_of_forall
      (fun c hc => not_isBlank_of (p := isAliasChar) (by decide) (halias c hc))
  have htext : trim (r ++ t.toList) = t.toList := by rw [trim_blanks_append hr, htrim]
  refine ⟨b ++ a ++ e, r ++ t.toList, by simp, fun hcolon => ?_,
    ⟨name, hname, by rwa [hspelling]⟩, ?_, ?_⟩
  · simp only [List.mem_append] at hcolon
    rcases hcolon with (hc | hc) | hc
    · exact absurd (hb ':' hc) (by decide)
    · exact absurd (halias ':' hc) (by decide)
    · exact absurd (he ':' hc) (by decide)
  · rw [← trim_eq_nil_iff, htext]
    exact hne
  · rw [htext, String.ofList_toList]

/-! ## 4. Pinned columns -/

theorem baseName_sizedBy (n : SqlName) (t : SqlType) : (sizedBy n t).baseName = t.baseName := by
  rw [sizedBy]
  split <;> rfl

/-- **The type of a pinned name** has the base name and the digits of the column
that was named. -/
theorem NamedBy.pinnedType {s : SqlType} {arguments : List String} {k : Nat}
    (h : NamedBy s arguments k) (htrim : trim s.name.toList = s.name.toList) :
    ∃ r, pinnedType s.name.toList = some r ∧ r.name = s.name ∧ r.baseName = s.baseName
      ∧ ∀ precision, s.precision = some precision →
        r.precision = some precision ∧ r.scale? = s.scale? := by
  have hbase : baseName s.name.toList = s.baseName.toList := by
    rw [h.name]
    exact SqlName.baseName_spell h.base h.plain k
  have hof : SqlType.ofName s.name.toList = .ok (.plain s.name) := by
    have hname : baseName (trim s.name.toList) ≠ [] := by
      rw [htrim, hbase]
      exact h.ne_nil.1
    rw [SqlType.ofName_eq_ok hname, htrim, String.ofList_toList]
  have hread : SqlName.read s.name.toList = some ⟨s.name, s.baseName, arguments, "", k⟩ := by
    rw [h.name]
    exact SqlName.read_spell_dimensions h.base h.plain k
  refine ⟨sizedBy ⟨s.name, s.baseName, arguments, "", k⟩ (.plain s.name), ?_, name_sizedBy _ _, ?_,
    fun precision hp => ?_⟩
  · rw [TypeMap.pinnedType, hof]
    simp only [hread]
  · rw [baseName_sizedBy, SqlType.plain, hbase, String.ofList_toList]
  · obtain ⟨scale, hs, hargs⟩ := h.digits precision hp
    have hdigits : (⟨s.name, s.baseName, arguments, "", k⟩ : SqlName).precisionScale?
        = some (precision, some scale) := by
      rw [SqlName.precisionScale?, hargs]
      simp only [SqlName.readPrecision_toString]
    have hscale : s.scale? = some scale := by
      rw [Sizing.scale?, hp]
      exact hs
    rw [sizedBy, hdigits, hscale]
    exact ⟨rfl, rfl⟩

theorem toList_of_pins {o : Overrides} {dialect : Dialect} {t : String}
    (h : o.pins = [(dialect, t)]) : o.toList = [(dialect, t)] ∧ o.get? dialect = some t := by
  obtain ⟨pins⟩ := o
  cases h
  cases dialect <;> exact ⟨rfl, rfl⟩

/-- A text with one entry, in braces or not, has the pin of this entry. -/
theorem pins_read_entry {e : List Char} {dialect : Dialect} {t : String} (he : IsEntry e)
    (hpins : Pins e dialect t) (hopen : '{' ∉ e) (hclose : '}' ∉ e) {text : List Char}
    (htext : text = e ∨ text = braced e) : (Overrides.read text).pins = [(dialect, t)] := by
  have hbraced : (Overrides.read (braced e)).pins = [(dialect, t)] := by
    rw [Overrides.pins_braced (List.forall_mem_singleton.mpr he) (.one e), List.filterMap_cons,
      Overrides.pinned?_eq_some_iff.mpr hpins]
    rfl
  have hsub : ∀ c ∈ trim e, c ∈ e := by
    intro c hc
    obtain ⟨b, r, hs, _, _⟩ := exists_trim e
    rw [hs]
    simp [hc]
  rcases htext with rfl | rfl
  · rw [Overrides.read_eq_read_braced (fun h => hopen (hsub _ (List.mem_of_mem_head? h)))
      (fun h => hclose (hsub _ (List.mem_of_mem_getLast? h)))]
    exact hbraced
  · exact hbraced

/-- **A column of the map can be pinned.** Behind a spelling of its dialect and a
colon, in braces or not, its name makes overrides with this one pin. They give
the column its name, its base name and its digits, whatever type it is for. -/
theorem forward_pinned {dialect : Dialect} {x : NativeDescriptor} (hx : x.Built) {s : SqlType}
    (h : forward dialect x = some s) (hlength : byteLength s.name.toList ≤ longestSafe)
    {front : List Char} (hfront : PinFront dialect front) {text : List Char}
    (htext : text = front ++ s.name.toList ∨ text = braced (front ++ s.name.toList)) :
    (Overrides.read text).toList = [(dialect, s.name)]
      ∧ ∀ y, ∃ r, resolve dialect y (Overrides.read text) = some r ∧ r.name = s.name
        ∧ r.baseName = s.baseName ∧ ∀ precision, s.precision = some precision →
          r.precision = some precision ∧ r.scale? = s.scale? := by
  obtain ⟨arguments, k, hnamed⟩ := exists_namedBy_of_forward hx h
  have hmem : s.name.toList ∈ SqlName.Grammar.columnName := isSpliceable_of_forward h
  have htrim := SqlName.Grammar.trim_of_mem_columnName hmem
  have hbrace : ∀ c ∈ ['{', '}'], c ∉ front ++ s.name.toList := by
    have hneither : ∀ c ∈ ['{', '}'], c ∈ shapingChars
        ∧ SqlName.Grammar.isInnerChar c = false ∧ c ≠ '(' ∧ c ≠ ')' := by decide +kernel
    intro c hc hin
    obtain ⟨hshaping, hinner, hopen, hclose⟩ := hneither c hc
    rcases List.mem_append.mp hin with hin | hin
    · exact hfront.not_mem c hshaping hin
    · exact SqlName.Grammar.not_mem_of_mem_columnName hmem hinner hopen hclose hin
  have hpins := pins_read_entry (hfront.isEntry.append hnamed.isEntry) (hfront.pins hnamed.ne_nil.2 htrim)
    (hbrace '{' (by simp)) (hbrace '}' (by simp)) htext
  obtain ⟨hlist, hget⟩ := toList_of_pins hpins
  have hsafe : isSafe s.name.toList = true := by
    rw [SqlName.Grammar.isSafe_iff, htrim]
    exact ⟨hlength, hmem⟩
  obtain ⟨r, hr, hsame⟩ := hnamed.pinnedType htrim
  refine ⟨hlist, fun y => ⟨r, ?_, hsame⟩⟩
  rw [resolve, hget, Option.bind_some, usablePin, if_pos hsafe, hr]
  rfl

/-- An array of arrays of decimals. -/
def decimalArrays : NativeDescriptor :=
  (NativeDescriptor.ofType (.array (.array (.primitive .decimal) 1) 1)).withPrecisionScale 18 4

/-- Its column is pinned, and taken for a type that is something else. -/
theorem forward_pinned_decimalArrays :
    (Overrides.read (braced " PG : numeric(18,4)[][]".toList)).toList
        = [(.postgreSql, "numeric(18,4)[][]")]
      ∧ ∃ r, resolve .postgreSql (.ofType .json)
          (Overrides.read (braced " PG : numeric(18,4)[][]".toList)) = some r
        ∧ r.name = "numeric(18,4)[][]" ∧ r.baseName = "numeric" ∧ r.precision = some 18
        ∧ r.scale? = some 4 := by
  have hbuilt : decimalArrays.Built := .withPrecisionScale (.ofType _) 18 4
  obtain ⟨s, hs⟩ : ∃ s, forward .postgreSql decimalArrays = some s := ⟨_, rfl⟩
  have hparts : (forward .postgreSql decimalArrays).map
      (fun s => (s.name, s.baseName, s.precision, s.scale?))
        = some ("numeric(18,4)[][]", "numeric", some 18, some 4) := by decide
  rw [hs] at hparts
  simp only [Option.map_some, Option.some.injEq, Prod.mk.injEq] at hparts
  obtain ⟨hname, hbase, hprecision, hscale⟩ := hparts
  have hlength : byteLength s.name.toList ≤ longestSafe := by
    rw [hname]
    decide
  have halias : "pg" ∈ Dialect.postgreSql.aliases := by decide
  have hcase : sameIgnoringCase "pg".toList "PG".toList = true := by decide
  have hblank : IsBlanks [' '] := by decide
  have hpinned := forward_pinned hbuilt hs hlength (.mk halias hcase hblank hblank hblank) (.inr rfl)
  rw [hname] at hpinned
  obtain ⟨hlist, hresolve⟩ := hpinned
  obtain ⟨r, hr, hrname, hrbase, hdigits⟩ := hresolve (.ofType .json)
  obtain ⟨hp, hs⟩ := hdigits 18 hprecision
  exact ⟨hlist, r, hr, hrname, hrbase.trans hbase, hp, hs.trans hscale⟩

end SqlAtlas.TypeMap
