/-
SqlAtlas.Proofs.TypeMap.Pinned — what a pinned type that is safe is taken for.

A safe text always names a type, and that type is used (`resolve_of_safe`). Its
sizes are those of its arguments, if the text can be taken apart. So it matters
that the check and the reader mean the same by a name: `read_of_isSafe` gives the
parts that the check finds in a text and says that the reader finds the same
ones. The two part company over the digits between brackets. The check takes
those of every script, the reader those of ASCII, and a text with others is used
without its sizes.

The same text stands for a native type, whose row knows what its arguments mean.
A pinned type goes by their number alone. `resolve_sizes` compares the two for
every text, and finds them at odds where a single argument is a precision.
-/
import SqlAtlas.Proofs.SqlName.Reading
import SqlAtlas.Proofs.TypeMap.Sizes
import SqlAtlas.TypeMap.Resolve

namespace SqlAtlas.TypeMap

open SqlName (isSafe read)
open SqlName.Grammar
open Text (trim)

/-! ## 1. Safe texts name a type -/

/-- The type that a text names before anything is read off its arguments. -/
def unsized (text : String) : SqlType := .plain (String.ofList (trim text.toList))

/-- A name of the language is a name of a type. -/
theorem ofName_of_mem_columnName {text : List Char} (h : trim text ∈ columnName) :
    SqlType.ofName text = .ok (.plain (String.ofList (trim text))) := by
  obtain ⟨parts, hparts⟩ := mem_columnName_iff.mp h
  refine SqlType.ofName_eq_ok ?_
  rw [hparts.baseName_eq]
  exact hparts.valid.key_ne_nil

section

variable {text : String} (h : isSafe text.toList = true)

include h

theorem exists_nameText : ∃ parts, NameText parts (trim text.toList) :=
  mem_columnName_iff.mp (isSafe_iff.mp h).2

theorem ofName_of_isSafe : SqlType.ofName text.toList = .ok (unsized text) :=
  ofName_of_mem_columnName (isSafe_iff.mp h).2

/-- A safe pinned type is used, with the sizes that can be read off it. -/
theorem resolve_of_safe {dialect : Dialect} {o : Overrides} (hget : o.get? dialect = some text)
    (d : NativeDescriptor) : resolve dialect d o
      = some (match read text.toList with
        | some n => sizedBy n (unsized text)
        | none => unsized text) := by
  have hpin : usablePin text = some (match read text.toList with
      | some n => sizedBy n (unsized text)
      | none => unsized text) := by
    rw [usablePin, if_pos h, pinnedType, ofName_of_isSafe h]
    cases read text.toList <;> rfl
  rw [resolve, hget, Option.bind_some, hpin]
  rfl

/-! ## 2. The check and the reader -/

/-- **A safe text has parts, and reading gives them back unless a digit between
its brackets is not one of ASCII.** The arguments are the listed parameters in
order and without blanks, the dimensions count the groups, the key has the words
in small letters, and a pinned type has the sizes of its arguments. Otherwise
nothing is read, and a pinned type has no sizes. -/
theorem read_of_isSafe :
    (∃ parts, NameText parts (trim text.toList))
      ∧ ∀ parts, NameText parts (trim text.toList) →
        (parts.hasAsciiGroups = true → ∃ n, read text.toList = some n
          ∧ n.arguments = parts.parameters.map String.ofList
          ∧ n.dimensions = parts.groups.length ∧ n.key = String.ofList parts.key
          ∧ ∀ dialect d o, Overrides.get? o dialect = some text →
            resolve dialect d o = some (sizedBy n (unsized text)))
        ∧ (parts.hasAsciiGroups = false → read text.toList = none
          ∧ ∀ dialect d o, Overrides.get? o dialect = some text →
            resolve dialect d o = some (unsized text)) := by
  have htrim : read text.toList = read (trim text.toList) := by
    rw [SqlName.read, SqlName.read, Text.trim_trim]
  refine ⟨exists_nameText h, fun parts hparts => ⟨fun hgroups => ?_, fun hgroups => ?_⟩⟩
  · obtain ⟨n, hread, -, hn⟩ := hparts.read_eq hgroups
    rw [← htrim] at hread
    refine ⟨n, hread, hn.1, hn.2.1, hn.2.2, fun dialect d o hget => ?_⟩
    rw [resolve_of_safe h hget, hread]
  · have hread := hparts.read_eq_none hgroups
    rw [← htrim] at hread
    refine ⟨hread, fun dialect d o hget => ?_⟩
    rw [resolve_of_safe h hget, hread]

end

/-- Arrays of numbers, with and without a size between their brackets. -/
theorem read_of_isSafe_numericArrays :
    isSafe "NUMERIC (18, 6)[][3]".toList = true
      ∧ ∃ n, read "NUMERIC (18, 6)[][3]".toList = some n ∧ n.arguments = ["18", "6"]
        ∧ n.dimensions = 2 ∧ n.key = "numeric" := by
  have hsafe : isSafe "NUMERIC (18, 6)[][3]".toList = true := by decide +kernel
  have hlist : ParametersText ["18".toList, "6".toList] "18, 6".toList :=
    .cons (b := []) (p := "18".toList) (e := []) (Language.nil_mem_kstar _)
      (mem_item (by decide +kernel)) (Language.nil_mem_kstar _)
      (.last (b := [' ']) (p := "6".toList) (e := []) (mem_blanks (by decide))
        (mem_item (by decide +kernel)) (Language.nil_mem_kstar _))
  have hgroup : GroupsText [[]] "[]".toList :=
    GroupsText.nil.snoc (b := []) (Language.nil_mem_kstar _) (Language.nil_mem_kstar _)
  have hgroups : GroupsText [[], ['3']] "[][3]".toList :=
    hgroup.snoc (b := []) (Language.nil_mem_kstar _) (mem_kstar_one (by decide +kernel))
  have hparts : NameText ⟨["NUMERIC".toList], ["18".toList, "6".toList], [], [[], ['3']]⟩
      (trim "NUMERIC (18, 6)[][3]".toList) :=
    .listed (w := "NUMERIC".toList) (f := []) (b := [' ']) (p := "18, 6".toList) (v := [])
      (mem_word (by decide)) .nil (mem_blanks (by decide)) hlist .nil hgroups
  obtain ⟨n, hread, hn⟩ := ((read_of_isSafe hsafe).2 _ hparts).1 (by decide)
  exact ⟨hsafe, n, hread, hn.1, hn.2.1, hn.2.2.1.trans (by decide +kernel)⟩

/-- The Arabic digit three is a digit to the check and none to the reader, so the
sizes of the column are lost. -/
theorem isSafe_arabicDigit :
    isSafe "int[\u0663]".toList = true ∧ read "int[\u0663]".toList = none
      ∧ ∃ t, usablePin "decimal(10,2)[\u0663]" = some t ∧ t.precision = none :=
  ⟨by decide +kernel, by decide +kernel, .plain "decimal(10,2)[\u0663]", by decide +kernel, rfl⟩

/-! ## 3. Sizes of pinned types -/

section

variable {n : SqlName}

/-- Digits are one argument or two. -/
theorem arguments_of_precisionScale? {p : UInt16} {s? : Option UInt16}
    (h : n.precisionScale? = some (p, s?)) :
    (∃ a, n.arguments = [a] ∧ SqlName.readPrecision a = some p ∧ s? = none)
      ∨ ∃ s, n.arguments.length = 2 ∧ s? = some s := by
  unfold SqlName.precisionScale? at h
  split at h
  · rename_i a ha
    obtain ⟨_, hp, heq⟩ := Option.map_eq_some_iff.mp h
    cases heq
    exact .inl ⟨a, ha, hp, rfl⟩
  · rename_i a b hab
    split at h
    · rename_i s _ _
      cases h
      exact .inr ⟨s, by rw [hab]; rfl, rfl⟩
    · cases h
  · cases h

/-- Two numbers are precision and scale. -/
theorem sizedBy_digits {p s : UInt16} (h : n.precisionScale? = some (p, some s)) (t : SqlType) :
    sizedBy n t = t.withPrecisionScale p s := by
  rw [sizedBy, h]

/-- One argument is a length, whatever it means to the type. -/
theorem sizedBy_single {a : String} (h : n.arguments = [a]) (t : SqlType) :
    sizedBy n t = match Length.read a.toList with
      | some length => t.withLength length
      | none => t := by
  have hdigits : n.precisionScale? = (SqlName.readPrecision a).map (fun p => (p, none)) := by
    rw [SqlName.precisionScale?, h]
  have hlength : n.length? = Length.read a.toList := by
    rw [SqlName.length?, h]
  rw [sizedBy, hdigits, hlength]
  cases SqlName.readPrecision a <;> cases Length.read a.toList <;> rfl

theorem exists_argument_of_length? {length : Length} (h : n.length? = some length) :
    ∃ a, n.arguments = [a] ∧ Length.read a.toList = some length := by
  unfold SqlName.length? at h
  split at h
  · rename_i a ha
    exact ⟨a, ha, h⟩
  · cases h

end

/-- How a pinned type shows the digits of the native type that its text stands
for: two arguments as they are, a precision alone as a length. -/
inductive ShowsDigits (n : SqlName) (y : NativeDescriptor) (p : UInt16) (r : SqlType) : Prop
  | both (hargs : n.arguments.length = 2) (hp : r.precision = some p) (hs : r.scale? = y.scale?)
      (hl : r.length = none)
  | single (hargs : n.arguments.length = 1) (hy : y.scale? = some 0) (hp : r.precision = none)
      (hl : r.length = if p = 0 then none else some (.bounded p.toUInt32))

/-- A pinned type goes by the number of its arguments. -/
theorem showsDigits_sizedBy {n : SqlName} {y : NativeDescriptor} {p : UInt16} {s? : Option UInt16}
    (h : n.precisionScale? = some (p, s?)) (hs : y.scale? = some (s?.getD 0)) (text : String) :
    ShowsDigits n y p (sizedBy n (unsized text)) := by
  rcases arguments_of_precisionScale? h with ⟨a, ha, hp, rfl⟩ | ⟨s, htwo, rfl⟩
  · refine .single (by rw [ha]; rfl) hs ?_ ?_
    · rw [sizedBy_single ha]
      split <;> rfl
    · rw [sizedBy_single ha, ← Length.read_of_readPrecision hp]
      cases Length.read a.toList <;> rfl
  · rw [sizedBy_digits h]
    exact .both htwo rfl hs.symm rfl

theorem conventional_dimensioned (n : SqlName) :
    Sqlite.conventional (dimensioned .sqlite n).1 = Sqlite.conventional n := by
  rw [dimensioned]
  split <;> rfl

theorem precisionScale?_dimensioned (dialect : Dialect) (n : SqlName) :
    (dimensioned dialect n).1.precisionScale? = n.precisionScale? := by
  rw [SqlName.precisionScale?, SqlName.precisionScale?, arguments_dimensioned]

theorem length?_dimensioned (dialect : Dialect) (n : SqlName) :
    (dimensioned dialect n).1.length? = n.length? := by
  rw [SqlName.length?, SqlName.length?, arguments_dimensioned]

/-- **The sizes of a pinned type against those of the native type that its text
stands for.** Digits are the same if precision and scale are both given, and a
precision alone turns into a length. A length is the same. Neither is said of
sizes that the arguments have no part in: those the text has without its list as
well, and the length of an affinity of SQLite whose list no row reads. -/
theorem resolve_sizes {dialect : Dialect} {text : String} {y : NativeDescriptor}
    (hsafe : isSafe text.toList = true) (hy : reverse? dialect text.toList = some y)
    {o : Overrides} (hget : o.get? dialect = some text) (x : NativeDescriptor) :
    ∃ n r, read text.toList = some n ∧ resolve dialect x o = some r
      ∧ (∀ p, y.precision = some p →
        ShowsDigits n y p r ∨ (ofName dialect n.unlisted).toOption = some y)
      ∧ ∀ length, y.length = some length →
        (r.length = some length ∧ r.precision = none)
          ∨ (ofName dialect n.unlisted).toOption = some y
          ∨ (dialect = .sqlite ∧ Sqlite.conventional n = none ∧ length = .max) := by
  obtain ⟨n, d, hread, hsizes, hfrom, hown⟩ := reverse_sizesFrom hy
  have hresolve := resolve_of_safe hsafe hget x
  rw [hread] at hresolve
  refine ⟨n, sizedBy n (unsized text), hread, hresolve, ?_⟩
  have hlen : y.length = d.length := congrArg Sizing.length hsizes
  have hprec : y.precision = d.precision := congrArg Sizing.precision hsizes
  have hscale : y.scale? = d.scale? := congrArg Sizing.scale? hsizes
  rw [hlen, hprec]
  cases hfrom with
  | name hname => exact ⟨fun _ _ => .inr (hown hname), fun _ _ => .inr (.inl (hown hname))⟩
  | affinity hd hnone haffinity =>
      obtain ⟨hnodigits, hmax⟩ := Sqlite.affinity_sizes haffinity
      subst hd
      rw [conventional_dimensioned] at hnone
      constructor
      · intro p hp
        rw [hnodigits] at hp
        cases hp
      · intro length hl
        exact .inr (.inr ⟨rfl, hnone, hmax length hl⟩)
  | arguments hargs =>
      cases hargs with
      | digits hargs hp hs hl =>
          rw [precisionScale?_dimensioned] at hargs
          constructor
          · intro p' hp'
            rw [hp] at hp'
            cases hp'
            exact .inl (showsDigits_sizedBy hargs (hscale.trans hs) _)
          · intro length hlength
            rw [hl] at hlength
            cases hlength
      | length hp hl =>
          constructor
          · intro p hp'
            rw [hp] at hp'
            cases hp'
          · intro length hlength
            have hshown := hl length hlength
            rw [length?_dimensioned] at hshown
            obtain ⟨a, ha, hread⟩ := exists_argument_of_length? hshown
            rw [sizedBy_single ha, hread]
            exact .inl ⟨rfl, rfl⟩

/-- A pinned array of numbers has the precision and the scale of its element. -/
theorem resolve_sizes_numericArrays :
    ∃ r, resolve .postgreSql (.ofPrimitive .string) ⟨[(.postgreSql, "numeric(18, 6)[][]")]⟩ = some r
      ∧ r.precision = some 18 ∧ r.scale? = some 6 ∧ r.length = none := by
  have hread : read "numeric(18, 6)[][]".toList
      = some ⟨"numeric(18, 6)[][]", "numeric", ["18", "6"], "", 2⟩ := by decide +kernel
  have hy : reverse? .postgreSql "numeric(18, 6)[][]".toList
      = some ⟨⟨none, some 18, some 6, true, false⟩, .array (.primitive .decimal) 2⟩ := by
    decide +kernel
  obtain ⟨n, r, hn, hr, hdigits, -⟩ := resolve_sizes (by decide +kernel) hy
    (o := ⟨[(.postgreSql, "numeric(18, 6)[][]")]⟩) rfl (.ofPrimitive .string)
  rw [hread] at hn
  cases hn
  rcases hdigits 18 rfl with hshown | hown
  · cases hshown with
    | both _ hp hs hl => exact ⟨r, hr, hp, hs, hl⟩
    | single hargs _ _ _ => cases hargs
  · exact absurd hown (by decide +kernel)

/-- The precision of a decimal number is pinned as a length. -/
theorem resolve_sizes_precisionAlone :
    ∃ y r, isSafe "decimal(10)".toList = true ∧ reverse? .mySql "decimal(10)".toList = some y
      ∧ resolve .mySql (.ofPrimitive .decimal) ⟨[(.mySql, "decimal(10)")]⟩ = some r
      ∧ y.precision = some 10 ∧ y.scale? = some 0
      ∧ r.precision = none ∧ r.length = some (.bounded 10) :=
  ⟨(NativeDescriptor.ofPrimitive .decimal).withPrecisionScale 10 0,
    (SqlType.plain "decimal(10)").withLength (.bounded 10), by decide +kernel, by decide +kernel,
    by decide +kernel, rfl, rfl, rfl, rfl⟩

end SqlAtlas.TypeMap
