/-
SqlAtlas.Proofs.TypeMap.Arguments — which rows of the tables look at the
arguments of a name.

A row either reads all arguments of a name as sizes, and then refuses a name
with any other argument, or it stands for something whatever the arguments are.
`readsSizes` lists the rows of the first kind: those of decimal numbers, and in
the dialects other than SQLite those of bounded text and bounded byte buffers.
SQLite reads lengths as well, but where it cannot it falls back on the affinity
of the name, so that nothing is refused. `native_sizes` and `native_relisted`
are the two halves.
-/
import SqlAtlas.Proofs.Text.Numeral
import SqlAtlas.TypeMap.Reverse

namespace SqlAtlas

open Text (isBlank lowerAscii readDigits readUnsigned sameIgnoringCase trim)

/-! ## 1. Arguments that are sizes -/

/-- A number as it is read: ASCII digits, perhaps behind a plus sign. -/
def isNumberText (s : List Char) : Bool :=
  (readDigits (match s with
    | '+' :: r => r
    | s => s)).isSome

/-- An argument that is a number or the word for the widest length. -/
def isSizeText (a : List Char) : Bool :=
  isNumberText (trim a) || sameIgnoringCase (trim a) "max".toList

/-- Every argument of a name is a size. -/
def SqlName.HasSizes (n : SqlName) : Prop := ∀ a ∈ n.arguments, isSizeText a.toList = true

theorem isNumberText_of_readUnsigned {bound k : Nat} {s : List Char}
    (h : readUnsigned bound s = some k) : isNumberText s = true := by
  unfold readUnsigned at h
  rw [Option.filter_eq_some_iff] at h
  exact Option.isSome_of_eq_some h.1

theorem mem_of_isNumberText {s : List Char} (h : isNumberText s = true) :
    ∀ c ∈ s, c = '+' ∨ c.isDigit = true := by
  have hdigits : ∀ {r : List Char}, (readDigits r).isSome = true → ∀ c ∈ r, c.isDigit = true := by
    intro r hr
    rw [readDigits] at hr
    split at hr
    · rename_i hall
      simpa using (Bool.and_eq_true_iff.mp hall).2
    · cases hr
  intro c hc
  unfold isNumberText at h
  split at h
  · rcases List.mem_cons.mp hc with rfl | hc
    · exact .inl rfl
    · exact .inr (hdigits h c hc)
  · exact .inr (hdigits h c hc)

/-- No number begins or ends in a blank. -/
theorem trim_of_isNumberText {s : List Char} (h : isNumberText s = true) : trim s = s := by
  refine Text.trim_eq_self_of_forall (fun c hc => ?_)
  rcases mem_of_isNumberText h c hc with rfl | hd
  · decide
  · exact Text.not_isBlank_of_isAlphanum (by rw [Char.isAlphanum, hd, Bool.or_true])

theorem isSizeText_of_readPrecision {a : String} {p : UInt16}
    (h : SqlName.readPrecision a = some p) : isSizeText a.toList = true := by
  obtain ⟨k, hk, -⟩ := Option.map_eq_some_iff.mp h
  have hnumber := isNumberText_of_readUnsigned hk
  rw [isSizeText, trim_of_isNumberText hnumber, hnumber, Bool.true_or]

theorem isSizeText_of_readLength {a : List Char} {length : Length}
    (h : Length.read a = some length) : isSizeText a = true := by
  rw [Length.read] at h
  split at h
  · rename_i hmax
    rw [isSizeText, hmax, Bool.or_true]
  · rw [Length.readWidth] at h
    split at h
    · cases h
    · rename_i hk
      rw [isSizeText, isNumberText_of_readUnsigned hk, Bool.true_or]
    · cases h

namespace SqlName

/-- The name with other arguments, as another text. -/
def relisted (n : SqlName) (name : String) (arguments : List String) : SqlName :=
  { n with name := name, arguments := arguments }

variable {n : SqlName}

theorem hasSizes_nil (h : n.arguments = []) : n.HasSizes := by
  intro a ha
  rw [h] at ha
  cases ha

theorem hasSizes_of_length? {length : Length} (h : n.length? = some length) : n.HasSizes := by
  intro a ha
  rw [length?] at h
  split at h
  · rename_i b hb
    rw [hb, List.mem_singleton] at ha
    rw [ha]
    exact isSizeText_of_readLength h
  · cases h

theorem hasSizes_of_precisionScale? {sizes : UInt16 × Option UInt16}
    (h : n.precisionScale? = some sizes) : n.HasSizes := by
  intro a ha
  rw [precisionScale?] at h
  split at h
  · rename_i p hp
    rw [hp, List.mem_singleton] at ha
    obtain ⟨k, hk, -⟩ := Option.map_eq_some_iff.mp h
    rw [ha]
    exact isSizeText_of_readPrecision hk
  · rename_i p s hps
    split at h
    · rename_i hp hs
      simp only [hps, List.mem_cons, List.not_mem_nil, or_false] at ha
      rcases ha with rfl | rfl
      · exact isSizeText_of_readPrecision hp
      · exact isSizeText_of_readPrecision hs
    · cases h
  · cases h

end SqlName

namespace TypeMap

open SqlName (hasSizes_nil hasSizes_of_length? hasSizes_of_precisionScale?)

/-! ## 2. Readers of sizes -/

section Readers

variable {n : SqlName} {d : NativeDescriptor}

theorem readDecimal_sizes (h : readDecimal n = some d) : n.HasSizes := by
  rw [readDecimal] at h
  split at h
  · exact hasSizes_of_precisionScale? ‹_›
  · exact hasSizes_of_precisionScale? ‹_›
  · split at h
    · exact hasSizes_nil ‹_›
    · cases h

theorem readLength_sizes {e : NativeDescriptor} (h : readLength n e = some d) : n.HasSizes := by
  rw [readLength] at h
  split at h
  · exact hasSizes_nil ‹_›
  · obtain ⟨length, hlength, -⟩ := Option.map_eq_some_iff.mp h
    exact hasSizes_of_length? hlength

theorem readText_sizes {unicode fixed : Bool} (h : readText n unicode fixed = some d) :
    n.HasSizes := readLength_sizes h

theorem readBytes_sizes {fixed : Bool} (h : readBytes n fixed = some d) : n.HasSizes :=
  readLength_sizes h

/-- No arguments, or a length among them. -/
theorem hasSizes_of_short {length : Length}
    (h : (decide (n.arguments = []) || decide (n.length? = some length)) = true) :
    n.HasSizes := by
  simp only [Bool.or_eq_true, decide_eq_true_eq] at h
  rcases h with h | h
  · exact hasSizes_nil h
  · exact hasSizes_of_length? h

theorem SqlServer.readFixedText_sizes {unicode : Bool}
    (h : SqlServer.readFixedText n unicode = some d) : n.HasSizes := by
  rw [SqlServer.readFixedText] at h
  split at h
  · exact hasSizes_of_short ‹_›
  · exact readText_sizes h

theorem PostgreSql.readFixedText_sizes (h : PostgreSql.readFixedText n = some d) :
    n.HasSizes := by
  rw [PostgreSql.readFixedText] at h
  split at h
  · exact hasSizes_of_short ‹_›
  · exact readText_sizes h

theorem MySql.readFixedText_sizes (h : MySql.readFixedText n = some d) : n.HasSizes := by
  rw [MySql.readFixedText] at h
  split at h
  · exact hasSizes_of_length? ‹_›
  · split at h
    · exact hasSizes_of_short ‹_›
    · exact readText_sizes h

theorem MySql.readBoundedBytes_sizes {fixed : Bool}
    (h : MySql.readBoundedBytes n fixed = some d) : n.HasSizes := by
  rw [MySql.readBoundedBytes] at h
  split at h
  · cases h
  · exact readBytes_sizes h

theorem MySql.bit_sizes (h : MySql.bit n = some d) : n.HasSizes := by
  rw [MySql.bit] at h
  split at h
  · rename_i hone
    simp only [Bool.or_eq_true, decide_eq_true_eq] at hone
    rcases hone with hnil | hone
    · exact hasSizes_nil hnil
    · intro a ha
      rw [hone, List.mem_singleton] at ha
      rw [ha]
      decide
  · cases h

end Readers

/-! ## 3. The tables -/

/-- The rows of SQL Server that read sizes. -/
def SqlServer.sizedRows : List String :=
  ["decimal", "numeric", "dec", "char", "nchar", "varchar", "nvarchar", "binary", "varbinary"]

/-- The rows of MySQL that read sizes. -/
def MySql.sizedRows : List String :=
  ["decimal", "numeric", "dec", "fixed", "char", "varchar", "binary", "varbinary", "bit"]

/-- The rows of PostgreSQL that read sizes. -/
def PostgreSql.sizedRows : List String :=
  ["decimal", "numeric", "char", "character", "bpchar", "varchar", "character varying"]

/-- The rows of SQLite that read sizes and do not fall back on an affinity. -/
def Sqlite.sizedRows : List String := ["decimal", "numeric"]

/-- Whether the row of a name reads all its arguments as sizes. -/
def rowReadsSizes : Dialect → SqlName → Bool
  | .sqlServer, n => SqlServer.sizedRows.contains n.base
  | .mySql, n => MySql.sizedRows.contains (MySql.bareKey n)
  | .postgreSql, n => PostgreSql.sizedRows.contains n.key
  | .sqlite, n => Sqlite.sizedRows.contains n.key

section Tables

variable {n : SqlName} {d : NativeDescriptor}

theorem SqlServer.ofBase_sizes (h : SqlServer.ofBase n = some d)
    (hrow : n.base ∈ SqlServer.sizedRows) : n.HasSizes := by
  rw [SqlServer.ofBase] at h
  split at h
  all_goals first
    | with_reducible exact readDecimal_sizes h
    | with_reducible exact readText_sizes h
    | with_reducible exact readBytes_sizes h
    | with_reducible exact SqlServer.readFixedText_sizes h
    -- the row is none of those that read sizes
    | (rename_i hb
       rw [hb] at hrow
       exact absurd hrow (by decide))
    | cases h

theorem MySql.native_sizes (h : MySql.native n = some d)
    (hrow : MySql.bareKey n ∈ MySql.sizedRows) : n.HasSizes := by
  rw [MySql.native] at h
  split at h
  all_goals first
    | with_reducible exact readDecimal_sizes h
    | with_reducible exact readText_sizes h
    | with_reducible exact MySql.readBoundedBytes_sizes h
    | with_reducible exact MySql.readFixedText_sizes h
    | with_reducible exact MySql.bit_sizes h
    | (rename_i hb
       rw [hb] at hrow
       exact absurd hrow (by decide))
    | simp_all [MySql.sizedRows]

theorem PostgreSql.native_sizes (h : PostgreSql.native n = some d)
    (hrow : n.key ∈ PostgreSql.sizedRows) : n.HasSizes := by
  rw [PostgreSql.native] at h
  split at h
  all_goals first
    | with_reducible exact readDecimal_sizes h
    | with_reducible exact readText_sizes h
    | with_reducible exact PostgreSql.readFixedText_sizes h
    | (rename_i hb
       rw [hb] at hrow
       exact absurd hrow (by decide))
    | cases h

theorem Sqlite.native_sizes (h : Sqlite.native n = some d) (hrow : n.key ∈ Sqlite.sizedRows) :
    n.HasSizes := by
  simp only [Sqlite.sizedRows, List.mem_cons, List.not_mem_nil, or_false] at hrow
  have haffinity : Sqlite.affinity n.key = none := by
    rcases hrow with hb | hb <;> (rw [hb]; decide)
  rw [Sqlite.native, haffinity, Option.or_none, Sqlite.conventional] at h
  rcases hrow with hb | hb
  · rw [hb] at h
    exact readDecimal_sizes h
  · rw [hb] at h
    exact readDecimal_sizes h

theorem SqlServer.ofBase_relisted (h : SqlServer.ofBase n = some d)
    (hrow : n.base ∉ SqlServer.sizedRows) (name : String) (arguments : List String) :
    (SqlServer.ofBase (n.relisted name arguments)).isSome = true := by
  have hbase : (n.relisted name arguments).base = n.base := rfl
  rw [SqlServer.ofBase] at h ⊢
  rw [hbase]
  generalize n.base = base at h hrow ⊢
  split at h
  all_goals first
    | exact absurd (by decide) hrow
    | rfl
    | cases h

theorem MySql.isSome_tinyInteger (n : SqlName) : (MySql.tinyInteger n).isSome = true := by
  rw [MySql.tinyInteger]
  split <;> rfl

theorem MySql.native_relisted (h : MySql.native n = some d)
    (hrow : MySql.bareKey n ∉ MySql.sizedRows) (name : String) (arguments : List String) :
    (MySql.native (n.relisted name arguments)).isSome = true := by
  have hkey : MySql.bareKey (n.relisted name arguments) = MySql.bareKey n := rfl
  rw [MySql.native] at h ⊢
  rw [hkey]
  generalize MySql.bareKey n = key at h hrow ⊢
  split at h
  all_goals first
    | exact absurd (by decide) hrow
    | with_reducible exact MySql.isSome_tinyInteger _
    | rfl
    | simp [*]

theorem PostgreSql.native_relisted (h : PostgreSql.native n = some d)
    (hrow : n.key ∉ PostgreSql.sizedRows) (name : String) (arguments : List String) :
    (PostgreSql.native (n.relisted name arguments)).isSome = true := by
  have hkey : (n.relisted name arguments).key = n.key := rfl
  rw [PostgreSql.native] at h ⊢
  rw [hkey]
  generalize n.key = key at h hrow ⊢
  split at h
  all_goals first
    | exact absurd (by decide) hrow
    | rfl
    | cases h

theorem Sqlite.conventional_relisted (h : Sqlite.conventional n = some d)
    (hrow : n.key ∉ Sqlite.sizedRows) (haffinity : Sqlite.affinity n.key = none)
    (name : String) (arguments : List String) :
    (Sqlite.conventional (n.relisted name arguments)).isSome = true := by
  have hkey : (n.relisted name arguments).key = n.key := rfl
  rw [Sqlite.conventional] at h ⊢
  rw [hkey]
  generalize n.key = key at h hrow haffinity ⊢
  split at h
  all_goals first
    | exact absurd (by decide) hrow
    | exact absurd haffinity (by decide)
    | rfl
    | simp [*]

theorem Sqlite.native_relisted (h : Sqlite.native n = some d) (hrow : n.key ∉ Sqlite.sizedRows)
    (name : String) (arguments : List String) :
    (Sqlite.native (n.relisted name arguments)).isSome = true := by
  have hkey : (n.relisted name arguments).key = n.key := rfl
  rw [Sqlite.native, Option.isSome_or, hkey, Bool.or_eq_true]
  cases haffinity : Sqlite.affinity n.key with
  | some e => exact .inr rfl
  | none =>
      rw [Sqlite.native, haffinity, Option.or_none] at h
      exact .inl (Sqlite.conventional_relisted h hrow haffinity name arguments)

/-- **A row that reads sizes refuses any other argument.** -/
theorem native_sizes {dialect : Dialect} (h : native dialect n = some d)
    (hrow : rowReadsSizes dialect n = true) : n.HasSizes := by
  cases dialect <;> simp only [rowReadsSizes, List.contains_iff_mem] at hrow <;> rw [native] at h
  case sqlServer =>
    rw [SqlServer.native] at h
    split at h
    · exact SqlServer.ofBase_sizes h hrow
    · cases h
  case mySql => exact MySql.native_sizes h hrow
  case postgreSql => exact PostgreSql.native_sizes h hrow
  case sqlite => exact Sqlite.native_sizes h hrow

/-- **Any other row takes every argument.** -/
theorem native_relisted {dialect : Dialect} (h : native dialect n = some d)
    (hrow : rowReadsSizes dialect n = false) (name : String) (arguments : List String) :
    (native dialect (n.relisted name arguments)).isSome = true := by
  cases dialect <;>
    simp only [rowReadsSizes, List.contains_eq_mem, decide_eq_false_iff_not] at hrow <;>
    rw [native] at h ⊢
  case sqlServer =>
    have hmodifiers : (n.relisted name arguments).modifiers = n.modifiers := rfl
    rw [SqlServer.native] at h ⊢
    split at h
    · rename_i hnone
      rw [hmodifiers, if_pos hnone]
      exact SqlServer.ofBase_relisted h hrow name arguments
    · cases h
  case mySql => exact MySql.native_relisted h hrow name arguments
  case postgreSql => exact PostgreSql.native_relisted h hrow name arguments
  case sqlite => exact Sqlite.native_relisted h hrow name arguments

end Tables

/-! ## 4. Names with dimensions -/

/-- Whether the row of a name, or of its element, reads all its arguments as
sizes. -/
def readsSizes (dialect : Dialect) (n : SqlName) : Bool :=
  rowReadsSizes dialect (dimensioned dialect n).1

theorem catalogElement?_relisted (dialect : Dialect) (n : SqlName) (name : String)
    (arguments : List String) :
    catalogElement? dialect (n.relisted name arguments)
      = (catalogElement? dialect n).map (fun e => e.relisted name arguments) := by
  cases dialect with
  | postgreSql =>
      have hbase : (n.relisted name arguments).base = n.base := rfl
      rw [catalogElement?, catalogElement?, PostgreSql.catalogElement?,
          PostgreSql.catalogElement?, hbase]
      split <;> rfl
  | _ => rfl

theorem dimensioned_relisted (dialect : Dialect) (n : SqlName) (name : String)
    (arguments : List String) :
    dimensioned dialect (n.relisted name arguments)
      = ((dimensioned dialect n).1.relisted name arguments, (dimensioned dialect n).2) := by
  have hdim : (n.relisted name arguments).dimensions = n.dimensions := rfl
  rw [dimensioned, dimensioned, hdim, catalogElement?_relisted]
  split
  · rfl
  · cases catalogElement? dialect n <;> rfl

/-- The element of a name has its text and its arguments. -/
theorem name_dimensioned (dialect : Dialect) (n : SqlName) :
    (dimensioned dialect n).1.name = n.name :=
  congrArg (fun p => p.1.name) (dimensioned_relisted dialect n n.name n.arguments)

theorem arguments_dimensioned (dialect : Dialect) (n : SqlName) :
    (dimensioned dialect n).1.arguments = n.arguments :=
  congrArg (fun p => p.1.arguments) (dimensioned_relisted dialect n n.name n.arguments)

/-- Whether dimensions make an array has nothing to do with its element. -/
theorem isSome_arrayed (d e : NativeDescriptor) (dimensions : Nat) :
    (arrayed d dimensions).toOption.isSome = (arrayed e dimensions).toOption.isSome := by
  rw [arrayed, arrayed, NativeType.arrayOfRank, NativeType.arrayOfRank]
  by_cases hrank : 1 ≤ dimensions ∧ dimensions ≤ maxArrayRank
  · rw [if_pos hrank, if_pos hrank]
    split <;> rfl
  · rw [if_neg hrank, if_neg hrank]
    split <;> rfl

/-- What a name stands for, step by step. -/
theorem toOption_ofName (dialect : Dialect) (n : SqlName) :
    (ofName dialect n).toOption
      = if 0 < (dimensioned dialect n).2 && !dialect.hasArrays then none
        else (native dialect (dimensioned dialect n).1).bind
          (fun d => (arrayed d (dimensioned dialect n).2).toOption) := by
  rw [ofName]
  obtain ⟨element, dimensions⟩ := dimensioned dialect n
  dsimp only
  split
  · rfl
  · cases native dialect element <;> rfl

/-- **A name that stands for something has sizes for arguments, where its row
reads them.** -/
theorem ofName_sizes {dialect : Dialect} {n : SqlName} {d : NativeDescriptor}
    (h : (ofName dialect n).toOption = some d) (hrow : readsSizes dialect n = true) :
    n.HasSizes := by
  rw [toOption_ofName] at h
  split at h
  · cases h
  · obtain ⟨e, he, -⟩ := Option.bind_eq_some_iff.mp h
    have hsizes := native_sizes he hrow
    rwa [SqlName.HasSizes, arguments_dimensioned] at hsizes

/-- **Elsewhere it stands for something whatever its arguments are.** -/
theorem ofName_relisted {dialect : Dialect} {n : SqlName} {d : NativeDescriptor}
    (h : (ofName dialect n).toOption = some d) (hrow : readsSizes dialect n = false)
    (name : String) (arguments : List String) :
    (ofName dialect (n.relisted name arguments)).toOption.isSome = true := by
  rw [toOption_ofName] at h
  rw [toOption_ofName, dimensioned_relisted]
  split at h
  · cases h
  · rename_i harrays
    obtain ⟨e, he, harrayed⟩ := Option.bind_eq_some_iff.mp h
    obtain ⟨e', he'⟩ := Option.isSome_iff_exists.mp (native_relisted he hrow name arguments)
    rw [if_neg harrays, he', Option.bind_some, isSome_arrayed e' e, harrayed]
    rfl

end TypeMap

end SqlAtlas
