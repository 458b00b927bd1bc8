/-
SqlAtlas.Proofs.TypeMap.Restyling — what a name stands for does not depend on its
looks.

Texts that differ in the case of their ASCII letters and in their blanks have the
same tokens, so they are alike names or no names at all. What is left is that the
tables look at nothing else: at the words of a name, at how many arguments it has,
and at arguments that are read as a number, as the word for the widest length or
as the name of a shape. All of these are solid texts (`apply_trim_eq_of_tokens`),
so each reader of arguments agrees on alike names, and so does each row.
-/
import SqlAtlas.Proofs.SqlName.Restyled
import SqlAtlas.Proofs.TypeMap.Arguments

namespace SqlAtlas

open SqlName (Alike AlikeArguments IsSolid Restyled apply_trim_eq_of_tokens eq_of_sameIgnoringCase
  isNumberChar isSolid_of_number tokens)
open Text (lowerAscii readUnsigned sameIgnoringCase trim)

/-! ## 1. Solid texts -/

theorem isNumberChar_of_isNumberText {s : List Char} (h : isNumberText s = true) :
    ∀ c ∈ s, isNumberChar c = true := by
  intro c hc
  simpa [isNumberChar] using mem_of_isNumberText h c hc

theorem isSolid_of_isNumberText {s : List Char} (h : isNumberText s = true) : IsSolid s := by
  refine isSolid_of_number ?_ (isNumberChar_of_isNumberText h)
  rintro rfl
  exact absurd h (by decide)

section

variable {s t : List Char} (h : tokens s = tokens t)

include h

theorem readUnsigned_of_tokens (bound : Nat) :
    readUnsigned bound (trim s) = readUnsigned bound (trim t) := by
  refine apply_trim_eq_of_tokens (fun hv => ?_) (fun hv hcase => ?_) h
  · exact isSolid_of_isNumberText (isNumberText_of_readUnsigned hv)
  · have hnumber := isNumberChar_of_isNumberText (isNumberText_of_readUnsigned hv)
    rwa [← eq_of_sameIgnoringCase hnumber hcase]

theorem sameIgnoringCase_of_tokens {w : List Char} (hw : IsSolid w) :
    sameIgnoringCase (trim s) w = sameIgnoringCase (trim t) w := by
  have hforth : ∀ {s t : List Char}, tokens s = tokens t →
      sameIgnoringCase (trim s) w = true → sameIgnoringCase (trim t) w = true := by
    intro s t h hs
    have hone := SqlName.tokens_of_isSolid (hw.of_sameIgnoringCase hs)
    rw [SqlName.tokens_trim, h] at hone
    rwa [sameIgnoringCase, SqlName.lowerAscii_trim_of_tokens hone]
  exact Bool.eq_iff_iff.mpr ⟨hforth h, hforth h.symm⟩

theorem Length.read_of_tokens : Length.read s = Length.read t := by
  have hmax : IsSolid "max".toList := by decide
  rw [Length.read, Length.read, sameIgnoringCase_of_tokens h hmax, Length.readWidth,
    Length.readWidth, readUnsigned_of_tokens h]

theorem Geometry.ofName?_of_tokens : Geometry.ofName? s = Geometry.ofName? t := by
  have hname : ∀ g : Geometry, IsSolid g.name.toList := by
    intro g
    cases g <;> decide
  rw [Geometry.ofName?, Geometry.ofName?]
  congr 1
  funext g
  rw [sameIgnoringCase, BEq.comm, ← sameIgnoringCase, sameIgnoringCase_of_tokens h (hname g),
    sameIgnoringCase, BEq.comm, ← sameIgnoringCase]

end

/-! ## 2. Readers of arguments -/

namespace SqlName

theorem AlikeArguments.readPrecision_eq {a a' : String} (h : AlikeArguments a a') :
    readPrecision a = readPrecision a' := by
  have hread := readUnsigned_of_tokens h.tokens (UInt16.size - 1)
  rw [h.left, h.right] at hread
  rw [readPrecision, readPrecision, hread]

/-- An argument is the digit one in any style or in none. -/
theorem AlikeArguments.eq_one_iff {a a' : String} (h : AlikeArguments a a') :
    a = "1" ↔ a' = "1" := by
  have hone : ∀ {b : String}, trim b.toList = b.toList →
      (sameIgnoringCase (trim b.toList) ['1'] = true ↔ b = "1") := by
    intro b hb
    rw [hb]
    constructor
    · intro hsame
      have hdigit : ['1'] = b.toList := by
        refine eq_of_sameIgnoringCase (by decide) ?_
        rwa [sameIgnoringCase, BEq.comm, ← sameIgnoringCase]
      exact String.toList_inj.mp hdigit.symm
    · rintro rfl
      decide
  rw [← hone h.left, ← hone h.right, sameIgnoringCase_of_tokens h.tokens (by decide)]

namespace Alike

variable {n n' : SqlName} (h : n.Alike n')

include h

theorem key_eq : n.key = n'.key := by rw [key, key, h.base, h.modifiers]

theorem arguments_eq_nil_iff : n.arguments = [] ↔ n'.arguments = [] := by
  rw [← List.length_eq_zero_iff, h.arguments.length_eq, List.length_eq_zero_iff]

theorem arguments_eq_one_iff : n.arguments = ["1"] ↔ n'.arguments = ["1"] := by
  have hall := h.arguments
  generalize n.arguments = as at hall ⊢
  generalize n'.arguments = as' at hall ⊢
  cases hall with
  | nil => exact Iff.rfl
  | cons ha hrest =>
      cases hrest with
      | nil => simp [ha.eq_one_iff]
      | cons => simp

theorem length?_eq : n.length? = n'.length? := by
  have hall := h.arguments
  rw [length?, length?]
  generalize n.arguments = as at hall
  generalize n'.arguments = as' at hall
  cases hall with
  | nil => rfl
  | cons ha hrest =>
      cases hrest with
      | nil => exact Length.read_of_tokens ha.tokens
      | cons => rfl

theorem precisionScale?_eq : n.precisionScale? = n'.precisionScale? := by
  have hall := h.arguments
  rw [precisionScale?, precisionScale?]
  generalize n.arguments = as at hall
  generalize n'.arguments = as' at hall
  cases hall with
  | nil => rfl
  | cons hp hrest =>
      cases hrest with
      | nil => simp only [hp.readPrecision_eq]
      | cons hs hrest =>
          cases hrest with
          | nil => simp only [hp.readPrecision_eq, hs.readPrecision_eq]
          | cons => rfl

theorem shape_eq : n.arguments.head?.bind (fun a => Geometry.ofName? a.toList)
    = n'.arguments.head?.bind (fun a => Geometry.ofName? a.toList) := by
  have hall := h.arguments
  generalize n.arguments = as at hall
  generalize n'.arguments = as' at hall
  cases hall with
  | nil => rfl
  | cons ha => exact Geometry.ofName?_of_tokens ha.tokens

end Alike

end SqlName

/-! ## 3. Rows -/

namespace TypeMap

variable {n n' : SqlName} (h : n.Alike n')

include h

theorem readDecimal_alike : readDecimal n = readDecimal n' := by
  rw [readDecimal, readDecimal, h.precisionScale?_eq]
  split
  · rfl
  · rfl
  · exact if_congr h.arguments_eq_nil_iff rfl rfl

theorem readLength_alike (d : NativeDescriptor) : readLength n d = readLength n' d := by
  rw [readLength, readLength, h.length?_eq]
  exact if_congr h.arguments_eq_nil_iff rfl rfl

theorem readText_alike (unicode fixed : Bool) :
    readText n unicode fixed = readText n' unicode fixed := readLength_alike h _

theorem readBytes_alike (fixed : Bool) : readBytes n fixed = readBytes n' fixed :=
  readLength_alike h _

theorem readGeometry_alike : readGeometry n = readGeometry n' := by
  rw [readGeometry, readGeometry, h.shape_eq]

theorem readFloat_alike : readFloat n = readFloat n' := by
  rw [readFloat, readFloat, h.precisionScale?_eq]

/-- No arguments, or one length. -/
theorem isShort_alike (length : Length) :
    (decide (n.arguments = []) || decide (n.length? = some length))
      = (decide (n'.arguments = []) || decide (n'.length? = some length)) := by
  rw [decide_eq_decide.mpr h.arguments_eq_nil_iff, h.length?_eq]

theorem SqlServer.readFixedText_alike (unicode : Bool) :
    SqlServer.readFixedText n unicode = SqlServer.readFixedText n' unicode := by
  rw [SqlServer.readFixedText, SqlServer.readFixedText, isShort_alike h, readText_alike h]

theorem PostgreSql.readFixedText_alike :
    PostgreSql.readFixedText n = PostgreSql.readFixedText n' := by
  rw [PostgreSql.readFixedText, PostgreSql.readFixedText, isShort_alike h, readText_alike h]

theorem MySql.readFixedText_alike : MySql.readFixedText n = MySql.readFixedText n' := by
  rw [MySql.readFixedText, MySql.readFixedText, isShort_alike h, readText_alike h, h.length?_eq]

theorem Sqlite.readFixedText_alike : Sqlite.readFixedText n = Sqlite.readFixedText n' := by
  rw [Sqlite.readFixedText, Sqlite.readFixedText, readText_alike h, h.length?_eq]

theorem MySql.readBoundedBytes_alike (fixed : Bool) :
    MySql.readBoundedBytes n fixed = MySql.readBoundedBytes n' fixed := by
  rw [MySql.readBoundedBytes, MySql.readBoundedBytes, readBytes_alike h, h.length?_eq]

theorem MySql.isUnsigned_alike : MySql.isUnsigned n = MySql.isUnsigned n' := by
  rw [MySql.isUnsigned, MySql.isUnsigned, h.key_eq]

theorem MySql.bareKey_alike : MySql.bareKey n = MySql.bareKey n' := by
  rw [MySql.bareKey, MySql.bareKey, h.key_eq]

theorem MySql.integer_alike (signed unsigned : Primitive) :
    MySql.integer n signed unsigned = MySql.integer n' signed unsigned := by
  rw [MySql.integer, MySql.integer, MySql.isUnsigned_alike h]

theorem MySql.tinyInteger_alike : MySql.tinyInteger n = MySql.tinyInteger n' := by
  rw [MySql.tinyInteger, MySql.tinyInteger, MySql.isUnsigned_alike h, MySql.integer_alike h,
    decide_eq_decide.mpr h.arguments_eq_one_iff]

theorem MySql.bit_alike : MySql.bit n = MySql.bit n' := by
  rw [MySql.bit, MySql.bit, decide_eq_decide.mpr h.arguments_eq_nil_iff,
    decide_eq_decide.mpr h.arguments_eq_one_iff]

/-! ## 4. Tables -/

theorem SqlServer.native_alike : SqlServer.native n = SqlServer.native n' := by
  have hbase : SqlServer.ofBase n = SqlServer.ofBase n' := by
    simp only [SqlServer.ofBase, h.base, readFloat_alike h, readDecimal_alike h,
      SqlServer.readFixedText_alike h, readText_alike h, readBytes_alike h, readGeometry_alike h]
  rw [SqlServer.native, SqlServer.native, h.modifiers, hbase]

theorem MySql.native_alike : MySql.native n = MySql.native n' := by
  simp only [MySql.native, MySql.bareKey_alike h, MySql.tinyInteger_alike h, MySql.bit_alike h,
    MySql.integer_alike h, readDecimal_alike h, MySql.readFixedText_alike h, readText_alike h,
    MySql.readBoundedBytes_alike h]

theorem PostgreSql.native_alike : PostgreSql.native n = PostgreSql.native n' := by
  simp only [PostgreSql.native, h.key_eq, readFloat_alike h, readDecimal_alike h,
    PostgreSql.readFixedText_alike h, readText_alike h, readGeometry_alike h]

theorem Sqlite.native_alike : Sqlite.native n = Sqlite.native n' := by
  have hconventional : Sqlite.conventional n = Sqlite.conventional n' := by
    simp only [Sqlite.conventional, h.key_eq, readDecimal_alike h, Sqlite.readFixedText_alike h,
      readText_alike h, readGeometry_alike h]
  rw [Sqlite.native, Sqlite.native, hconventional, h.key_eq]

/-- **Alike names stand for the same in every table.** -/
theorem native_alike (dialect : Dialect) : native dialect n = native dialect n' := by
  cases dialect <;> rw [native]
  case sqlServer => exact SqlServer.native_alike h
  case mySql => exact MySql.native_alike h
  case postgreSql => exact PostgreSql.native_alike h
  case sqlite => exact Sqlite.native_alike h

/-! ## 5. Names and texts -/

/-- In catalog notation alike names have the same base for an element, or none. -/
theorem catalogElement?_alike (dialect : Dialect) :
    catalogElement? dialect n = none ∧ catalogElement? dialect n' = none ∨
      ∃ base, catalogElement? dialect n = some (n.withBase base)
        ∧ catalogElement? dialect n' = some (n'.withBase base) := by
  cases dialect with
  | postgreSql =>
      rw [catalogElement?, catalogElement?, PostgreSql.catalogElement?,
        PostgreSql.catalogElement?, h.base]
      split
      · exact .inr ⟨_, rfl, rfl⟩
      · exact .inl ⟨rfl, rfl⟩
  | _ => exact .inl ⟨rfl, rfl⟩

/-- The elements of alike names are alike, at the same number of dimensions. -/
theorem dimensioned_alike (dialect : Dialect) :
    (dimensioned dialect n).1.Alike (dimensioned dialect n').1
      ∧ (dimensioned dialect n).2 = (dimensioned dialect n').2 := by
  rw [dimensioned, dimensioned, h.dimensions]
  split
  · exact ⟨⟨h.base, h.modifiers, rfl, h.arguments⟩, rfl⟩
  · rcases catalogElement?_alike h dialect with ⟨hn, hn'⟩ | ⟨base, hn, hn'⟩
    · rw [hn, hn']
      exact ⟨h, rfl⟩
    · rw [hn, hn']
      exact ⟨⟨rfl, h.modifiers, h.dimensions, h.arguments⟩, rfl⟩

theorem ofName_alike (dialect : Dialect) : ofName dialect n = ofName dialect n' := by
  obtain ⟨helement, hdimensions⟩ := dimensioned_alike h dialect
  rw [ofName, ofName]
  dsimp only
  rw [hdimensions, native_alike helement]

omit h

/-- A text means what its tokens mean, whether it is a name or not. -/
theorem reverse_of_tokens {s t : List Char} (h : tokens s = tokens t) (dialect : Dialect) :
    reverse dialect s = reverse dialect t := by
  rw [reverse, reverse]
  cases hs : SqlName.read s with
  | some n =>
      obtain ⟨n', ht, halike⟩ := SqlName.read_of_tokens h hs
      rw [ht]
      exact ofName_alike halike dialect
  | none =>
      cases ht : SqlName.read t with
      | none => rfl
      | some n' =>
          obtain ⟨n, hn, -⟩ := SqlName.read_of_tokens h.symm ht
          rw [hs] at hn
          cases hn

/-- **Restyling a text does not change what it stands for**, in any dialect and
for well-formed and malformed texts alike. -/
theorem reverse?_restyled {s t : List Char} (h : Relation.EqvGen Restyled s t)
    (dialect : Dialect) : reverse? dialect s = reverse? dialect t := by
  have htokens : tokens s = tokens t := by
    induction h with
    | rel s t h => exact SqlName.tokens_eq_of_restyled h
    | refl s => rfl
    | symm s t _ ih => exact ih.symm
    | trans s t u _ _ hst htu => exact hst.trans htu
  rw [reverse?, reverse?, reverse_of_tokens htokens]

theorem reverse?_restyled_varchar :
    Relation.EqvGen Restyled "VARCHAR (40)".toList "varchar(40)".toList
      ∧ reverse? .sqlServer "VARCHAR (40)".toList = reverse? .sqlServer "varchar(40)".toList := by
  have hletters : Restyled "VARCHAR (40)".toList "varchar (40)".toList := .letters (by decide)
  have hblank : Restyled "varchar(40)".toList "varchar (40)".toList :=
    .before (s := "varchar".toList) (b := [' ']) (m := '(') (t := "40)".toList) (by decide)
      (by decide)
  have hedits := (Relation.EqvGen.rel _ _ hletters).trans _ _ _ (.symm _ _ (.rel _ _ hblank))
  exact ⟨hedits, reverse?_restyled hedits .sqlServer⟩

end TypeMap

end SqlAtlas
