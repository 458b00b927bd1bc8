/-
SqlAtlas.Proofs.TypeMap.Columns — what the rules of a dialect make of the
columns that they write themselves.

A column is written with its sizes in its name, and reported with the same
sizes. Reading the name back therefore gives a descriptor that the reported
sizes determine: `ofTextSizes` for text, `ofByteSizes` for byte buffers and
`ofDigitSizes` for decimal numbers. `reverse?_text`, `reverse?_binary` and
`reverse?_ofDigits` say so for every dialect and every size but the width
zero, which reads as no width.

Text does not always come back as text. Of fixed length one it is a
character, and of the length of an identifier it is one where identifiers are
kept as text. Only SQL Server writes down whether text is unicode; elsewhere
it always comes back as unicode.
-/
import SqlAtlas.Proofs.SqlName.Spelling
import SqlAtlas.TypeMap.Reverse

namespace SqlAtlas.TypeMap

open SqlName (IsBase isArgumentText)

/-! ## 1. Descriptors by sizes -/

/-- Whether the dialect keeps identifiers as text. -/
def keepsUuidAsText : Dialect → Bool
  | .mySql => true
  | .sqlite => true
  | _ => false

/-- Whether text of these sizes comes back as unicode. -/
def comesBackUnicode (dialect : Dialect) (s : Sizing) : Bool :=
  if dialect = .sqlServer then s.unicode else true

/-- The descriptor that a text column of these sizes comes back as. -/
def ofTextSizes (dialect : Dialect) (s : Sizing) : NativeDescriptor :=
  if s.fixed = true ∧ s.length = some (.bounded 1) then
    (NativeDescriptor.ofPrimitive .char).withUnicode (comesBackUnicode dialect s)
  else if keepsUuidAsText dialect ∧ s.fixed = true ∧ s.length = some (.bounded uuidWidth) then
    .ofPrimitive .uuid
  else ⟨⟨s.length, none, none, comesBackUnicode dialect s, s.fixed⟩, .primitive .string⟩

/-- The descriptor that a column of byte buffers comes back as. -/
def ofByteSizes (s : Sizing) : NativeDescriptor :=
  ⟨⟨s.length, none, none, true, s.fixed⟩, .bytes⟩

/-- The descriptor that a column of decimal numbers comes back as. -/
def ofDigitSizes (s : Sizing) : NativeDescriptor :=
  ⟨⟨none, s.precision, s.scale, true, false⟩, .primitive .decimal⟩

/-! ## 2. Spelled names -/

/-- A name without bracket groups whose base does not begin with an underscore
is no array. -/
theorem dimensioned_of_plain (dialect : Dialect) {n : SqlName} (hd : n.dimensions = 0)
    (hu : n.base.toList.head? ≠ some '_') : dimensioned dialect n = (n, 0) := by
  have hcatalog : catalogElement? dialect n = none := by
    cases dialect with
    | postgreSql =>
        rw [catalogElement?, PostgreSql.catalogElement?]
        split
        · rename_i h
          exact absurd (by rw [h]; rfl) hu
        · rfl
    | _ => rfl
  rw [dimensioned, hd, hcatalog]
  rfl

/-- A name that is no array is read by the rules of the dialect. -/
theorem reverse?_of_read {dialect : Dialect} {text : List Char} {n : SqlName}
    (hread : SqlName.read text = some n) (hdim : dimensioned dialect n = (n, 0)) :
    reverse? dialect text = native dialect n := by
  simp only [reverse?, reverse, hread, ofName, hdim]
  cases native dialect n <;> rfl

/-- A spelled name is read by the rules of the dialect as it was spelled. -/
theorem reverse?_spelled (dialect : Dialect) {base : String} {arguments : List String}
    (hb : IsBase base.toList) (hu : base.toList.head? ≠ some '_')
    (ha : ∀ a ∈ arguments, isArgumentText a.toList = true) :
    reverse? dialect (spelled base arguments).name.toList
      = native dialect ⟨SqlName.spell base arguments 0, base, arguments, "", 0⟩ :=
  reverse?_of_read (SqlName.read_spell hb ha) (dimensioned_of_plain dialect rfl hu)

theorem reverse?_ofWidth (dialect : Dialect) {base : String} (hb : IsBase base.toList)
    (hu : base.toList.head? ≠ some '_') (width : UInt32) :
    reverse? dialect (ofWidth base width).name.toList
      = native dialect ⟨SqlName.spell base [toString width.toNat] 0, base,
          [toString width.toNat], "", 0⟩ :=
  reverse?_spelled dialect hb hu (by
    intro a h
    rw [List.mem_singleton.mp h]
    exact SqlName.isArgumentText_toString _)

theorem reverse?_ofDigits_spelled (dialect : Dialect) {base : String} (hb : IsBase base.toList)
    (hu : base.toList.head? ≠ some '_') (precision scale : UInt16) :
    reverse? dialect (ofDigits base precision scale).name.toList
      = native dialect ⟨SqlName.spell base [toString precision.toNat, toString scale.toNat] 0,
          base, [toString precision.toNat, toString scale.toNat], "", 0⟩ :=
  reverse?_spelled dialect hb hu (by
    intro a h
    simp only [List.mem_cons, List.not_mem_nil, or_false] at h
    rcases h with rfl | rfl <;> exact SqlName.isArgumentText_toString _)

/-! ## 3. Sizes in a name -/

theorem length?_of_width {n : SqlName} {width : UInt32} (hn : n.arguments = [toString width.toNat])
    (hw : width ≠ 0) : n.length? = some (.bounded width) := by
  rw [SqlName.length?, hn]
  simp only [Length.read_toString, if_neg hw]

theorem readLength_of_width {n : SqlName} {width : UInt32}
    (hn : n.arguments = [toString width.toNat]) (hw : width ≠ 0) (d : NativeDescriptor) :
    readLength n d = some { d with length := some (.bounded width) } := by
  rw [readLength, length?_of_width hn hw, if_neg (by simp [hn])]
  simp [NativeDescriptor.withLength, NativeDescriptor.usable?, hw]

/-- Decimal numbers take the precision and the scale that a name shows. -/
theorem readDecimal_of_digits {n : SqlName} {precision scale : UInt16}
    (hn : n.arguments = [toString precision.toNat, toString scale.toNat]) :
    readDecimal n
      = some (ofDigitSizes ((Sizing.unsized false).setPrecisionScale precision scale)) := by
  have h : n.precisionScale? = some (precision, some scale) := by
    rw [SqlName.precisionScale?, hn]
    simp only [SqlName.readPrecision_toString]
  rw [readDecimal, h]
  rfl

/-! ## 4. Text -/

theorem readText_of_width {n : SqlName} {width : UInt32}
    (hn : n.arguments = [toString width.toNat]) (hw : width ≠ 0) (unicode fixed : Bool) :
    readText n unicode fixed
      = some ⟨⟨some (.bounded width), none, none, unicode, fixed⟩, .primitive .string⟩ := by
  rw [readText, readLength_of_width hn hw]
  rfl

theorem ofTextSizes_varying (dialect : Dialect) (length? : Option Length) (unicode : Bool) :
    ofTextSizes dialect ⟨length?, none, none, unicode, false⟩
      = ⟨⟨length?, none, none, if dialect = .sqlServer then unicode else true, false⟩,
          .primitive .string⟩ := by
  simp [ofTextSizes, comesBackUnicode]

theorem SqlServer.readFixedText_of_width {n : SqlName} {width : UInt32}
    (hn : n.arguments = [toString width.toNat]) (hw : width ≠ 0) (unicode : Bool) :
    SqlServer.readFixedText n unicode
      = some (ofTextSizes .sqlServer ⟨some (.bounded width), none, none, unicode, true⟩) := by
  rw [SqlServer.readFixedText, length?_of_width hn hw, readText_of_width hn hw]
  by_cases h1 : width = 1
  · simp [ofTextSizes, h1, comesBackUnicode]
  · simp [ofTextSizes, h1, hn, comesBackUnicode, keepsUuidAsText]

theorem MySql.readFixedText_of_width {n : SqlName} {width : UInt32}
    (hn : n.arguments = [toString width.toNat]) (hw : width ≠ 0) (unicode : Bool) :
    MySql.readFixedText n
      = some (ofTextSizes .mySql ⟨some (.bounded width), none, none, unicode, true⟩) := by
  rw [MySql.readFixedText, length?_of_width hn hw, readText_of_width hn hw]
  by_cases h36 : width = uuidWidth
  · simp [ofTextSizes, h36, keepsUuidAsText, show uuidWidth ≠ 1 by decide]
  · by_cases h1 : width = 1
    · simp [ofTextSizes, h1, comesBackUnicode, show (1 : UInt32) ≠ uuidWidth by decide]
      rfl
    · simp [ofTextSizes, h1, h36, hn, comesBackUnicode, keepsUuidAsText]

theorem PostgreSql.readFixedText_of_width {n : SqlName} {width : UInt32}
    (hn : n.arguments = [toString width.toNat]) (hw : width ≠ 0) (unicode : Bool) :
    PostgreSql.readFixedText n
      = some (ofTextSizes .postgreSql ⟨some (.bounded width), none, none, unicode, true⟩) := by
  rw [PostgreSql.readFixedText, length?_of_width hn hw, readText_of_width hn hw]
  by_cases h1 : width = 1
  · simp [ofTextSizes, h1, comesBackUnicode]
    rfl
  · simp [ofTextSizes, h1, hn, comesBackUnicode, keepsUuidAsText]

theorem Sqlite.readFixedText_of_width {n : SqlName} {width : UInt32}
    (hn : n.arguments = [toString width.toNat]) (hw : width ≠ 0) (unicode : Bool) :
    Sqlite.readFixedText n
      = some (ofTextSizes .sqlite ⟨some (.bounded width), none, none, unicode, true⟩) := by
  rw [Sqlite.readFixedText, length?_of_width hn hw, readText_of_width hn hw]
  by_cases h36 : width = uuidWidth
  · simp [ofTextSizes, h36, keepsUuidAsText, show uuidWidth ≠ 1 by decide]
  · by_cases h1 : width = 1
    · simp [ofTextSizes, h1, comesBackUnicode, show (1 : UInt32) ≠ uuidWidth by decide]
      rfl
    · simp [ofTextSizes, h1, h36, comesBackUnicode, keepsUuidAsText]

theorem SqlServer.reverse?_textBase {width : UInt32} (hw : width ≠ 0) (unicode fixed : Bool) :
    reverse? .sqlServer (ofWidth (SqlServer.textBase unicode fixed) width).name.toList
      = some (ofTextSizes .sqlServer ⟨some (.bounded width), none, none, unicode, fixed⟩) := by
  have hrow : ∀ name arguments,
      TypeMap.native .sqlServer ⟨name, SqlServer.textBase unicode fixed, arguments, "", 0⟩
        = if fixed then SqlServer.readFixedText
            ⟨name, SqlServer.textBase unicode fixed, arguments, "", 0⟩ unicode
          else readText
            ⟨name, SqlServer.textBase unicode fixed, arguments, "", 0⟩ unicode false := by
    intro name arguments
    cases unicode <;> cases fixed <;> rfl
  have hbase : IsBase (SqlServer.textBase unicode fixed).toList
      ∧ (SqlServer.textBase unicode fixed).toList.head? ≠ some '_' := by
    cases unicode <;> cases fixed <;> decide
  rw [reverse?_ofWidth _ hbase.1 hbase.2, hrow]
  cases fixed with
  | true => rw [if_pos rfl, SqlServer.readFixedText_of_width rfl hw unicode]
  | false =>
      rw [ofTextSizes_varying, if_neg (by decide), readText_of_width rfl hw unicode false]
      rfl

/-- The base of text in the dialects that do not tell unicode text apart. -/
def charBase (fixed : Bool) : String := if fixed then "char" else "varchar"

theorem isBase_charBase (fixed : Bool) :
    IsBase (charBase fixed).toList ∧ (charBase fixed).toList.head? ≠ some '_' := by
  cases fixed <;> decide

theorem MySql.reverse?_charBase {width : UInt32} (hw : width ≠ 0) (unicode fixed : Bool) :
    reverse? .mySql (ofWidth (charBase fixed) width).name.toList
      = some (ofTextSizes .mySql ⟨some (.bounded width), none, none, unicode, fixed⟩) := by
  have hkey : ∀ name arguments,
      MySql.bareKey ⟨name, charBase fixed, arguments, "", 0⟩ = charBase fixed := by
    intro name arguments
    -- the arguments take no part in the key
    change MySql.bareKey ⟨"", charBase fixed, [], "", 0⟩ = charBase fixed
    cases fixed <;> decide
  have hrow : ∀ name arguments, TypeMap.native .mySql ⟨name, charBase fixed, arguments, "", 0⟩
      = if fixed then MySql.readFixedText ⟨name, charBase fixed, arguments, "", 0⟩
        else readText ⟨name, charBase fixed, arguments, "", 0⟩ true false := by
    intro name arguments
    rw [TypeMap.native, MySql.native, hkey]
    cases fixed <;> rfl
  rw [reverse?_ofWidth _ (isBase_charBase fixed).1 (isBase_charBase fixed).2, hrow]
  cases fixed with
  | true => rw [if_pos rfl, MySql.readFixedText_of_width rfl hw unicode]
  | false =>
      rw [ofTextSizes_varying, if_neg (by decide), readText_of_width rfl hw true false]
      rfl

theorem PostgreSql.reverse?_charBase {width : UInt32} (hw : width ≠ 0) (unicode fixed : Bool) :
    reverse? .postgreSql (ofWidth (charBase fixed) width).name.toList
      = some (ofTextSizes .postgreSql ⟨some (.bounded width), none, none, unicode, fixed⟩) := by
  have hrow : ∀ name arguments,
      TypeMap.native .postgreSql ⟨name, charBase fixed, arguments, "", 0⟩
        = if fixed then PostgreSql.readFixedText ⟨name, charBase fixed, arguments, "", 0⟩
          else readText ⟨name, charBase fixed, arguments, "", 0⟩ true false := by
    intro name arguments
    cases fixed <;> rfl
  rw [reverse?_ofWidth _ (isBase_charBase fixed).1 (isBase_charBase fixed).2, hrow]
  cases fixed with
  | true => rw [if_pos rfl, PostgreSql.readFixedText_of_width rfl hw unicode]
  | false =>
      rw [ofTextSizes_varying, if_neg (by decide), readText_of_width rfl hw true false]
      rfl

theorem Sqlite.reverse?_charBase {width : UInt32} (hw : width ≠ 0) (unicode fixed : Bool) :
    reverse? .sqlite (ofWidth (charBase fixed) width).name.toList
      = some (ofTextSizes .sqlite ⟨some (.bounded width), none, none, unicode, fixed⟩) := by
  have hrow : ∀ name arguments, TypeMap.native .sqlite ⟨name, charBase fixed, arguments, "", 0⟩
      = (if fixed then Sqlite.readFixedText ⟨name, charBase fixed, arguments, "", 0⟩
          else readText ⟨name, charBase fixed, arguments, "", 0⟩ true false).or
          (Sqlite.affinity (charBase fixed)) := by
    intro name arguments
    cases fixed <;> rfl
  rw [reverse?_ofWidth _ (isBase_charBase fixed).1 (isBase_charBase fixed).2, hrow]
  cases fixed with
  | true =>
      rw [if_pos rfl, Sqlite.readFixedText_of_width rfl hw unicode]
      rfl
  | false =>
      rw [ofTextSizes_varying, if_neg (by decide), readText_of_width rfl hw true false]
      rfl

/-- **Text comes back by its sizes.** -/
theorem reverse?_text (dialect : Dialect) {length : Length} (hl : length ≠ .bounded 0)
    (unicode fixed : Bool) :
    reverse? dialect (text dialect length unicode fixed).name.toList
      = some (ofTextSizes dialect (text dialect length unicode fixed).toSizing) := by
  -- without a bound, text takes one of a few closed names
  have hmax : reverse? dialect (text dialect .max unicode fixed).name.toList
      = some (ofTextSizes dialect (text dialect .max unicode fixed).toSizing) := by
    cases dialect <;> cases unicode <;> cases fixed <;> decide
  cases length with
  | max => exact hmax
  | bounded width =>
      have hw : width ≠ 0 := fun h => hl (by rw [h])
      cases dialect with
      | sqlServer =>
          simp only [text, SqlServer.text] at hmax ⊢
          split
          · exact SqlServer.reverse?_textBase hw unicode fixed
          · exact hmax
      | mySql =>
          simp only [text, MySql.text] at hmax ⊢
          split
          · exact MySql.reverse?_charBase hw unicode true
          · split
            · exact MySql.reverse?_charBase hw unicode false
            · exact hmax
      | postgreSql =>
          simp only [text, PostgreSql.text] at hmax ⊢
          split
          · exact PostgreSql.reverse?_charBase hw unicode fixed
          · exact hmax
      | sqlite => exact Sqlite.reverse?_charBase hw unicode fixed

/-! ## 5. Byte buffers -/

theorem readBytes_of_width {n : SqlName} {width : UInt32}
    (hn : n.arguments = [toString width.toNat]) (hw : width ≠ 0) (fixed : Bool) :
    readBytes n fixed
      = some (ofByteSizes ⟨some (.bounded width), none, none, false, fixed⟩) := by
  rw [readBytes, readLength_of_width hn hw]
  rfl

/-- The base of byte buffers in the dialects that bound them. -/
def binaryBase (fixed : Bool) : String := if fixed then "binary" else "varbinary"

theorem isBase_binaryBase (fixed : Bool) :
    IsBase (binaryBase fixed).toList ∧ (binaryBase fixed).toList.head? ≠ some '_' := by
  cases fixed <;> decide

theorem SqlServer.reverse?_binaryBase {width : UInt32} (hw : width ≠ 0) (fixed : Bool) :
    reverse? .sqlServer (ofWidth (binaryBase fixed) width).name.toList
      = some (ofByteSizes ⟨some (.bounded width), none, none, false, fixed⟩) := by
  have hrow : ∀ name arguments,
      TypeMap.native .sqlServer ⟨name, binaryBase fixed, arguments, "", 0⟩
        = readBytes ⟨name, binaryBase fixed, arguments, "", 0⟩ fixed := by
    intro name arguments
    cases fixed <;> rfl
  rw [reverse?_ofWidth _ (isBase_binaryBase fixed).1 (isBase_binaryBase fixed).2, hrow,
      readBytes_of_width rfl hw]

theorem MySql.reverse?_binaryBase {width : UInt32} (hw : width ≠ 0) (fixed : Bool) :
    reverse? .mySql (ofWidth (binaryBase fixed) width).name.toList
      = some (ofByteSizes ⟨some (.bounded width), none, none, false, fixed⟩) := by
  have hkey : ∀ name arguments,
      MySql.bareKey ⟨name, binaryBase fixed, arguments, "", 0⟩ = binaryBase fixed := by
    intro name arguments
    change MySql.bareKey ⟨"", binaryBase fixed, [], "", 0⟩ = binaryBase fixed
    cases fixed <;> decide
  have hrow : ∀ name arguments, TypeMap.native .mySql ⟨name, binaryBase fixed, arguments, "", 0⟩
      = MySql.readBoundedBytes ⟨name, binaryBase fixed, arguments, "", 0⟩ fixed := by
    intro name arguments
    rw [TypeMap.native, MySql.native, hkey]
    cases fixed <;> rfl
  rw [reverse?_ofWidth _ (isBase_binaryBase fixed).1 (isBase_binaryBase fixed).2, hrow,
      MySql.readBoundedBytes, length?_of_width rfl hw, if_neg (by simp),
      readBytes_of_width rfl hw]

/-- **Byte buffers come back by their sizes.** -/
theorem reverse?_binary (dialect : Dialect) {d : NativeDescriptor}
    (hd : d.length ≠ some (.bounded 0)) :
    reverse? dialect (binary dialect d).name.toList
      = some (ofByteSizes (binary dialect d).toSizing) := by
  cases dialect with
  | sqlServer =>
      have hmax : reverse? .sqlServer SqlServer.widestBinary.name.toList
          = some (ofByteSizes SqlServer.widestBinary.toSizing) := by decide
      simp only [binary, SqlServer.binary]
      split
      · rename_i width hwidth
        have hw : width ≠ 0 := fun h => hd (by rw [hwidth, h])
        split
        · exact SqlServer.reverse?_binaryBase hw d.fixed
        · exact hmax
      · exact hmax
  | mySql =>
      have hmax : reverse? .mySql ((spelled "longblob" []).withLength .max).name.toList
          = some (ofByteSizes ((spelled "longblob" []).withLength .max).toSizing) := by decide
      simp only [binary, MySql.binary]
      split
      · rename_i width hwidth
        have hw : width ≠ 0 := fun h => hd (by rw [hwidth, h])
        split
        · exact MySql.reverse?_binaryBase hw true
        · split
          · exact MySql.reverse?_binaryBase hw false
          · exact hmax
      · exact hmax
  | postgreSql =>
      have hmax : reverse? .postgreSql ((spelled "bytea" []).withLength .max).name.toList
          = some (ofByteSizes ((spelled "bytea" []).withLength .max).toSizing) := by decide
      exact hmax
  | sqlite =>
      have hmax : reverse? .sqlite ((spelled "blob" []).withLength .max).name.toList
          = some (ofByteSizes ((spelled "blob" []).withLength .max).toSizing) := by decide
      exact hmax

/-! ## 6. Decimal numbers -/

/-- The base of decimal numbers. -/
def decimalBase : Dialect → String
  | .postgreSql => "numeric"
  | _ => "decimal"

/-- **Decimal numbers come back by their sizes.** -/
theorem reverse?_ofDigits (dialect : Dialect) (precision scale : UInt16) :
    reverse? dialect (ofDigits (decimalBase dialect) precision scale).name.toList
      = some (ofDigitSizes (ofDigits (decimalBase dialect) precision scale).toSizing) := by
  have hbase : IsBase (decimalBase dialect).toList
      ∧ (decimalBase dialect).toList.head? ≠ some '_' := by
    cases dialect <;> decide
  have hrow : ∀ name arguments d,
      readDecimal ⟨name, decimalBase dialect, arguments, "", 0⟩ = some d →
      native dialect ⟨name, decimalBase dialect, arguments, "", 0⟩ = some d := by
    intro name arguments d hd
    cases dialect with
    | sqlServer => exact hd
    | postgreSql => exact hd
    | mySql =>
        have hkey : MySql.bareKey ⟨name, "decimal", arguments, "", 0⟩ = "decimal" := by
          change MySql.bareKey ⟨"", "decimal", [], "", 0⟩ = "decimal"
          decide
        change MySql.native ⟨name, "decimal", arguments, "", 0⟩ = some d
        rw [MySql.native, hkey]
        exact hd
    | sqlite =>
        have hconventional : Sqlite.conventional ⟨name, "decimal", arguments, "", 0⟩ = some d := hd
        change Sqlite.native ⟨name, "decimal", arguments, "", 0⟩ = some d
        rw [Sqlite.native, hconventional]
        rfl
  rw [reverse?_ofDigits_spelled _ hbase.1 hbase.2]
  exact hrow _ _ _ (readDecimal_of_digits rfl)

end SqlAtlas.TypeMap
