/-
SqlAtlas.Proofs.TypeMap.Recreation — a column that the map has made is made
again from what its name reads back as.

What comes back need not be the type that was asked for: a character comes
back from text of length one, a time of day from a duration. But it makes the
same column again, with the same name and the same sizes, in every dialect
(`forward_recreates`). Whether text is unicode is part of the column in SQL
Server only; the other dialects report it and do not write it down.

Two side conditions are those of the descriptors themselves. They are built
by their setters, so no length is zero; and an array that PostgreSQL is to
keep has no more dimensions than its brackets may show when they are read.
-/
import SqlAtlas.Proofs.TypeMap.Arrays

namespace SqlAtlas.TypeMap

/-! ## 1. The same column -/

/-- Two types that stand for the same column of a dialect. -/
structure SameColumn (dialect : Dialect) (s t : SqlType) : Prop where
  name : s.name = t.name
  baseName : s.baseName = t.baseName
  length : s.length = t.length
  precision : s.precision = t.precision
  scale : s.scale = t.scale
  fixed : s.fixed = t.fixed
  unicode : dialect = .sqlServer → s.unicode = t.unicode

theorem SameColumn.refl (dialect : Dialect) (s : SqlType) : SameColumn dialect s s :=
  ⟨rfl, rfl, rfl, rfl, rfl, rfl, fun _ => rfl⟩

theorem sameColumn_withUnicode {dialect : Dialect} (h : dialect ≠ .sqlServer) (s : SqlType)
    (unicode : Bool) : SameColumn dialect s (s.withUnicode unicode) :=
  ⟨rfl, rfl, rfl, rfl, rfl, rfl, fun hd => absurd hd h⟩

/-- A column whose name reads back as a descriptor that makes it again. -/
def Recreates (dialect : Dialect) (s : SqlType) : Prop :=
  ∃ y s', reverse? dialect s.name.toList = some y ∧ forward dialect y = some s'
    ∧ SameColumn dialect s s'

/-! ## 2. Text -/

theorem text_unicode (dialect : Dialect) (length : Length) (unicode fixed : Bool) :
    (text dialect length unicode fixed).unicode = unicode := by
  cases dialect <;> cases length <;>
    simp only [text, SqlServer.text, MySql.text, PostgreSql.text, Sqlite.text] <;>
    (repeat' split) <;> rfl

/-- Text of the length and the kind that a column of text reports is that
column. -/
theorem text_own (dialect : Dialect) (length : Length) (unicode fixed : Bool) :
    ∃ own, (text dialect length unicode fixed).length = some own
      ∧ text dialect own unicode (text dialect length unicode fixed).fixed
          = text dialect length unicode fixed := by
  cases length with
  | max => exact ⟨.max, by cases dialect <;> rfl, by cases dialect <;> rfl⟩
  | bounded width =>
      cases dialect with
      | sqlServer =>
          by_cases h : width ≤ SqlServer.textLimit unicode
          · rw [show text .sqlServer (.bounded width) unicode fixed = _ from if_pos h]
            exact ⟨.bounded width, rfl, if_pos h⟩
          · rw [show text .sqlServer (.bounded width) unicode fixed = _ from if_neg h]
            exact ⟨.max, rfl, rfl⟩
      | mySql =>
          by_cases hf : (fixed && width ≤ MySql.fixedLimit) = true
          · rw [show text .mySql (.bounded width) unicode fixed = _ from if_pos hf]
            refine ⟨.bounded width, rfl, if_pos ?_⟩
            exact (Bool.and_eq_true _ _).mpr ⟨rfl, ((Bool.and_eq_true _ _).mp hf).2⟩
          · rw [show text .mySql (.bounded width) unicode fixed = _ from if_neg hf]
            by_cases h : width ≤ MySql.textLimit
            · rw [if_pos h]
              exact ⟨.bounded width, rfl, if_pos h⟩
            · rw [if_neg h]
              exact ⟨.max, rfl, rfl⟩
      | postgreSql =>
          by_cases h : width ≤ PostgreSql.textLimit
          · rw [show text .postgreSql (.bounded width) unicode fixed = _ from if_pos h]
            exact ⟨.bounded width, rfl, if_pos h⟩
          · rw [show text .postgreSql (.bounded width) unicode fixed = _ from if_neg h]
            exact ⟨.max, rfl, rfl⟩
      | sqlite => exact ⟨.bounded width, rfl, rfl⟩

/-- Outside SQL Server, unicode text has the same column as other text. -/
theorem text_withUnicode {dialect : Dialect} (h : dialect ≠ .sqlServer) (length : Length)
    (unicode unicode' fixed : Bool) :
    text dialect length unicode' fixed
      = (text dialect length unicode fixed).withUnicode unicode' := by
  cases dialect with
  | sqlServer => exact absurd rfl h
  | mySql =>
      cases length with
      | max => rfl
      | bounded width =>
          simp only [text, MySql.text]
          split
          · rfl
          · split <;> rfl
  | postgreSql =>
      cases length with
      | max => rfl
      | bounded width =>
          simp only [text, PostgreSql.text]
          split <;> rfl
  | sqlite => cases length <;> rfl

/-- Text of the sizes that a column of text reports makes that column, if it
is as unicode as SQL Server asks. -/
theorem sameColumn_text {dialect : Dialect} {length own : Length} {unicode unicode' fixed : Bool}
    (hl : (text dialect length unicode fixed).length = some own)
    (hu : dialect = .sqlServer → unicode' = unicode) :
    SameColumn dialect (text dialect length unicode fixed)
      (text dialect own unicode' (text dialect length unicode fixed).fixed) := by
  obtain ⟨own', hown, htext⟩ := text_own dialect length unicode fixed
  rw [hl] at hown
  cases hown
  by_cases h : dialect = .sqlServer
  · rw [hu h, htext]
    exact .refl dialect _
  · rw [text_withUnicode h own unicode unicode', htext]
    exact sameColumn_withUnicode h _ _

/-! ## 3. Scalars -/

/-- A descriptor of a scalar type that makes the given column, and that names
the length and the precision where there would be a default. -/
def Restores (dialect : Dialect) (d : NativeDescriptor) (s : SqlType) : Prop :=
  ∃ kind, d.type = .primitive kind ∧ SameColumn dialect s (primitive dialect kind d)
    ∧ (kind = .string → d.length ≠ none) ∧ (kind = .decimal → d.precision ≠ none)

/-- The sizes of a column of text restore it. -/
theorem restores_text (dialect : Dialect) (length : Length) (unicode fixed : Bool) :
    Restores dialect (ofTextSizes dialect (text dialect length unicode fixed).toSizing)
      (text dialect length unicode fixed) := by
  obtain ⟨own, hown, -⟩ := text_own dialect length unicode fixed
  -- only SQL Server reports whether text is unicode and reads it back
  have hu : dialect = .sqlServer →
      comesBackUnicode dialect (text dialect length unicode fixed).toSizing = unicode := by
    intro h
    rw [comesBackUnicode, if_pos h, text_unicode]
  have hsame : ∀ u, (dialect = .sqlServer → u = unicode) → SameColumn dialect
      (text dialect length unicode fixed)
      (text dialect own u (text dialect length unicode fixed).fixed) :=
    fun _ h => sameColumn_text hown h
  rw [ofTextSizes]
  split
  · rename_i hone
    obtain ⟨hfixed, hlen⟩ := hone
    refine ⟨.char, rfl, ?_, by simp, by simp⟩
    rw [primitive_char]
    cases hown.symm.trans hlen
    rw [hfixed] at hsame
    exact hsame _ hu
  · split
    · rename_i huuid
      obtain ⟨hkeeps, hfixed, hlen⟩ := huuid
      refine ⟨.uuid, rfl, ?_, by simp, by simp⟩
      cases hown.symm.trans hlen
      rw [hfixed] at hsame
      cases dialect with
      | mySql => exact hsame false (fun h => by cases h)
      | sqlite => exact hsame false (fun h => by cases h)
      | sqlServer => cases hkeeps
      | postgreSql => cases hkeeps
    · refine ⟨.string, rfl, ?_, fun _ => by simp [hown], by simp⟩
      rw [primitive_string, textLength]
      simp only [hown, Option.getD_some]
      exact hsame _ hu

theorem restores_digits (dialect : Dialect) (precision scale : UInt16) :
    Restores dialect (ofDigitSizes (ofDigits (decimalBase dialect) precision scale).toSizing)
      (ofDigits (decimalBase dialect) precision scale) := by
  refine ⟨.decimal, rfl, ?_, by simp, fun _ => by simp [ofDigitSizes, ofDigits,
    SqlType.withPrecisionScale, Sizing.setPrecisionScale]⟩
  cases dialect <;> exact .refl _ _

/-- The greatest integers are kept as decimal numbers where they have no type
of their own. -/
theorem primitive_storedAs_decimal {dialect : Dialect} {kind : Primitive}
    (h : takesSizes kind = false) (hs : storedAs dialect kind = .decimal) (d : NativeDescriptor) :
    primitive dialect kind d = ofDigits (decimalBase dialect) 20 0 := by
  cases dialect <;> cases kind <;> cases h <;> first | rfl | cases hs

/-- Otherwise a scalar has the column of the type that is stored for it. -/
theorem primitive_storedAs {dialect : Dialect} {kind : Primitive} (h : takesSizes kind = false)
    (hs : storedAs dialect kind ≠ .decimal) (d e : NativeDescriptor) :
    primitive dialect (storedAs dialect kind) e = primitive dialect kind d := by
  cases dialect <;> cases kind <;> cases h <;> first | rfl | exact absurd rfl hs

/-- No type that takes sizes is stored for one that takes none, decimal
numbers apart. -/
theorem takesSizes_storedAs {dialect : Dialect} {kind : Primitive} (h : takesSizes kind = false)
    (hs : storedAs dialect kind ≠ .decimal) : takesSizes (storedAs dialect kind) = false := by
  cases dialect <;> cases kind <;> cases h <;> first | rfl | exact absurd rfl hs

/-- **The sizes of a column of scalars restore it.** -/
theorem restores_primitive (dialect : Dialect) (kind : Primitive) (d : NativeDescriptor) :
    Restores dialect (ofScalarSizes dialect kind (primitive dialect kind d).toSizing)
      (primitive dialect kind d) := by
  cases h : takesSizes kind with
  | true =>
      cases kind <;> cases h
      case decimal.refl =>
        obtain ⟨precision, scale, hp⟩ := primitive_decimal dialect d
        rw [hp]
        cases dialect <;> exact restores_digits _ precision scale
      case char.refl =>
        rw [primitive_char]
        exact restores_text dialect _ _ _
      case string.refl =>
        rw [primitive_string]
        exact restores_text dialect _ _ _
  | false =>
      have hplain : ¬ (kind = .char ∨ kind = .string) := by
        rintro (rfl | rfl) <;> cases h
      rw [ofScalarSizes, if_neg hplain]
      by_cases hs : storedAs dialect kind = .decimal
      · rw [if_pos hs, primitive_storedAs_decimal h hs]
        exact restores_digits dialect 20 0
      · have hsizes := takesSizes_storedAs h hs
        rw [if_neg hs]
        refine ⟨storedAs dialect kind, rfl, ?_, ?_, ?_⟩
        · rw [primitive_storedAs h hs d]
          exact .refl dialect _
        · intro hk
          rw [hk] at hsizes
          cases hsizes
        · exact fun hk => absurd hk hs

/-- A column that its own descriptor restores is made again. -/
theorem Restores.recreates {dialect : Dialect} {d : NativeDescriptor} {s : SqlType}
    (h : Restores dialect d s) (hd : reverse? dialect s.name.toList = some d) :
    Recreates dialect s := by
  obtain ⟨kind, htype, hsame, -, -⟩ := h
  have hforward : forward dialect d = some (primitive dialect kind d) := by
    obtain ⟨sizes, type⟩ := d
    cases htype
    rfl
  exact ⟨d, _, hd, hforward, hsame⟩

/-! ## 4. Byte buffers and markers -/

theorem forward_bytes (dialect : Dialect) (s : Sizing) :
    forward dialect ⟨s, .bytes⟩ = some (binary dialect ⟨s, .bytes⟩) := by
  have h : NativeType.bytes.isBytes = true := by decide
  exact congrArg some (if_pos h)

/-- Byte buffers of the sizes that a column of byte buffers reports make that
column. -/
theorem binary_own (dialect : Dialect) (d : NativeDescriptor) :
    binary dialect (ofByteSizes (binary dialect d).toSizing) = binary dialect d := by
  obtain ⟨⟨length?, precision, scale, unicode, fixed⟩, type⟩ := d
  cases dialect with
  | sqlServer =>
      match length? with
      | none => rfl
      | some .max => rfl
      | some (.bounded width) =>
          by_cases h : width ≤ SqlServer.byteLimit
          · rw [show binary .sqlServer ⟨⟨some (.bounded width), _, _, _, _⟩, _⟩ = _ from if_pos h]
            exact if_pos h
          · rw [show binary .sqlServer ⟨⟨some (.bounded width), _, _, _, _⟩, _⟩ = _ from if_neg h]
            rfl
  | mySql =>
      match length? with
      | none => rfl
      | some .max => rfl
      | some (.bounded width) =>
          by_cases hf : (fixed && width ≤ MySql.fixedLimit) = true
          · rw [show binary .mySql ⟨⟨some (.bounded width), _, _, _, _⟩, _⟩ = _ from if_pos hf]
            exact if_pos ((Bool.and_eq_true _ _).mpr ⟨rfl, ((Bool.and_eq_true _ _).mp hf).2⟩)
          · rw [show binary .mySql ⟨⟨some (.bounded width), _, _, _, _⟩, _⟩ = _ from if_neg hf]
            by_cases h : width ≤ MySql.binaryLimit
            · rw [if_pos h]
              exact if_pos h
            · rw [if_neg h]
              rfl
  | postgreSql => rfl
  | sqlite => rfl

theorem recreates_binary (dialect : Dialect) {d : NativeDescriptor}
    (hd : d.length ≠ some (.bounded 0)) : Recreates dialect (binary dialect d) := by
  refine ⟨_, _, reverse?_binary dialect hd, forward_bytes dialect _, ?_⟩
  change SameColumn dialect _ (binary dialect (ofByteSizes (binary dialect d).toSizing))
  rw [binary_own]
  exact .refl dialect _

theorem recreates_text (dialect : Dialect) {length : Length} (hl : length ≠ .bounded 0)
    (unicode fixed : Bool) : Recreates dialect (text dialect length unicode fixed) :=
  (restores_text dialect length unicode fixed).recreates (reverse?_text dialect hl unicode fixed)

theorem recreates_jsonText (dialect : Dialect) (unicode : Bool) :
    Recreates dialect (jsonText dialect unicode) := by
  have hmax : Length.max ≠ .bounded 0 := by decide
  cases dialect with
  | sqlServer => exact recreates_text .sqlServer hmax unicode false
  | sqlite => exact recreates_text .sqlite hmax unicode false
  | mySql => exact ⟨_, _, reverse?_jsonText .mySql unicode, rfl, .refl _ _⟩
  | postgreSql => exact ⟨_, _, reverse?_jsonText .postgreSql unicode, rfl, .refl _ _⟩

theorem recreates_geometry (dialect : Dialect) (shape? : Option Geometry) :
    Recreates dialect (geometry dialect shape?) := by
  have hreverse := reverse?_geometry dialect shape?
  refine ⟨_, geometry dialect (storedShape dialect shape?), hreverse, rfl, ?_⟩
  cases dialect <;> exact .refl _ _

/-! ## 5. Arrays -/

/-- No element comes back as a single byte, which would make its array a byte
buffer. -/
theorem ofScalarSizes_ne_byte (kind : Primitive) (s : Sizing) :
    (ofScalarSizes .postgreSql kind s).type ≠ .primitive .uint8 := by
  have htext : (ofTextSizes .postgreSql s).type ≠ .primitive .uint8 := by
    rw [ofTextSizes]
    split
    · simp [NativeDescriptor.withUnicode, NativeDescriptor.ofPrimitive, NativeDescriptor.ofType]
    · split <;> simp [NativeDescriptor.ofPrimitive, NativeDescriptor.ofType]
  cases kind
  case char => exact htext
  case string => exact htext
  all_goals simp [ofScalarSizes, storedAs, ofDigitSizes, NativeDescriptor.ofPrimitive,
    NativeDescriptor.ofType]

/-- With its length and its precision named, a scalar is an element like a
column. -/
theorem element_eq_primitive {kind : Primitive} {d : NativeDescriptor}
    (hs : kind = .string → d.length ≠ none) (hd : kind = .decimal → d.precision ≠ none) :
    PostgreSql.element (.primitive kind) d = primitive .postgreSql kind d := by
  by_cases h : kind = .string
  · subst h
    obtain ⟨length, hl⟩ := Option.ne_none_iff_exists'.mp (hs rfl)
    rw [element_string, primitive_string, textLength, hl]
    rfl
  · exact element_primitive h hd

/-- With its sizes named, a scalar that restores a column restores it as an
element. -/
theorem Restores.element {kind : Primitive} {s : SqlType}
    (h : Restores .postgreSql (ofScalarSizes .postgreSql kind s.toSizing) s) :
    ∃ leaf', leaf' ≠ .primitive .uint8
      ∧ (ofLeafSizes (.primitive kind) s.toSizing).type = leafType leaf'
      ∧ ∀ type, SameColumn .postgreSql s (PostgreSql.element leaf'
          ((ofLeafSizes (.primitive kind) s.toSizing).withType type)) := by
  obtain ⟨kind', htype, hsame, hs, hd⟩ := h
  refine ⟨.primitive kind', ?_, htype, fun type => ?_⟩
  · intro h
    cases h
    exact ofScalarSizes_ne_byte kind _ htype
  · rw [element_withType]
    change SameColumn .postgreSql _ (PostgreSql.element (.primitive kind')
      (ofScalarSizes .postgreSql kind _))
    rw [element_eq_primitive hs hd]
    exact hsame

/-- The sizes of an element make the same element again. -/
theorem restores_element (leaf : ArrayLeaf) (d : NativeDescriptor) :
    ∃ leaf', leaf' ≠ .primitive .uint8
      ∧ (ofLeafSizes leaf (PostgreSql.element leaf d).toSizing).type = leafType leaf'
      ∧ ∀ type, SameColumn .postgreSql (PostgreSql.element leaf d) (PostgreSql.element leaf'
          ((ofLeafSizes leaf (PostgreSql.element leaf d).toSizing).withType type)) := by
  have h := elementOf leaf d
  generalize PostgreSql.element leaf d = s at h ⊢
  cases h with
  | bytes => exact ⟨.bytes, by simp, rfl, fun _ => .refl _ _⟩
  | string => exact @Restores.element .string _ (restores_text .postgreSql _ _ _)
  | unlimited _ => exact ⟨.primitive .decimal, by simp, rfl, fun _ => .refl _ _⟩
  | column _ _ => exact (restores_primitive .postgreSql _ d).element

/-- The brackets behind a name do not tell two elements apart that are the
same column. -/
theorem SameColumn.array {leaf leaf' : ArrayLeaf} {d d' : NativeDescriptor}
    (h : SameColumn .postgreSql (PostgreSql.element leaf d) (PostgreSql.element leaf' d'))
    (rank : Nat) : SameColumn .postgreSql (PostgreSql.array leaf rank d)
      (PostgreSql.array leaf' (max rank 1) d') := by
  have hmax : max (max rank 1) 1 = max rank 1 := by omega
  simp only [PostgreSql.array, hmax]
  generalize PostgreSql.element leaf d = e at h
  generalize PostgreSql.element leaf' d' = e' at h
  rw [← h.name]
  exact ⟨rfl, rfl, h.length, h.precision, h.scale, h.fixed, h.unicode⟩

theorem recreates_array (leaf : ArrayLeaf) {d : NativeDescriptor}
    (hd : d.length ≠ some (.bounded 0)) {rank : Nat} (hr : rank ≤ maxArrayRank) :
    Recreates .postgreSql (PostgreSql.array leaf rank d) := by
  obtain ⟨leaf', hleaf, htype, hsame⟩ := restores_element leaf d
  exact ⟨_, _, reverse?_array leaf hd hr, forward_arrayWith hleaf htype (by omega),
    (hsame _).array rank⟩

/-! ## 6. Every column -/

/-- Nullables on the way to the elements count for nothing. -/
theorem leafOf_stripNullable (above : Nat) : ∀ t : NativeType,
    leafOf above t.stripNullable = leafOf above t
  | .nullable t => by rw [NativeType.stripNullable, leafOf, leafOf_stripNullable above t]
  | .primitive _ | .array _ _ | .generic _ _ _ | .enum _ _ | .json | .geometry _ | .named _ => rfl

/-- An enumeration column is at least as wide as it is asked to be, and wider
than zero. -/
theorem enumLength_ne_zero (members : List String) {length? : Option Length}
    (hl : length? ≠ some (.bounded 0)) : enumLength members length? ≠ .bounded 0 := by
  have hmax : ∀ a b : UInt32, a ≠ 0 → max a b ≠ 0 := by
    intro a b ha h
    rw [show max a b = if a ≤ b then b else a from rfl] at h
    split at h
    · rename_i hle
      rw [h] at hle
      exact ha (UInt32.le_zero_iff.mp hle)
    · exact ha h
  match length? with
  | none => exact fun h => hmax _ _ (by decide) (Length.bounded.inj h)
  | some .max => exact fun h => by cases h
  | some (.bounded width) =>
      exact fun h => hmax _ _ (fun h0 => hl (by rw [h0])) (Length.bounded.inj h)

/-- **Re-creation.** Whatever the map makes a column of, the name of the
column reads back as a descriptor that makes the same column. -/
theorem forward_recreates {dialect : Dialect} {x : NativeDescriptor} (hx : x.Built)
    (hdims : dialect = .postgreSql →
      ∀ leaf n, leafOf 0 x.type = some (leaf, n) → n ≤ maxArrayRank)
    {s : SqlType} (h : forward dialect x = some s) :
    ∃ y s', reverse? dialect s.name.toList = some y ∧ forward dialect y = some s'
      ∧ SameColumn dialect s s' := by
  have hl : x.stripNullable.length ≠ some (.bounded 0) := hx.length_ne_zero
  -- one case for each row of the map, in its order
  rw [forward, ofStripped] at h
  split at h
  · cases h
    rename_i kind _
    exact (restores_primitive dialect kind _).recreates (reverse?_primitive dialect kind hl)
  · cases h
    split
    · exact recreates_binary dialect hl
    · rw [array]
      split
      · rename_i leaf n hleaf
        cases dialect with
        | postgreSql =>
            rw [NativeDescriptor.stripNullable, NativeDescriptor.withType,
              leafOf_stripNullable] at hleaf
            exact recreates_array leaf hl (hdims rfl leaf n hleaf)
        | sqlServer => exact recreates_jsonText .sqlServer x.unicode
        | mySql => exact recreates_jsonText .mySql x.unicode
        | sqlite => exact recreates_jsonText .sqlite x.unicode
      · exact recreates_jsonText dialect x.unicode
  · cases h
    exact recreates_jsonText dialect x.unicode
  · cases h
    rename_i members _
    exact recreates_text dialect (enumLength_ne_zero members hl) _ _
  · cases h
    exact recreates_jsonText dialect x.unicode
  · cases h
    exact recreates_geometry dialect _
  · cases h
  · cases h

/-- Text of fixed length one, in arrays of arrays. -/
def nestedText : NativeDescriptor :=
  ((NativeDescriptor.ofType (.array (.nullable (.array (.primitive .string) 2)) 1)).withLength
    (.bounded 1)).withFixed true

/-- Text of fixed length one reads back as a character, also below arrays, and
its column is made again. -/
theorem forward_recreates_nestedText : ∃ s, forward .postgreSql nestedText = some s
    ∧ s.name = "char(1)[][][]"
    ∧ ∃ y s', reverse? .postgreSql s.name.toList = some y ∧ forward .postgreSql y = some s'
      ∧ SameColumn .postgreSql s s' := by
  have hbuilt : nestedText.Built := .withFixed (.withLength (.ofType _) _) _
  refine ⟨_, rfl, by decide, forward_recreates hbuilt ?_ rfl⟩
  intro _ leaf n h
  have hleaf : leafOf 0 nestedText.type = some (.primitive .string, 3) := rfl
  cases hleaf.symm.trans h
  decide

end SqlAtlas.TypeMap
