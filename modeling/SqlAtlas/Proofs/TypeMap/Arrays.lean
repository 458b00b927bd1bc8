/-
SqlAtlas.Proofs.TypeMap.Arrays — the columns of PostgreSQL that hold arrays.

An array column is named by its element, with one pair of brackets behind it
for each dimension. So it is read in two steps: the brackets are counted, and
the name in front of them is read like that of any other column. That needs
the element to be named by words and arguments alone (`IsSpelled`), which
every element is, and the number of dimensions to be one that arrays may
have.

The element of an array is not the column of the same type: without a length
or a precision it is unlimited, where a column falls back on the default.
`ElementOf` lists the ways in which elements are made, so that what holds of
elements is shown for each of these ways.

Arrays may hold arrays. The walk down a type passes its array levels (`ranks`)
and ends at what the innermost of them holds (`leaf?`), and the column of an
array depends on these two alone.
-/
import SqlAtlas.Proofs.TypeMap.Atoms

namespace SqlAtlas.TypeMap

open SqlName (IsBase isArgumentText spellDimensions)

/-! ## 1. Names in front of brackets -/

/-- A type whose name is made of words and arguments. -/
def IsSpelled (t : SqlType) : Prop :=
  ∃ base arguments, t.name = SqlName.spell base arguments 0 ∧ IsBase base.toList
    ∧ base.toList.head? ≠ some '_' ∧ ∀ a ∈ arguments, isArgumentText a.toList = true

theorem isSpelled_words (base : String)
    (hb : IsBase base.toList ∧ base.toList.head? ≠ some '_') : IsSpelled (spelled base []) :=
  ⟨base, [], rfl, hb.1, hb.2, by simp⟩

theorem isSpelled_ofWidth {base : String}
    (hb : IsBase base.toList ∧ base.toList.head? ≠ some '_') (width : UInt32) :
    IsSpelled (ofWidth base width) :=
  ⟨base, [toString width.toNat], rfl, hb.1, hb.2, by
    intro a h
    rw [List.mem_singleton.mp h]
    exact SqlName.isArgumentText_toString _⟩

theorem isSpelled_ofDigits {base : String}
    (hb : IsBase base.toList ∧ base.toList.head? ≠ some '_') (precision scale : UInt16) :
    IsSpelled (ofDigits base precision scale) :=
  ⟨base, [toString precision.toNat, toString scale.toNat], rfl, hb.1, hb.2, by
    intro a h
    simp only [List.mem_cons, List.not_mem_nil, or_false] at h
    rcases h with rfl | rfl <;> exact SqlName.isArgumentText_toString _⟩

/-- The rules look at the parts of a name and not at the whole of it. -/
theorem PostgreSql.native_name (n : SqlName) (name : String) :
    PostgreSql.native { n with name := name } = PostgreSql.native n := rfl

/-- The array whose elements are described. -/
def arrayWith (d : NativeDescriptor) (rank : Nat) : NativeDescriptor :=
  d.withType (.array d.type rank)

/-- **Brackets behind a name make an array of what the name stands for**, if
arrays may have that many dimensions. -/
theorem reverse_append_dimensions {t : SqlType} (ht : IsSpelled t) {d : NativeDescriptor}
    (hd : reverse? .postgreSql t.name.toList = some d) {rank : Nat} (h0 : 0 < rank) :
    reverse .postgreSql (t.name.toList ++ spellDimensions rank) = arrayed d rank := by
  obtain ⟨base, arguments, hname, hb, hu, ha⟩ := ht
  have hspelled : reverse? .postgreSql (SqlName.spell base arguments 0).toList
      = TypeMap.native .postgreSql ⟨SqlName.spell base arguments 0, base, arguments, "", 0⟩ :=
    reverse?_spelled .postgreSql hb hu ha
  have hnative : ∀ name, TypeMap.native .postgreSql ⟨name, base, arguments, "", 0⟩ = some d := by
    intro name
    rw [hname, hspelled] at hd
    exact (PostgreSql.native_name ⟨_, base, arguments, "", 0⟩ name).trans hd
  have hread := SqlName.read_append_dimensions (SqlName.read_spell hb ha)
    (SqlName.trim_spell hb arguments) rank
  rw [← hname] at hread
  have hdim : ∀ name, dimensioned .postgreSql ⟨name, base, arguments, "", 0 + rank⟩
      = (⟨name, base, arguments, "", 0⟩, rank) := by
    intro name
    rw [dimensioned, if_pos (by simpa using h0), Nat.zero_add]
    rfl
  rw [reverse, hread]
  simp only [ofName, hdim, hnative, Dialect.hasArrays]
  simp

theorem reverse?_append_dimensions {t : SqlType} (ht : IsSpelled t) {d : NativeDescriptor}
    (hd : reverse? .postgreSql t.name.toList = some d) {rank : Nat} (h0 : 0 < rank)
    (hr : rank ≤ maxArrayRank) :
    reverse? .postgreSql (t.name.toList ++ spellDimensions rank) = some (arrayWith d rank) := by
  have hrank : d.type.arrayOfRank rank = .ok (.array d.type rank) := by
    rw [NativeType.arrayOfRank, if_pos ⟨h0, hr⟩]
  rw [reverse?, reverse_append_dimensions ht hd h0, arrayed, if_neg (Nat.ne_of_gt h0), hrank]
  rfl

/-- More dimensions than arrays may have make no type. -/
theorem reverse?_append_dimensions_of_lt {t : SqlType} (ht : IsSpelled t) {d : NativeDescriptor}
    (hd : reverse? .postgreSql t.name.toList = some d) {rank : Nat} (hr : maxArrayRank < rank) :
    reverse? .postgreSql (t.name.toList ++ spellDimensions rank) = none := by
  have h0 : 0 < rank := Nat.zero_lt_of_lt hr
  have hrank : d.type.arrayOfRank rank = .error (.arrayRank rank) := by
    rw [NativeType.arrayOfRank, if_neg (fun h => Nat.not_le.mpr hr h.2)]
  rw [reverse?, reverse_append_dimensions ht hd h0, arrayed, if_neg (Nat.ne_of_gt h0), hrank]
  rfl

/-! ## 2. Elements -/

theorem isSpelled_text (length : Length) (unicode fixed : Bool) :
    IsSpelled (text .postgreSql length unicode fixed) := by
  have hmax : IsSpelled (PostgreSql.widestText unicode) := isSpelled_words "text" (by decide)
  cases length with
  | max => exact hmax
  | bounded width =>
      simp only [text, PostgreSql.text]
      split
      · exact isSpelled_ofWidth (isBase_charBase fixed) width
      · exact hmax

theorem isSpelled_numeric (precision scale : UInt16) :
    IsSpelled (ofDigits "numeric" precision scale) :=
  isSpelled_ofDigits (by decide) precision scale

/-- Text as an element has the length that is asked for, or none. -/
theorem element_string (d : NativeDescriptor) :
    PostgreSql.element (.primitive .string) d
      = text .postgreSql (d.length.getD .max) d.unicode (d.length.isSome && d.fixed) := by
  cases h : d.length <;> simp [PostgreSql.element, h, text]

theorem element_withType (leaf : ArrayLeaf) (d : NativeDescriptor) (type : NativeType) :
    PostgreSql.element leaf (d.withType type) = PostgreSql.element leaf d := by
  cases leaf with
  | bytes => rfl
  | primitive kind => cases kind <;> rfl

/-- Other scalars are elements like columns, unless they are decimal numbers
without a precision. -/
theorem element_primitive {kind : Primitive} {d : NativeDescriptor} (hs : kind ≠ .string)
    (hd : kind = .decimal → d.precision ≠ none) :
    PostgreSql.element (.primitive kind) d = primitive .postgreSql kind d := by
  cases kind
  case string => exact absurd rfl hs
  case decimal => simp [PostgreSql.element, hd rfl, primitive]
  all_goals rfl

/-- How elements are made. Text without a length and decimal numbers without a
precision are unlimited, and everything else has the column of its type. -/
inductive ElementOf (d : NativeDescriptor) : ArrayLeaf → SqlType → Prop
  | bytes : ElementOf d .bytes (binary .postgreSql d)
  | string : ElementOf d (.primitive .string)
      (text .postgreSql (d.length.getD .max) d.unicode (d.length.isSome && d.fixed))
  | unlimited (h : d.precision = none) : ElementOf d (.primitive .decimal) (spelled "numeric" [])
  | column {kind : Primitive} (hs : kind ≠ .string) (hd : kind = .decimal → d.precision ≠ none) :
      ElementOf d (.primitive kind) (primitive .postgreSql kind d)

theorem elementOf (leaf : ArrayLeaf) (d : NativeDescriptor) :
    ElementOf d leaf (PostgreSql.element leaf d) := by
  cases leaf with
  | bytes => exact .bytes
  | primitive kind =>
      by_cases hs : kind = .string
      · subst hs
        rw [element_string]
        exact .string
      · by_cases hd : kind = .decimal ∧ d.precision = none
        · obtain ⟨rfl, hnone⟩ := hd
          rw [PostgreSql.element, if_pos hnone]
          exact .unlimited hnone
        · have hlimited : kind = .decimal → d.precision ≠ none := fun hk hnone => hd ⟨hk, hnone⟩
          rw [element_primitive hs hlimited]
          exact .column hs hlimited

theorem elementLength_ne_zero {d : NativeDescriptor} (hd : d.length ≠ some (.bounded 0)) :
    d.length.getD .max ≠ .bounded 0 := by
  cases h : d.length with
  | none => exact fun h0 => by cases h0
  | some length => exact fun h0 => hd (h.trans (congrArg some h0))

theorem isSpelled_element (leaf : ArrayLeaf) (d : NativeDescriptor) :
    IsSpelled (PostgreSql.element leaf d) := by
  have h := elementOf leaf d
  generalize PostgreSql.element leaf d = s at h ⊢
  cases h with
  | bytes => exact isSpelled_words "bytea" (by decide)
  | string => exact isSpelled_text _ _ _
  | unlimited _ => exact isSpelled_words "numeric" (by decide)
  | @column kind hs _ =>
      cases kind
      case uint64 => exact isSpelled_numeric 20 0
      case decimal =>
        obtain ⟨precision, scale, h⟩ := primitive_decimal .postgreSql d
        rw [h]
        exact isSpelled_numeric precision scale
      case char => exact isSpelled_text _ _ _
      case string => exact absurd rfl hs
      all_goals exact isSpelled_words _ (by decide)

/-- The descriptor that an element comes back as. -/
def ofLeafSizes : ArrayLeaf → Sizing → NativeDescriptor
  | .bytes, s => ofByteSizes s
  | .primitive kind, s => ofScalarSizes .postgreSql kind s

/-- **Elements come back by their sizes.** -/
theorem reverse?_element (leaf : ArrayLeaf) {d : NativeDescriptor}
    (hd : d.length ≠ some (.bounded 0)) :
    reverse? .postgreSql (PostgreSql.element leaf d).name.toList
      = some (ofLeafSizes leaf (PostgreSql.element leaf d).toSizing) := by
  have h := elementOf leaf d
  generalize PostgreSql.element leaf d = s at h ⊢
  cases h with
  | bytes => exact reverse?_binary .postgreSql hd
  | string => exact reverse?_text .postgreSql (elementLength_ne_zero hd) _ _
  | unlimited _ => decide
  | column _ _ => exact reverse?_primitive .postgreSql _ hd

/-! ## 3. Arrays -/

/-- The type of an element. -/
def leafType : ArrayLeaf → NativeType
  | .bytes => .bytes
  | .primitive kind => .primitive kind

/-- An array other than the byte buffer has the column of arrays. -/
theorem forward_of_array (dialect : Dialect) {d : NativeDescriptor} {rank : Nat}
    (h : ¬ (NativeType.array d.type rank).isBytes = true) :
    forward dialect (arrayWith d rank) = some (array dialect (arrayWith d rank)) :=
  congrArg some (if_neg h)

theorem not_isBytes {t : NativeType} (h : t ≠ .primitive .uint8) (rank : Nat) :
    ¬ (NativeType.array t rank).isBytes = true := by
  simp [NativeType.isBytes, NativeType.stripNullable, NativeType.bytes, NativeType.arrayOf, h]

/-- The array of a scalar, other than the one that makes it a byte buffer, or
of byte buffers has an array column. -/
theorem forward_arrayWith {leaf : ArrayLeaf} (hleaf : leaf ≠ .primitive .uint8)
    {d : NativeDescriptor} (hd : d.type = leafType leaf) {rank : Nat} (h0 : 0 < rank) :
    forward .postgreSql (arrayWith d rank)
      = some (PostgreSql.array leaf rank (arrayWith d rank)) := by
  have hbyte : d.type ≠ .primitive .uint8 := by
    rw [hd]
    cases leaf with
    | bytes => exact fun h => by cases h
    | primitive kind => exact fun h => hleaf (congrArg _ (NativeType.primitive.inj h))
  have hleafOf : leafOf 0 (arrayWith d rank).type = some (leaf, rank) := by
    rw [arrayWith, NativeDescriptor.withType, hd]
    cases leaf with
    | bytes =>
        have h : NativeType.bytes.isBytes = true := by decide
        simp only [leafOf, leafType, NativeType.bytes, NativeType.arrayOf] at h ⊢
        simp [h, h0]
    | primitive kind => simp [leafOf, leafType]
  rw [forward_of_array .postgreSql (not_isBytes hbyte rank), array, hleafOf]
  rfl

/-- **Arrays come back by the sizes of their elements.** -/
theorem reverse?_array (leaf : ArrayLeaf) {d : NativeDescriptor}
    (hd : d.length ≠ some (.bounded 0)) {rank : Nat} (hr : rank ≤ maxArrayRank) :
    reverse? .postgreSql (PostgreSql.array leaf rank d).name.toList
      = some (arrayWith (ofLeafSizes leaf (PostgreSql.element leaf d).toSizing)
          (max rank 1)) := by
  have hmax : 0 < max rank 1 ∧ max rank 1 ≤ maxArrayRank := by
    simp only [maxArrayRank] at hr ⊢
    omega
  have h := reverse?_append_dimensions (isSpelled_element leaf d) (reverse?_element leaf hd)
    hmax.1 hmax.2
  rw [PostgreSql.array, SqlType.plain, String.toList_ofList]
  exact h

/-! ## 4. Levels -/

/-- The ranks of the array levels of a type, from the outermost inwards. The
byte buffer is none of them. -/
def ranks : NativeType → List Nat
  | .nullable t => ranks t
  | .array t rank => if (NativeType.array t rank).isBytes then [] else rank :: ranks t
  | _ => []

/-- What the innermost array level holds, if it is a scalar or the byte
buffer. -/
def leaf? : NativeType → Option ArrayLeaf
  | .nullable t => leaf? t
  | .array t rank => if (NativeType.array t rank).isBytes then some .bytes else leaf? t
  | .primitive kind => some (.primitive kind)
  | _ => none

theorem ranks_array {t : NativeType} {rank : Nat}
    (h : (NativeType.array t rank).isBytes = false) :
    ranks (.array t rank) = rank :: ranks t := by
  rw [ranks, h, if_neg Bool.false_ne_true]

theorem leaf?_array {t : NativeType} {rank : Nat}
    (h : (NativeType.array t rank).isBytes = false) : leaf? (.array t rank) = leaf? t := by
  rw [leaf?, h, if_neg Bool.false_ne_true]

theorem ranks_stripNullable : ∀ t : NativeType, ranks t.stripNullable = ranks t
  | .nullable t => by rw [NativeType.stripNullable, ranks, ranks_stripNullable t]
  | .primitive _ | .array _ _ | .generic _ _ _ | .enum _ _ | .json | .geometry _ | .named _ => rfl

theorem leaf?_stripNullable : ∀ t : NativeType, leaf? t.stripNullable = leaf? t
  | .nullable t => by rw [NativeType.stripNullable, leaf?, leaf?_stripNullable t]
  | .primitive _ | .array _ _ | .generic _ _ _ | .enum _ _ | .json | .geometry _ | .named _ => rfl

/-- **The walk finds the end and counts the dimensions**, those above it with
them. Only a byte buffer without a dimension above it is not where it ends. -/
theorem leafOf_eq : ∀ {t : NativeType} {above : Nat},
    0 < above + (ranks t).sum ∨ leaf? t ≠ some .bytes →
      leafOf above t = (leaf? t).map (fun leaf => (leaf, above + (ranks t).sum))
  | .nullable t, above, h => by
      rw [leafOf, ranks, leaf?]
      exact leafOf_eq h
  | .array t rank, above, h => by
      cases hbytes : (NativeType.array t rank).isBytes with
      | true =>
          have habove : 0 < above := by simpa [ranks, leaf?, hbytes] using h
          simp [leafOf, ranks, leaf?, hbytes, habove]
      | false =>
          rw [ranks_array hbytes, leaf?_array hbytes, List.sum_cons, ← Nat.add_assoc] at h
          rw [ranks_array hbytes, leaf?_array hbytes, List.sum_cons, ← Nat.add_assoc, leafOf,
            hbytes, Bool.and_false, if_neg Bool.false_ne_true]
          exact leafOf_eq h
  | .primitive _, _, _ => rfl
  | .generic _ _ _, _, _ | .enum _ _, _, _ | .json, _, _ | .geometry _, _, _ | .named _, _, _ => rfl

/-- Outside PostgreSQL, and for other ends than elements, an array is JSON. -/
theorem array_eq_jsonText {dialect : Dialect} {d : NativeDescriptor}
    (h : dialect = .postgreSql → leaf? d.type = none) :
    array dialect d = jsonText dialect d.unicode := by
  rw [array]
  cases dialect with
  | postgreSql =>
      have hend : leafOf 0 d.type = none := by
        rw [leafOf_eq (.inr (by rw [h rfl]; exact fun hn => by cases hn)), h rfl]
        rfl
      rw [hend]
  | sqlServer | mySql | sqlite => split <;> rfl

theorem array_of_leaf? {d : NativeDescriptor} {leaf : ArrayLeaf} (hleaf : leaf? d.type = some leaf)
    (h : 0 < (ranks d.type).sum ∨ leaf ≠ .bytes) :
    array .postgreSql d = PostgreSql.array leaf (ranks d.type).sum d := by
  have hend : leafOf 0 d.type = some (leaf, (ranks d.type).sum) := by
    rw [leafOf_eq, hleaf, Nat.zero_add]
    · rfl
    · rw [hleaf, Nat.zero_add]
      exact h.imp_right (fun hne hsome => hne (Option.some.inj hsome))
  rw [array, hend]
  rfl

/-- A type without levels that ends somewhere is what it ends at. -/
theorem stripNullable_of_leaf? : ∀ {t : NativeType} {leaf : ArrayLeaf}, ranks t = [] →
    leaf? t = some leaf → t.stripNullable = leafType leaf
  | .nullable t, _, hr, hl => stripNullable_of_leaf? (t := t) hr hl
  | .array t rank, leaf, hr, hl => by
      cases hbytes : (NativeType.array t rank).isBytes with
      | true =>
          rw [leaf?, if_pos hbytes] at hl
          cases hl
          exact of_decide_eq_true hbytes
      | false =>
          rw [ranks_array hbytes] at hr
          cases hr
  | .primitive kind, leaf, _, hl => by
      cases hl
      rfl

end SqlAtlas.TypeMap
