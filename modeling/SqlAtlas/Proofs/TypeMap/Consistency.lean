/-
SqlAtlas.Proofs.TypeMap.Consistency — a column says the same in its name and in
its sizes.

The rules spell a name and set the sizes beside it, each row by itself. What they
all do is `ShowsSizes`: the name is the base name, the arguments that the sizes
call for (`sizeArguments`), and the dimensions, in this order. Two rows do
otherwise, since they show an argument that is no size: the truth value of MySQL
and the geometry of one shape in PostgreSQL.

A name of this form is taken apart into what it was spelled from, so
`forward_consistent` can say what a reader of the name finds there. The number of
dimensions is stated on the native type alone (`arrayDimensions?`).
-/
import SqlAtlas.Proofs.TypeMap.Recreation

namespace SqlAtlas.TypeMap

open SqlName (IsBase isArgumentText)

/-! ## 1. Names that show their sizes -/

/-- The arguments that the sizes of a column call for. -/
def sizeArguments (dialect : Dialect) (s : Sizing) : List String :=
  match s.length, s.precision with
  | some (.bounded width), _ => [toString width.toNat]
  | some .max, _ => if dialect = .sqlServer then ["max"] else []
  | none, some precision => [toString precision.toNat, toString (s.scale.getD 0).toNat]
  | none, none => []

/-- A column whose name is its base name, the arguments that its sizes call for,
and dimensions. Its sizes are a length, or a precision with a scale, or nothing. -/
structure ShowsSizes (dialect : Dialect) (dimensions : Nat) (s : SqlType) : Prop where
  name : s.name = SqlName.spell s.baseName (sizeArguments dialect s.toSizing) dimensions
  base : IsBase s.baseName.toList
  positive : s.length ≠ some (.bounded 0)
  exclusive : s.length = none ∨ s.precision = none
  scaled : s.precision.isSome = true → s.scale.isSome = true

theorem isArgumentText_sizeArguments (dialect : Dialect) (s : Sizing) :
    ∀ a ∈ sizeArguments dialect s, isArgumentText a.toList = true := by
  intro a ha
  rw [sizeArguments] at ha
  split at ha
  · rw [List.mem_singleton.mp ha]
    exact SqlName.isArgumentText_toString _
  · split at ha
    · rw [List.mem_singleton.mp ha]
      decide
    · cases ha
  · simp only [List.mem_cons, List.not_mem_nil, or_false] at ha
    rcases ha with rfl | rfl <;> exact SqlName.isArgumentText_toString _
  · cases ha

theorem baseName_spelled {base : String} {arguments : List String} (hb : IsBase base.toList)
    (ha : ∀ a ∈ arguments, isArgumentText a.toList = true) :
    (spelled base arguments).baseName = base := by
  rw [spelled, SqlType.plain, SqlName.baseName_spell hb ha, String.ofList_toList]

section

variable {dialect : Dialect} {dimensions : Nat} {s : SqlType}

/-- The flags of a column are not shown. -/
theorem ShowsSizes.withUnicode (h : ShowsSizes dialect dimensions s) (unicode : Bool) :
    ShowsSizes dialect dimensions (s.withUnicode unicode) :=
  ⟨h.name, h.base, h.positive, h.exclusive, h.scaled⟩

theorem ShowsSizes.withFixed (h : ShowsSizes dialect dimensions s) (fixed : Bool) :
    ShowsSizes dialect dimensions (s.withFixed fixed) :=
  ⟨h.name, h.base, h.positive, h.exclusive, h.scaled⟩

end

/-- What is spelled from a base and the arguments that sizes call for shows these
sizes. -/
theorem showsSizes_spelled (dialect : Dialect) {base : String} (hb : IsBase base.toList)
    {z : Sizing} (hpositive : z.length ≠ some (.bounded 0))
    (hexclusive : z.length = none ∨ z.precision = none)
    (hscaled : z.precision.isSome = true → z.scale.isSome = true) :
    ShowsSizes dialect 0 { spelled base (sizeArguments dialect z) with toSizing := z } := by
  have hbase : (spelled base (sizeArguments dialect z)).baseName = base :=
    baseName_spelled hb (isArgumentText_sizeArguments dialect z)
  refine ⟨?_, by rwa [hbase], hpositive, hexclusive, hscaled⟩
  rw [hbase]
  rfl

theorem showsSizes_words (dialect : Dialect) {base : String} (hb : IsBase base.toList) :
    ShowsSizes dialect 0 (spelled base []) :=
  showsSizes_spelled dialect hb (z := .unsized false) (fun h => by cases h) (.inl rfl)
    (fun h => by cases h)

theorem showsSizes_widest (dialect : Dialect) {base : String} (hb : IsBase base.toList) :
    ShowsSizes dialect 0
      ((spelled base (if dialect = .sqlServer then ["max"] else [])).withLength .max) :=
  showsSizes_spelled dialect hb (z := ⟨some .max, none, none, false, false⟩)
    (fun h => by cases h) (.inr rfl) (fun h => by cases h)

theorem showsSizes_ofWidth (dialect : Dialect) {base : String} (hb : IsBase base.toList)
    {width : UInt32} (hw : width ≠ 0) : ShowsSizes dialect 0 (ofWidth base width) :=
  showsSizes_spelled dialect hb (z := ⟨some (.bounded width), none, none, false, false⟩)
    (fun h => hw (Length.bounded.inj (Option.some.inj h))) (.inr rfl) (fun h => by cases h)

theorem showsSizes_ofDigits (dialect : Dialect) {base : String} (hb : IsBase base.toList)
    (precision scale : UInt16) : ShowsSizes dialect 0 (ofDigits base precision scale) :=
  showsSizes_spelled dialect hb (z := ⟨none, some precision, some scale, false, false⟩)
    (fun h => by cases h) (.inl rfl) (fun _ => rfl)

/-! ## 2. Columns of each kind -/

theorem showsSizes_text (dialect : Dialect) {length : Length} (hl : length ≠ .bounded 0)
    (unicode fixed : Bool) : ShowsSizes dialect 0 (text dialect length unicode fixed) := by
  have hmax : ShowsSizes dialect 0 (text dialect .max unicode fixed) := by
    cases dialect with
    | sqlServer =>
        have hbase : IsBase (SqlServer.textBase unicode false).toList := by
          cases unicode <;> decide
        exact (showsSizes_widest .sqlServer hbase).withUnicode unicode
    | mySql => exact (showsSizes_widest .mySql (by decide)).withUnicode unicode
    | postgreSql => exact (showsSizes_widest .postgreSql (by decide)).withUnicode unicode
    | sqlite => exact (showsSizes_widest .sqlite (by decide)).withUnicode unicode
  cases length with
  | max => exact hmax
  | bounded width =>
      have hw : width ≠ 0 := fun h => hl (by rw [h])
      have hchar : ∀ fixed, ShowsSizes dialect 0 (ofWidth (charBase fixed) width) :=
        fun fixed => showsSizes_ofWidth dialect (isBase_charBase fixed).1 hw
      cases dialect with
      | sqlServer =>
          have hbase : IsBase (SqlServer.textBase unicode fixed).toList := by
            cases unicode <;> cases fixed <;> decide
          simp only [text, SqlServer.text] at hmax ⊢
          split
          · exact ((showsSizes_ofWidth _ hbase hw).withFixed fixed).withUnicode unicode
          · exact hmax
      | mySql =>
          simp only [text, MySql.text] at hmax ⊢
          split
          · exact ((hchar true).withFixed true).withUnicode unicode
          · split
            · exact (hchar false).withUnicode unicode
            · exact hmax
      | postgreSql =>
          simp only [text, PostgreSql.text] at hmax ⊢
          split
          · exact ((hchar fixed).withFixed fixed).withUnicode unicode
          · exact hmax
      | sqlite => exact ((hchar fixed).withFixed fixed).withUnicode unicode

theorem showsSizes_binary (dialect : Dialect) {d : NativeDescriptor}
    (hd : d.length ≠ some (.bounded 0)) : ShowsSizes dialect 0 (binary dialect d) := by
  have hwidth : ∀ {width : UInt32}, d.length = some (.bounded width) →
      ∀ fixed, ShowsSizes dialect 0 (ofWidth (binaryBase fixed) width) := by
    intro width hlength fixed
    exact showsSizes_ofWidth dialect (isBase_binaryBase fixed).1 (fun h => hd (by rw [hlength, h]))
  cases dialect with
  | sqlServer =>
      have hmax : ShowsSizes .sqlServer 0 SqlServer.widestBinary :=
        showsSizes_widest .sqlServer (by decide)
      simp only [binary, SqlServer.binary]
      split
      · rename_i width hlength
        split
        · exact (hwidth hlength d.fixed).withFixed d.fixed
        · exact hmax
      · exact hmax
  | mySql =>
      have hmax : ShowsSizes .mySql 0 ((spelled "longblob" []).withLength .max) :=
        showsSizes_widest .mySql (by decide)
      simp only [binary, MySql.binary]
      split
      · rename_i width hlength
        split
        · exact (hwidth hlength true).withFixed true
        · split
          · exact hwidth hlength false
          · exact hmax
      · exact hmax
  | postgreSql => exact showsSizes_widest .postgreSql (by decide)
  | sqlite => exact showsSizes_widest .sqlite (by decide)

theorem showsSizes_primitive {dialect : Dialect} {kind : Primitive}
    (hk : dialect = .mySql → kind ≠ .boolean) {d : NativeDescriptor}
    (hd : d.length ≠ some (.bounded 0)) : ShowsSizes dialect 0 (primitive dialect kind d) := by
  cases h : takesSizes kind with
  | false =>
      -- identifiers and the widest integers have sizes of their own
      have huuid : Length.bounded uuidWidth ≠ .bounded 0 := by decide
      cases dialect <;> cases kind <;> first
        | cases h; done
        | exact absurd rfl (hk rfl)
        | exact showsSizes_words _ (by decide)
        | exact showsSizes_ofDigits _ (by decide) 20 0
        | exact showsSizes_text _ huuid false true
  | true =>
      cases kind <;> cases h
      case decimal.refl =>
        obtain ⟨precision, scale, hp⟩ := primitive_decimal dialect d
        rw [hp]
        exact showsSizes_ofDigits dialect (by cases dialect <;> decide) precision scale
      case char.refl =>
        rw [primitive_char]
        exact showsSizes_text dialect (by decide) _ _
      case string.refl =>
        rw [primitive_string]
        exact showsSizes_text dialect (textLength_ne_zero hd) _ _

theorem showsSizes_jsonText (dialect : Dialect) (unicode : Bool) :
    ShowsSizes dialect 0 (jsonText dialect unicode) := by
  cases dialect with
  | sqlServer => exact showsSizes_text .sqlServer (by decide) unicode false
  | mySql => exact showsSizes_words .mySql (by decide)
  | postgreSql => exact showsSizes_words .postgreSql (by decide)
  | sqlite => exact showsSizes_text .sqlite (by decide) unicode false

theorem showsSizes_geometry {dialect : Dialect} {shape? : Option Geometry}
    (hs : dialect = .postgreSql → shape? = none) :
    ShowsSizes dialect 0 (geometry dialect shape?) := by
  cases shape? with
  | none => cases dialect <;> exact showsSizes_words _ (by decide)
  | some g =>
      have hcolumn : IsBase g.columnType.toList := by cases g <;> decide
      cases dialect with
      | sqlServer => exact showsSizes_words .sqlServer (by decide)
      | mySql => exact showsSizes_words .mySql hcolumn
      | postgreSql => cases hs rfl
      | sqlite => exact showsSizes_words .sqlite hcolumn

theorem showsSizes_element (leaf : ArrayLeaf) {d : NativeDescriptor}
    (hd : d.length ≠ some (.bounded 0)) :
    ShowsSizes .postgreSql 0 (PostgreSql.element leaf d) := by
  have h := elementOf leaf d
  generalize PostgreSql.element leaf d = s at h ⊢
  cases h with
  | bytes => exact showsSizes_binary .postgreSql hd
  | string => exact showsSizes_text .postgreSql (elementLength_ne_zero hd) _ _
  | unlimited _ => exact showsSizes_words .postgreSql (by decide)
  | column _ _ => exact showsSizes_primitive (fun h => by cases h) hd

/-- Dimensions go behind the name of the element, whose sizes stay. -/
theorem showsSizes_array (leaf : ArrayLeaf) {d : NativeDescriptor}
    (hd : d.length ≠ some (.bounded 0)) {dimensions : Nat} (h0 : 0 < dimensions) :
    ShowsSizes .postgreSql dimensions (PostgreSql.array leaf dimensions d) := by
  have h := showsSizes_element leaf hd
  have hname : (PostgreSql.array leaf dimensions d).name
      = SqlName.spell (PostgreSql.element leaf d).baseName
          (sizeArguments .postgreSql (PostgreSql.element leaf d).toSizing) dimensions := by
    rw [PostgreSql.array, Nat.max_eq_left h0, SqlType.plain, SqlName.spell,
      ← SqlName.toList_spell_zero, ← h.name]
  have hbase : (PostgreSql.array leaf dimensions d).baseName
      = (PostgreSql.element leaf d).baseName := by
    have hplain : (PostgreSql.array leaf dimensions d).baseName
        = String.ofList (baseName (PostgreSql.array leaf dimensions d).name.toList) := rfl
    rw [hplain, hname, SqlName.baseName_spell h.base (isArgumentText_sizeArguments _ _),
      String.ofList_toList]
  refine ⟨?_, by rw [hbase]; exact h.base, h.positive, h.exclusive, h.scaled⟩
  rw [hname, hbase]
  rfl

/-! ## 3. Dimensions -/

/-- No array has the rank zero. -/
def HasRanks : NativeType → Prop
  | .nullable t => HasRanks t
  | .array t rank => 0 < rank ∧ HasRanks t
  | _ => True

/-- The number of dimensions of an array whose elements are scalars or byte
buffers, over all its levels. The byte buffer itself has none. -/
def arrayDimensions? : NativeType → Option Nat
  | .nullable t => arrayDimensions? t
  | .array t rank =>
    if (NativeType.array t rank).isBytes then some 0 else (arrayDimensions? t).map (rank + ·)
  | .primitive _ => some 0
  | _ => none

/-- The number of dimensions that a column shows. -/
def shownDimensions (dialect : Dialect) (t : NativeType) : Nat :=
  if dialect = .postgreSql then (arrayDimensions? t).getD 0 else 0

theorem shownDimensions_eq_zero {dialect : Dialect} {t : NativeType}
    (h : arrayDimensions? t = some 0 ∨ arrayDimensions? t = none) :
    shownDimensions dialect t = 0 := by
  rw [shownDimensions]
  rcases h with h | h <;> rw [h] <;> split <;> rfl

theorem arrayDimensions?_stripNullable : ∀ t : NativeType,
    arrayDimensions? t.stripNullable = arrayDimensions? t
  | .nullable t => by
      rw [NativeType.stripNullable, arrayDimensions?, arrayDimensions?_stripNullable t]
  | .primitive _ | .array _ _ | .generic _ _ _ | .enum _ _ | .json | .geometry _ | .named _ => rfl

theorem hasRanks_stripNullable : ∀ t : NativeType, HasRanks t.stripNullable ↔ HasRanks t
  | .nullable t => hasRanks_stripNullable t
  | .primitive _ | .array _ _ | .generic _ _ _ | .enum _ _ | .json | .geometry _ | .named _ =>
      Iff.rfl

/-- They are the ranks of all levels. -/
theorem arrayDimensions?_eq : ∀ t : NativeType,
    arrayDimensions? t = (leaf? t).map (fun _ => (ranks t).sum)
  | .nullable t => arrayDimensions?_eq t
  | .array t rank => by
      cases hbytes : (NativeType.array t rank).isBytes with
      | true => simp [arrayDimensions?, leaf?, ranks, hbytes]
      | false =>
          rw [arrayDimensions?, hbytes, if_neg Bool.false_ne_true, leaf?_array hbytes,
            ranks_array hbytes, arrayDimensions?_eq t, Option.map_map]
          rfl
  | .primitive _ | .generic _ _ _ | .enum _ _ | .json | .geometry _ | .named _ => rfl

/-- An array shows the dimensions of its type, or is kept as JSON and shows none. -/
theorem showsSizes_arrayColumn (dialect : Dialect) {d : NativeDescriptor} {t : NativeType}
    {rank : Nat} (ht : d.type = .array t rank) (hbytes : d.type.isBytes = false) (h0 : 0 < rank)
    (hd : d.length ≠ some (.bounded 0)) :
    ShowsSizes dialect (shownDimensions dialect d.type) (array dialect d) := by
  by_cases hjson : dialect = .postgreSql → leaf? d.type = none
  · have hnone : shownDimensions dialect d.type = 0 := by
      rw [shownDimensions]
      split
      · rw [arrayDimensions?_eq, hjson ‹_›]
        rfl
      · rfl
    rw [array_eq_jsonText hjson, hnone]
    exact showsSizes_jsonText dialect d.unicode
  · obtain ⟨rfl, hsome⟩ := Classical.not_imp.mp hjson
    obtain ⟨leaf, hleaf⟩ := Option.ne_none_iff_exists'.mp hsome
    have hpositive : 0 < (ranks d.type).sum := by
      rw [ht] at hbytes ⊢
      rw [ranks_array hbytes, List.sum_cons]
      exact Nat.add_pos_left h0 _
    rw [array_of_leaf? hleaf (.inl hpositive), shownDimensions, if_pos rfl, arrayDimensions?_eq,
      hleaf]
    exact showsSizes_array leaf hd hpositive

/-! ## 4. The map -/

/-- The truth value of MySQL, which shows one digit. -/
def IsDigitColumn (dialect : Dialect) (t : NativeType) (s : SqlType) : Prop :=
  dialect = .mySql ∧ t.stripNullable = .primitive .boolean ∧ s = spelled "tinyint" ["1"]

/-- Geometry of one shape in PostgreSQL, which shows the name of the shape. -/
def IsShapeColumn (dialect : Dialect) (t : NativeType) (s : SqlType) : Prop :=
  ∃ g : Geometry, dialect = .postgreSql ∧ t.stripNullable = .geometry (some g)
    ∧ s = spelled "geometry" [g.name]

theorem stripNullable_ne_nullable (u : NativeType) : ∀ t : NativeType, t.stripNullable ≠ .nullable u
  | .nullable t => stripNullable_ne_nullable u t
  | .primitive _ | .array _ _ | .generic _ _ _ | .enum _ _ | .json | .geometry _ | .named _ =>
      fun h => by cases h

/-- Only a type that is known by its name has no column. -/
theorem forward_eq_none_iff {dialect : Dialect} {d : NativeDescriptor} :
    forward dialect d = none ↔ ∃ name, d.type.stripNullable = .named name := by
  rw [forward, ofStripped]
  have hne : ∀ u, d.stripNullable.type ≠ .nullable u :=
    fun u => stripNullable_ne_nullable u d.type
  change _ ↔ ∃ name, d.stripNullable.type = .named name
  cases htype : d.stripNullable.type with
  | named name => exact ⟨fun _ => ⟨name, rfl⟩, fun _ => rfl⟩
  | nullable u => exact absurd htype (hne u)
  | primitive _ | array _ _ | generic _ _ _ | enum _ _ | json | geometry _ =>
      constructor
      · intro h
        cases h
      · rintro ⟨name, ⟨⟩⟩

/-- **Every row shows its sizes**, but for two that show something else. -/
theorem showsSizes_of_forward {dialect : Dialect} {d : NativeDescriptor} (hd : d.Built)
    (hranks : HasRanks d.type) {s : SqlType} (h : forward dialect d = some s) :
    ShowsSizes dialect (shownDimensions dialect d.type) s
      ∨ IsDigitColumn dialect d.type s ∨ IsShapeColumn dialect d.type s := by
  have hl : d.stripNullable.length ≠ some (.bounded 0) := hd.length_ne_zero
  have hranks' : HasRanks d.stripNullable.type := (hasRanks_stripNullable d.type).mpr hranks
  have hshown : shownDimensions dialect d.type = shownDimensions dialect d.stripNullable.type := by
    rw [shownDimensions, ← arrayDimensions?_stripNullable]
    rfl
  rw [hshown]
  -- one case for each row of the map, in its order
  rw [forward, ofStripped] at h
  split at h
  · rename_i kind htype
    cases h
    by_cases hdigit : dialect = .mySql ∧ kind = .boolean
    · obtain ⟨rfl, rfl⟩ := hdigit
      exact .inr (.inl ⟨rfl, htype, rfl⟩)
    · rw [shownDimensions_eq_zero (.inl (by rw [htype]; rfl))]
      exact .inl (showsSizes_primitive (fun hm hb => hdigit ⟨hm, hb⟩) hl)
  · rename_i t rank htype
    cases h
    cases hbytes : d.stripNullable.type.isBytes with
    | true =>
        have hnone : arrayDimensions? d.stripNullable.type = some 0 := by
          rw [htype] at hbytes ⊢
          rw [arrayDimensions?, hbytes, if_pos rfl]
        rw [shownDimensions_eq_zero (.inl hnone)]
        exact .inl (showsSizes_binary dialect hl)
    | false =>
        have hrank : 0 < rank := by
          rw [htype] at hranks'
          exact hranks'.1
        exact .inl (showsSizes_arrayColumn dialect htype hbytes hrank hl)
  · rename_i htype
    cases h
    rw [shownDimensions_eq_zero (.inr (by rw [htype]; rfl))]
    exact .inl (showsSizes_jsonText dialect _)
  · rename_i members htype
    cases h
    rw [shownDimensions_eq_zero (.inr (by rw [htype]; rfl))]
    exact .inl (showsSizes_text dialect (enumLength_ne_zero members hl) _ _)
  · rename_i htype
    cases h
    rw [shownDimensions_eq_zero (.inr (by rw [htype]; rfl))]
    exact .inl (showsSizes_jsonText dialect _)
  · rename_i shape? htype
    cases h
    by_cases hshape : dialect = .postgreSql → shape? = none
    · rw [shownDimensions_eq_zero (.inr (by rw [htype]; rfl))]
      exact .inl (showsSizes_geometry hshape)
    · obtain ⟨rfl, hsome⟩ := Classical.not_imp.mp hshape
      obtain ⟨g, rfl⟩ := Option.ne_none_iff_exists'.mp hsome
      exact .inr (.inr ⟨g, rfl, htype, rfl⟩)
  · cases h
  · cases h

/-- An array of no dimension is named like one of one dimension. -/
theorem exists_showsSizes_array (dialect : Dialect) {d : NativeDescriptor}
    (hd : d.length ≠ some (.bounded 0)) : ∃ k, ShowsSizes dialect k (array dialect d) := by
  rw [array]
  split
  · rename_i leaf dimensions _
    cases dialect with
    | postgreSql =>
        have hmax : PostgreSql.array leaf dimensions d
            = PostgreSql.array leaf (max dimensions 1) d := by simp [PostgreSql.array]
        refine ⟨max dimensions 1, ?_⟩
        change ShowsSizes .postgreSql _ (PostgreSql.array leaf dimensions d)
        rw [hmax]
        exact showsSizes_array leaf hd (Nat.lt_of_lt_of_le Nat.zero_lt_one (Nat.le_max_right _ _))
    | sqlServer | mySql | sqlite => exact ⟨0, showsSizes_jsonText _ d.unicode⟩
  · exact ⟨0, showsSizes_jsonText dialect d.unicode⟩

/-- The same without the ranks, which take part in the number of dimensions
alone. -/
theorem exists_showsSizes_of_forward {dialect : Dialect} {d : NativeDescriptor} (hd : d.Built)
    {s : SqlType} (h : forward dialect d = some s) :
    (∃ k, ShowsSizes dialect k s) ∨ IsDigitColumn dialect d.type s
      ∨ IsShapeColumn dialect d.type s := by
  have hl : d.stripNullable.length ≠ some (.bounded 0) := hd.length_ne_zero
  by_cases harray : ∃ t rank, d.stripNullable.type = .array t rank
  · -- the ranks of an array may be zero here
    obtain ⟨t, rank, htype⟩ := harray
    rw [forward, ofStripped, htype] at h
    cases h
    split
    · exact .inl ⟨0, showsSizes_binary dialect hl⟩
    · exact .inl (exists_showsSizes_array dialect hl)
  · have hranks : HasRanks d.type := by
      rw [← hasRanks_stripNullable]
      change HasRanks d.stripNullable.type
      cases htype : d.stripNullable.type with
      | array t rank => exact absurd ⟨t, rank, htype⟩ harray
      | nullable u => exact absurd htype (stripNullable_ne_nullable u d.type)
      | _ => trivial
    exact (showsSizes_of_forward hd hranks h).imp_left (fun hs => ⟨_, hs⟩)

/-! ## 5. What a reader finds -/

/-- What is found in the name of a column agrees with the native type that it is
for, with the base name and with the sizes that it reports. -/
structure Agrees (dialect : Dialect) (t : NativeType) (s : SqlType) (n : SqlName) : Prop where
  key : n.key = s.baseName
  dimensions : n.dimensions = shownDimensions dialect t
  width : ∀ width, s.length = some (.bounded width) →
    width ≠ 0 ∧ n.arguments = [toString width.toNat]
  widest : s.length = some .max → n.arguments = if dialect = .sqlServer then ["max"] else []
  digits : ∀ precision, s.precision = some precision →
    ∃ scale, s.scale? = some scale
      ∧ n.arguments = [toString precision.toNat, toString scale.toNat]
  exclusive : s.length = none ∨ s.precision = none
  unsized : s.length = none → s.precision = none → n.arguments = []
    ∨ (dialect = .mySql ∧ t.stripNullable = .primitive .boolean ∧ s.name = "tinyint(1)"
        ∧ n.arguments = ["1"])
    ∨ ∃ g : Geometry, dialect = .postgreSql ∧ t.stripNullable = .geometry (some g)
        ∧ s.name = "geometry(" ++ g.name ++ ")" ∧ n.arguments = [g.name]

/-- A name that shows its sizes is taken apart into them. -/
theorem ShowsSizes.agrees {dialect : Dialect} {t : NativeType} {s : SqlType}
    (h : ShowsSizes dialect (shownDimensions dialect t) s) :
    ∃ n, SqlName.read s.name.toList = some n ∧ Agrees dialect t s n := by
  have hread := SqlName.read_spell_dimensions h.base
    (isArgumentText_sizeArguments dialect s.toSizing) (shownDimensions dialect t)
  rw [← h.name] at hread
  refine ⟨_, hread, rfl, rfl, fun width hw => ?_, fun hm => ?_, fun precision hp => ?_,
    h.exclusive, fun hl hp => .inl ?_⟩
  · refine ⟨fun h0 => h.positive (by rw [hw, h0]), ?_⟩
    rw [sizeArguments, hw]
  · rw [sizeArguments, hm]
  · have hl : s.length = none := h.exclusive.resolve_right (by rw [hp]; exact Option.some_ne_none _)
    obtain ⟨scale, hs⟩ := Option.isSome_iff_exists.mp (h.scaled (by rw [hp]; rfl))
    refine ⟨scale, by rw [Sizing.scale?, hp]; exact hs, ?_⟩
    rw [sizeArguments, hl, hp, hs]
    rfl
  · rw [sizeArguments, hl, hp]

/-- A column of words and arguments reports no sizes. -/
theorem agrees_spelled {dialect : Dialect} {t : NativeType} {base : String}
    {arguments : List String} (hb : IsBase base.toList)
    (ha : ∀ a ∈ arguments, isArgumentText a.toList = true)
    (hdim : shownDimensions dialect t = 0)
    (hown : (dialect = .mySql ∧ t.stripNullable = .primitive .boolean
        ∧ (spelled base arguments).name = "tinyint(1)" ∧ arguments = ["1"])
      ∨ ∃ g : Geometry, dialect = .postgreSql ∧ t.stripNullable = .geometry (some g)
        ∧ (spelled base arguments).name = "geometry(" ++ g.name ++ ")" ∧ arguments = [g.name]) :
    ∃ n, SqlName.read (spelled base arguments).name.toList = some n
      ∧ Agrees dialect t (spelled base arguments) n := by
  refine ⟨_, SqlName.read_spell hb ha, (baseName_spelled hb ha).symm, hdim.symm, ?_, ?_, ?_,
    .inl rfl, fun _ _ => .inr hown⟩
  · rintro width ⟨⟩
  · rintro ⟨⟩
  · rintro precision ⟨⟩

/-- **The map is total and its columns are consistent.** A descriptor has a
column unless its type, nullables at the top aside, is known by name only. The
name of a column is read back as its base name and the dimensions of the array,
with the sizes that the column reports for arguments. -/
theorem forward_consistent (dialect : Dialect) {d : NativeDescriptor} (hd : d.Built)
    (hranks : HasRanks d.type) :
    (forward dialect d = none ↔ ∃ name, d.type.stripNullable = .named name)
      ∧ ∀ s, forward dialect d = some s →
        ∃ n, SqlName.read s.name.toList = some n ∧ Agrees dialect d.type s n := by
  refine ⟨forward_eq_none_iff, fun s h => ?_⟩
  rcases showsSizes_of_forward hd hranks h with hs | ⟨rfl, htype, rfl⟩ | ⟨g, rfl, htype, rfl⟩
  · exact hs.agrees
  · have hdim : shownDimensions .mySql d.type = 0 := rfl
    exact agrees_spelled (by decide) (by decide) hdim (.inl ⟨rfl, htype, by decide, rfl⟩)
  · have hdim : shownDimensions .postgreSql d.type = 0 := by
      refine shownDimensions_eq_zero (.inr ?_)
      rw [← arrayDimensions?_stripNullable, htype]
      rfl
    have hname : ∀ g : Geometry, (spelled "geometry" [g.name]).name = "geometry(" ++ g.name ++ ")"
        ∧ ∀ a ∈ [g.name], isArgumentText a.toList = true := by
      intro g
      cases g <;> decide
    exact agrees_spelled (by decide) (hname g).2 hdim
      (.inr ⟨g, rfl, htype, (hname g).1, rfl⟩)

/-- Text of length one in arrays of arrays, and a type that has no column. -/
theorem forward_consistent_nestedText :
    (∃ s n, forward .postgreSql nestedText = some s ∧ s.name = "char(1)[][][]"
        ∧ SqlName.read s.name.toList = some n ∧ n.key = s.baseName ∧ n.dimensions = 3
        ∧ n.arguments = ["1"])
      ∧ forward .mySql (.ofType (.nullable (.named "Shape"))) = none := by
  have hbuilt : nestedText.Built := .withFixed (.withLength (.ofType _) _) _
  have hranks : HasRanks nestedText.type := ⟨by decide, by decide, trivial⟩
  obtain ⟨n, hread, hagrees⟩ := (forward_consistent .postgreSql hbuilt hranks).2 _ rfl
  refine ⟨⟨_, n, rfl, by decide, hread, hagrees.key, hagrees.dimensions,
    (hagrees.width 1 rfl).2⟩, ?_⟩
  exact (forward_consistent .mySql (.ofType (.nullable (.named "Shape"))) trivial).1.mpr ⟨"Shape", rfl⟩

end SqlAtlas.TypeMap
