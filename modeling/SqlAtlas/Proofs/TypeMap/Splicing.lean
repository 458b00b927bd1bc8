/-
SqlAtlas.Proofs.TypeMap.Splicing — every column type may be spliced into a
statement as it is named.

Text that nobody checked reaches `resolve` from two sides: a pinned type is the
caller's own text, and a native type holds names of the host application. The
first is spliced only if it is safe, the second never get into a column type.
So the name of a column type always belongs to the language of column names
(`name_mem_columnName`), and with that it is harmless.
-/
import SqlAtlas.Proofs.SqlName.Grammar
import SqlAtlas.Proofs.TypeMap.Renaming

namespace SqlAtlas.TypeMap

open SqlName (isSafe isSafeParameter spellDimensions)
open SqlName.Grammar
open Text (isBlank trim)

/-! ## 1. Names that the rules spell -/

/-- A type whose name may be spliced. -/
def IsSpliceable (t : SqlType) : Prop := t.name.toList ∈ columnName

/-- The test for a fixed name. -/
theorem isSpliceable_of_isSafe {t : SqlType}
    (h : isSafe t.name.toList = true ∧ trim t.name.toList = t.name.toList) : IsSpliceable t := by
  have hmem := mem_columnName_of_isSafe h.1
  rwa [h.2] at hmem

/-- Numbers are safe parameters. -/
theorem isSafeParameter_toString (n : Nat) : isSafeParameter (toString n).toList = true := by
  have hdigits : (toString n).toList.all Text.isWordDigit = true :=
    List.all_eq_true.mpr (fun _ h => Text.isWordDigit_of_isDigit (Text.isDigit_of_mem_toString h))
  rw [isSafeParameter, hdigits]
  simp [Nat.toDigits_ne_nil]

theorem isSpliceable_ofWidth {base : String} (hb : base.toList ∈ wordRow) (width : UInt32) :
    IsSpliceable (ofWidth base width) :=
  spell_mem_columnName hb (by
    intro a h
    rw [List.mem_singleton.mp h]
    exact isSafeParameter_toString _)

theorem isSpliceable_ofDigits {base : String} (hb : base.toList ∈ wordRow)
    (precision scale : UInt16) : IsSpliceable (ofDigits base precision scale) :=
  spell_mem_columnName hb (by
    intro a h
    simp only [List.mem_cons, List.not_mem_nil, or_false] at h
    rcases h with rfl | rfl <;> exact isSafeParameter_toString _)

/-- A single word makes a row of words. -/
theorem wordRow_of_word {base : String} (h : SqlName.isTypeWord base.toList = true) :
    base.toList ∈ wordRow := by
  have hmem := Language.append_mem_mul (mem_word h) (Language.nil_mem_kstar (gap * word))
  rwa [List.append_nil] at hmem

/-! ## 2. Columns of each kind -/

theorem isSpliceable_text (dialect : Dialect) (length : Length) (unicode fixed : Bool) :
    IsSpliceable (text dialect length unicode fixed) := by
  have hmax : IsSpliceable (text dialect .max unicode fixed) :=
    isSpliceable_of_isSafe (by
      cases dialect <;> cases unicode <;> cases fixed <;> decide +kernel)
  have hchar : ∀ fixed, (charBase fixed).toList ∈ wordRow := by
    intro fixed
    exact wordRow_of_word (by cases fixed <;> decide)
  cases length with
  | max => exact hmax
  | bounded width =>
      cases dialect with
      | sqlServer =>
          simp only [text, SqlServer.text] at hmax ⊢
          split
          · exact isSpliceable_ofWidth
              (wordRow_of_word (by cases unicode <;> cases fixed <;> decide)) width
          · exact hmax
      | mySql =>
          simp only [text, MySql.text] at hmax ⊢
          split
          · exact isSpliceable_ofWidth (hchar true) width
          · split
            · exact isSpliceable_ofWidth (hchar false) width
            · exact hmax
      | postgreSql =>
          simp only [text, PostgreSql.text] at hmax ⊢
          split
          · exact isSpliceable_ofWidth (hchar fixed) width
          · exact hmax
      | sqlite => exact isSpliceable_ofWidth (hchar fixed) width

theorem isSpliceable_binary (dialect : Dialect) (d : NativeDescriptor) :
    IsSpliceable (binary dialect d) := by
  have hbinary : ∀ fixed, (binaryBase fixed).toList ∈ wordRow := by
    intro fixed
    exact wordRow_of_word (by cases fixed <;> decide)
  cases dialect with
  | sqlServer =>
      have hmax : IsSpliceable SqlServer.widestBinary := isSpliceable_of_isSafe (by decide +kernel)
      simp only [binary, SqlServer.binary]
      split
      · split
        · exact isSpliceable_ofWidth (hbinary d.fixed) _
        · exact hmax
      · exact hmax
  | mySql =>
      have hmax : IsSpliceable ((spelled "longblob" []).withLength .max) :=
        isSpliceable_of_isSafe (by decide +kernel)
      simp only [binary, MySql.binary]
      split
      · split
        · exact isSpliceable_ofWidth (hbinary true) _
        · split
          · exact isSpliceable_ofWidth (hbinary false) _
          · exact hmax
      · exact hmax
  | postgreSql =>
      have hmax : IsSpliceable ((spelled "bytea" []).withLength .max) :=
        isSpliceable_of_isSafe (by decide +kernel)
      exact hmax
  | sqlite =>
      have hmax : IsSpliceable ((spelled "blob" []).withLength .max) :=
        isSpliceable_of_isSafe (by decide +kernel)
      exact hmax

theorem isSpliceable_primitive (dialect : Dialect) (kind : Primitive) (d : NativeDescriptor) :
    IsSpliceable (primitive dialect kind d) := by
  cases h : takesSizes kind with
  | false =>
      rw [primitive_of_unsized dialect h d (.ofPrimitive kind)]
      refine isSpliceable_of_isSafe ?_
      revert h
      cases dialect <;> cases kind <;> decide +kernel
  | true =>
      cases kind <;> cases h
      case decimal.refl =>
        obtain ⟨precision, scale, hp⟩ := primitive_decimal dialect d
        rw [hp]
        exact isSpliceable_ofDigits (wordRow_of_word (by cases dialect <;> decide)) _ _
      case char.refl =>
        rw [primitive_char]
        exact isSpliceable_text ..
      case string.refl =>
        rw [primitive_string]
        exact isSpliceable_text ..

theorem isSpliceable_jsonText (dialect : Dialect) (unicode : Bool) :
    IsSpliceable (jsonText dialect unicode) :=
  isSpliceable_of_isSafe (by cases dialect <;> cases unicode <;> decide +kernel)

theorem isSpliceable_geometry (dialect : Dialect) (shape? : Option Geometry) :
    IsSpliceable (geometry dialect shape?) := by
  refine isSpliceable_of_isSafe ?_
  cases shape? with
  | none => cases dialect <;> decide +kernel
  | some g => cases dialect <;> cases g <;> decide +kernel

theorem isSpliceable_element (leaf : ArrayLeaf) (d : NativeDescriptor) :
    IsSpliceable (PostgreSql.element leaf d) := by
  have h := elementOf leaf d
  generalize PostgreSql.element leaf d = s at h ⊢
  cases h with
  | bytes => exact isSpliceable_binary .postgreSql d
  | string => exact isSpliceable_text ..
  | unlimited _ => exact isSpliceable_of_isSafe (by decide +kernel)
  | column _ _ => exact isSpliceable_primitive ..

/-- **What all columns have in common is seen row by row**: every column is one of
a scalar, of bytes, of text, of serialized JSON or of geometry, or an array of the
dialect. -/
theorem forward_rows {dialect : Dialect} {P : SqlType → Prop}
    (hprimitive : ∀ kind d, P (primitive dialect kind d)) (hbinary : ∀ d, P (binary dialect d))
    (htext : ∀ length unicode, P (text dialect length unicode false))
    (hjson : ∀ unicode, P (jsonText dialect unicode))
    (hgeometry : ∀ shape?, P (geometry dialect shape?))
    (harray : ∀ leaf dimensions d t, array? dialect leaf dimensions d = some t → P t)
    {d : NativeDescriptor} {t : SqlType} (h : forward dialect d = some t) : P t := by
  rw [forward] at h
  generalize d.stripNullable = d at h
  obtain ⟨sizes, type⟩ := d
  cases type <;> cases h
  case primitive.refl => exact hprimitive ..
  case array.refl =>
    split
    · exact hbinary _
    · rw [array]
      split
      · rename_i leaf dimensions _
        cases h : array? dialect leaf dimensions _ with
        | none => exact hjson _
        | some t => exact harray _ _ _ t h
      · exact hjson _
  case generic.refl => exact hjson _
  case enum.refl => exact htext ..
  case json.refl => exact hjson _
  case geometry.refl => exact hgeometry _

theorem isSpliceable_array {dialect : Dialect} {leaf : ArrayLeaf} {dimensions : Nat}
    {d : NativeDescriptor} {t : SqlType} (h : array? dialect leaf dimensions d = some t) :
    IsSpliceable t := by
  cases dialect <;> cases h
  have hmem := append_dimensions_mem (isSpliceable_element leaf d) (max dimensions 1)
  rwa [← String.toList_ofList (l := _ ++ _)] at hmem

/-- **The rules of all dialects name their columns in the language.** -/
theorem isSpliceable_of_forward {dialect : Dialect} {d : NativeDescriptor} {t : SqlType}
    (h : forward dialect d = some t) : IsSpliceable t :=
  forward_rows (isSpliceable_primitive dialect) (isSpliceable_binary dialect)
    (fun length unicode => isSpliceable_text dialect length unicode false)
    (isSpliceable_jsonText dialect) (isSpliceable_geometry dialect)
    (fun _ _ _ _ => isSpliceable_array) h

/-! ## 3. Pinned types -/

theorem name_sizedBy (n : SqlName) (t : SqlType) : (sizedBy n t).name = t.name := by
  rw [sizedBy]
  split <;> rfl

/-- A pinned type is named as it was written, blanks around it aside. -/
theorem name_of_pinnedType {text : List Char} {t : SqlType} (h : pinnedType text = some t) :
    t.name.toList = trim text := by
  have hplain : ∀ u, SqlType.ofName text = .ok u → u.name.toList = trim text := by
    intro u hu
    simp only [SqlType.ofName] at hu
    split at hu
    · cases hu
    · cases hu
      simp [SqlType.plain]
  rw [pinnedType] at h
  split at h
  · cases h
  · rename_i u hu
    split at h
    · cases h
      rw [name_sizedBy]
      exact hplain u hu
    · cases h
      exact hplain _ hu

/-- A pinned type that is used is safe as it was written. -/
theorem isSpliceable_of_usablePin {text : String} {t : SqlType} (h : usablePin text = some t) :
    IsSpliceable t := by
  rw [usablePin] at h
  split at h
  · rename_i hsafe
    rw [IsSpliceable, name_of_pinnedType h]
    exact mem_columnName_of_isSafe hsafe
  · cases h

theorem isSpliceable_of_resolve {dialect : Dialect} {d : NativeDescriptor} {o : Overrides}
    {t : SqlType} (h : resolve dialect d o = some t) : IsSpliceable t := by
  rw [resolve, Option.or_eq_some_iff] at h
  rcases h with hpin | ⟨-, hforward⟩
  · obtain ⟨text, -, htext⟩ := Option.bind_eq_some_iff.mp hpin
    exact isSpliceable_of_usablePin htext
  · exact isSpliceable_of_forward hforward

/-- A pinned type that is not safe is passed over. -/
theorem resolve_of_unsafe {dialect : Dialect} {o : Overrides} {text : String}
    (hget : o.get? dialect = some text) (h : isSafe text.toList = false) (d : NativeDescriptor) :
    resolve dialect d o = forward dialect d := by
  rw [resolve, hget, Option.bind_some, usablePin, h]
  rfl

/-- Types that are pinned for other dialects count for nothing. -/
theorem resolve_of_unpinned {dialect : Dialect} {o : Overrides}
    (h : ∀ p ∈ o.pins, p.1 ≠ dialect) (d : NativeDescriptor) :
    resolve dialect d o = forward dialect d := by
  have hget : o.get? dialect = none := by
    rw [Overrides.get?, Option.map_eq_none_iff, List.find?_eq_none]
    intro p hp
    simpa using h p (List.mem_reverse.mp hp)
  rw [resolve, hget]
  rfl

/-! ## 4. Untrusted text -/

/-- **No text that nobody checked is spliced.** The name of a column type
belongs to the language and is harmless, whatever is pinned and whatever the
native type holds; a pinned type that is not safe, or that is meant for another
dialect, leaves the column as it is without it; and the names inside the native
type take no part. -/
theorem resolve_splices (dialect : Dialect) (d : NativeDescriptor) (text : List Char) :
    (∀ t, resolve dialect d (Overrides.read text) = some t →
      t.name.toList ∈ columnName ∧ Harmless t.name.toList) ∧
    (∀ pinned, (Overrides.read text).get? dialect = some pinned →
      isSafe pinned.toList = false →
      resolve dialect d (Overrides.read text) = forward dialect d) ∧
    ((∀ p ∈ (Overrides.read text).pins, p.1 ≠ dialect) →
      resolve dialect d (Overrides.read text) = forward dialect d) ∧
    ∀ u, Renamed d.type u →
      resolve dialect (d.withType u) (Overrides.read text)
        = resolve dialect d (Overrides.read text) :=
  ⟨fun _ h => ⟨isSpliceable_of_resolve h, harmless_of_mem_columnName (isSpliceable_of_resolve h)⟩,
    fun _ hget h => resolve_of_unsafe hget h d, fun h => resolve_of_unpinned h d,
    fun _ h => resolve_renamed h dialect _⟩

/-- An enumeration whose names would end a statement. -/
def hostileEnum : NativeDescriptor :=
  .ofType (.enum "Status\x27; --" ["Off", "On\x22;"])

theorem resolve_splices_hostileEnum :
    (∃ t, resolve .mySql hostileEnum (Overrides.read "mysql: decimal(10, 2)".toList) = some t
      ∧ t.name = "decimal(10, 2)" ∧ t.name.toList ∈ columnName ∧ Harmless t.name.toList) ∧
    resolve .mySql hostileEnum (Overrides.read "mysql: varchar(\x27a\x27)".toList)
      = forward .mySql hostileEnum ∧
    resolve .postgreSql hostileEnum (Overrides.read "mysql: text".toList)
      = forward .postgreSql hostileEnum ∧
    resolve .sqlite (hostileEnum.withType (.enum "State" ["Idle", "Busy"]))
        (Overrides.read "".toList)
      = resolve .sqlite hostileEnum (Overrides.read "".toList) := by
  refine ⟨?_, ?_, ?_, ?_⟩
  · have hname : (resolve .mySql hostileEnum
        (Overrides.read "mysql: decimal(10, 2)".toList)).map SqlType.name
          = some "decimal(10, 2)" := by decide +kernel
    obtain ⟨t, ht, hname⟩ := Option.map_eq_some_iff.mp hname
    exact ⟨t, ht, hname, (resolve_splices _ _ _).1 t ht⟩
  · exact (resolve_splices _ _ _).2.1 "varchar(\x27a\x27)" (by decide +kernel) (by decide +kernel)
  · exact (resolve_splices _ _ _).2.2.1 (by decide +kernel)
  · exact (resolve_splices _ hostileEnum _).2.2.2 _ (.enum _ _ (by decide))

end SqlAtlas.TypeMap
