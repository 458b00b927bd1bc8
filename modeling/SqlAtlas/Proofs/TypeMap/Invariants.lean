/-
SqlAtlas.Proofs.TypeMap.Invariants — the descriptors that there are, on both
sides of the type map.

A caller builds descriptors step by step, and the map makes them row by row: the
native type that a text stands for, the column of a native type, a pinned type
with the sizes of its arguments. Each row writes names and sizes by itself, and
none of them makes anything that a caller could not have built. So whatever
descriptor is at hand has the names and the sizes of one that was built
(`descriptors_sound`), and what is written of it as JSON is what a reader of its
sizes sees.

That the name of a column is trimmed and has a base name is taken from the
language of column names; that the base name is the one beside it, and that a
scale has a precision, is seen in the rows.
-/
import SqlAtlas.Json.Encode
import SqlAtlas.Proofs.SqlType.Built
import SqlAtlas.Proofs.TypeMap.Introspection
import SqlAtlas.Proofs.TypeMap.Pinned
import SqlAtlas.Proofs.TypeMap.Splicing

namespace SqlAtlas

/-! ## 1. Descriptors as JSON -/

/-- A member of an object. -/
def Json.member? (key : String) : Json → Option Json
  | .obj members => members.lookup key
  | _ => none

/-- The scale that is stored is written, and it is the one that is seen. -/
theorem NativeDescriptor.Sound.member?_scale {d : NativeDescriptor} (h : d.Sound) :
    d.toJson.member? "scale" = some (.optional (fun scale => .nat scale.toNat) d.scale?) := by
  have hscale : d.scale? = d.scale := Sizing.scaled_iff.mp h.scaled
  -- the keys are fixed, so their order is computed
  simp only [hscale, NativeDescriptor.toJson, Sizing.members, Json.object, Json.insertMember,
    List.foldr, String.reduceLT, if_true, if_false, Json.member?]
  rfl

namespace TypeMap

/-! ## 2. From texts -/

theorem Returned.sound {dialect : Dialect} {d : NativeDescriptor} (h : Returned dialect d) :
    d.Sound := by
  refine ⟨h.length_ne_zero, Sizing.scaled_iff.mpr ?_⟩
  cases h <;> rfl

/-- **What a text stands for could have been built.** -/
theorem built_of_reverse? {dialect : Dialect} {text : List Char} {d : NativeDescriptor}
    (h : reverse? dialect text = some d) : d.Built := by
  rcases returned_of_reverse? h with hd | ⟨-, element, rank, he, -, -, rfl⟩
  · exact NativeDescriptor.built_iff.mpr hd.sound
  · exact (NativeDescriptor.built_iff.mpr he.sound).withType _

/-! ## 3. Columns -/

/-- The base name that the name has, and a scale beside a precision only. -/
structure IsDerived (t : SqlType) : Prop where
  base : t.baseName = String.ofList (baseName t.name.toList)
  scale : t.scale? = t.scale

theorem isDerived_text (dialect : Dialect) (length : Length) (unicode fixed : Bool) :
    IsDerived (text dialect length unicode fixed) := by
  cases length with
  | max => cases dialect <;> exact ⟨rfl, rfl⟩
  | bounded width =>
      cases dialect with
      | sqlServer =>
          simp only [text, SqlServer.text]
          split <;> exact ⟨rfl, rfl⟩
      | mySql =>
          simp only [text, MySql.text]
          split
          · exact ⟨rfl, rfl⟩
          · split <;> exact ⟨rfl, rfl⟩
      | postgreSql =>
          simp only [text, PostgreSql.text]
          split <;> exact ⟨rfl, rfl⟩
      | sqlite => exact ⟨rfl, rfl⟩

theorem isDerived_binary (dialect : Dialect) (d : NativeDescriptor) :
    IsDerived (binary dialect d) := by
  cases dialect with
  | sqlServer =>
      simp only [binary, SqlServer.binary]
      split
      · split <;> exact ⟨rfl, rfl⟩
      · exact ⟨rfl, rfl⟩
  | mySql =>
      simp only [binary, MySql.binary]
      split
      · split
        · exact ⟨rfl, rfl⟩
        · split <;> exact ⟨rfl, rfl⟩
      · exact ⟨rfl, rfl⟩
  | postgreSql => exact ⟨rfl, rfl⟩
  | sqlite => exact ⟨rfl, rfl⟩

theorem isDerived_primitive (dialect : Dialect) (kind : Primitive) (d : NativeDescriptor) :
    IsDerived (primitive dialect kind d) := by
  cases h : takesSizes kind with
  | false =>
      rw [primitive_of_unsized dialect h d (.ofPrimitive kind)]
      cases dialect <;> cases kind <;> first
        | cases h; done
        | exact ⟨rfl, rfl⟩
  | true =>
      cases kind <;> cases h
      case decimal.refl =>
        obtain ⟨precision, scale, hp⟩ := primitive_decimal dialect d
        rw [hp]
        exact ⟨rfl, rfl⟩
      case char.refl =>
        rw [primitive_char]
        exact isDerived_text ..
      case string.refl =>
        rw [primitive_string]
        exact isDerived_text ..

theorem isDerived_jsonText (dialect : Dialect) (unicode : Bool) :
    IsDerived (jsonText dialect unicode) := by
  cases dialect <;> exact ⟨rfl, rfl⟩

theorem isDerived_geometry (dialect : Dialect) (shape? : Option Geometry) :
    IsDerived (geometry dialect shape?) := by
  cases dialect <;> cases shape? <;> exact ⟨rfl, rfl⟩

theorem isDerived_element (leaf : ArrayLeaf) (d : NativeDescriptor) :
    IsDerived (PostgreSql.element leaf d) := by
  have h := elementOf leaf d
  generalize PostgreSql.element leaf d = s at h ⊢
  cases h with
  | bytes => exact isDerived_binary .postgreSql d
  | string => exact isDerived_text ..
  | unlimited _ => exact ⟨rfl, rfl⟩
  | column _ _ => exact isDerived_primitive ..

/-- An array takes its sizes from its element, and the base name from its own
name. -/
theorem isDerived_array {dialect : Dialect} {leaf : ArrayLeaf} {dimensions : Nat}
    {d : NativeDescriptor} {t : SqlType} (h : array? dialect leaf dimensions d = some t) :
    IsDerived t := by
  cases dialect <;> cases h
  exact ⟨rfl, (isDerived_element leaf d).scale⟩

theorem isDerived_of_forward {dialect : Dialect} {d : NativeDescriptor} {t : SqlType}
    (h : forward dialect d = some t) : IsDerived t :=
  forward_rows (isDerived_primitive dialect) (isDerived_binary dialect)
    (fun length unicode => isDerived_text dialect length unicode false)
    (isDerived_jsonText dialect) (isDerived_geometry dialect) (fun _ _ _ _ => isDerived_array) h

theorem IsDerived.sound {t : SqlType} (h : IsDerived t) (hname : IsSpliceable t) : t.Sound := by
  have htrim := SqlName.Grammar.trim_of_mem_columnName hname
  have hplain := SqlType.sound_of_ofName (ofName_of_mem_columnName (by rwa [htrim]))
  rw [htrim, String.ofList_toList] at hplain
  exact ⟨hplain.trimmed, hplain.name_ne, h.base, by rw [h.base]; exact hplain.base_ne,
    Sizing.scaled_iff.mpr h.scale⟩

/-- **A column could have been built**, whatever the descriptor is. -/
theorem built_of_forward {dialect : Dialect} {d : NativeDescriptor} {t : SqlType}
    (h : forward dialect d = some t) : t.Built :=
  SqlType.built_iff.mpr ((isDerived_of_forward h).sound (isSpliceable_of_forward h))

/-! ## 4. Pinned types -/

theorem built_sizedBy {t : SqlType} (h : t.Built) (n : SqlName) : (sizedBy n t).Built := by
  rw [sizedBy]
  split
  · exact h.withPrecisionScale _ _
  · exact h.withLength _
  · exact h

/-- A pinned type is built from its text. -/
theorem built_of_pinnedType {text : List Char} {t : SqlType} (h : pinnedType text = some t) :
    t.Built := by
  rw [pinnedType] at h
  split at h
  · cases h
  · rename_i u hu
    split at h
    · cases h
      exact built_sizedBy (.ofName hu) _
    · cases h
      exact .ofName hu

theorem built_of_resolve {dialect : Dialect} {d : NativeDescriptor} {o : Overrides} {t : SqlType}
    (h : resolve dialect d o = some t) : t.Built := by
  rw [resolve, Option.or_eq_some_iff] at h
  rcases h with hpin | ⟨-, hforward⟩
  · obtain ⟨text, -, htext⟩ := Option.bind_eq_some_iff.mp hpin
    rw [usablePin] at htext
    split at htext
    · exact built_of_pinnedType htext
    · cases htext
  · exact built_of_forward hforward

/-! ## 5. All descriptors -/

/-- **Names and sizes of all descriptors.** A native descriptor that was built, or
that a text stands for, has no length of zero and no scale without a precision,
so the scale in its JSON is the scale that is seen. A SQL type that was built from
a name, or that the map makes with or without pinned types, has a trimmed name
with a base name, and that base name beside it; and it has no scale without a
precision either. -/
theorem descriptors_sound :
    (∀ d : NativeDescriptor, (d.Built ∨ ∃ dialect text, reverse? dialect text = some d) →
      d.Sound ∧ d.toJson.member? "scale"
        = some (.optional (fun scale => .nat scale.toNat) d.scale?))
    ∧ ∀ t : SqlType, (t.Built ∨ (∃ dialect d, forward dialect d = some t)
        ∨ ∃ dialect d o, resolve dialect d o = some t) → t.Sound := by
  constructor
  · intro d h
    have hd : d.Built := by
      rcases h with hbuilt | ⟨dialect, text, htext⟩
      · exact hbuilt
      · exact built_of_reverse? htext
    have hsound := NativeDescriptor.built_iff.mp hd
    exact ⟨hsound, hsound.member?_scale⟩
  · rintro t (hbuilt | ⟨dialect, d, hforward⟩ | ⟨dialect, d, o, hresolve⟩)
    · exact hbuilt.sound
    · exact (built_of_forward hforward).sound
    · exact (built_of_resolve hresolve).sound

/-- A precision that clears a scale, an array of numbers, and a pinned type with
blanks around it. -/
theorem descriptors_sound_numbers :
    (((NativeDescriptor.ofPrimitive .decimal).withPrecisionScale 18 6).withPrecision 9
        ).withMaxLength.toJson.member? "scale" = some .null
      ∧ (∃ d, reverse? .postgreSql "numeric(18, 6)[][]".toList = some d
        ∧ d.length ≠ some (.bounded 0) ∧ d.toJson.member? "scale" = some (.nat 6))
      ∧ ∃ t, resolve .mySql (.ofPrimitive .string) ⟨[(.mySql, " decimal(18, 6) unsigned ")]⟩ = some t
        ∧ t.name = "decimal(18, 6) unsigned" ∧ t.scale = some 6
        ∧ t.baseName = String.ofList (baseName t.name.toList) ∧ t.Scaled := by
  obtain ⟨hnative, hsql⟩ := descriptors_sound
  refine ⟨?_, ?_, ?_⟩
  · have hbuilt := ((NativeDescriptor.Built.ofType (.primitive .decimal)).withPrecisionScale 18 6
      ).withPrecision 9
    exact (hnative _ (.inl hbuilt.withMaxLength)).2
  · have hread : reverse? .postgreSql "numeric(18, 6)[][]".toList
        = some ⟨⟨none, some 18, some 6, true, false⟩, .array (.primitive .decimal) 2⟩ := by
      decide +kernel
    obtain ⟨hsound, hscale⟩ := hnative _ (.inr ⟨_, _, hread⟩)
    exact ⟨_, hread, hsound.length, hscale⟩
  · have hpinned : resolve .mySql (.ofPrimitive .string) ⟨[(.mySql, " decimal(18, 6) unsigned ")]⟩
        = some ((SqlType.plain "decimal(18, 6) unsigned").withPrecisionScale 18 6) := by
      decide +kernel
    have hsound := hsql _ (.inr (.inr ⟨_, _, _, hpinned⟩))
    exact ⟨_, hpinned, rfl, rfl, hsound.base, hsound.scaled⟩

end TypeMap

end SqlAtlas
