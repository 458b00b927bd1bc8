/-
SqlAtlas.Proofs.TypeMap.Introspection — what a name stands for is found again
in the column that is made of it.

Any text that reads as a type, with any words and arguments, stands for a
descriptor of one of the kinds of `Returned`, or for an array of such. The
map makes a column of it, and the name of that column reads back as a type
that holds the same values (`introspect_again`). There are two exceptions:
JSON in SQLite, which becomes text, and arrays of JSON and of geometry in
PostgreSQL, which become JSON.

Sizes that a name shows are not lost on the way. A length beyond what the
dialect may bound becomes the greatest length, and never a smaller one.
-/
import SqlAtlas.Proofs.TypeMap.Returned
import SqlAtlas.Proofs.TypeMap.RoundTrip

namespace SqlAtlas.TypeMap

/-! ## 1. Sizes that are kept -/

/-- A length that is given is kept or widened, and digits that are given are
kept. -/
structure KeepsSizes (y y' : NativeDescriptor) : Prop where
  length : ∀ length, y.length = some length → y'.length = some length ∨ y'.length = some .max
  digits : ∀ precision, y.precision = some precision →
    y'.precision = some precision ∧ y'.scale = y.scale

theorem keepsSizes_unsized {y : NativeDescriptor} (hl : y.length = none)
    (hp : y.precision = none) (y' : NativeDescriptor) : KeepsSizes y y' := by
  refine ⟨fun _ h => ?_, fun _ h => ?_⟩
  · rw [hl] at h
    cases h
  · rw [hp] at h
    cases h

/-- A descriptor holds the values and the sizes of another one. -/
structure Holds (y y' : NativeDescriptor) : Prop where
  values : y.type.compatible y'.type = true
  sizes : KeepsSizes y y'

/-- A column of text has the length that is asked for, or the greatest. -/
theorem text_keeps_length (dialect : Dialect) (length : Length) (unicode fixed : Bool) :
    (text dialect length unicode fixed).length = some length
      ∨ (text dialect length unicode fixed).length = some .max := by
  cases length with
  | max => exact .inr (text_max dialect unicode fixed)
  | bounded width =>
      rcases text_bounded dialect width unicode fixed with ⟨h, -⟩ | ⟨-, -, h⟩
      · exact .inl h
      · exact h

theorem binary_keeps_length (dialect : Dialect) {d : NativeDescriptor} {length : Length}
    (h : d.length = some length) :
    (binary dialect d).length = some length ∨ (binary dialect d).length = some .max := by
  cases dialect with
  | sqlServer =>
      simp only [binary, SqlServer.binary]
      split
      · rename_i width hwidth
        cases h.symm.trans hwidth
        split
        · exact .inl rfl
        · exact .inr rfl
      · exact .inr rfl
  | mySql =>
      simp only [binary, MySql.binary]
      split
      · rename_i width hwidth
        cases h.symm.trans hwidth
        split
        · exact .inl rfl
        · split
          · exact .inl rfl
          · exact .inr rfl
      · exact .inr rfl
  | postgreSql => exact .inr rfl
  | sqlite => exact .inr rfl

/-- Text that no other type is read from holds what its column reads back
as. -/
theorem holds_text (dialect : Dialect) {y : NativeDescriptor} (ht : y.type = .primitive .string)
    (hp : y.precision = none) {length : Length} {unicode fixed : Bool}
    (hl : ∀ own, y.length = some own → length = own)
    (hone : ¬ (fixed = true ∧ length = .bounded 1))
    (huuid : ¬ (keepsUuidAsText dialect = true ∧ fixed = true ∧ length = .bounded 36)) :
    Holds y (ofTextSizes dialect (text dialect length unicode fixed).toSizing) := by
  obtain ⟨htype, hsizes⟩ := ofTextSizes_plain dialect hone huuid
  refine ⟨by rw [ht, htype]; decide, ⟨fun own h => ?_, fun _ h => ?_⟩⟩
  · rw [hsizes.length, ← hl own h]
    exact text_keeps_length dialect length unicode fixed
  · rw [hp] at h
    cases h

/-! ## 2. Columns of returned descriptors -/

/-- **A scalar that is returned holds what its column reads back as.** -/
theorem Returned.holds_primitive {dialect : Dialect} {y : NativeDescriptor}
    (h : Returned dialect y) {kind : Primitive} (ht : y.type = .primitive kind) :
    Holds y (ofScalarSizes dialect kind (primitive dialect kind y).toSizing) := by
  cases h with
  | scalar hsizes hduration _ =>
      cases ht
      refine ⟨?_, keepsSizes_unsized rfl rfl _⟩
      rw [ofScalarSizes_type hsizes]
      change kind.widensTo (storedAs dialect kind) = true
      rw [← Bool.not_eq_false, widensTo_storedAs]
      rintro ⟨hk, hd⟩
      exact hd (hduration hk)
  | char unicode =>
      cases ht
      refine ⟨?_, keepsSizes_unsized rfl rfl _⟩
      rw [primitive_char, ofScalarSizes, if_pos (.inl rfl)]
      change (NativeType.primitive .char).compatible
        (ofTextSizes dialect (TypeMap.text dialect (.bounded 1) unicode true).toSizing).type = true
      rw [ofTextSizes_character]
      decide
  | decimal =>
      cases ht
      refine ⟨?_, keepsSizes_unsized rfl rfl _⟩
      cases dialect <;> decide
  | digits precision scale =>
      cases ht
      have hcolumn : ofScalarSizes dialect .decimal (primitive dialect .decimal
          ((NativeDescriptor.ofPrimitive .decimal).withPrecisionScale precision scale)).toSizing
            = (NativeDescriptor.ofPrimitive .decimal).withPrecisionScale precision scale := by
        cases dialect <;> rfl
      rw [hcolumn]
      exact ⟨rfl, fun _ h => .inl h, fun _ h => ⟨h, rfl⟩⟩
  | text length? unicode fixed _ hone huuid =>
      cases ht
      rw [primitive_string]
      refine holds_text dialect rfl rfl (fun own h => ?_) ?_ ?_
      · rw [textLength, h]
        rfl
      · rintro ⟨hf, hl⟩
        exact hone hf ((textLength_eq_bounded (by decide)).mp hl)
      · rintro ⟨hkeeps, hf, hl⟩
        exact huuid hkeeps hf ((textLength_eq_bounded (by decide)).mp hl)
  | bytes _ _ _ => cases ht
  | json _ => cases ht
  | geometry _ => cases ht

theorem holds_bytes (dialect : Dialect) {y : NativeDescriptor} (ht : y.type = .bytes)
    (hp : y.precision = none) : Holds y (ofByteSizes (binary dialect y).toSizing) := by
  refine ⟨?_, fun _ h => binary_keeps_length dialect h, fun _ h => ?_⟩
  · rw [ht]
    change NativeType.bytes.compatible .bytes = true
    decide
  · rw [hp] at h
    cases h

/-- An element that is returned holds what an element of its type reads back
as. -/
theorem Returned.holds_element {y : NativeDescriptor} (h : Returned .postgreSql y)
    {leaf : ArrayLeaf} (ht : y.type = leafType leaf) :
    Holds y (ofLeafSizes leaf (PostgreSql.element leaf y).toSizing) := by
  cases leaf with
  | bytes =>
      cases h with
      | bytes _ _ _ => exact holds_bytes .postgreSql rfl rfl
      | scalar _ _ _ => cases ht
      | char _ => cases ht
      | decimal => cases ht
      | digits _ _ => cases ht
      | text _ _ _ _ _ _ => cases ht
      | json _ => cases ht
      | geometry _ => cases ht
  | primitive kind =>
      have hcolumn := h.holds_primitive ht
      -- only text and decimal numbers have elements unlike their columns
      cases h with
      | scalar hsizes _ _ =>
          cases ht
          rwa [← element_eq_primitive (fun hk => by rw [hk] at hsizes; cases hsizes)
            (fun hk => by rw [hk] at hsizes; cases hsizes)] at hcolumn
      | char _ =>
          cases ht
          exact hcolumn
      | digits _ _ =>
          cases ht
          exact hcolumn
      | decimal =>
          cases ht
          exact ⟨by decide, keepsSizes_unsized rfl rfl _⟩
      | text length? unicode fixed _ hone _ =>
          cases ht
          rw [element_string]
          refine holds_text .postgreSql rfl rfl (fun own h => ?_) ?_ (fun h => by cases h.1)
          · rw [h]
            rfl
          · rintro ⟨hf, hl⟩
            cases length? with
            | none => cases hf
            | some own => exact hone hf (congrArg some hl)
      | bytes _ _ _ => cases ht
      | json _ => cases ht
      | geometry _ => cases ht

/-! ## 3. The way back and forth -/

/-- The types that stand for a name and whose column stands for another
type. -/
inductive LostOnReturn (dialect : Dialect) (t : NativeType) : Prop
  | json (hd : dialect = .sqlite) (ht : t = .json)
  | array (hd : dialect = .postgreSql) (element : NativeType) (rank : Nat)
      (ht : t = .array element rank) (he : element = .json ∨ ∃ shape?, element = .geometry shape?)

/-- The column of a descriptor, and how what comes back differs. -/
def ComesAgain (dialect : Dialect) (y : NativeDescriptor) : Prop :=
  ∃ s y', forward dialect y = some s ∧ reverse? dialect s.name.toList = some y'
    ∧ (y.type.compatible y'.type = false ↔ LostOnReturn dialect y.type) ∧ KeepsSizes y y'

theorem Holds.comesAgain {dialect : Dialect} {y y' : NativeDescriptor} (h : Holds y y')
    (hlost : ¬ LostOnReturn dialect y.type) {s : SqlType} (hs : forward dialect y = some s)
    (hy : reverse? dialect s.name.toList = some y') : ComesAgain dialect y := by
  refine ⟨s, y', hs, hy, ?_, h.sizes⟩
  rw [h.values]
  exact iff_of_false (by decide) hlost

theorem Returned.comesAgain {dialect : Dialect} {y : NativeDescriptor} (h : Returned dialect y) :
    ComesAgain dialect y := by
  have hl := h.length_ne_zero
  obtain ⟨sizes, type⟩ := y
  -- the type alone decides which column is made; types that are not returned have none
  cases type with
  | primitive kind =>
      refine (h.holds_primitive rfl).comesAgain ?_ rfl (reverse?_primitive dialect kind hl)
      rintro (⟨_, ht⟩ | ⟨_, _, _, ht, _⟩) <;> cases ht
  | array element rank =>
      cases h
      refine (holds_bytes dialect rfl rfl).comesAgain ?_ (forward_bytes dialect _)
        (reverse?_binary dialect hl)
      rintro (⟨_, ht⟩ | ⟨_, _, _, ht, he⟩)
      · cases ht
      · cases ht
        rcases he with he | ⟨_, he⟩ <;> cases he
  | json =>
      cases h with
      | json hd =>
          refine ⟨_, _, rfl, reverse?_jsonText dialect _, ?_, keepsSizes_unsized rfl rfl _⟩
          have hlost : LostOnReturn dialect .json ↔ dialect = .sqlite := by
            constructor
            · rintro (⟨h, _⟩ | ⟨_, _, _, ht, _⟩)
              · exact h
              · cases ht
            · exact fun h => .json h rfl
          change NativeType.compatible .json _ = false ↔ LostOnReturn dialect .json
          rw [hlost]
          cases dialect with
          | sqlServer => exact absurd rfl hd
          | mySql => exact iff_of_false (by decide) (by decide)
          | postgreSql => exact iff_of_false (by decide) (by decide)
          | sqlite => exact iff_of_true (by decide) rfl
  | geometry shape? =>
      cases h
      have hvalues : (NativeType.geometry shape?).compatible
          (.geometry (storedShape dialect shape?)) = true := by
        cases dialect <;> simp [NativeType.compatible, NativeType.stripNullable, storedShape]
      refine Holds.comesAgain ⟨hvalues, keepsSizes_unsized rfl rfl _⟩ ?_ rfl
        (reverse?_geometry dialect shape?)
      rintro (⟨_, ht⟩ | ⟨_, _, _, ht, _⟩) <;> cases ht
  | nullable t => cases h
  | generic scope? name arguments => cases h
  | enum name members => cases h
  | named name => cases h

theorem Holds.arrayWith {y y' : NativeDescriptor} (h : Holds y y') (rank : Nat) :
    Holds (arrayWith y rank) (arrayWith y' rank) := by
  refine ⟨?_, h.sizes.length, h.sizes.digits⟩
  simp [TypeMap.arrayWith, NativeDescriptor.withType, NativeType.compatible,
    NativeType.stripNullable, h.values]

/-- Arrays whose elements have an array column come again. -/
theorem comesAgain_arrayWith {y : NativeDescriptor} (h : Returned .postgreSql y)
    {leaf : ArrayLeaf} (ht : y.type = leafType leaf) {rank : Nat} (h0 : 0 < rank)
    (hr : rank ≤ maxArrayRank) : ComesAgain .postgreSql (TypeMap.arrayWith y rank) := by
  have hleaf : leaf ≠ .primitive .uint8 := by
    rintro rfl
    cases h with
    | scalar _ _ hbyte =>
        cases ht
        exact hbyte rfl rfl
    | _ => cases ht
  -- the rank is positive, so the brackets behind the element show exactly the rank
  have hmax : max rank 1 = rank := by omega
  have hreverse := reverse?_array leaf (d := TypeMap.arrayWith y rank) h.length_ne_zero hr
  rw [TypeMap.arrayWith, element_withType, hmax] at hreverse
  refine ((h.holds_element ht).arrayWith rank).comesAgain ?_
    (forward_arrayWith hleaf ht h0) hreverse
  rintro (⟨_, ht'⟩ | ⟨_, element, _, ht', he⟩)
  · cases ht'
  · have helement : leafType leaf = element := ht ▸ (NativeType.array.inj ht').1
    rw [← helement] at he
    cases leaf with
    | bytes => rcases he with he | ⟨_, he⟩ <;> cases he
    | primitive kind => rcases he with he | ⟨_, he⟩ <;> cases he

/-- Arrays of other elements are kept as JSON. -/
theorem forward_jsonArray {y : NativeDescriptor} {rank : Nat}
    (hleaf : leafOf 0 (arrayWith y rank).type = none) (hbyte : y.type ≠ .primitive .uint8) :
    forward .postgreSql (arrayWith y rank) = some (jsonText .postgreSql y.unicode) := by
  rw [forward_of_array .postgreSql (not_isBytes hbyte rank), array, hleaf]
  rfl

/-- Arrays of JSON and of geometry come back as JSON. -/
theorem comesAgain_jsonArray {y : NativeDescriptor} (hl : y.length = none)
    (hp : y.precision = none) (ht : y.type = .json ∨ ∃ shape?, y.type = .geometry shape?)
    (rank : Nat) : ComesAgain .postgreSql (arrayWith y rank) := by
  have hleaf : leafOf 0 (arrayWith y rank).type = none ∧ y.type ≠ .primitive .uint8 := by
    rw [arrayWith, NativeDescriptor.withType]
    rcases ht with ht | ⟨_, ht⟩ <;> rw [ht] <;> exact ⟨rfl, fun h => by cases h⟩
  have hsizes := keepsSizes_unsized (y := arrayWith y rank) hl hp
  refine ⟨_, _, forward_jsonArray hleaf.1 hleaf.2, reverse?_jsonText .postgreSql _, ?_, hsizes _⟩
  exact iff_of_true rfl (.array rfl _ _ rfl ht)

/-- A returned descriptor is an element of an array column, or one that is
kept as JSON. -/
theorem Returned.element_cases {dialect : Dialect} {y : NativeDescriptor} (h : Returned dialect y) :
    (∃ leaf, y.type = leafType leaf) ∨ (y.length = none ∧ y.precision = none
      ∧ (y.type = .json ∨ ∃ shape?, y.type = .geometry shape?)) := by
  cases h with
  | scalar _ _ _ => exact .inl ⟨.primitive _, rfl⟩
  | char _ => exact .inl ⟨.primitive .char, rfl⟩
  | decimal => exact .inl ⟨.primitive .decimal, rfl⟩
  | digits _ _ => exact .inl ⟨.primitive .decimal, rfl⟩
  | text _ _ _ _ _ _ => exact .inl ⟨.primitive .string, rfl⟩
  | bytes _ _ _ => exact .inl ⟨.bytes, rfl⟩
  | json _ => exact .inr ⟨rfl, rfl, .inl rfl⟩
  | geometry shape? => exact .inr ⟨rfl, rfl, .inr ⟨shape?, rfl⟩⟩

/-- A text stands for a returned descriptor, or in PostgreSQL for an array of
one. -/
theorem returned_of_reverse? {dialect : Dialect} {t : List Char} {y : NativeDescriptor}
    (h : reverse? dialect t = some y) :
    Returned dialect y ∨ (dialect = .postgreSql ∧ ∃ element rank, Returned .postgreSql element
      ∧ 0 < rank ∧ rank ≤ maxArrayRank ∧ y = arrayWith element rank) := by
  have hok : reverse dialect t = .ok y := by
    rw [reverse?] at h
    cases hr : reverse dialect t with
    | ok d =>
        rw [hr] at h
        cases h
        rfl
    | error _ =>
        rw [hr] at h
        cases h
  rw [reverse] at hok
  split at hok
  · cases hok
  · rename_i n _
    rw [ofName] at hok
    dsimp only at hok
    generalize dimensioned dialect n = parts at hok
    obtain ⟨element, rank⟩ := parts
    split at hok
    · cases hok
    · rename_i harrays
      split at hok
      · cases hok
      · rename_i d hd
        have hreturned := native_returned hd
        rw [arrayed] at hok
        split at hok
        · cases hok
          exact .inl hreturned
        · rename_i hrank
          have hdialect : dialect = .postgreSql := by
            cases dialect with
            | postgreSql => rfl
            | _ => simp [Dialect.hasArrays] at harrays; omega
          subst hdialect
          rw [NativeType.arrayOfRank] at hok
          by_cases hr : 1 ≤ rank ∧ rank ≤ maxArrayRank
          · rw [if_pos hr] at hok
            cases hok
            exact .inr ⟨rfl, d, rank, hreturned, hr.1, hr.2, rfl⟩
          · rw [if_neg hr] at hok
            cases hok

/-- **What a name stands for is found again.** It has a column, and what the
column reads back as holds its values unless it is lost on return. Its sizes
are kept in any case. -/
theorem introspect_again {dialect : Dialect} {t : List Char} {y : NativeDescriptor}
    (h : reverse? dialect t = some y) :
    ∃ s y', forward dialect y = some s ∧ reverse? dialect s.name.toList = some y'
      ∧ (y.type.compatible y'.type = false ↔ LostOnReturn dialect y.type) ∧ KeepsSizes y y' := by
  rcases returned_of_reverse? h with hy | ⟨rfl, element, rank, he, h0, hr, rfl⟩
  · exact hy.comesAgain
  · rcases he.element_cases with ⟨leaf, ht⟩ | ⟨hl, hp, ht⟩
    · exact comesAgain_arrayWith he ht h0 hr
    · exact comesAgain_jsonArray hl hp ht rank

/-- A column of geometries, in the notation of the catalog. -/
def geometryColumn : List Char := "_geometry(Point)".toList

/-- The array that the catalog writes with an underscore is lost. -/
theorem introspect_again_geometryColumn :
    ∃ y, reverse? .postgreSql geometryColumn = some y ∧ LostOnReturn .postgreSql y.type
      ∧ ∃ s y', forward .postgreSql y = some s ∧ reverse? .postgreSql s.name.toList = some y'
        ∧ (y.type.compatible y'.type = false ↔ LostOnReturn .postgreSql y.type)
        ∧ KeepsSizes y y' := by
  have h : reverse? .postgreSql geometryColumn
      = some (.ofType (.array (.geometry (some .point)) 1)) := by decide
  exact ⟨_, h, .array rfl _ _ rfl (.inr ⟨_, rfl⟩), introspect_again h⟩

end SqlAtlas.TypeMap
