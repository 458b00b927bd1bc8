/-
SqlAtlas.Proofs.TypeMap.Towers — arrays of arrays, whatever stands between.

A tower is an array whose elements may be arrays again, with nullables at any
level. A byte buffer is no level of it but an end, as long as there is a level
above it.

The column of a tower keeps the end and the sum of the ranks, and forgets how
the sum was made up. So what comes back is one array of that many dimensions,
if arrays may have so many, and it holds the values of the tower only where
there was nothing to forget: where the tower has one level.
-/
import SqlAtlas.Proofs.TypeMap.Consistency
import SqlAtlas.Proofs.TypeMap.RoundTrip

namespace SqlAtlas.TypeMap

open NativeType (compatible)

/-! ## 1. Levels -/

theorem sum_ranks_pos {t : NativeType} {rank : Nat}
    (hbytes : (NativeType.array t rank).isBytes = false) (hranks : HasRanks (.array t rank)) :
    0 < (ranks (.array t rank)).sum := by
  rw [ranks_array hbytes, List.sum_cons]
  exact Nat.add_pos_left hranks.1 _

/-- Where ranks are positive, no level is missed by their sum. -/
theorem sum_ranks_eq_zero : ∀ {t : NativeType}, HasRanks t → ((ranks t).sum = 0 ↔ ranks t = [])
  | .nullable t, h => sum_ranks_eq_zero (t := t) h
  | .array t rank, h => by
      cases hbytes : (NativeType.array t rank).isBytes with
      | true => simp [ranks, hbytes]
      | false =>
          refine iff_of_false (Nat.ne_of_gt (sum_ranks_pos hbytes h)) ?_
          rw [ranks_array hbytes]
          exact List.cons_ne_nil _ _
  | .primitive _, _ => iff_of_true rfl rfl
  | .generic _ _ _, _ | .enum _ _, _ | .json, _ | .geometry _, _ | .named _, _ => iff_of_true rfl rfl

/-! ## 2. Elements -/

/-- The name of an element: that of its column, where text without a length and
decimal numbers without a precision are unlimited. -/
def elementName (leaf : ArrayLeaf) (d : NativeDescriptor) : String :=
  match leaf with
  | .bytes => "bytea"
  | .primitive kind =>
    if kind = .string ∧ d.length = none then "text"
    else if kind = .decimal ∧ d.precision = none then "numeric"
    else (primitive .postgreSql kind d).name

theorem name_element (leaf : ArrayLeaf) (d : NativeDescriptor) :
    (PostgreSql.element leaf d).name = elementName leaf d := by
  have hwords : ∀ base ∈ ["bytea", "text", "numeric"], SqlName.spell base [] 0 = base := by decide
  have h := elementOf leaf d
  generalize PostgreSql.element leaf d = s at h ⊢
  cases h with
  | bytes => exact hwords "bytea" (by simp)
  | string =>
      cases hl : d.length with
      | none =>
          rw [elementName, if_pos ⟨rfl, hl⟩]
          exact hwords "text" (by simp)
      | some length =>
          rw [elementName, if_neg (fun h => by rw [hl] at h; cases h.2),
            if_neg (fun h => by cases h.1), primitive_string, textLength, hl]
          rfl
  | unlimited hnone =>
      rw [elementName, if_neg (fun h => by cases h.1), if_pos ⟨rfl, hnone⟩]
      exact hwords "numeric" (by simp)
  | column hs hd => rw [elementName, if_neg (fun h => hs h.1), if_neg (fun h => hd h.1 h.2)]

/-- Text of fixed length one, as an element. -/
def IsFixedCharacter (leaf : ArrayLeaf) (d : NativeDescriptor) : Prop :=
  leaf = .primitive .string ∧ d.fixed = true ∧ d.length = some (.bounded 1)

/-- **An element is held by what it comes back as**, but for text of fixed
length one. -/
theorem compatible_ofLeafSizes (leaf : ArrayLeaf) (d : NativeDescriptor) :
    compatible (leafType leaf) (ofLeafSizes leaf (PostgreSql.element leaf d).toSizing).type = true
      ↔ ¬ IsFixedCharacter leaf d := by
  have h := elementOf leaf d
  generalize PostgreSql.element leaf d = s at h ⊢
  cases h with
  | bytes =>
      have hbytes : compatible .bytes .bytes = true := by decide
      exact iff_of_true hbytes (fun h => by cases h.1)
  | string =>
      -- without a length the element is not of fixed length, whatever the hint
      have hone : IsFixedCharacter (.primitive .string) d ↔
          (d.length.isSome && d.fixed) = true ∧ d.length.getD .max = .bounded 1 := by
        cases hl : d.length <;> simp [IsFixedCharacter, hl]
      rw [hone, ofLeafSizes, ofScalarSizes, if_pos (.inr rfl)]
      by_cases h : (d.length.isSome && d.fixed) = true ∧ d.length.getD .max = .bounded 1
      · rw [h.1, h.2, ofTextSizes_character]
        exact iff_of_false (by decide) (fun hn => hn ⟨rfl, rfl⟩)
      · rw [(ofTextSizes_plain .postgreSql h (fun hkeeps => by cases hkeeps.1)).1]
        exact iff_of_true (by decide) h
  | unlimited _ => exact iff_of_true rfl (fun h => by cases h.1)
  | column hs _ =>
      refine iff_of_true (Bool.eq_true_of_not_eq_false (fun hlost => ?_))
        (fun h => hs (ArrayLeaf.primitive.inj h.1))
      exact ((compatible_ofScalarSizes .postgreSql hs d).mp hlost).2 rfl

/-- What an element comes back as is an element. -/
theorem exists_leafType_ofLeafSizes (leaf : ArrayLeaf) (z : Sizing) :
    ∃ own, (ofLeafSizes leaf z).type = leafType own := by
  cases leaf with
  | bytes => exact ⟨.bytes, rfl⟩
  | primitive kind =>
      simp only [ofLeafSizes, ofScalarSizes, ofTextSizes]
      repeat' split
      all_goals exact ⟨.primitive _, rfl⟩

/-! ## 3. Columns -/

/-- A tower has the column of arrays. -/
theorem forward_of_tower (dialect : Dialect) {d : NativeDescriptor} {t : NativeType} {rank : Nat}
    (ht : d.type.stripNullable = .array t rank)
    (hbytes : (NativeType.array t rank).isBytes = false) :
    forward dialect d = some (array dialect d.stripNullable) := by
  have htype : d.stripNullable.type = .array t rank := ht
  rw [forward, ofStripped, htype]
  simp only [hbytes, Bool.false_eq_true, if_false]

/-- **A tower that ends at an element has the column of an array of its
elements**, with all its dimensions. -/
theorem forward_of_leaf? {d : NativeDescriptor} {t : NativeType} {rank : Nat}
    (ht : d.type.stripNullable = .array t rank) {leaf : ArrayLeaf}
    (hleaf : leaf? d.type = some leaf) (h : 0 < (ranks d.type).sum ∨ leaf ≠ .bytes) :
    forward .postgreSql d
      = some (PostgreSql.array leaf (ranks d.type).sum d.stripNullable) := by
  have hend : leaf? (.array t rank) = leaf? d.type := by rw [← ht, leaf?_stripNullable]
  have hranks : ranks (.array t rank) = ranks d.type := by rw [← ht, ranks_stripNullable]
  have hbytes : (NativeType.array t rank).isBytes = false := by
    refine Bool.eq_false_of_not_eq_true (fun hb => ?_)
    rw [← hend, leaf?, if_pos hb] at hleaf
    rw [← hranks, ranks, if_pos hb] at h
    cases hleaf
    exact h.elim (Nat.lt_irrefl 0) (fun hne => hne rfl)
  have htype : d.stripNullable.type = .array t rank := ht
  rw [← htype] at hend hranks
  rw [forward_of_tower .postgreSql ht hbytes, array_of_leaf? (hend.trans hleaf) (hranks ▸ h), hranks]

/-- **A tower is held by one array of all its dimensions exactly if it has one
level**, and the elements hold those of the tower. -/
theorem compatible_tower {t u : NativeType} {rank : Nat} {leaf : ArrayLeaf}
    (hbytes : (NativeType.array t rank).isBytes = false) (hranks : HasRanks (.array t rank))
    (hleaf : leaf? (.array t rank) = some leaf) :
    compatible (.array t rank) (.array u (ranks (.array t rank)).sum) = true
      ↔ (ranks (.array t rank)).length = 1 ∧ compatible (leafType leaf) u = true := by
  have hone : rank = rank + (ranks t).sum ↔ ranks t = [] := by
    rw [← sum_ranks_eq_zero hranks.2]
    omega
  have hcompatible : ∀ n, compatible (.array t rank) (.array u n)
      = (decide (rank = n) && compatible t u) := fun _ => rfl
  rw [leaf?_array hbytes] at hleaf
  rw [ranks_array hbytes, List.length_cons, List.sum_cons, hcompatible]
  simp only [Bool.and_eq_true, decide_eq_true_eq, hone, Nat.add_eq_right, List.length_eq_zero_iff]
  refine and_congr_right (fun hnil => ?_)
  rw [← compatible_stripNullable u t, stripNullable_of_leaf? hnil hleaf]

/-- The column of a tower in PostgreSQL that ends at `leaf`, and what comes back
from it. -/
structure TowerColumn (leaf : ArrayLeaf) (d : NativeDescriptor) (s : SqlType) : Prop where
  name : s.name.toList
    = (elementName leaf d).toList ++ (List.replicate (ranks d.type).sum ['[', ']']).flatten
  comesBack : (ranks d.type).sum ≤ maxArrayRank →
    ∃ y own, reverse? .postgreSql s.name.toList = some y
      ∧ y.type = .array (leafType own) (ranks d.type).sum
      ∧ (compatible d.type y.type = true
        ↔ (ranks d.type).length = 1 ∧ ¬ IsFixedCharacter leaf d)
  lost : maxArrayRank < (ranks d.type).sum → reverse? .postgreSql s.name.toList = none

/-- The column of the elements, with a pair of brackets for each dimension, is
the column of the tower. -/
theorem towerColumn_array {d : NativeDescriptor} (hd : d.length ≠ some (.bounded 0))
    {t : NativeType} {rank : Nat} (ht : d.type.stripNullable = .array t rank)
    (hbytes : (NativeType.array t rank).isBytes = false) (hranks : HasRanks (.array t rank))
    {leaf : ArrayLeaf} (hleaf : leaf? (.array t rank) = some leaf) :
    TowerColumn leaf d (PostgreSql.array leaf (ranks d.type).sum d.stripNullable) := by
  have hsum : (ranks d.type).sum = (ranks (.array t rank)).sum := by
    rw [← ranks_stripNullable, ht]
  have h0 : 0 < (ranks (.array t rank)).sum := sum_ranks_pos hbytes hranks
  have hname : (PostgreSql.array leaf (ranks d.type).sum d.stripNullable).name.toList
      = (PostgreSql.element leaf d).name.toList ++ SqlName.spellDimensions (ranks d.type).sum := by
    rw [hsum, PostgreSql.array, Nat.max_eq_left h0, SqlType.plain, String.toList_ofList,
      NativeDescriptor.stripNullable, element_withType]
  have hreverse := reverse?_element leaf hd
  refine ⟨?_, fun hfew => ?_, fun hmany => ?_⟩
  · rw [hname, name_element, SqlName.spellDimensions_eq_flatten]
  · obtain ⟨own, hown⟩ := exists_leafType_ofLeafSizes leaf (PostgreSql.element leaf d).toSizing
    have hback := reverse?_append_dimensions (isSpelled_element leaf d) hreverse (hsum ▸ h0) hfew
    rw [← hname] at hback
    refine ⟨_, own, hback, congrArg (NativeType.array · _) hown, ?_⟩
    rw [← compatible_stripNullable, ← ranks_stripNullable, ht, ← compatible_ofLeafSizes]
    exact compatible_tower hbytes hranks hleaf
  · rw [hname]
    exact reverse?_append_dimensions_of_lt (isSpelled_element leaf d) hreverse hmany

/-- **The columns of towers.** In PostgreSQL a tower that ends at a scalar or a
byte buffer is named by its elements, with a pair of brackets for every dimension
of every level. It comes back as one array of that many dimensions, or as nothing
if there are too many, and the array holds the values of the tower exactly if the
tower has one level, unless the elements are text of fixed length one. Every other
tower is kept as JSON. -/
theorem tower_columns (dialect : Dialect) {d : NativeDescriptor} (hd : d.Built)
    (hranks : HasRanks d.type) {t : NativeType} {rank : Nat}
    (ht : d.type.stripNullable = .array t rank) (hbytes : d.type.isBytes = false) :
    (∀ leaf, dialect = .postgreSql → leaf? d.type = some leaf →
        ∃ s, forward dialect d = some s ∧ TowerColumn leaf d s)
      ∧ ((dialect = .postgreSql → leaf? d.type = none) →
        forward dialect d = some (jsonText dialect d.unicode)) := by
  have hbytes' : (NativeType.array t rank).isBytes = false := by
    rw [NativeType.isBytes, ht] at hbytes
    exact hbytes
  have hranks' : HasRanks (.array t rank) := by rwa [← ht, hasRanks_stripNullable]
  have hend : leaf? (.array t rank) = leaf? d.type := by rw [← ht, leaf?_stripNullable]
  refine ⟨fun leaf hdialect hleaf => ?_, fun h => ?_⟩
  · subst hdialect
    have hpositive : 0 < (ranks d.type).sum := by
      rw [← ranks_stripNullable, ht]
      exact sum_ranks_pos hbytes' hranks'
    exact ⟨_, forward_of_leaf? ht hleaf (.inl hpositive),
      towerColumn_array hd.length_ne_zero ht hbytes' hranks' (hend.trans hleaf)⟩
  · rw [forward_of_tower dialect ht hbytes', array_eq_jsonText]
    · rfl
    · exact fun hp => (leaf?_stripNullable d.type).trans (h hp)

/-- More levels of text than arrays may have dimensions. -/
def deepText : NativeDescriptor := .ofType (.array (.nullable (.array (.primitive .string) 32)) 1)

/-- Text of fixed length one in arrays of arrays comes back as one array, which
does not hold it, and text below too many dimensions does not come back. -/
theorem tower_columns_nestedText :
    (∃ s y, forward .postgreSql nestedText = some s ∧ s.name.toList = "char(1)[][][]".toList
        ∧ reverse? .postgreSql s.name.toList = some y
        ∧ (∃ own, y.type = .array (leafType own) 3) ∧ nestedText.type.compatible y.type ≠ true)
      ∧ forward .mySql nestedText = some (jsonText .mySql true)
      ∧ ∃ s, forward .postgreSql deepText = some s ∧ reverse? .postgreSql s.name.toList = none := by
  have hbuilt : nestedText.Built := .withFixed (.withLength (.ofType _) _) _
  have hranks : HasRanks nestedText.type := ⟨by decide, by decide, trivial⟩
  have hdeep : HasRanks deepText.type := ⟨by decide, by decide, trivial⟩
  refine ⟨?_, (tower_columns .mySql hbuilt hranks rfl rfl).2 (fun h => by cases h), ?_⟩
  · obtain ⟨s, hs, hcolumn⟩ := (tower_columns .postgreSql hbuilt hranks rfl rfl).1 _ rfl rfl
    obtain ⟨y, own, hy, htype, hcompatible⟩ := hcolumn.comesBack (by decide)
    refine ⟨s, y, hs, hcolumn.name, hy, ⟨own, htype⟩, fun h => ?_⟩
    exact absurd (hcompatible.mp h).1 (by decide)
  · obtain ⟨s, hs, hcolumn⟩ :=
      (tower_columns .postgreSql (.ofType deepText.type) hdeep rfl rfl).1 _ rfl rfl
    exact ⟨s, hs, hcolumn.lost (by decide)⟩

end SqlAtlas.TypeMap
