/-
SqlAtlas.Proofs.TypeMap.Sizes — where the sizes of a native type come from.

A name shows its sizes in its arguments, but not every row of the tables looks
at them. `SizesFrom` tells three kinds of descriptors apart: those with digits
from the arguments, those with no other length than the one the arguments give,
and those that the name stands for without its arguments as well, such as long
text or money. In SQLite there is a fourth, since a name whose arguments no row
can read still has an affinity. `native_sizesFrom` goes through the tables once;
`reverse_sizesFrom` carries it over dimensions, which leave sizes alone.

A number of digits is also a length, and the last section says which.
-/
import SqlAtlas.Proofs.TypeMap.Arguments
import SqlAtlas.Proofs.TypeMap.Returned

namespace SqlAtlas

open Text (readUnsigned)

namespace SqlName

/-- The name without its arguments. -/
def unlisted (n : SqlName) : SqlName := n.relisted n.name []

end SqlName

namespace TypeMap

/-! ## 1. Readers of sizes -/

/-- Sizes that a row reads off the arguments of a name: digits and no length, or
no digits and at most the length that the arguments give. -/
inductive ReadSizes (n : SqlName) (d : NativeDescriptor) : Prop
  | digits {p : UInt16} {s? : Option UInt16} (hargs : n.precisionScale? = some (p, s?))
      (hp : d.precision = some p) (hs : d.scale? = some (s?.getD 0)) (hl : d.length = none)
  | length (hp : d.precision = none) (hl : ∀ length, d.length = some length →
      n.length? = some length)

section Readers

variable {n : SqlName} {d : NativeDescriptor}

/-- A descriptor without any size. -/
theorem ReadSizes.of_none (hp : d.precision = none) (hl : d.length = none) : ReadSizes n d :=
  .length hp (fun length h => by rw [hl] at h; cases h)

theorem readDecimal_readSizes (h : readDecimal n = some d) : ReadSizes n d := by
  unfold readDecimal at h
  split at h
  · rename_i hargs
    cases h
    exact .digits hargs rfl rfl rfl
  · rename_i hargs
    cases h
    exact .digits hargs rfl rfl rfl
  · split at h
    · cases h
      exact .of_none rfl rfl
    · cases h

theorem readLength_readSizes {e : NativeDescriptor} (hp : e.precision = none)
    (hl : e.length = none) (h : readLength n e = some d) : ReadSizes n d := by
  rw [readLength_eq hl h]
  exact .length hp (fun length hlength => length?_of_given hlength)

theorem readText_readSizes {unicode fixed : Bool} (h : readText n unicode fixed = some d) :
    ReadSizes n d := readLength_readSizes rfl rfl h

theorem readBytes_readSizes {fixed : Bool} (h : readBytes n fixed = some d) : ReadSizes n d :=
  readLength_readSizes rfl rfl h

theorem readFloat_readSizes : ReadSizes n (readFloat n) := by
  unfold readFloat
  split
  · split <;> exact .of_none rfl rfl
  · exact .of_none rfl rfl

theorem readShape_readSizes {key : String} (h : readShape key = some d) : ReadSizes n d := by
  obtain ⟨g, -, rfl⟩ := Option.map_eq_some_iff.mp h
  exact .of_none rfl rfl

theorem SqlServer.readFixedText_readSizes {unicode : Bool}
    (h : SqlServer.readFixedText n unicode = some d) : ReadSizes n d := by
  unfold SqlServer.readFixedText at h
  split at h
  · cases h
    exact .of_none rfl rfl
  · exact readText_readSizes h

theorem PostgreSql.readFixedText_readSizes (h : PostgreSql.readFixedText n = some d) :
    ReadSizes n d := by
  unfold PostgreSql.readFixedText at h
  split at h
  · cases h
    exact .of_none rfl rfl
  · exact readText_readSizes h

theorem MySql.readFixedText_readSizes (h : MySql.readFixedText n = some d) : ReadSizes n d := by
  unfold MySql.readFixedText at h
  split at h
  · cases h
    exact .of_none rfl rfl
  · split at h
    · cases h
      exact .of_none rfl rfl
    · exact readText_readSizes h

theorem Sqlite.readFixedText_readSizes (h : Sqlite.readFixedText n = some d) :
    ReadSizes n d := by
  unfold Sqlite.readFixedText at h
  split at h
  · cases h
    exact .of_none rfl rfl
  · split at h
    · cases h
      exact .of_none rfl rfl
    · exact readText_readSizes h

theorem MySql.readBoundedBytes_readSizes {fixed : Bool}
    (h : MySql.readBoundedBytes n fixed = some d) : ReadSizes n d := by
  unfold MySql.readBoundedBytes at h
  split at h
  · cases h
  · exact readBytes_readSizes h

theorem MySql.integer_readSizes {signed unsigned : Primitive}
    (h : MySql.integer n signed unsigned = some d) : ReadSizes n d := by
  cases h
  exact .of_none rfl rfl

theorem MySql.tinyInteger_readSizes (h : MySql.tinyInteger n = some d) : ReadSizes n d := by
  unfold MySql.tinyInteger at h
  split at h
  · cases h
    exact .of_none rfl rfl
  · exact MySql.integer_readSizes h

theorem MySql.bit_readSizes (h : MySql.bit n = some d) : ReadSizes n d := by
  unfold MySql.bit at h
  split at h
  · cases h
    exact .of_none rfl rfl
  · cases h

end Readers

/-! ## 2. The tables -/

section Tables

variable {n : SqlName} {d : NativeDescriptor}

theorem SqlServer.native_readSizes (h : SqlServer.native n = some d) :
    ReadSizes n d ∨ SqlServer.native n.unlisted = some d := by
  have hmodifiers : n.unlisted.modifiers = n.modifiers := rfl
  have hbase : n.unlisted.base = n.base := rfl
  unfold SqlServer.native at h ⊢
  rw [hmodifiers]
  split at h
  · rename_i hnone
    rw [if_pos hnone]
    unfold SqlServer.ofBase at h ⊢
    rw [hbase]
    split at h
    all_goals first
      | with_reducible exact .inl (readDecimal_readSizes h)
      | with_reducible exact .inl (readText_readSizes h)
      | with_reducible exact .inl (readBytes_readSizes h)
      | with_reducible exact .inl (SqlServer.readFixedText_readSizes h)
      | cases h
    all_goals first
      | exact .inl (.of_none rfl rfl)
      | exact .inl readFloat_readSizes
      | exact .inr rfl
  · cases h

theorem MySql.native_readSizes (h : MySql.native n = some d) :
    ReadSizes n d ∨ MySql.native n.unlisted = some d := by
  have hkey : MySql.bareKey n.unlisted = MySql.bareKey n := rfl
  unfold MySql.native at h ⊢
  rw [hkey]
  split at h
  all_goals first
    | with_reducible exact .inl (MySql.tinyInteger_readSizes h)
    | with_reducible exact .inl (MySql.bit_readSizes h)
    | with_reducible exact .inl (readDecimal_readSizes h)
    | with_reducible exact .inl (readText_readSizes h)
    | with_reducible exact .inl (MySql.readBoundedBytes_readSizes h)
    | with_reducible exact .inl (MySql.readFixedText_readSizes h)
    | with_reducible exact .inl (readShape_readSizes h)
    | with_reducible exact .inl (MySql.integer_readSizes h)
    | cases h
  all_goals first
    | exact .inl (.of_none rfl rfl)
    | exact .inr rfl

theorem PostgreSql.native_readSizes (h : PostgreSql.native n = some d) :
    ReadSizes n d ∨ PostgreSql.native n.unlisted = some d := by
  have hkey : n.unlisted.key = n.key := rfl
  unfold PostgreSql.native at h ⊢
  rw [hkey]
  split at h
  all_goals first
    | with_reducible exact .inl (readDecimal_readSizes h)
    | with_reducible exact .inl (readText_readSizes h)
    | with_reducible exact .inl (PostgreSql.readFixedText_readSizes h)
    | cases h
  all_goals first
    | exact .inl (.of_none rfl rfl)
    | exact .inl readFloat_readSizes
    | exact .inr rfl

theorem Sqlite.conventional_readSizes (h : Sqlite.conventional n = some d) :
    ReadSizes n d ∨ Sqlite.conventional n.unlisted = some d := by
  have hkey : n.unlisted.key = n.key := rfl
  unfold Sqlite.conventional at h ⊢
  rw [hkey]
  split at h
  all_goals first
    | with_reducible exact .inl (readDecimal_readSizes h)
    | with_reducible exact .inl (readText_readSizes h)
    | with_reducible exact .inl (Sqlite.readFixedText_readSizes h)
    | with_reducible exact .inl (readShape_readSizes h)
    | cases h
  all_goals first
    | exact .inl (.of_none rfl rfl)
    | exact .inr rfl

end Tables

/-- An affinity has no digits, and a length only where it has the widest. -/
theorem Sqlite.affinity_sizes {key : String} {d : NativeDescriptor}
    (h : Sqlite.affinity key = some d) :
    d.precision = none ∧ ∀ length, d.length = some length → length = .max := by
  unfold Sqlite.affinity at h
  split at h
  · cases h
    exact ⟨rfl, fun length h => by cases h⟩
  · split at h
    · cases h
      exact ⟨rfl, fun length h => by cases h; rfl⟩
    · split at h
      · cases h
        exact ⟨rfl, fun length h => by cases h; rfl⟩
      · split at h
        · cases h
          exact ⟨rfl, fun length h => by cases h⟩
        · cases h

/-- Where the sizes of a descriptor come from: from the arguments of the name,
from the name without its arguments, or from the affinity of a name whose
arguments no row of SQLite reads. -/
inductive SizesFrom (dialect : Dialect) (n : SqlName) (d : NativeDescriptor) : Prop
  | arguments (h : ReadSizes n d)
  | name (h : native dialect n.unlisted = some d)
  | affinity (hd : dialect = .sqlite) (hnone : Sqlite.conventional n = none)
      (h : Sqlite.affinity n.key = some d)

theorem SizesFrom.of_or {dialect : Dialect} {n : SqlName} {d : NativeDescriptor}
    (h : ReadSizes n d ∨ native dialect n.unlisted = some d) : SizesFrom dialect n d := by
  rcases h with hread | hname
  · exact .arguments hread
  · exact .name hname

/-- **The sizes of whatever a name stands for.** -/
theorem native_sizesFrom {dialect : Dialect} {n : SqlName} {d : NativeDescriptor}
    (h : native dialect n = some d) : SizesFrom dialect n d := by
  cases dialect with
  | sqlServer => exact .of_or (SqlServer.native_readSizes h)
  | mySql => exact .of_or (MySql.native_readSizes h)
  | postgreSql => exact .of_or (PostgreSql.native_readSizes h)
  | sqlite =>
      rw [native, Sqlite.native] at h
      rcases Option.or_eq_some_iff.mp h with hconv | ⟨hnone, haffinity⟩
      · refine .of_or ((Sqlite.conventional_readSizes hconv).imp_right (fun hname => ?_))
        rw [native, Sqlite.native, hname]
        rfl
      · exact .affinity rfl hnone haffinity

/-! ## 3. Names with dimensions -/

/-- Dimensions leave sizes alone. -/
theorem toSizing_arrayed {d y : NativeDescriptor} {dimensions : Nat}
    (h : (arrayed d dimensions).toOption = some y) : y.toSizing = d.toSizing := by
  unfold arrayed at h
  split at h
  · cases h
    rfl
  · split at h
    · cases h
      rfl
    · cases h

theorem dimensioned_unlisted (dialect : Dialect) (n : SqlName) :
    dimensioned dialect n.unlisted
      = ((dimensioned dialect n).1.unlisted, (dimensioned dialect n).2) := by
  rw [SqlName.unlisted, dimensioned_relisted, SqlName.unlisted, name_dimensioned]

/-- **The sizes of whatever a text stands for** come from the element of its
name. Sizes that the element has without its arguments, the text has as well. -/
theorem reverse_sizesFrom {dialect : Dialect} {text : List Char} {y : NativeDescriptor}
    (h : reverse? dialect text = some y) :
    ∃ n d, SqlName.read text = some n ∧ y.toSizing = d.toSizing
      ∧ SizesFrom dialect (dimensioned dialect n).1 d
      ∧ (native dialect (dimensioned dialect n).1.unlisted = some d →
        (ofName dialect n.unlisted).toOption = some y) := by
  rw [reverse?, reverse] at h
  cases hread : SqlName.read text with
  | none =>
      rw [hread] at h
      cases h
  | some n =>
      rw [hread] at h
      simp only [toOption_ofName] at h
      split at h
      · cases h
      · rename_i harrays
        obtain ⟨d, hd, hy⟩ := Option.bind_eq_some_iff.mp h
        refine ⟨n, d, rfl, toSizing_arrayed hy, native_sizesFrom hd, fun hname => ?_⟩
        rw [toOption_ofName, dimensioned_unlisted, if_neg harrays, hname, Option.bind_some, hy]

end TypeMap

/-! ## 4. Numbers as lengths -/

/-- A number of digits reads as the length of the same number, zero as none. -/
theorem Length.read_of_readPrecision {a : String} {p : UInt16}
    (h : SqlName.readPrecision a = some p) :
    Length.read a.toList = if p = 0 then none else some (.bounded p.toUInt32) := by
  obtain ⟨k, hk, rfl⟩ := Option.map_eq_some_iff.mp h
  have hnumber := isNumberText_of_readUnsigned hk
  have hbounds := hk
  unfold readUnsigned at hbounds
  rw [Option.filter_eq_some_iff] at hbounds
  obtain ⟨hdigits, hle⟩ := hbounds
  have hlt : k < 65536 := by
    have : k ≤ UInt16.size - 1 := by simpa using hle
    simp only [UInt16.size] at this
    omega
  have hwide : readUnsigned greatestWidth a.toList = some k := by
    unfold readUnsigned
    rw [Option.filter_eq_some_iff]
    refine ⟨hdigits, decide_eq_true ?_⟩
    simp only [greatestWidth, UInt32.size]
    omega
  rw [Length.read, trim_of_isNumberText hnumber, ne_max_of_forall (mem_of_isNumberText hnumber),
    if_neg (by simp), readWidth, hwide]
  cases k with
  | zero => rfl
  | succ k =>
      have hnat : (UInt16.ofNat (k + 1)).toNat = k + 1 := UInt16.toNat_ofNat_of_lt' hlt
      have hne : UInt16.ofNat (k + 1) ≠ 0 := by
        intro hzero
        rw [hzero] at hnat
        simp at hnat
      have hval : (UInt16.ofNat (k + 1)).toUInt32 = UInt32.ofNat (k + 1) := by
        rw [← UInt32.toNat_inj, UInt16.toNat_toUInt32, hnat, UInt32.toNat_ofNat_of_lt']
        simp only [UInt32.size]
        omega
      simp only [if_neg hne, hval]

end SqlAtlas
