/-
SqlAtlas.Proofs.TypeMap.Returned — what a name may come back as.

The rules that read names are long tables, and most names are in none of
them. `Returned` lists what the tables have in them, by dialect, and
`native_returned` says that this is all: whatever the text, its words and its
arguments, the descriptor is one of a few kinds, with no length of zero and
with no text that another type would be read from.

Types of the same dialect that hold the same values are not told apart here.
What matters is which ones never come back: a duration outside PostgreSQL, a
single byte in PostgreSQL, JSON in SQL Server, and text of fixed length one.
-/
import SqlAtlas.Proofs.TypeMap.Atoms

namespace SqlAtlas.TypeMap

/-! ## 1. The kinds of descriptors -/

/-- The descriptors that the rules of a dialect read from names. -/
inductive Returned (dialect : Dialect) : NativeDescriptor → Prop
  | scalar {kind : Primitive} (hsizes : takesSizes kind = false)
      (hduration : kind = .duration → dialect = .postgreSql)
      (hbyte : kind = .uint8 → dialect ≠ .postgreSql) : Returned dialect (.ofPrimitive kind)
  | char (unicode : Bool) :
      Returned dialect ((NativeDescriptor.ofPrimitive .char).withUnicode unicode)
  | decimal : Returned dialect (.ofPrimitive .decimal)
  | digits (precision scale : UInt16) :
      Returned dialect ((NativeDescriptor.ofPrimitive .decimal).withPrecisionScale precision scale)
  | text (length? : Option Length) (unicode fixed : Bool) (hzero : length? ≠ some (.bounded 0))
      (hone : fixed = true → length? ≠ some (.bounded 1))
      (huuid : keepsUuidAsText dialect = true → fixed = true →
        length? ≠ some (.bounded uuidWidth)) :
      Returned dialect ⟨⟨length?, none, none, unicode, fixed⟩, .primitive .string⟩
  | bytes (length? : Option Length) (fixed : Bool) (hzero : length? ≠ some (.bounded 0)) :
      Returned dialect ⟨⟨length?, none, none, true, fixed⟩, .bytes⟩
  | json (hd : dialect ≠ .sqlServer) : Returned dialect (.ofType .json)
  | geometry (shape? : Option Geometry) : Returned dialect (.ofType (.geometry shape?))

theorem Returned.length_ne_zero {dialect : Dialect} {d : NativeDescriptor}
    (h : Returned dialect d) : d.length ≠ some (.bounded 0) := by
  cases h with
  | text _ _ _ hzero _ _ => exact hzero
  | bytes _ _ hzero => exact hzero
  | scalar _ _ _ => exact fun h => by cases h
  | char _ => exact fun h => by cases h
  | decimal => exact fun h => by cases h
  | digits _ _ => exact fun h => by cases h
  | json _ => exact fun h => by cases h
  | geometry _ => exact fun h => by cases h

/-! ## 2. Names with sizes -/

/-- The length that a name gives to a descriptor. -/
def givenLength? (n : SqlName) : Option Length := n.length?.bind NativeDescriptor.usable?

/-- A descriptor keeps all but its length. -/
theorem readLength_eq {n : SqlName} {d e : NativeDescriptor} (hd : d.length = none)
    (h : readLength n d = some e) : e = { d with length := givenLength? n } := by
  unfold readLength at h
  split at h
  · rename_i hnone
    cases h
    have : givenLength? n = none := by simp [givenLength?, SqlName.length?, hnone]
    rw [this, ← hd]
  · obtain ⟨length, hlength, rfl⟩ := Option.map_eq_some_iff.mp h
    rw [givenLength?, hlength]
    rfl

theorem givenLength?_ne_zero (n : SqlName) : givenLength? n ≠ some (.bounded 0) := by
  intro h
  obtain ⟨length, _, hl⟩ := Option.bind_eq_some_iff.mp h
  exact NativeDescriptor.usable?_ne_zero length hl

/-- A length that is given is the length that the name shows. -/
theorem length?_of_given {n : SqlName} {length : Length} (h : givenLength? n = some length) :
    n.length? = some length := by
  obtain ⟨own, hlength, hl⟩ := Option.bind_eq_some_iff.mp h
  cases own with
  | max => rw [hlength, ← hl]; rfl
  | bounded width =>
      rw [NativeDescriptor.usable?] at hl
      split at hl
      · cases hl
      · rw [hlength, hl]

/-- Text of variable length is returned as it is read. -/
theorem readText_returned {dialect : Dialect} {n : SqlName} {unicode : Bool}
    {d : NativeDescriptor} (h : readText n unicode false = some d) : Returned dialect d := by
  rw [readLength_eq rfl h]
  exact .text _ _ _ (givenLength?_ne_zero n) (fun hf => by cases hf) (fun _ hf => by cases hf)

/-- Text of fixed length is returned when other types have been ruled out. -/
theorem readText_fixed_returned {dialect : Dialect} {n : SqlName} {unicode : Bool}
    {d : NativeDescriptor} (hone : n.length? ≠ some (.bounded 1))
    (huuid : keepsUuidAsText dialect = true → n.length? ≠ some (.bounded uuidWidth))
    (h : readText n unicode true = some d) : Returned dialect d := by
  rw [readLength_eq rfl h]
  exact .text _ _ _ (givenLength?_ne_zero n) (fun _ h1 => hone (length?_of_given h1))
    (fun hkeeps _ h36 => huuid hkeeps (length?_of_given h36))

theorem readBytes_returned {dialect : Dialect} {n : SqlName} {fixed : Bool}
    {d : NativeDescriptor} (h : readBytes n fixed = some d) : Returned dialect d := by
  rw [readLength_eq rfl h]
  exact .bytes _ _ (givenLength?_ne_zero n)

theorem readDecimal_returned {dialect : Dialect} {n : SqlName} {d : NativeDescriptor}
    (h : readDecimal n = some d) : Returned dialect d := by
  unfold readDecimal at h
  split at h
  · cases h
    exact .digits _ _
  · cases h
    exact .digits _ 0
  · split at h
    · cases h
      exact .decimal
    · cases h

theorem readFloat_returned (dialect : Dialect) (n : SqlName) : Returned dialect (readFloat n) := by
  have h32 : Returned dialect (.ofPrimitive .float32) :=
    .scalar rfl (fun h => by cases h) (fun h => by cases h)
  have h64 : Returned dialect (.ofPrimitive .float64) :=
    .scalar rfl (fun h => by cases h) (fun h => by cases h)
  rw [readFloat]
  split
  · split
    · exact h32
    · exact h64
  · exact h64

theorem readShape_returned {dialect : Dialect} {key : String} {d : NativeDescriptor}
    (h : readShape key = some d) : Returned dialect d := by
  obtain ⟨g, _, rfl⟩ := Option.map_eq_some_iff.mp h
  exact .geometry (some g)

theorem readGeometry_returned (dialect : Dialect) (n : SqlName) :
    Returned dialect (readGeometry n) := .geometry _

/-- Text of variable length is returned in any length but zero. -/
theorem text_returned (dialect : Dialect) {length : Length} (hzero : length ≠ .bounded 0)
    (unicode : Bool) : Returned dialect
      ⟨⟨some length, none, none, unicode, false⟩, .primitive .string⟩ :=
  .text _ _ _ (fun h => hzero (Option.some.inj h)) (fun hf => by cases hf)
    (fun _ hf => by cases hf)

theorem longText_returned (dialect : Dialect) : Returned dialect longText := by
  have hmax : Length.max ≠ .bounded 0 := by decide
  exact text_returned dialect hmax true

theorem longBytes_returned (dialect : Dialect) : Returned dialect longBytes :=
  .bytes _ _ (by decide)

/-! ## 3. Text of fixed length -/

theorem SqlServer.readFixedText_returned {n : SqlName} {unicode : Bool} {d : NativeDescriptor}
    (h : SqlServer.readFixedText n unicode = some d) : Returned .sqlServer d := by
  unfold SqlServer.readFixedText at h
  split at h
  · cases h
    exact .char unicode
  · rename_i hplain
    simp only [Bool.or_eq_true, decide_eq_true_eq, not_or] at hplain
    exact readText_fixed_returned hplain.2 (fun hkeeps => by cases hkeeps) h

theorem PostgreSql.readFixedText_returned {n : SqlName} {d : NativeDescriptor}
    (h : PostgreSql.readFixedText n = some d) : Returned .postgreSql d := by
  unfold PostgreSql.readFixedText at h
  split at h
  · cases h
    exact .char true
  · rename_i hplain
    simp only [Bool.or_eq_true, decide_eq_true_eq, not_or] at hplain
    exact readText_fixed_returned hplain.2 (fun hkeeps => by cases hkeeps) h

theorem MySql.readFixedText_returned {n : SqlName} {d : NativeDescriptor}
    (h : MySql.readFixedText n = some d) : Returned .mySql d := by
  unfold MySql.readFixedText at h
  split at h
  · cases h
    exact .scalar rfl (by decide) (by decide)
  · rename_i huuid
    split at h
    · cases h
      exact .char true
    · rename_i hplain
      simp only [Bool.or_eq_true, decide_eq_true_eq, not_or] at hplain
      exact readText_fixed_returned hplain.2 (fun _ => huuid) h

theorem Sqlite.readFixedText_returned {n : SqlName} {d : NativeDescriptor}
    (h : Sqlite.readFixedText n = some d) : Returned .sqlite d := by
  unfold Sqlite.readFixedText at h
  split at h
  · cases h
    exact .scalar rfl (by decide) (by decide)
  · rename_i huuid
    split at h
    · cases h
      exact .char true
    · rename_i hone
      exact readText_fixed_returned hone (fun _ => huuid) h

/-! ## 4. The tables -/

theorem SqlServer.native_returned {n : SqlName} {d : NativeDescriptor}
    (h : SqlServer.native n = some d) : Returned .sqlServer d := by
  unfold SqlServer.native at h
  split at h
  · unfold SqlServer.ofBase at h
    split at h
    -- a row with a reader is told by the name of the reader, so nothing is unfolded to find it
    all_goals first
      | with_reducible exact readDecimal_returned h
      | with_reducible exact readText_returned h
      | with_reducible exact readBytes_returned h
      | with_reducible exact SqlServer.readFixedText_returned h
      | cases h
    all_goals first
      | exact .scalar rfl (by decide) (by decide)
      | exact .digits _ _
      | exact readFloat_returned _ n
      | exact text_returned _ (by decide) _
      | exact longBytes_returned _
      | exact readGeometry_returned _ n
  · cases h

theorem MySql.integer_returned {n : SqlName} {signed unsigned : Primitive} {d : NativeDescriptor}
    (hs : takesSizes signed = false ∧ signed ≠ .duration)
    (hu : takesSizes unsigned = false ∧ unsigned ≠ .duration)
    (h : MySql.integer n signed unsigned = some d) : Returned .mySql d := by
  cases h
  split
  · exact .scalar hu.1 (fun h => absurd h hu.2) (by simp)
  · exact .scalar hs.1 (fun h => absurd h hs.2) (by simp)

theorem MySql.tinyInteger_returned {n : SqlName} {d : NativeDescriptor}
    (h : MySql.tinyInteger n = some d) : Returned .mySql d := by
  unfold MySql.tinyInteger at h
  split at h
  · cases h
    exact .scalar rfl (by decide) (by decide)
  · exact MySql.integer_returned (by decide) (by decide) h

theorem MySql.bit_returned {n : SqlName} {d : NativeDescriptor} (h : MySql.bit n = some d) :
    Returned .mySql d := by
  unfold MySql.bit at h
  split at h
  · cases h
    exact .scalar rfl (by decide) (by decide)
  · cases h

theorem MySql.readBoundedBytes_returned {n : SqlName} {fixed : Bool} {d : NativeDescriptor}
    (h : MySql.readBoundedBytes n fixed = some d) : Returned .mySql d := by
  unfold MySql.readBoundedBytes at h
  split at h
  · cases h
  · exact readBytes_returned h

theorem MySql.native_returned {n : SqlName} {d : NativeDescriptor}
    (h : MySql.native n = some d) : Returned .mySql d := by
  unfold MySql.native at h
  split at h
  all_goals first
    | with_reducible exact MySql.tinyInteger_returned h
    | with_reducible exact MySql.bit_returned h
    | with_reducible exact readDecimal_returned h
    | with_reducible exact readText_returned h
    | with_reducible exact MySql.readBoundedBytes_returned h
    | with_reducible exact MySql.readFixedText_returned h
    | with_reducible exact readShape_returned h
    | with_reducible exact MySql.integer_returned (by decide) (by decide) h
    | cases h
  all_goals first
    | exact .scalar rfl (by decide) (by decide)
    | exact text_returned _ (by decide) _
    | exact longBytes_returned _
    | exact .json (by decide)
    | exact .geometry _

theorem PostgreSql.native_returned {n : SqlName} {d : NativeDescriptor}
    (h : PostgreSql.native n = some d) : Returned .postgreSql d := by
  unfold PostgreSql.native at h
  split at h
  all_goals first
    | with_reducible exact readDecimal_returned h
    | with_reducible exact readText_returned h
    | with_reducible exact PostgreSql.readFixedText_returned h
    | cases h
  all_goals first
    | exact .scalar rfl (by decide) (by decide)
    | exact .decimal
    | exact readFloat_returned _ n
    | exact longText_returned _
    | exact longBytes_returned _
    | exact .json (by decide)
    | exact readGeometry_returned _ n

theorem Sqlite.conventional_returned {n : SqlName} {d : NativeDescriptor}
    (h : Sqlite.conventional n = some d) : Returned .sqlite d := by
  unfold Sqlite.conventional at h
  split at h
  all_goals first
    | with_reducible exact readDecimal_returned h
    | with_reducible exact readText_returned h
    | with_reducible exact Sqlite.readFixedText_returned h
    | with_reducible exact readShape_returned h
    | cases h
  all_goals first
    | exact .scalar rfl (by decide) (by decide)
    | exact longText_returned _
    | exact longBytes_returned _
    | exact .json (by decide)
    | exact readGeometry_returned _ n

theorem Sqlite.affinity_returned {key : String} {d : NativeDescriptor}
    (h : Sqlite.affinity key = some d) : Returned .sqlite d := by
  unfold Sqlite.affinity at h
  split at h
  · cases h
    exact .scalar rfl (by decide) (by decide)
  · split at h
    · cases h
      exact longText_returned _
    · split at h
      · cases h
        exact longBytes_returned _
      · split at h
        · cases h
          exact .scalar rfl (by decide) (by decide)
        · cases h

/-- **Whatever is read from a name is one of the kinds of its dialect.** -/
theorem native_returned {dialect : Dialect} {n : SqlName} {d : NativeDescriptor}
    (h : native dialect n = some d) : Returned dialect d := by
  cases dialect with
  | sqlServer =>
      rw [native] at h
      exact SqlServer.native_returned h
  | mySql =>
      rw [native] at h
      exact MySql.native_returned h
  | postgreSql =>
      rw [native] at h
      exact PostgreSql.native_returned h
  | sqlite =>
      rw [native, Sqlite.native] at h
      rcases Option.or_eq_some_iff.mp h with h | ⟨_, h⟩
      · exact Sqlite.conventional_returned h
      · exact Sqlite.affinity_returned h

end SqlAtlas.TypeMap
