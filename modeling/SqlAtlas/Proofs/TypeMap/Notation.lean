/-
SqlAtlas.Proofs.TypeMap.Notation — the two notations of array types in
PostgreSQL stand for the same.

The catalog writes `_int4` where everyone else writes `int4[]`. The two are told
apart late: brackets are a dimension of the name, an underscore is a character of
its base. `reverse?_underscore` says that they come to the same for every text
without brackets of its own, whether it is a name or not. A text that is no name
is the reason to look at the base `_`, which the underscore makes by itself: no
row of the table begins with an underscore.
-/
import SqlAtlas.Proofs.SqlName.Marked
import SqlAtlas.Proofs.TypeMap.Arguments
import SqlAtlas.Proofs.TypeMap.Arrays

namespace SqlAtlas.TypeMap

open Text (isBlank)

/-! ## 1. Names that begin with an underscore -/

/-- No row of the table begins with an underscore. -/
theorem PostgreSql.native_of_underscore {n : SqlName} (h : n.base.toList.head? = some '_') :
    PostgreSql.native n = none := by
  have hkey : n.key.toList.head? = some '_' := by
    rw [SqlName.key]
    split
    · exact h
    · simp only [String.toList_append, List.head?_append, h, Option.some_or]
  cases hd : PostgreSql.native n with
  | none => rfl
  | some d =>
      unfold PostgreSql.native at hd
      split at hd
      all_goals
        first
          | cases hd; done
          | rename_i hrow
            rw [hrow] at hkey
            exact absurd hkey (by decide)

/-- What a text stands for, step by step. -/
theorem PostgreSql.reverse?_eq (text : List Char) : reverse? .postgreSql text
    = (SqlName.read text).bind fun n => (PostgreSql.native (dimensioned .postgreSql n).1).bind
        fun d => (arrayed d (dimensioned .postgreSql n).2).toOption := by
  have hname : ∀ n, (ofName .postgreSql n).toOption
      = (PostgreSql.native (dimensioned .postgreSql n).1).bind
        fun d => (arrayed d (dimensioned .postgreSql n).2).toOption := by
    intro n
    rw [toOption_ofName, if_neg (by simp [Dialect.hasArrays])]
    rfl
  rw [reverse?, reverse]
  cases SqlName.read text with
  | none => rfl
  | some n => exact hname n

/-- The underscore names no element, with brackets behind it or not. -/
theorem PostgreSql.native_dimensioned_underscore {n : SqlName} (h : n.base = "_") :
    PostgreSql.native (dimensioned .postgreSql n).1 = none := by
  have hcatalog : TypeMap.catalogElement? .postgreSql n = none := by
    rw [TypeMap.catalogElement?, catalogElement?, h]
    rfl
  have hbase : (dimensioned .postgreSql n).1.base = "_" := by
    rw [dimensioned, hcatalog]
    split <;> exact h
  refine PostgreSql.native_of_underscore ?_
  rw [hbase]
  rfl

/-- An underscore in front of a base makes an array of one dimension. -/
theorem PostgreSql.dimensioned_underscore {n : SqlName} (hdim : n.dimensions = 0)
    (hbase : n.base ≠ "") (name : String) :
    dimensioned .postgreSql { n with name := name, base := String.ofList ('_' :: n.base.toList) }
      = ({ n with name := name }, 1) := by
  obtain ⟨c, r, hcr⟩ := List.exists_cons_of_ne_nil (mt String.toList_eq_nil_iff.mp hbase)
  have hcatalog : TypeMap.catalogElement? .postgreSql
      { n with name := name, base := String.ofList ('_' :: n.base.toList) }
        = some { n with name := name } := by
    rw [TypeMap.catalogElement?, catalogElement?]
    simp only [String.toList_ofList, hcr]
    rw [← hcr, SqlName.withBase, String.ofList_toList]
  rw [dimensioned, hcatalog]
  simp [hdim]

/-! ## 2. The two notations -/

/-- **Both notations of an array stand for the same**, or for nothing. -/
theorem reverse?_underscore {x : List Char} (hx : ∀ c ∈ x.head?, isBlank c = false)
    (hopen : '[' ∉ x) (hclose : ']' ∉ x) :
    reverse? .postgreSql ('_' :: x) = reverse? .postgreSql (x ++ ['[', ']']) := by
  have hflat : SqlName.noBrackets x = true := by
    refine List.all_eq_true.mpr (fun c hc => ?_)
    have hne : c ≠ '[' ∧ c ≠ ']' := ⟨fun h => hopen (h ▸ hc), fun h => hclose (h ▸ hc)⟩
    simp [hne]
  obtain ⟨hsome, hnone⟩ := SqlName.read_underscore hx hflat
  rw [PostgreSql.reverse?_eq, PostgreSql.reverse?_eq, SqlName.read_brackets hx hflat]
  cases hread : SqlName.read x with
  | none =>
      cases hmarked : SqlName.read ('_' :: x) with
      | none => rfl
      | some n =>
          have hbase : n.base = "_" := hnone hread n hmarked
          rw [Option.bind_some, PostgreSql.native_dimensioned_underscore hbase]
          rfl
  | some n =>
      obtain ⟨hdim, hbase, name, hmarked⟩ := hsome n hread
      have hbrackets : ∀ name, dimensioned .postgreSql { n with name := name, dimensions := 1 }
          = ({ n with name := name }, 1) := by
        intro name
        rw [dimensioned, if_pos Nat.one_pos, SqlName.element, ← hdim]
      rw [hmarked, Option.map_some, Option.bind_some, Option.bind_some,
          PostgreSql.dimensioned_underscore hdim hbase, hbrackets]
      simp only [PostgreSql.native_name]

/-- An element with a parameter list and words behind it, and blanks at the end. -/
theorem reverse?_underscore_zonedTimestamp :
    reverse? .postgreSql ('_' :: "timestamp(3)  with time ZONE ".toList)
        = reverse? .postgreSql ("timestamp(3)  with time ZONE ".toList ++ ['[', ']'])
      ∧ reverse? .postgreSql ('_' :: "timestamp(3)  with time ZONE ".toList)
        = some (.ofType (.array (.primitive .dateTimeTz) 1)) := by
  have hhead : ∀ c ∈ "timestamp(3)  with time ZONE ".toList.head?, isBlank c = false := by
    intro c hc
    cases hc
    decide
  exact ⟨reverse?_underscore hhead (by decide) (by decide), by rfl⟩

end SqlAtlas.TypeMap
