/-
SqlAtlas.Proofs.Command.Trace — what reversing a SQL type leaves in the log.

Every way to end such a run but one has an event of its own: a type that is found
an informative one, a refusal a debugging one, and both tell the dialect and the
text. The exception is an array of PostgreSQL with more dimensions than a native
array may have, whose element is known (`TooDeep`). It is refused like any other
text, and nothing is logged.

`Reversal.traced_run` says so of one run at the level of debugging, whether the
level comes from the configuration or from around the program. `logOf_traced` says
it of all runs that share a log, one after the other: what they leave there are
their own events in the order of the runs.
-/
import Mathlib.Data.List.Forall2
import SqlAtlas.Command
import SqlAtlas.Proofs.SqlName.Spelling

namespace SqlAtlas

namespace TypeMap

/-! ## 1. Arrays with too many dimensions -/

theorem arrayed_eq_error_iff {d : NativeDescriptor} {k : Nat} {refusal : Refusal} :
    arrayed d k = .error refusal ↔ refusal = .tooManyDimensions ∧ maxArrayRank < k := by
  unfold arrayed NativeType.arrayOfRank
  by_cases hzero : k = 0
  · simp [hzero]
  · by_cases hrank : k ≤ maxArrayRank
    · have hpos : 1 ≤ k := by omega
      simp [hzero, hrank, hpos]
    · have hlt : maxArrayRank < k := by omega
      simp [hzero, hrank, hlt, eq_comm]

/-- More than one dimension can only be shown by brackets. -/
theorem dimensioned_of_lt {dialect : Dialect} {n : SqlName} (h : 1 < (dimensioned dialect n).2) :
    dimensioned dialect n = (n.element, n.dimensions) := by
  unfold dimensioned at h ⊢
  by_cases hpos : 0 < n.dimensions
  · rw [if_pos hpos]
  · rw [if_neg hpos] at h
    split at h <;> simp at h

/-- A text that names an array of PostgreSQL with a known element and more
dimensions than there may be. -/
def TooDeep (dialect : Dialect) (text : List Char) : Prop :=
  dialect = .postgreSql ∧ ∃ n d, SqlName.read text = some n ∧ maxArrayRank < n.dimensions
    ∧ native .postgreSql n.element = some d

theorem reverse_eq_tooManyDimensions_iff {dialect : Dialect} {text : List Char} :
    reverse dialect text = .error .tooManyDimensions ↔ TooDeep dialect text := by
  constructor
  · intro h
    unfold reverse at h
    split at h
    · cases h
    · rename_i n hread
      unfold ofName at h
      dsimp only at h
      split at h
      · cases h
      · rename_i harrays
        split at h
        · cases h
        · rename_i d hd
          obtain ⟨-, hdeep⟩ := arrayed_eq_error_iff.mp h
          have hmax : maxArrayRank = 32 := rfl
          have hmany : 1 < (dimensioned dialect n).2 := by omega
          have hparts := dimensioned_of_lt hmany
          rw [hparts] at hd hdeep harrays
          have hpos : 0 < n.dimensions := by omega
          cases dialect with
          | postgreSql => exact ⟨rfl, n, d, hread, hdeep, hd⟩
          | _ => exact absurd (by simpa [Dialect.hasArrays] using hpos) harrays
  · rintro ⟨rfl, n, d, hread, hdeep, hd⟩
    have hpos : 0 < n.dimensions := by omega
    rw [reverse, hread]
    simp only [ofName, dimensioned, if_pos hpos, hd]
    rw [if_neg (by simp [Dialect.hasArrays])]
    exact arrayed_eq_error_iff.mpr ⟨rfl, hdeep⟩

end TypeMap

namespace Command

open Log (Event Filter)
open TypeMap (TooDeep reverse?)

/-! ## 2. Events -/

/-- An event that tells the dialect and the SQL type of a run. -/
def Names (e : Event) (dialect : Dialect) (type : List Char) : Prop :=
  ("dialect", .str dialect.name) ∈ e.fields ∧ ("sql_type", .str (String.ofList type)) ∈ e.fields

/-- What a run that reverses a SQL type ends with, and what it leaves in the log:
one event, unless the array is too deep. -/
inductive Traced (dialect : Dialect) (type : List Char) : Nat → List Event → Prop
  | mapped {e : Event} {d : NativeDescriptor} (hd : reverse? dialect type = some d)
      (hlevel : e.level = .info) (hnames : Names e dialect type) : Traced dialect type 0 [e]
  | refused {e : Event} (hnone : reverse? dialect type = none) (hdeep : ¬ TooDeep dialect type)
      (hlevel : e.level = .debug) (hnames : Names e dialect type) : Traced dialect type 1 [e]
  | silent (hnone : reverse? dialect type = none) (hdeep : TooDeep dialect type) :
      Traced dialect type 1 []

/-- Every refusal but one has an event. -/
theorem exists_ofRefusal (dialect : Dialect) (type : List Char) {refusal : TypeMap.Refusal}
    (h : refusal ≠ .tooManyDimensions) :
    ∃ message, Log.ofRefusal dialect type refusal = [Log.refused dialect type message] := by
  cases refusal with
  | malformed => exact ⟨_, rfl⟩
  | noArrays => exact ⟨_, rfl⟩
  | unknown => exact ⟨_, rfl⟩
  | tooManyDimensions => exact absurd rfl h

theorem names_refused (dialect : Dialect) (type : List Char) (message : String) :
    Names (Log.refused dialect type message) dialect type := by
  simp [Names, Log.refused]

theorem names_mappedSql (dialect : Dialect) (type : List Char) :
    Names (Log.mappedSql dialect type) dialect type := by
  simp [Names, Log.mappedSql]

/-- **The step**: what is logged and answered before the filter of the run. -/
theorem traced_reverseType (type : List Char) (dialect : Dialect) :
    Traced dialect type (Ending.ofAnswer (reverseType type dialect).answer).exitCode
      (reverseType type dialect).events := by
  unfold reverseType
  cases h : TypeMap.reverse dialect type with
  | ok d =>
      have hd : reverse? dialect type = some d := by rw [reverse?, h]; rfl
      exact .mapped hd rfl (names_mappedSql dialect type)
  | error refusal =>
      have hnone : reverse? dialect type = none := by rw [reverse?, h]; rfl
      by_cases hdeep : refusal = .tooManyDimensions
      · subst hdeep
        exact .silent hnone (TypeMap.reverse_eq_tooManyDimensions_iff.mp h)
      · obtain ⟨message, hevent⟩ := exists_ofRefusal dialect type hdeep
        simp only [hevent]
        refine .refused hnone (fun hmany => hdeep ?_) rfl (names_refused dialect type message)
        have hsame := TypeMap.reverse_eq_tooManyDimensions_iff.mpr hmany
        rw [h] at hsame
        cases hsame
        rfl

/-! ## 3. The level of debugging -/

/-- The filter of the level of debugging. -/
def debugFilter : Filter := ⟨[⟨[], .none, Log.Level.debug.rank⟩]⟩

theorem read_debug : Filter.read "debug".toList = some debugFilter := by decide +kernel

/-- At this level everything passes but single steps. -/
theorem admits_debugFilter (e : Event) : debugFilter.admits e = decide (e.level ≠ .trace) := by
  obtain ⟨level, origin, message, fields⟩ := e
  cases level <;> rfl

theorem Traced.filter {dialect : Dialect} {type : List Char} {code : Nat} {events : List Event}
    (h : Traced dialect type code events) : events.filter debugFilter.admits = events := by
  refine List.filter_eq_self.mpr (fun e he => ?_)
  rw [admits_debugFilter]
  cases h with
  | mapped _ hlevel _ => rw [List.mem_singleton.mp he, hlevel]; rfl
  | refused _ _ hlevel _ => rw [List.mem_singleton.mp he, hlevel]; rfl
  | silent _ _ => cases he

/-- An array that is too deep is refused in silence. -/
theorem Traced.of_tooDeep {dialect : Dialect} {type : List Char} {code : Nat}
    {events : List Event} (h : Traced dialect type code events) (hdeep : TooDeep dialect type) :
    code = 1 ∧ events = [] := by
  cases h with
  | mapped hd _ _ =>
    rw [reverse?, TypeMap.reverse_eq_tooManyDimensions_iff.mpr hdeep] at hd
    cases hd
  | refused _ hshallow _ _ => exact absurd hdeep hshallow
  | silent _ _ => exact ⟨rfl, rfl⟩

/-! ## 4. Runs -/

/-- A run that reverses a SQL type, with arguments that can be used, at the level
of debugging and with its log in the given file. -/
structure Reversal (around : Surroundings) (log : String) where
  args : List String
  type : List Char
  dialect : Dialect
  config? : Option String
  session : Session
  reads : Invocation.read args = .ok ⟨config?, some log, .reverse type dialect⟩
  starts : Session.start around config? = .ok session
  debugging : Filter.read "debug".toList = some session.filter

variable {around : Surroundings} {log : String}

/-- **One run** ends and logs as its text demands. -/
theorem Reversal.traced_run (r : Reversal around log) :
    Traced r.dialect r.type (run around r.args).ending.exitCode (run around r.args).events := by
  have hfilter : r.session.filter = debugFilter := by
    have h := r.debugging
    rw [read_debug] at h
    exact (Option.some.inj h).symm
  have hrun : run around r.args
      = ⟨(r.session.perform (.reverse r.type r.dialect)).events,
          .ofAnswer (reverseType r.type r.dialect).answer⟩ := by
    rw [run, r.reads]
    simp only [Invocation.run, r.starts]
    rfl
  have hstep := traced_reverseType r.type r.dialect
  rw [hrun]
  simp only [Session.perform, hfilter, Action.perform, hstep.filter]
  exact hstep

/-- **All runs that share a log**: it holds what each run left there, in the order
of the runs. -/
theorem logOf_traced (runs : List (Reversal around log)) :
    ∃ logs, logOf around (runs.map (fun r => r.args)) = logs.flatten
      ∧ List.Forall₂ (fun r events =>
        Traced r.dialect r.type (run around r.args).ending.exitCode events) runs logs := by
  induction runs with
  | nil => exact ⟨[], rfl, .nil⟩
  | cons r runs ih =>
      obtain ⟨logs, hlog, htraced⟩ := ih
      refine ⟨(run around r.args).events :: logs, ?_, .cons r.traced_run htraced⟩
      rw [List.map_cons, logOf, List.flatMap_cons, ← logOf, hlog, List.flatten_cons]

/-- Surroundings in which every file configures the level of debugging. -/
def debugging : Surroundings := ⟨fun _ => some "[logging]\nlevel = \"debug\"\n".toList, none⟩

/-- The session of such a configuration. -/
def debuggingSession : Session := ⟨{ logging := { level := "debug" } }, debugFilter⟩

/-- The arguments that reverse a SQL type of PostgreSQL with this configuration. -/
def reverseArguments (type : String) : List String :=
  ["--config", "c.toml", "--log-file", "log", "reverse", type, "-d", "pg"]

/-- A run with such arguments. -/
def debuggingReversal (type : String) (h : Invocation.read (reverseArguments type)
    = .ok ⟨some "c.toml", some "log", .reverse type.toList .postgreSql⟩) :
    Reversal debugging "log" where
  args := reverseArguments type
  type := type.toList
  dialect := .postgreSql
  config? := some "c.toml"
  session := debuggingSession
  reads := h
  starts := by decide +kernel
  debugging := by decide +kernel

/-- A type that is known, and one that is not, leave one event each. -/
theorem logOf_traced_intAndUnknown :
    ∃ e f, logOf debugging [reverseArguments "int[]", reverseArguments "point"] = [e, f]
      ∧ e.level = .info ∧ Names e .postgreSql "int[]".toList
      ∧ f.level = .debug ∧ Names f .postgreSql "point".toList := by
  have hfound : reverse? .postgreSql "int[]".toList ≠ none := by decide +kernel
  have hnone : reverse? .postgreSql "point".toList = none := by decide +kernel
  have hunknown : TypeMap.reverse .postgreSql "point".toList = .error .unknown := by
    decide +kernel
  have hshallow : ¬ TooDeep .postgreSql "point".toList := by
    rw [← TypeMap.reverse_eq_tooManyDimensions_iff, hunknown]
    simp
  obtain ⟨logs, hlog, htraced⟩ := logOf_traced
    [debuggingReversal "int[]" (by decide +kernel), debuggingReversal "point" (by decide +kernel)]
  obtain _ | ⟨hint, _ | ⟨hpoint, _ | _⟩⟩ := htraced
  -- the exit codes are told by the events
  generalize (run debugging _).ending.exitCode = code at hint
  generalize (run debugging _).ending.exitCode = other at hpoint
  cases hint with
  | refused hempty _ _ _ => exact absurd hempty hfound
  | silent hempty _ => exact absurd hempty hfound
  | mapped _ hinfo hnames =>
    cases hpoint with
    | silent _ hdeep => exact absurd hdeep hshallow
    | mapped hsome _ _ => exact absurd (hnone.symm.trans hsome) (by simp)
    | refused _ _ hdebug hnamed => exact ⟨_, _, hlog, hinfo, hnames, hdebug, hnamed⟩

/-- An array of one dimension too many. -/
def deepArray : String := SqlName.spell "int" [] 33

theorem tooDeep_deepArray : TooDeep .postgreSql deepArray.toList := by
  have hbase : SqlName.IsBase "int".toList := by decide +kernel
  have hread := SqlName.read_spell_dimensions hbase (List.forall_mem_nil _) 33
  exact ⟨rfl, _, .ofPrimitive .int32, hread, by decide, by decide +kernel⟩

/-- It is refused, and the log stays empty. -/
theorem logOf_deepArray :
    (run debugging (reverseArguments deepArray)).ending.exitCode = 1
      ∧ logOf debugging [reverseArguments deepArray] = [] := by
  have htraced := (debuggingReversal deepArray (by decide +kernel)).traced_run
  obtain ⟨hcode, hevents⟩ := htraced.of_tooDeep tooDeep_deepArray
  refine ⟨hcode, ?_⟩
  rw [logOf, List.flatMap_singleton]
  exact hevents

end Command

end SqlAtlas
