/-
SqlAtlas.Proofs.Command.Disclosure — what the log tells of the expressions that
are checked.

When an expression is refused, its text and the keyword that was found in it are at
hand, and the failure carries the keyword. The log is told neither. `Disclosure`
lists what it is told: the kind, the category of the cause, and the number of
characters. `ofCheck_eq` says that the events of a check are made from its
disclosure alone, and the filter of a run sees nothing but the events.

So runs with the same disclosures log the same, whatever the filter lets through
(`Validation.events_congr`), and by induction so do sequences of runs. The text of
an accepted expression leaves no event at all.
-/
import Mathlib.Data.List.Forall2
import SqlAtlas.Command
import SqlAtlas.Proofs.Gate.Conditions

namespace SqlAtlas.Command

open Log (Event)

/-! ## 1. Disclosures -/

/-- What the log is told of an expression: its kind, the category of the cause if it
is refused, and its length in characters. -/
structure Disclosure where
  kind : Gate.Kind
  category? : Option String
  length : Nat
  deriving DecidableEq, Repr

/-- The category of the cause for which a gate refuses an expression. -/
def refusal? (gate : Gate) (kind : Gate.Kind) (expression : List Char) : Option String :=
  match gate.check kind expression with
  | .ok () => none
  | .error rejection => some rejection.cause.category

/-- The disclosure of an expression that is checked. -/
def Disclosure.ofCheck (gate : Gate) (kind : Gate.Kind) (expression : List Char) : Disclosure :=
  ⟨kind, refusal? gate kind expression, expression.length⟩

/-- The events that a disclosure makes: a warning with all of it if the expression
is refused, and none otherwise. -/
def Disclosure.events (d : Disclosure) : List Event :=
  match d.category? with
  | none => []
  | some category =>
    [⟨.warn, .gate, "expression rejected",
      [("kind", .str d.kind.label), ("category", .str category), ("length", .nat d.length)]⟩]

/-- **The events of a check are made from its disclosure.** -/
theorem ofCheck_eq (gate : Gate) (kind : Gate.Kind) (expression : List Char) :
    Log.ofCheck gate kind expression = (Disclosure.ofCheck gate kind expression).events := by
  rw [Log.ofCheck, Disclosure.events, Disclosure.ofCheck, refusal?]
  cases h : gate.check kind expression with
  | ok _ => rfl
  | error rejection =>
      -- a rejection has the kind that was asked for
      obtain ⟨hkind, -⟩ := Gate.check_eq_error_iff.mp h
      rw [← hkind]
      rfl

/-! ## 2. Runs -/

/-- A run that checks an expression, with arguments that can be used, with the given
configuration, and with its log in the given file. -/
structure Validation (config? : Option String) (log : String) where
  args : List String
  kind : Gate.Kind
  expression : List Char
  reads : Invocation.read args = .ok ⟨config?, some log, .validate kind expression⟩

section

variable {around : Surroundings} {config? : Option String} {session : Session} {gate : Gate}
variable (hstart : Session.start around config? = .ok session)
variable (hgate : Gate.ofOptions session.config.validator = .ok gate)

include hstart hgate

/-- **One run** ends as its expression demands, and logs what the filter admits of
its disclosure. -/
theorem Validation.run_eq {log : String} (v : Validation config? log) :
    run around v.args
      = ⟨(Disclosure.ofCheck gate v.kind v.expression).events.filter session.filter.admits,
          .ofAnswer (checkExpression gate v.kind v.expression).answer⟩ := by
  rw [run, v.reads, ← ofCheck_eq]
  simp only [Invocation.run, hstart, Session.perform, Action.perform, validate, hgate]
  rfl

theorem Validation.events_eq {log : String} (v : Validation config? log) :
    (run around v.args).events
      = (Disclosure.ofCheck gate v.kind v.expression).events.filter session.filter.admits := by
  rw [v.run_eq hstart hgate]

/-- Runs with the same disclosure log the same. -/
theorem Validation.events_congr {log log' : String} (v : Validation config? log)
    (w : Validation config? log')
    (h : Disclosure.ofCheck gate v.kind v.expression
      = Disclosure.ofCheck gate w.kind w.expression) :
    (run around v.args).events = (run around w.args).events := by
  rw [v.events_eq hstart hgate, w.events_eq hstart hgate, h]

/-- **Sequences of runs** with the same disclosures, one by one, log the same. -/
theorem logOf_congr {log log' : String} {vs : List (Validation config? log)}
    {ws : List (Validation config? log')}
    (h : List.Forall₂ (fun v w => Disclosure.ofCheck gate v.kind v.expression
      = Disclosure.ofCheck gate w.kind w.expression) vs ws) :
    logOf around (vs.map (fun v => v.args)) = logOf around (ws.map (fun w => w.args)) := by
  induction h with
  | nil => rfl
  | cons hvw _ ih =>
      rw [logOf, logOf] at ih
      rw [List.map_cons, List.map_cons, logOf, logOf, List.flatMap_cons, List.flatMap_cons, ih,
        Validation.events_congr hstart hgate _ _ hvw]

/-- An accepted expression leaves nothing in the log. -/
theorem Validation.events_of_ok {log : String} (v : Validation config? log)
    (hok : gate.check v.kind v.expression = .ok ()) : (run around v.args).events = [] := by
  rw [v.events_eq hstart hgate, Disclosure.events, Disclosure.ofCheck, refusal?, hok]
  rfl

/-- A refused expression leaves the warning of its disclosure in the log, or nothing
if the filter does not admit it. -/
theorem Validation.events_of_error {log : String} (v : Validation config? log)
    {rejection : Gate.Rejection} (herror : gate.check v.kind v.expression = .error rejection) :
    (run around v.args).events
      = [⟨.warn, .gate, "expression rejected",
          [("kind", .str v.kind.label), ("category", .str rejection.cause.category),
            ("length", .nat v.expression.length)]⟩].filter session.filter.admits := by
  rw [v.events_eq hstart hgate, Disclosure.events, Disclosure.ofCheck, refusal?, herror]

/-! ## 3. The statement -/

/-- **The log does not depend on the expressions.** Two sequences of checks with one
configuration, each with its own log, leave the same there if each check has the
kind, the verdict up to what was found, and the length of the other. An accepted
expression leaves nothing. A refused one leaves one warning at most, which tells the
kind, the category and the length, while the failure tells the whole rejection. -/
theorem log_tells_no_expression {log log' : String} {vs : List (Validation config? log)}
    {ws : List (Validation config? log')}
    (halike : List.Forall₂ (fun v w => v.kind = w.kind
      ∧ refusal? gate v.kind v.expression = refusal? gate w.kind w.expression
      ∧ v.expression.length = w.expression.length) vs ws) :
    logOf around (vs.map (fun v => v.args)) = logOf around (ws.map (fun w => w.args))
      ∧ ∀ v ∈ vs,
        (gate.check v.kind v.expression = .ok () → (run around v.args).events = [])
          ∧ ∀ rejection, gate.check v.kind v.expression = .error rejection →
            (run around v.args).ending = .failed (.rejected rejection)
              ∧ (run around v.args).events.length ≤ 1
              ∧ ∀ e ∈ (run around v.args).events, e.level = .warn
                ∧ e.message = "expression rejected"
                ∧ e.fields = [("kind", .str v.kind.label),
                    ("category", .str rejection.cause.category),
                    ("length", .nat v.expression.length)] := by
  refine ⟨logOf_congr hstart hgate (halike.imp fun v w h => ?_),
    fun v _ => ⟨v.events_of_ok hstart hgate, fun rejection herror => ⟨?_, ?_, fun e he => ?_⟩⟩⟩
  · obtain ⟨hkind, hrefusal, hlength⟩ := h
    rw [Disclosure.ofCheck, Disclosure.ofCheck, hrefusal, hlength, hkind]
  · rw [v.run_eq hstart hgate, checkExpression, herror]
    rfl
  · rw [v.events_of_error hstart hgate herror]
    exact List.length_filter_le _ _
  · rw [v.events_of_error hstart hgate herror] at he
    rw [List.mem_singleton.mp (List.mem_of_mem_filter he)]
    exact ⟨rfl, rfl, rfl⟩

end

/-- Surroundings in which every file denies one more keyword and lets through more
events of the gate than of the rest. -/
def guarded : Surroundings :=
  ⟨fun _ => some ("[validator]\nextra_denied_keywords = [\"merge\"]\n" ++
    "[logging]\nlevel = \"error,sqlbridge_guard=info\"\n").toList, none⟩

/-- The session of such a configuration. -/
def guardedSession : Session :=
  ⟨⟨⟨2048, ["merge"]⟩, ⟨"error,sqlbridge_guard=info", .pretty⟩⟩,
    ⟨[⟨[], .none, 1⟩, ⟨"sqlbridge_guard".toList, .none, 3⟩]⟩⟩

/-- The arguments that check an expression with such a configuration. -/
def validateArguments (log kind expression : String) : List String :=
  ["--config", "c.toml", "--log-file", log, "validate", kind, expression]

/-- A run with such arguments. -/
def guardedValidation (log expression : String) (kind : Gate.Kind)
    (h : Invocation.read (validateArguments log kind.name expression)
      = .ok ⟨some "c.toml", some log, .validate kind expression.toList⟩) :
    Validation (some "c.toml") log where
  args := validateArguments log kind.name expression
  kind := kind
  expression := expression.toList
  reads := h

/-- A second statement and a configured keyword leave the same log, and different
failures. -/
theorem log_tells_no_expression_dropAndMerge :
    logOf guarded [validateArguments "a" "check" "1; DROP T", validateArguments "a" "view" "select 1"]
        = logOf guarded
          [validateArguments "b" "check" "x = merge", validateArguments "b" "view" "SELECT 2"]
      ∧ (run guarded (validateArguments "a" "check" "1; DROP T")).ending
        = .failed (.rejected ⟨.check, .denied ";"⟩) := by
  have hstart : Session.start guarded (some "c.toml") = .ok guardedSession := by decide +kernel
  have hgate : Gate.ofOptions guardedSession.config.validator
      = .ok ⟨2048, Gate.builtIn ++ [⟨"merge", .word⟩]⟩ := by rfl
  have hlog := @log_tells_no_expression guarded _ _ _ hstart hgate "a" "b"
    [guardedValidation "a" "1; DROP T" .check (by decide +kernel),
      guardedValidation "a" "select 1" .view (by decide +kernel)]
    [guardedValidation "b" "x = merge" .check (by decide +kernel),
      guardedValidation "b" "SELECT 2" .view (by decide +kernel)]
    (.cons ⟨rfl, by decide +kernel, by decide⟩ (.cons ⟨rfl, by decide +kernel, by decide⟩ .nil))
  refine ⟨hlog.1, ((hlog.2 _ List.mem_cons_self).2 ⟨.check, .denied ";"⟩ ?_).1⟩
  exact Gate.check_eq_error_iff.mpr ⟨rfl, by decide +kernel⟩

end SqlAtlas.Command
