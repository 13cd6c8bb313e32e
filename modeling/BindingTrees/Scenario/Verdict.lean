import BindingTrees.Engine.Alpha
import BindingTrees.Engine.Printing
import BindingTrees.Scenario.Unfolding
import BindingTrees.Text.Infix

/-!
# Verdicts on checks

A check is carried out by building the terms it names and applying the operation
of its kind; the answer is a text.  A check passes when the text is the expected
one.  An error check passes when its operation fails with a message that contains
the expected text.
-/

set_option autoImplicit false

namespace BindingTrees.Scenario

/-! ## The strategy of a document -/

/-- The first name of a strategy that is given: the caller's own, the document's, or
the one to fall back on. -/
def Document.strategyName (doc : Document) (override fallback : String) : String :=
  if !override.isEmpty then override
  else if !doc.freshen.isEmpty then doc.freshen
  else fallback

/-- The strategy that the checks of a document run with. -/
def Document.strategy (doc : Document) (override fallback : String) :
    Except UnknownStrategy Strategy :=
  Strategy.named (doc.strategyName override fallback)

/-- A name is the one that counts: the caller's own, or the document's if the caller gives none,
or the one to fall back on if neither does. -/
inductive Document.Asks (doc : Document) (override fallback : String) : String → Prop
  | caller : override ≠ "" → doc.Asks override fallback override
  | document : override = "" → doc.freshen ≠ "" → doc.Asks override fallback doc.freshen
  | neither : override = "" → doc.freshen = "" → doc.Asks override fallback fallback

section Asks

variable {doc : Document} {override fallback : String}

theorem Document.strategyName_eq_iff {name : String} :
    doc.strategyName override fallback = name ↔ doc.Asks override fallback name := by
  simp only [Document.strategyName, Bool.not_eq_true', String.isEmpty_eq_false_iff, ne_eq, ite_not]
  constructor
  · rintro rfl
    split
    · next absent =>
        split
        · next missing => exact .neither absent missing
        · next given => exact .document absent given
    · next given => exact .caller given
  · intro asks
    cases asks with
    | caller given => rw [if_neg given]
    | document absent given => rw [if_pos absent, if_neg given]
    | neither absent missing => rw [if_pos absent, if_pos missing]

/-- The strategy of a document is the one whose name counts. -/
theorem Document.strategy_eq_ok_iff {fresh : Strategy} :
    doc.strategy override fallback = .ok fresh ↔
      ∃ name, doc.Asks override fallback name ∧ Strategy.Named name fresh := by
  simp only [Document.strategy, Strategy.named_eq_ok_iff, ← Document.strategyName_eq_iff]
  simp

/-- There is none when the name that counts is that of no strategy. -/
theorem Document.strategy_eq_error_iff {unknown : UnknownStrategy} :
    doc.strategy override fallback = .error unknown ↔
      doc.Asks override fallback unknown.name ∧ ∀ fresh, ¬ Strategy.Named unknown.name fresh := by
  rw [Document.strategy, Strategy.named_eq_error_iff, ← Document.strategyName_eq_iff]
  constructor
  · rintro ⟨unnamed, rfl⟩
    exact ⟨rfl, unnamed⟩
  · rintro ⟨counts, unnamed⟩
    rw [counts]
    exact ⟨unnamed, rfl⟩

end Asks

/-! ## Evaluation -/

/-- Why a check has no answer. -/
inductive EvalError where
  | unfold (error : UnfoldError)
  | noBinders (term : String)
  | engine (fault : Fault)
  | unknownKind (kind : Kind)
deriving DecidableEq

def EvalError.message : EvalError → String
  | .unfold error => error.message
  | .noBinders term => "subst: " ++ term ++ " has no binders"
  | .engine fault => fault.message
  | .unknownKind kind => "unknown kind " ++ Text.quote kind.word

/-- The term of a name, as a step of an evaluation. -/
def Document.recall (doc : Document) (name : String) : Recorded EvalError Term :=
  Recorded.ofExcept ((doc.term name).mapError .unfold)

/-- The terms of a list of names, in order. -/
def Document.recallAll (doc : Document) : List String → Recorded EvalError (List Term)
  | [] => pure []
  | name :: names => do
      let term ← doc.recall name
      let terms ← doc.recallAll names
      pure (term :: terms)

/-- The answer of a comparison. -/
def comparison (same : Bool) : String := if same then "equal" else "unequal"

/-- The answer of the operation `kind` on the terms of a check. -/
def Document.evaluate (doc : Document) (fresh : Strategy) (kind : Kind) (check : Check) :
    Recorded EvalError String := do
  let used := doc.usedBy check
  let left ← doc.recall check.left
  match kind with
  | .oper => (left.print fresh left.freeVars).mapError .engine
  | .print => (left.print fresh used).mapError .engine
  | .freeVars => pure left.freeVars.text
  | .equal | .unequal =>
      let right ← doc.recall check.right
      let same ← (equal fresh used left right).mapError .engine
      pure (comparison same)
  | .subst =>
      match left with
      | .node _ (.cons bound body _) =>
          let replacements ← doc.recallAll (check.replacements.getD [])
          let result ← (subst fresh used replacements ⟨bound, body⟩).mapError .engine
          (result.print fresh used).mapError .engine
      | _ => Recorded.fail (.noBinders check.left)
  | kind => Recorded.fail (.unknownKind kind)

/-! ## Results -/

/-- The outcome of one check: whether it passed, the answer it got, and the error
that kept it from an answer. -/
structure Result (ε : Type) where
  check : Check
  passed : Bool
  got : String
  err : Option ε

/-- The set of names that a check expects. -/
def Check.expectedNames (check : Check) : Names := .ofList (check.names.getD [])

/-- Whether an answer is the one that a check expects. -/
def Check.accepts (check : Check) (got : String) : Bool :=
  match check.kind with
  | .equal => got == comparison true
  | .unequal => got == comparison false
  | .freeVars => got == check.expectedNames.text
  | _ => got == check.want

/-- The result of an error check, from the outcome of its operation. -/
def Check.resultOfFailing (check : Check) : Except EvalError String → Result EvalError
  | .ok got => ⟨check, false, "no error: " ++ got, none⟩
  | .error error => ⟨check, Text.occursIn check.want error.message, error.message, none⟩

/-- The result of any other check, from the outcome of its operation. -/
def Check.resultOf (check : Check) : Except EvalError String → Result EvalError
  | .ok got => ⟨check, check.accepts got, got, none⟩
  | .error error => ⟨check, false, "", some error⟩

/-- The result of a check, and the events on the way to it. -/
def Document.runCheck (doc : Document) (fresh : Strategy) (check : Check) :
    Result EvalError × List Event :=
  if check.kind = .error then
    let step := doc.evaluate fresh check.op check
    (check.resultOfFailing step.outcome, step.events)
  else
    let step := doc.evaluate fresh check.kind check
    (check.resultOf step.outcome, step.events)

/-- The results of all checks of a document, in order. -/
def Document.run (doc : Document) (fresh : Strategy) : List (Result EvalError × List Event) :=
  doc.checks.map (doc.runCheck fresh)

/-- A run that was called off. -/
structure Canceled where
deriving DecidableEq

def Canceled.message (_ : Canceled) : String := "context canceled"

/-- The results of a document, unless the run was called off before it began and
there is a check to call off. -/
def Document.runUnless (doc : Document) (canceled : Bool) (fresh : Strategy) :
    Except Canceled (List (Result EvalError × List Event)) :=
  if canceled && !doc.checks.isEmpty then .error {} else .ok (doc.run fresh)

end BindingTrees.Scenario
