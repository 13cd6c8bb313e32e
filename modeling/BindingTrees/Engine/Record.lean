import BindingTrees.Names
import BindingTrees.Text.Quoted

/-!
# Results with a record

An operation of the engine ends with a value or with a fault, and on the way it
consults the strategy and renames binders.  `Recorded` pairs the outcome with the
list of those events, in order; an error keeps the events that came before it.

The outcome of a sequence of steps depends on the outcomes of the steps alone
(`outcome_bind`), so what an operation computes can be studied without its
record, and the record of a sequence is the concatenation of the records
(`events_bind_ok`, `events_bind_error`).
-/

set_option autoImplicit false

namespace BindingTrees

/-! ## Faults -/

/-- The operations that look names up in the set in use. -/
inductive Operation where
  | subst
  | equal
deriving DecidableEq, Repr

def Operation.name : Operation → String
  | .subst => "subst"
  | .equal => "equal"

/-- Why an operation has no value.  The first three are answers to the caller: a
variable neither bound nor in use, a substitution with as many replacements as
there are not names, and either of these met while opening a node.  The last two
mean that a promise was broken: the strategy answered with a name in use, or a
term was missing. -/
inductive Fault where
  | unbound (operation : Operation) (name : String)
  | arity (bound replacements : Nat)
  | opening (tag : String) (cause : Fault)
  | stillUsed (fresh stale : String)
  | hole
deriving DecidableEq, Repr

namespace Fault

/-- Whether a promise was broken, as opposed to an answer to the caller. -/
def isBreach : Fault → Bool
  | .stillUsed _ _ => true
  | .hole => true
  | _ => false

/-- The fault without the nodes it was met in. -/
def cause : Fault → Fault
  | .opening _ inner => inner.cause
  | fault => fault

def message : Fault → String
  | .unbound operation name =>
      operation.name ++ ": '" ++ name ++ "' not among the free variables"
  | .arity bound replacements =>
      let counts := " bindings (" ++ toString bound ++ " bound, " ++ toString replacements
        ++ " replacements)"
      if bound < replacements then "subst: not enough" ++ counts else "subst: too many" ++ counts
  | .opening tag cause => "args of " ++ tag ++ ": " ++ cause.message
  | .stillUsed fresh stale =>
      "freshening strategy returned " ++ Text.quote fresh ++ " for " ++ Text.quote stale
        ++ ", which is still in use"
  | .hole => "unreachable"

/-- A fault met while opening the node `tag`.  A breach is passed on as it is. -/
def whileOpening (tag : String) (fault : Fault) : Fault :=
  if fault.isBreach then fault else .opening tag fault

end Fault

/-! ## Events -/

/-- Something that an operation did to names. -/
inductive Event where
  /-- The strategy was asked for a name instead of `stale`, and answered `fresh`. -/
  | asked (used : Names) (stale fresh : String)
  /-- A binder that collides with the names in use was renamed. -/
  | renamed (old new : List String)
deriving DecidableEq

/-! ## Recorded results -/

/-- A value or an error, and the events on the way to it. -/
structure Recorded (ε α : Type) where
  outcome : Except ε α
  events : List Event

namespace Recorded

variable {ε ε' α β : Type}

/-- Ends with an error, without an event. -/
def fail (error : ε) : Recorded ε α := ⟨.error error, []⟩

/-- Adds an event to the record. -/
def note (event : Event) : Recorded ε Unit := ⟨.ok (), [event]⟩

/-- An outcome without events. -/
def ofExcept (outcome : Except ε α) : Recorded ε α := ⟨outcome, []⟩

instance : Monad (Recorded ε) where
  pure value := ⟨.ok value, []⟩
  bind step next :=
    match step.outcome with
    | .error error => ⟨.error error, step.events⟩
    | .ok value =>
        let rest := next value
        ⟨rest.outcome, step.events ++ rest.events⟩

/-- The same steps, with any error replaced. -/
def mapError (change : ε → ε') (step : Recorded ε α) : Recorded ε' α :=
  ⟨step.outcome.mapError change, step.events⟩

/-- The value together with the fact that it is the outcome. -/
def attach (step : Recorded ε α) : Recorded ε { value : α // step.outcome = .ok value } :=
  match _ : step.outcome with
  | .error error => ⟨.error error, step.events⟩
  | .ok value => ⟨.ok ⟨value, rfl⟩, step.events⟩

@[simp]
theorem outcome_pure (value : α) : (pure value : Recorded ε α).outcome = .ok value := rfl

@[simp]
theorem events_pure (value : α) : (pure value : Recorded ε α).events = [] := rfl

@[simp]
theorem outcome_fail (error : ε) : (fail error : Recorded ε α).outcome = .error error := rfl

@[simp]
theorem events_fail (error : ε) : (fail error : Recorded ε α).events = [] := rfl

@[simp]
theorem outcome_ofExcept (outcome : Except ε α) : (ofExcept outcome).outcome = outcome := rfl

@[simp]
theorem outcome_mapError (change : ε → ε') (step : Recorded ε α) :
    (step.mapError change).outcome = step.outcome.mapError change := rfl

@[simp]
theorem events_mapError (change : ε → ε') (step : Recorded ε α) :
    (step.mapError change).events = step.events := rfl

/-- Replacing errors leaves values alone. -/
theorem outcome_mapError_eq_ok {change : ε → ε'} {step : Recorded ε α} {value : α} :
    (step.mapError change).outcome = .ok value ↔ step.outcome = .ok value := by
  rw [outcome_mapError]
  cases step.outcome with
  | error error => exact ⟨nofun, nofun⟩
  | ok other =>
      constructor
      · rintro ⟨⟩
        rfl
      · rintro ⟨⟩
        rfl

/-- The outcome of a sequence is the sequence of the outcomes. -/
theorem outcome_bind (step : Recorded ε α) (next : α → Recorded ε β) :
    (step >>= next).outcome = step.outcome.bind fun value => (next value).outcome := by
  obtain ⟨outcome, events⟩ := step
  cases outcome <;> rfl

/-- A sequence has a value exactly when both of its parts do. -/
theorem outcome_bind_eq_ok {step : Recorded ε α} {next : α → Recorded ε β} {value : β} :
    (step >>= next).outcome = .ok value ↔
      ∃ first, step.outcome = .ok first ∧ (next first).outcome = .ok value := by
  obtain ⟨outcome, events⟩ := step
  cases outcome with
  | error error =>
      constructor
      · intro impossible
        exact absurd impossible (by rintro ⟨⟩)
      · rintro ⟨first, impossible, _⟩
        exact absurd impossible (by rintro ⟨⟩)
  | ok first =>
      constructor
      · exact fun rest => ⟨first, rfl, rest⟩
      · rintro ⟨_, ⟨⟩, rest⟩
        exact rest

/-- Steps may be grouped either way, and `pure` adds none. -/
instance : LawfulMonad (Recorded ε) := by
  refine LawfulMonad.mk' (Recorded ε) ?_ (fun _ _ => rfl) ?_
  · rintro α ⟨outcome, events⟩
    cases outcome with
    | error error => rfl
    | ok value => exact congrArg (Recorded.mk _) (List.append_nil events)
  · rintro α β γ ⟨outcome, events⟩ next last
    cases outcome with
    | error error => rfl
    | ok value =>
        show (Recorded.mk (next value).outcome (events ++ (next value).events) >>= last) =
          Recorded.mk (next value >>= last).outcome (events ++ (next value >>= last).events)
        obtain ⟨outcome, later⟩ := next value
        cases outcome with
        | error error => rfl
        | ok second => exact congrArg (Recorded.mk _) (List.append_assoc events later _)

/-- Errors are replaced in the steps of a sequence as in the whole. -/
theorem mapError_bind (change : ε → ε') {step : Recorded ε α} {next : α → Recorded ε β}
    {other : α → Recorded ε' β}
    (same : ∀ value, step.outcome = .ok value → other value = (next value).mapError change) :
    (step.mapError change >>= other) = (step >>= next).mapError change := by
  obtain ⟨outcome, events⟩ := step
  cases outcome with
  | error error => rfl
  | ok value =>
      show Recorded.mk (other value).outcome (events ++ (other value).events) =
        Recorded.mk ((next value).outcome.mapError change) (events ++ (next value).events)
      rw [same value rfl]
      rfl

theorem events_bind_ok {step : Recorded ε α} {next : α → Recorded ε β} {value : α}
    (ok : step.outcome = .ok value) :
    (step >>= next).events = step.events ++ (next value).events := by
  obtain ⟨outcome, events⟩ := step
  subst ok
  rfl

theorem events_bind_error {step : Recorded ε α} {next : α → Recorded ε β} {error : ε}
    (failed : step.outcome = .error error) : (step >>= next).events = step.events := by
  obtain ⟨outcome, events⟩ := step
  subst failed
  rfl

/-- Forgetting the fact that a value is the outcome. -/
theorem attach_bind (step : Recorded ε α) (next : α → Recorded ε β) :
    (step.attach >>= fun value => next value.1) = step >>= next := by
  obtain ⟨outcome, events⟩ := step
  cases outcome <;> rfl

end Recorded

end BindingTrees
