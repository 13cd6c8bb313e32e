import BindingTrees.Engine.Environment
import BindingTrees.Engine.Picking
import BindingTrees.Term

/-!
# Substitution

The names of one binder are replaced, all at once, by as many terms; of a repeated
name the last replacement counts.  Names for the binder itself are set aside
first, so that they count as in use from then on.  Every binder inside the body is
given names outside the set in use, which include the free variables of the
replacements, so that none of those is captured; its own names shadow the outer
replacements.

A variable that is neither replaced nor in use is a fault.
-/

set_option autoImplicit false

namespace BindingTrees

mutual
/-- Replaces the variables of a term that have a value and renames its binders. -/
def Term.substWith (fresh : Strategy) (used : Names) (env : Env Term) : Term → Recorded Fault Term
  | .hole => Recorded.fail .hole
  | .var name =>
      match env.find? name with
      | some replacement => pure replacement
      | none => if name ∈ used then pure (.var name) else Recorded.fail (.unbound .subst name)
  | .node tag args => do
      let args ← args.substWith fresh used env
      pure (.node tag args)

def Args.substWith (fresh : Strategy) (used : Names) (env : Env Term) : Args → Recorded Fault Args
  | .nil => pure .nil
  | .cons bound body rest => do
      let (scope, names) ← pickAll fresh used bound
      let body ← body.substWith fresh scope (env.bindAll bound (names.map .var))
      let rest ← rest.substWith fresh used env
      pure (.cons names body rest)
end

/-- The body of a binder with terms for the names bound. -/
def subst (fresh : Strategy) (used : Names) (replacements : List Term) (binder : Binder) :
    Recorded Fault Term :=
  if replacements.length = binder.bound.length then do
    let scope ← reserve fresh used binder.bound
    binder.body.substWith fresh scope (Env.bindAll [] binder.bound replacements)
  else Recorded.fail (.arity binder.bound.length replacements.length)

/-! ## How a pass succeeds -/

section Success

variable {fresh : Strategy} {used : Names} {env : Env Term}

/-- A variable is replaced by its value, or it has none and is in use. -/
theorem Term.substWith_var_eq_ok {name : String} {result : Term}
    (ok : ((Term.var name).substWith fresh used env).outcome = .ok result) :
    env.find? name = some result ∨ (env.find? name = none ∧ name ∈ used ∧ result = .var name) := by
  rw [Term.substWith] at ok
  cases found : env.find? name with
  | some replacement =>
      rw [found] at ok
      cases ok
      exact .inl rfl
  | none =>
      simp only [found] at ok
      split at ok
      · next inUse =>
          cases ok
          exact .inr ⟨rfl, inUse, rfl⟩
      · cases ok

/-- A node is rebuilt over its arguments. -/
theorem Term.substWith_node_eq_ok {tag : String} {args : Args} {result : Term}
    (ok : ((Term.node tag args).substWith fresh used env).outcome = .ok result) :
    ∃ changed, (args.substWith fresh used env).outcome = .ok changed ∧
      result = .node tag changed := by
  rw [Term.substWith, Recorded.outcome_bind_eq_ok] at ok
  obtain ⟨changed, inner, last⟩ := ok
  cases last
  exact ⟨changed, inner, rfl⟩

/-- An argument is given picked names, its body follows with each bound name sent to the one
picked for it, and then the other arguments. -/
theorem Args.substWith_cons_eq_ok {bound : List String} {body : Term} {rest result : Args}
    (ok : ((Args.cons bound body rest).substWith fresh used env).outcome = .ok result) :
    ∃ scope names newBody newRest, (pickAll fresh used bound).outcome = .ok (scope, names) ∧
      (body.substWith fresh scope (env.bindAll bound (names.map .var))).outcome = .ok newBody ∧
      (rest.substWith fresh used env).outcome = .ok newRest ∧
      result = .cons names newBody newRest := by
  rw [Args.substWith, Recorded.outcome_bind_eq_ok] at ok
  obtain ⟨⟨scope, names⟩, pickedOk, ok⟩ := ok
  rw [Recorded.outcome_bind_eq_ok] at ok
  obtain ⟨newBody, bodyOk, ok⟩ := ok
  rw [Recorded.outcome_bind_eq_ok] at ok
  obtain ⟨newRest, restOk, last⟩ := ok
  cases last
  exact ⟨scope, names, newBody, newRest, pickedOk, bodyOk, restOk, rfl⟩

end Success

/-- A substitution succeeds by a pass over the body, once names for the binder are set aside. -/
theorem subst_eq_ok {fresh : Strategy} {used : Names} {replacements : List Term} {binder : Binder}
    {result : Term} (ok : (subst fresh used replacements binder).outcome = .ok result) :
    replacements.length = binder.bound.length ∧
      ∃ scope, (reserve fresh used binder.bound).outcome = .ok scope ∧
        (binder.body.substWith fresh scope (Env.bindAll [] binder.bound replacements)).outcome =
          .ok result := by
  rw [subst] at ok
  split at ok
  · next lengths => exact ⟨lengths, Recorded.outcome_bind_eq_ok.mp ok⟩
  · cases ok

/-- Once names for the binder are set aside, a substitution is a pass over the body. -/
theorem subst_of_reserved {fresh : Strategy} {used scope : Names} {replacements : List Term}
    {binder : Binder} (lengths : replacements.length = binder.bound.length)
    (reserved : (reserve fresh used binder.bound).outcome = .ok scope) :
    (subst fresh used replacements binder).outcome =
      (binder.body.substWith fresh scope (Env.bindAll [] binder.bound replacements)).outcome := by
  rw [subst, if_pos lengths, Recorded.outcome_bind, reserved]
  rfl

end BindingTrees
