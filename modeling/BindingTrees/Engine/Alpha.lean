import BindingTrees.Engine.Environment
import BindingTrees.Engine.Picking
import BindingTrees.Term

/-!
# Comparison up to bound names

Two terms are compared under the names in use and two environments, which send the
names bound on the way to names shared by both sides.  Entering a pair of binders
picks one shared name for each pair of bound names.  Terms of different shape are
different, which is an answer; a variable that is not in use is a fault.
-/

set_option autoImplicit false

namespace BindingTrees

/-- The name that shared names are made from. -/
def sharedRoot : String := "x"

/-- Shared names for two lists of bound names, taken in pairs. -/
def shareAll (fresh : Strategy) (used : Names) (left right : Env String) :
    List String → List String → Recorded Fault (Names × Env String × Env String)
  | first :: firsts, second :: seconds => do
      let name ← pick fresh used sharedRoot
      shareAll fresh (used.insert name) (left.bind first name) (right.bind second name)
        firsts seconds
  | _, _ => pure (used, left, right)

/-- What a variable stands for, which must be in use. -/
def resolve (used : Names) (env : Env String) (name : String) : Recorded Fault String :=
  let target := (env.find? name).getD name
  if target ∈ used then pure target else Recorded.fail (.unbound .equal target)

mutual
/-- Whether two terms are the same under two environments. -/
def Term.equalUnder (fresh : Strategy) (used : Names) (left right : Env String) :
    Term → Term → Recorded Fault Bool
  | .hole, _ => Recorded.fail .hole
  | .var first, .var second => do
      let first ← resolve used left first
      let second ← resolve used right second
      pure (first == second)
  | .var _, _ => pure false
  | .node tag args, .node otherTag otherArgs =>
      if tag = otherTag ∧ args.arity = otherArgs.arity then
        args.equalUnder fresh used left right otherArgs
      else pure false
  | .node _ _, _ => pure false

def Args.equalUnder (fresh : Strategy) (used : Names) (left right : Env String) :
    Args → Args → Recorded Fault Bool
  | .nil, _ => pure true
  | .cons _ _ _, .nil => pure false
  | .cons bound body rest, .cons otherBound otherBody otherRest => do
      let (scope, left', right') ← shareAll fresh used left right bound otherBound
      let same ← body.equalUnder fresh scope left' right' otherBody
      if same then rest.equalUnder fresh used left right otherRest else pure false
end

/-- Whether two terms are the same up to their bound names. -/
def equal (fresh : Strategy) (used : Names) (left right : Term) : Recorded Fault Bool :=
  left.equalUnder fresh used [] [] right

end BindingTrees
