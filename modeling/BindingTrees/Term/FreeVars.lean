import BindingTrees.Names
import BindingTrees.Term

/-!
# Free variables

`Term.freeVars` walks a term once, adding each variable it meets to a growing set
unless an enclosing binder names it.  `Term.freeNames` is the compositional
reading: a variable gives itself, and a node gives the union, over its arguments,
of what is free in the body and not bound there.  A hole has no variables.
-/

set_option autoImplicit false

namespace BindingTrees

mutual
/-- Adds the variables of a term that are not in `bound` to `found`. -/
def Term.collectFree (found bound : Names) : Term → Names
  | .hole => found
  | .var name => if name ∈ bound then found else found.insert name
  | .node _ args => args.collectFree found bound

def Args.collectFree (found bound : Names) : Args → Names
  | .nil => found
  | .cons names body rest =>
      rest.collectFree (body.collectFree found (bound.insertAll names)) bound
end

/-- The variables that occur outside the scope of any binder for them. -/
def Term.freeVars (term : Term) : Names := term.collectFree ∅ ∅

mutual
/-- The free variables, built from those of the parts. -/
def Term.freeNames : Term → Names
  | .hole => ∅
  | .var name => .ofList [name]
  | .node _ args => args.freeNames

def Args.freeNames : Args → Names
  | .nil => ∅
  | .cons bound body rest => (body.freeNames.eraseAll bound).union rest.freeNames
end

end BindingTrees
