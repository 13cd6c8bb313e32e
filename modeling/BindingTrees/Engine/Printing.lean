import BindingTrees.Engine.Opening
import BindingTrees.Term.FreeVars
import BindingTrees.Term.Rendering

/-!
# Printing

A term is printed as `tag(x.y.body,body)`.  Each node is opened before its
arguments are printed, and the names that opening gave are in use inside the body,
so no printed name shadows one in use or one of an enclosing binder.  A variable
is printed as it is, whether it is in use or not.

The bodies printed are those that opening returned, not parts of the term; the
recursion ends because opening keeps sizes (`openNode_size`).
-/

set_option autoImplicit false

namespace BindingTrees

mutual
/-- The text of a term. -/
def Term.print (fresh : Strategy) (used : Names) : Term → Recorded Fault String
  | .hole => Recorded.fail .hole
  | .var name => pure name
  | .node tag args => do
      let ⟨opened, _⟩ ← (openNode fresh used tag args).attach
      let texts ← opened.printEach fresh used
      pure (applied tag texts)
termination_by term => term.size
decreasing_by
  rename_i ok
  rw [Term.size, openNode_size ok]
  omega

/-- The text of each argument, with its names in front. -/
def Args.printEach (fresh : Strategy) (used : Names) : Args → Recorded Fault (List String)
  | .nil => pure []
  | .cons bound body rest => do
      let text ← body.print fresh (used.insertAll bound)
      let texts ← rest.printEach fresh used
      pure ((dotted bound ++ text) :: texts)
termination_by args => args.size
decreasing_by
  · rw [Args.size]; omega
  · rw [Args.size]; omega
end

theorem Term.print_node (fresh : Strategy) (used : Names) (tag : String) (args : Args) :
    (Term.node tag args).print fresh used = (do
      let opened ← openNode fresh used tag args
      let texts ← opened.printEach fresh used
      pure (applied tag texts)) := by
  rw [Term.print]
  exact Recorded.attach_bind (openNode fresh used tag args) fun opened => do
    let texts ← opened.printEach fresh used
    pure (applied tag texts)

/-! ## The text of a term by itself -/

/-- The text of a term under its own free variables, with numbered names.  The
text of a node that cannot be printed shows the fault instead of the arguments;
a missing term has no text. -/
def Term.display (term : Term) : Except Fault String :=
  match term, (term.print Strategy.digits term.freeVars).outcome with
  | _, .ok text => .ok text
  | .node tag _, .error fault =>
      if fault.isBreach then .error fault
      else .ok (tag ++ "(<" ++ fault.message ++ ">)")
  | _, .error fault => .error fault

/-- The text of a binder: its names, and its body by itself unless that is missing. -/
def Binder.display (binder : Binder) : Except Fault String :=
  match binder.body with
  | .hole => .ok (dotted binder.bound)
  | body => do return dotted binder.bound ++ (← body.display)

end BindingTrees
