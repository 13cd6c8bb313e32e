import BindingTrees.Term

/-!
# Plain rendering

The text of a term with its names just as they stand: a variable is its name, and a
node is its tag and, in parentheses, its arguments separated by commas, each with
its bound names in front, a point after every one.  Nothing is renamed, so two terms
that differ only in bound names have different texts, and a name may be shadowed.
-/

set_option autoImplicit false

namespace BindingTrees

/-- Bound names, each followed by a point. -/
def dotted (names : List String) : String :=
  String.join (names.map (· ++ "."))

/-- A tag with the texts of its arguments. -/
def applied (tag : String) (texts : List String) : String :=
  tag ++ "(" ++ ",".intercalate texts ++ ")"

mutual
/-- The text of a term with its names as they stand; a missing term has none. -/
def Term.render : Term → String
  | .hole => ""
  | .var name => name
  | .node tag args => applied tag args.renderEach

/-- The text of each argument, with its names in front. -/
def Args.renderEach : Args → List String
  | .nil => []
  | .cons bound body rest => (dotted bound ++ body.render) :: rest.renderEach
end

/-! ## Shape -/

mutual
/-- A term with all its names struck out. -/
def Term.shape : Term → Term
  | .hole => .hole
  | .var _ => .var ""
  | .node tag args => .node tag args.shape

def Args.shape : Args → Args
  | .nil => .nil
  | .cons bound body rest => .cons (bound.map fun _ => "") body.shape rest.shape
end

mutual
/-- The size of a term is a matter of its shape. -/
theorem Term.size_shape : ∀ term : Term, term.shape.size = term.size
  | .hole => rfl
  | .var _ => rfl
  | .node _ args => by rw [Term.shape, Term.size, Term.size, Args.size_shape args]

theorem Args.size_shape : ∀ args : Args, args.shape.size = args.size
  | .nil => rfl
  | .cons _ body rest => by
      rw [Args.shape, Args.size, Args.size, Term.size_shape body, Args.size_shape rest]
end

end BindingTrees
