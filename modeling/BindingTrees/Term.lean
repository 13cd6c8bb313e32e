/-!
# Abstract binding trees

A term is a variable or a node: a tag applied to a sequence of arguments, each of
which scopes an ordered list of names over a body.  The names of one argument may
repeat, in which case the last of them is the one in force.

Terms carry no scope of their own.  Whatever needs to know which names are in use
takes them as a set, so one term behaves alike wherever it stands.

A place where a term is missing is a `hole`.  No node is ever formed over a hole,
but a binder may be given one as its body and a substitution may be given one as
a replacement; `Term.Complete` says that a term has none.
-/

set_option autoImplicit false

namespace BindingTrees

mutual
/-- A variable, a tagged node, or a missing term. -/
inductive Term where
  | hole
  | var (name : String)
  | node (tag : String) (args : Args)

/-- The arguments of a node, each a list of names scoped over a body. -/
inductive Args where
  | nil
  | cons (bound : List String) (body : Term) (rest : Args)
end

deriving instance Repr, Inhabited for Term, Args

/-- An ordered list of names scoped over a body. -/
structure Binder where
  bound : List String
  body : Term
deriving Repr, Inhabited

namespace Args

/-- The arguments as a list of binders. -/
def toList : Args → List Binder
  | .nil => []
  | .cons bound body rest => ⟨bound, body⟩ :: rest.toList

/-- The arguments given by a list of binders. -/
def ofList : List Binder → Args
  | [] => .nil
  | binder :: rest => .cons binder.bound binder.body (ofList rest)

@[simp]
theorem toList_ofList : ∀ binders : List Binder, (ofList binders).toList = binders
  | [] => rfl
  | binder :: rest => by simp only [ofList, toList, toList_ofList rest]

@[simp]
theorem ofList_toList : ∀ args : Args, ofList args.toList = args
  | .nil => rfl
  | .cons _ _ rest => by simp only [ofList, toList, ofList_toList rest]

/-- How many names each argument binds. -/
def arity : Args → List Nat
  | .nil => []
  | .cons bound _ rest => bound.length :: rest.arity

/-- The number of arguments. -/
def length (args : Args) : Nat := args.arity.length

end Args

/-! ## Size -/

mutual
/-- The number of variables, holes and nodes of a term, and of its arguments. -/
def Term.size : Term → Nat
  | .hole => 1
  | .var _ => 1
  | .node _ args => 1 + args.size

def Args.size : Args → Nat
  | .nil => 0
  | .cons _ body rest => 1 + body.size + rest.size
end

/-! ## Terms without holes -/

mutual
/-- No term is missing anywhere. -/
def Term.Complete : Term → Prop
  | .hole => False
  | .var _ => True
  | .node _ args => args.Complete

def Args.Complete : Args → Prop
  | .nil => True
  | .cons _ body rest => body.Complete ∧ rest.Complete
end

end BindingTrees
