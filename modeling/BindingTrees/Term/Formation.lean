import BindingTrees.Term
import BindingTrees.Text.Blank
import BindingTrees.Text.Quoted

/-!
# Forming nodes

A node is formed from a tag and a list of arguments: bare terms, which bind
nothing, and binders.  Every argument must have a body and every bound name must
be atomic, that is, it must survive being printed between delimiters: it is not
empty and holds neither a delimiter nor white space.  Arguments are examined from
left to right, the body of each before its names, and the first defect is
reported.

Nothing else is asked of a tag or of the number of arguments.
-/

set_option autoImplicit false

namespace BindingTrees

/-! ## Atomic names -/

/-- Why a name cannot be bound. -/
inductive NameDefect where
  | empty
  | delimiter
  | blank
deriving DecidableEq, Repr

/-- The characters that printing puts around names and bodies. -/
def isDelimiter (c : Char) : Bool :=
  c == '.' || c == ',' || c == '(' || c == ')'

/-- The first defect of a name: it is empty, holds a delimiter, or holds white space. -/
def nameDefect? (name : String) : Option NameDefect :=
  if name.toList.isEmpty then some .empty
  else if name.toList.any isDelimiter then some .delimiter
  else if name.toList.any Text.isBlank then some .blank
  else none

def NameDefect.message : NameDefect → String
  | .empty => "empty name"
  | .delimiter => "contains a delimiter"
  | .blank => "contains whitespace"

/-- A name that may be bound. -/
def Atomic (name : String) : Prop := nameDefect? name = none

instance (name : String) : Decidable (Atomic name) :=
  inferInstanceAs (Decidable (_ = none))

/-! ## Arguments -/

/-- What a node may be formed from: nothing at all, a bare term, or a binder. -/
inductive Argument where
  | absent
  | bare (body : Term)
  | scoped (binder : Binder)

/-- The binder that an argument stands for. -/
def Argument.binder : Argument → Binder
  | .absent => ⟨[], .hole⟩
  | .bare body => ⟨[], body⟩
  | .scoped binder => binder

/-- What is wrong with an argument. -/
inductive ArgumentDefect where
  | missingBody
  | notAtomic (name : String) (defect : NameDefect)
deriving DecidableEq, Repr

/-- The first of a list of names that is not atomic, with its defect. -/
def firstDefect? : List String → Option (String × NameDefect)
  | [] => none
  | name :: rest =>
      match nameDefect? name with
      | some defect => some (name, defect)
      | none => firstDefect? rest

/-- What is wrong with an argument, its body first. -/
def Binder.defect? (binder : Binder) : Option ArgumentDefect :=
  match binder.body with
  | .hole => some .missingBody
  | _ => (firstDefect? binder.bound).map fun (name, defect) => .notAtomic name defect

/-! ## Nodes -/

/-- A node that could not be formed: its tag, and the position and defect of the
argument at fault. -/
structure Malformed where
  tag : String
  position : Nat
  defect : ArgumentDefect
deriving DecidableEq, Repr

def Malformed.message (error : Malformed) : String :=
  let place := "oper " ++ error.tag ++ ": argument " ++ toString error.position ++ ": "
  match error.defect with
  | .missingBody => place ++ "missing body"
  | .notAtomic name defect =>
      place ++ Text.quote name ++ " in a bound-variable position is not an atomic name: "
        ++ defect.message

/-- The arguments as given, from position `position` on, unless one is at fault. -/
def Args.form (tag : String) (position : Nat) : List Argument → Except Malformed Args
  | [] => .ok .nil
  | argument :: rest =>
      match argument.binder.defect? with
      | some defect => .error ⟨tag, position, defect⟩
      | none => do
          let args ← Args.form tag (position + 1) rest
          return .cons argument.binder.bound argument.binder.body args

/-- The node with a tag and arguments, unless an argument is at fault. -/
def Term.form (tag : String) (arguments : List Argument) : Except Malformed Term := do
  return .node tag (← Args.form tag 0 arguments)

/-! ## Well-formed terms -/

mutual
/-- No term is missing and every bound name is atomic. -/
def Term.WellFormed : Term → Prop
  | .hole => False
  | .var _ => True
  | .node _ args => args.WellFormed

def Args.WellFormed : Args → Prop
  | .nil => True
  | .cons bound body rest => (∀ name ∈ bound, Atomic name) ∧ body.WellFormed ∧ rest.WellFormed
end

end BindingTrees
