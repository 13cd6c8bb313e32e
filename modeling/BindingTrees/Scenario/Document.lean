import BindingTrees.Names

/-!
# Scenario documents

A document names terms and lists checks on them.  A term is a sketch: a variable,
a reference to another sketch of the document, or a tag with arguments, each of
which may bind names.  Exactly one of the three is meant to be given; that is not
part of the type, because a sketch that breaks the rule is only an error once the
term is asked for.

A list that was not given at all is told apart from an empty one.
-/

set_option autoImplicit false

namespace BindingTrees.Scenario

/-- An argument of a sketch: names bound over what it sketches. -/
structure Slot (α : Type) where
  bind : Option (List String)
  body : α

/-- A term as a document has it. -/
inductive Sketch where
  | mk (var ref tag : String) (args : Option (List (Slot Sketch)))

/-- A sketch in which nothing is given. -/
def Sketch.blank : Sketch := .mk "" "" "" none

/-- What a check does; any other word is kept as it is. -/
inductive Kind where
  | print
  | equal
  | unequal
  | freeVars
  | subst
  | error
  | oper
  | other (word : String)
deriving DecidableEq, Repr

/-- The kind that a word stands for. -/
def Kind.ofWord (word : String) : Kind :=
  if word = "print" then .print
  else if word = "equal" then .equal
  else if word = "unequal" then .unequal
  else if word = "freevars" then .freeVars
  else if word = "subst" then .subst
  else if word = "error" then .error
  else if word = "oper" then .oper
  else .other word

def Kind.word : Kind → String
  | .print => "print"
  | .equal => "equal"
  | .unequal => "unequal"
  | .freeVars => "freevars"
  | .subst => "subst"
  | .error => "error"
  | .oper => "oper"
  | .other word => word

@[simp]
theorem Kind.word_ofWord (word : String) : (Kind.ofWord word).word = word := by
  unfold Kind.ofWord
  repeat' split
  all_goals simp_all [Kind.word]

/-- An expectation: what to do, with which terms under which names in use, and what
to expect.  `op` is the operation that an error check expects to fail. -/
structure Check where
  name : String := ""
  kind : Kind := .other ""
  used : Option (List String) := none
  left : String := ""
  right : String := ""
  replacements : Option (List String) := none
  want : String := ""
  names : Option (List String) := none
  op : Kind := .other ""
deriving DecidableEq

/-- A scenario document. -/
structure Document where
  freshen : String := ""
  used : Option (List String) := none
  terms : List (String × Sketch) := []
  checks : List Check := []

/-- The names in use for a check: its own list if it has one, even an empty one, and
the document's otherwise. -/
def Document.usedBy (doc : Document) (check : Check) : Names :=
  .ofList ((check.used <|> doc.used).getD [])

end BindingTrees.Scenario
