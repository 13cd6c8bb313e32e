import BindingTrees.Scenario.Document
import BindingTrees.Term.Formation

/-!
# Unfolding sketches

The term of a name is the unfolding of its sketch: a variable is itself, a
reference is the term it names, and a tag is a node over the unfoldings of its
arguments, in order.  A reference to a name that is being unfolded already is an
error, so unfolding ends: each reference followed leaves fewer names that may
still be opened.

Each name on the way to an error is part of its message.
-/

set_option autoImplicit false

namespace BindingTrees.Scenario

/-- Why a name has no term. -/
inductive UnfoldError where
  | unknown (name : String)
  | cyclic (name : String)
  | within (name : String) (cause : UnfoldError)
  | notOne
  | variableWithArgs (name : String)
  | referenceWithArgs (name : String)
  | malformed (error : Malformed)
deriving DecidableEq

namespace UnfoldError

/-- The error without the names on the way to it. -/
def cause : UnfoldError → UnfoldError
  | .within _ inner => inner.cause
  | error => error

def message : UnfoldError → String
  | .unknown name => "unknown term " ++ Text.quote name
  | .cyclic name => "term " ++ Text.quote name ++ " refers to itself"
  | .within name cause => "term " ++ Text.quote name ++ ": " ++ cause.message
  | .notOne => "exactly one of var, ref and tag must be set"
  | .variableWithArgs name => "variable " ++ name ++ " has args"
  | .referenceWithArgs name => "reference to " ++ name ++ " has args"
  | .malformed error => error.message

end UnfoldError

mutual
/-- The term of a sketch, given the terms of the names it refers to. -/
def Sketch.unfold (lookup : String → Except UnfoldError Term) : Sketch → Except UnfoldError Term
  | .mk var ref tag args =>
      match var.isEmpty, ref.isEmpty, tag.isEmpty with
      | false, true, true =>
          match args with
          | none | some [] => .ok (.var var)
          | some (_ :: _) => .error (.variableWithArgs var)
      | true, false, true =>
          match args with
          | none | some [] => lookup ref
          | some (_ :: _) => .error (.referenceWithArgs ref)
      | true, true, false =>
          match args with
          | none => (Term.form tag []).mapError .malformed
          | some slots => do
              let arguments ← unfoldSlots lookup slots
              (Term.form tag arguments).mapError .malformed
      | _, _, _ => .error .notOne

def unfoldSlots (lookup : String → Except UnfoldError Term) :
    List (Slot Sketch) → Except UnfoldError (List Argument)
  | [] => .ok []
  | ⟨bind, body⟩ :: rest => do
      let body ← body.unfold lookup
      let arguments ← unfoldSlots lookup rest
      return .scoped ⟨bind.getD [], body⟩ :: arguments
end

/-- The names that may still be opened once one of them is open. -/
def afterOpening (closed : List String) (name : String) : List String :=
  closed.filter (· ≠ name)

theorem length_afterOpening_lt {closed : List String} {name : String} (member : name ∈ closed) :
    (afterOpening closed name).length < closed.length := by
  refine List.length_filter_lt_length_iff_exists.mpr ⟨name, member, ?_⟩
  simp

/-- The term of a name, when only the names in `closed` may still be opened. -/
def Document.unfold (doc : Document) (closed : List String) (name : String) :
    Except UnfoldError Term :=
  match doc.terms.lookup name with
  | none => .error (.unknown name)
  | some sketch =>
      if name ∈ closed then
        (sketch.unfold (doc.unfold (afterOpening closed name))).mapError (.within name)
      else .error (.cyclic name)
termination_by closed.length
decreasing_by
  rename_i member
  exact length_afterOpening_lt member

/-- The term of a name. -/
def Document.term (doc : Document) (name : String) : Except UnfoldError Term :=
  doc.unfold (doc.terms.map (·.1)) name

end BindingTrees.Scenario
