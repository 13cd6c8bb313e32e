import BindingTrees.Term

/-!
# Nameless form

In the nameless form of a term a bound variable points at its binder: it is given by
the number of binders between them and by a position in the binder's list of names.
Of a name that a list repeats, the last position is meant.  Free variables keep
their names, and a binder keeps only how many names it has.

Two terms are the same up to their bound names when their nameless forms are equal
(`Term.AlphaEq`).  Bodies of binders are filled in without renaming anything
(`Nameless.instantiate`): what is put in place has no variable that points outside
it, so nothing can be captured.
-/

set_option autoImplicit false

namespace BindingTrees

mutual
/-- A term whose bound variables point at their binders. -/
inductive Nameless where
  | hole
  | free (name : String)
  | bound (depth index : Nat)
  | node (tag : String) (args : NamelessArgs)

/-- The arguments of a node, each a number of names scoped over a body. -/
inductive NamelessArgs where
  | nil
  | cons (count : Nat) (body : Nameless) (rest : NamelessArgs)
end

deriving instance DecidableEq, Repr, Inhabited for Nameless, NamelessArgs

/-! ## Where names are bound -/

/-- The last position of a name in a list. -/
def lastIndex? (name : String) : List String → Option Nat
  | [] => none
  | first :: rest =>
      match lastIndex? name rest with
      | some index => some (index + 1)
      | none => if first = name then some 0 else none

/-- The innermost of a list of scopes that has a name, and the last position of the
name in it. -/
def locate? (name : String) : List (List String) → Option (Nat × Nat)
  | [] => none
  | scope :: scopes =>
      match lastIndex? name scope with
      | some index => some (0, index)
      | none => (locate? name scopes).map fun (depth, index) => (depth + 1, index)

theorem lastIndex?_eq_none_iff {name : String} :
    ∀ {names : List String}, lastIndex? name names = none ↔ name ∉ names
  | [] => by simp [lastIndex?]
  | first :: rest => by
      have tail : lastIndex? name rest = none ↔ name ∉ rest := lastIndex?_eq_none_iff
      rw [lastIndex?]
      split
      · rename_i index found
        have member : name ∈ rest := by
          rw [found] at tail
          exact Decidable.of_not_not fun absent => by cases tail.mpr absent
        simp [member]
      · rename_i absent
        have notMember := tail.mp absent
        by_cases head : first = name
        · simp [head]
        · simp [head, Ne.symm head, notMember]

theorem lastIndex?_lt_length {name : String} :
    ∀ {names : List String} {index : Nat}, lastIndex? name names = some index → index < names.length
  | [], _, found => by cases found
  | first :: rest, index, found => by
      rw [lastIndex?] at found
      split at found
      · rename_i inner innerFound
        cases found
        exact Nat.succ_lt_succ (lastIndex?_lt_length innerFound)
      · split at found
        · cases found
          exact Nat.zero_lt_succ _
        · cases found

/-! ## The nameless form of a term -/

mutual
/-- The nameless form of a term inside scopes, the innermost first. -/
def Term.nameless (scopes : List (List String)) : Term → Nameless
  | .hole => .hole
  | .var name =>
      match locate? name scopes with
      | some (depth, index) => .bound depth index
      | none => .free name
  | .node tag args => .node tag (args.nameless scopes)

def Args.nameless (scopes : List (List String)) : Args → NamelessArgs
  | .nil => .nil
  | .cons bound body rest =>
      .cons bound.length (body.nameless (bound :: scopes)) (rest.nameless scopes)
end

/-- Two terms are the same up to their bound names. -/
def Term.AlphaEq (left right : Term) : Prop := left.nameless [] = right.nameless []

instance (left right : Term) : Decidable (left.AlphaEq right) :=
  inferInstanceAs (Decidable (_ = _))

namespace Term.AlphaEq

theorem refl (term : Term) : term.AlphaEq term := rfl

theorem symm {left right : Term} (same : left.AlphaEq right) : right.AlphaEq left := Eq.symm same

theorem trans {first second third : Term} (left : first.AlphaEq second)
    (right : second.AlphaEq third) : first.AlphaEq third := Eq.trans left right

end Term.AlphaEq

/-! ## Filling in the names of a binder -/

mutual
/-- Puts values in the place of the variables that point at the binder `depth` levels
out.  A position without a value is left as it is. -/
def Nameless.instantiate (values : List Nameless) (depth : Nat) : Nameless → Nameless
  | .hole => .hole
  | .free name => .free name
  | .bound level index =>
      if level = depth then (values[index]?).getD (.bound level index) else .bound level index
  | .node tag args => .node tag (args.instantiate values depth)

def NamelessArgs.instantiate (values : List Nameless) (depth : Nat) : NamelessArgs → NamelessArgs
  | .nil => .nil
  | .cons count body rest =>
      .cons count (body.instantiate values (depth + 1)) (rest.instantiate values depth)
end

/-- The nameless body of a binder with terms in the place of its names. -/
def Binder.instantiate (binder : Binder) (replacements : List Term) : Nameless :=
  (binder.body.nameless [binder.bound]).instantiate (replacements.map (·.nameless [])) 0

end BindingTrees
