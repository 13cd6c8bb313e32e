/-!
# Environments

An environment gives values to names.  The newest entry for a name is the one in
force, so that giving values to a list of names one after the other lets the last
of two equal names win.
-/

set_option autoImplicit false

namespace BindingTrees

/-- Values of names, the newest first. -/
abbrev Env (α : Type) := List (String × α)

namespace Env

variable {α : Type}

/-- The value in force for a name. -/
def find? (env : Env α) (name : String) : Option α := env.lookup name

/-- One more value. -/
def bind (env : Env α) (name : String) (value : α) : Env α := (name, value) :: env

/-- The values of a list of names, given in turn. -/
def bindAll (env : Env α) : List String → List α → Env α
  | name :: names, value :: values => (env.bind name value).bindAll names values
  | _, _ => env

@[simp]
theorem find?_nil (name : String) : find? ([] : Env α) name = none := rfl

@[simp]
theorem find?_bind (env : Env α) (name other : String) (value : α) :
    (env.bind name value).find? other = if other = name then some value else env.find? other := by
  rw [find?, bind, List.lookup_cons]
  by_cases same : other = name
  · simp [same]
  · simp [beq_eq_false_iff_ne.mpr same, same, find?]

end Env

end BindingTrees
