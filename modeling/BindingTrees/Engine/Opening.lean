import BindingTrees.Engine.Subst
import BindingTrees.Term.Rendering

/-!
# Opening a node

A node is opened by giving each of its arguments names that are not in use, so
that one may go on inside a body with those names added to the set.  An argument
that does not collide is left as it is.  One that does is renamed as a whole, and
the renaming is recorded.

Opening changes names only: the arguments keep their shape (`openNode_shape`), and with
it their size.
-/

set_option autoImplicit false

namespace BindingTrees

/-- A binder with names that are distinct and not in use. -/
def openBinder (fresh : Strategy) (used : Names) (binder : Binder) : Recorded Fault Binder :=
  if collides used binder.bound then do
    let (_, names) ← pickAll fresh used binder.bound
    Recorded.note (.renamed binder.bound names)
    let body ← subst fresh used (names.map .var) binder
    pure ⟨names, body⟩
  else pure binder

/-- Arguments whose names are distinct and not in use. -/
def openArgs (fresh : Strategy) (used : Names) : Args → Recorded Fault Args
  | .nil => pure .nil
  | .cons bound body rest => do
      let binder ← openBinder fresh used ⟨bound, body⟩
      let rest ← openArgs fresh used rest
      pure (.cons binder.bound binder.body rest)

/-- The arguments of the node `tag`, opened. -/
def openNode (fresh : Strategy) (used : Names) (tag : String) (args : Args) : Recorded Fault Args :=
  (openArgs fresh used args).mapError (.whileOpening tag)

/-- What an opened binder can be: the binder itself if it does not collide, and else its body
with the names picked for its own. -/
theorem openBinder_eq_ok {fresh : Strategy} {used : Names} {binder opened : Binder}
    (ok : (openBinder fresh used binder).outcome = .ok opened) :
    (collides used binder.bound = false ∧ opened = binder) ∨
      (collides used binder.bound = true ∧ ∃ scope names body,
        (pickAll fresh used binder.bound).outcome = .ok (scope, names) ∧
          (subst fresh used (names.map .var) binder).outcome = .ok body ∧
            opened = ⟨names, body⟩) := by
  rw [openBinder] at ok
  split at ok
  · next collision =>
      rw [Recorded.outcome_bind_eq_ok] at ok
      obtain ⟨⟨scope, names⟩, pickedOk, ok⟩ := ok
      rw [Recorded.outcome_bind_eq_ok] at ok
      obtain ⟨_, _, ok⟩ := ok
      rw [Recorded.outcome_bind_eq_ok] at ok
      obtain ⟨body, bodyOk, last⟩ := ok
      cases last
      exact .inr ⟨collision, scope, names, body, pickedOk, bodyOk, rfl⟩
  · next noCollision =>
      cases ok
      exact .inl ⟨Bool.eq_false_iff.mpr noCollision, rfl⟩

/-! ## Opening keeps shapes -/

/-- Every value of an environment is a variable. -/
def Env.IsRenaming (env : Env Term) : Prop :=
  ∀ name value, env.find? name = some value → ∃ other, value = .var other

theorem Env.IsRenaming.bindAll {env : Env Term} (onlyVars : env.IsRenaming) :
    ∀ bound names : List String, (env.bindAll bound (names.map .var)).IsRenaming := by
  intro bound
  induction bound generalizing env with
  | nil => intro names; exact onlyVars
  | cons name rest ih =>
      intro names
      cases names with
      | nil => exact onlyVars
      | cons new others =>
          refine ih ?_ others
          intro other value found
          rw [Env.find?_bind] at found
          split at found
          · exact ⟨new, (Option.some.inj found).symm⟩
          · exact onlyVars other value found

theorem Env.IsRenaming.nil : Env.IsRenaming [] := by
  intro name value found
  cases found

mutual
/-- **A renaming keeps the shape of a term.** -/
theorem Term.shape_substWith {fresh : Strategy} : ∀ {term result : Term} {used : Names}
    {env : Env Term}, env.IsRenaming → (term.substWith fresh used env).outcome = .ok result →
      result.shape = term.shape
  | .hole, _, _, _, _, ok => by
      rw [Term.substWith] at ok
      cases ok
  | .var name, result, _, _, onlyVars, ok => by
      rcases Term.substWith_var_eq_ok ok with found | ⟨_, _, rfl⟩
      · obtain ⟨other, rfl⟩ := onlyVars name result found
        rfl
      · rfl
  | .node tag args, _, _, _, onlyVars, ok => by
      obtain ⟨changed, inner, rfl⟩ := Term.substWith_node_eq_ok ok
      rw [Term.shape, Term.shape, Args.shape_substWith onlyVars inner]

theorem Args.shape_substWith {fresh : Strategy} : ∀ {args result : Args} {used : Names}
    {env : Env Term}, env.IsRenaming → (args.substWith fresh used env).outcome = .ok result →
      result.shape = args.shape
  | .nil, _, _, _, _, ok => by
      rw [Args.substWith] at ok
      cases ok
      rfl
  | .cons bound body rest, _, _, _, onlyVars, ok => by
      obtain ⟨scope, names, newBody, newRest, pickedOk, bodyOk, restOk, rfl⟩ :=
        Args.substWith_cons_eq_ok ok
      rw [Args.shape, Args.shape, List.map_const', List.map_const', length_of_pickAll pickedOk,
        Term.shape_substWith (onlyVars.bindAll bound names) bodyOk,
        Args.shape_substWith onlyVars restOk]
end

/-- An opened binder has as many names as before, over a body of the same shape. -/
theorem openBinder_shape {fresh : Strategy} {used : Names} {binder opened : Binder}
    (ok : (openBinder fresh used binder).outcome = .ok opened) :
    opened.bound.length = binder.bound.length ∧ opened.body.shape = binder.body.shape := by
  obtain ⟨_, rfl⟩ | ⟨_, scope, names, body, pickedOk, bodyOk, rfl⟩ := openBinder_eq_ok ok
  · exact ⟨rfl, rfl⟩
  · obtain ⟨_, reserved, _, inner⟩ := subst_eq_ok bodyOk
    exact ⟨length_of_pickAll pickedOk,
      Term.shape_substWith (Env.IsRenaming.nil.bindAll binder.bound names) inner⟩

/-- Arguments are opened one by one. -/
theorem openArgs_cons_eq_ok {fresh : Strategy} {used : Names} {bound : List String} {body : Term}
    {rest opened : Args} (ok : (openArgs fresh used (.cons bound body rest)).outcome = .ok opened) :
    ∃ binder others, (openBinder fresh used ⟨bound, body⟩).outcome = .ok binder ∧
      (openArgs fresh used rest).outcome = .ok others ∧
      opened = .cons binder.bound binder.body others := by
  rw [openArgs, Recorded.outcome_bind_eq_ok] at ok
  obtain ⟨binder, binderOk, ok⟩ := ok
  rw [Recorded.outcome_bind_eq_ok] at ok
  obtain ⟨others, restOk, last⟩ := ok
  cases last
  exact ⟨binder, others, binderOk, restOk, rfl⟩

theorem openArgs_shape {fresh : Strategy} {used : Names} : ∀ {args opened : Args},
    (openArgs fresh used args).outcome = .ok opened → opened.shape = args.shape
  | .nil, _, ok => by
      rw [openArgs] at ok
      cases ok
      rfl
  | .cons bound body rest, _, ok => by
      obtain ⟨binder, others, binderOk, restOk, rfl⟩ := openArgs_cons_eq_ok ok
      obtain ⟨names, shape⟩ := openBinder_shape binderOk
      rw [Args.shape, Args.shape, List.map_const', List.map_const', names, shape,
        openArgs_shape restOk]

/-- Opening a node succeeds by opening its arguments. -/
theorem openNode_eq_ok {fresh : Strategy} {used : Names} {tag : String} {args opened : Args}
    (ok : (openNode fresh used tag args).outcome = .ok opened) :
    (openArgs fresh used args).outcome = .ok opened :=
  Recorded.outcome_mapError_eq_ok.mp ok

/-- **Opening a node keeps the shape of its arguments.** -/
theorem openNode_shape {fresh : Strategy} {used : Names} {tag : String} {args opened : Args}
    (ok : (openNode fresh used tag args).outcome = .ok opened) : opened.shape = args.shape :=
  openArgs_shape (openNode_eq_ok ok)

theorem openNode_size {fresh : Strategy} {used : Names} {tag : String} {args opened : Args}
    (ok : (openNode fresh used tag args).outcome = .ok opened) : opened.size = args.size := by
  rw [← Args.size_shape, openNode_shape ok, Args.size_shape]

end BindingTrees
