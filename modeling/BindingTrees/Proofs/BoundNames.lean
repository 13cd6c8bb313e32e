import BindingTrees.Engine.Opening
import BindingTrees.Proofs.Picking
import BindingTrees.Proofs.Positions
import BindingTrees.Term.Formation

/-!
# The bound names of results

`Term.Binds holds` says that no term is missing and that every bound name of a term has a
property.  With no condition on the names this is `Term.Complete`, and with atomic names it is
`Term.WellFormed`.

A substitution and an opening put terms together without forming nodes, so nothing examines the
names they bind.  These are the old names or answers of the strategy for them.  Hence a property
that the strategy keeps is kept by a pass (`Term.binds_substWith`), by a substitution
(`subst_binds`) and by opening (`openArgs_binds`), whatever the names in use are.
-/

set_option autoImplicit false

namespace BindingTrees

/-! ## Properties of bound names -/

mutual
/-- No term is missing and every bound name has a property. -/
def Term.Binds (holds : String → Prop) : Term → Prop
  | .hole => False
  | .var _ => True
  | .node _ args => args.Binds holds

def Args.Binds (holds : String → Prop) : Args → Prop
  | .nil => True
  | .cons bound body rest => (∀ name ∈ bound, holds name) ∧ body.Binds holds ∧ rest.Binds holds
end

mutual
theorem Term.complete_iff_binds : ∀ {term : Term}, term.Complete ↔ term.Binds fun _ => True
  | .hole => Iff.rfl
  | .var _ => Iff.rfl
  | .node _ args => by
      rw [Term.Complete, Term.Binds]
      exact Args.complete_iff_binds

theorem Args.complete_iff_binds : ∀ {args : Args}, args.Complete ↔ args.Binds fun _ => True
  | .nil => Iff.rfl
  | .cons _ body rest => by
      rw [Args.Complete, Args.Binds, Term.complete_iff_binds, Args.complete_iff_binds]
      simp
end

mutual
theorem Term.wellFormed_iff_binds : ∀ {term : Term}, term.WellFormed ↔ term.Binds Atomic
  | .hole => Iff.rfl
  | .var _ => Iff.rfl
  | .node _ args => by
      rw [Term.WellFormed, Term.Binds]
      exact Args.wellFormed_iff_binds

theorem Args.wellFormed_iff_binds : ∀ {args : Args}, args.WellFormed ↔ args.Binds Atomic
  | .nil => Iff.rfl
  | .cons _ body rest => by
      rw [Args.WellFormed, Args.Binds, Term.wellFormed_iff_binds, Args.wellFormed_iff_binds]
end

/-- A property of the bound names of a binder and of its body. -/
def Binder.Binds (holds : String → Prop) (binder : Binder) : Prop :=
  (∀ name ∈ binder.bound, holds name) ∧ binder.body.Binds holds

theorem Args.binds_iff_forall {holds : String → Prop} : ∀ {args : Args},
    args.Binds holds ↔ ∀ binder ∈ args.toList, binder.Binds holds
  | .nil => by simp [Args.Binds, Args.toList]
  | .cons bound body rest => by
      rw [Args.Binds, Args.toList, List.forall_mem_cons, Args.binds_iff_forall, Binder.Binds,
        and_assoc]

/-! ## One pass -/

/-- Every value of an environment binds names with a property. -/
def Env.Binds (holds : String → Prop) (env : Env Term) : Prop :=
  ∀ name value, env.find? name = some value → value.Binds holds

namespace Env.Binds

variable {holds : String → Prop} {env : Env Term}

theorem nil : Env.Binds holds [] := by
  intro name value found
  cases found

theorem bindAll (binds : env.Binds holds) {names : List String} {values : List Term}
    (lengths : values.length = names.length) (given : ∀ value ∈ values, value.Binds holds) :
    (env.bindAll names values).Binds holds := by
  intro name value found
  rcases Env.find?_bindAll_eq_some lengths found with ⟨_, member⟩ | ⟨_, earlier⟩
  · exact given value member
  · exact binds name value earlier

end Env.Binds

/-- Variables bind nothing. -/
theorem Term.binds_map_var {holds : String → Prop} {names : List String} :
    ∀ value ∈ names.map Term.var, value.Binds holds := by
  intro value member
  obtain ⟨name, _, rfl⟩ := List.mem_map.mp member
  trivial

/-- What the strategy keeps of a name holds of names picked for names of which it holds. -/
theorem Picked.forall_mem {fresh : Strategy} {holds : String → Prop}
    (keeps : ∀ used stale, holds stale → holds (fresh used stale)) {used scope : Names}
    {stales names : List String} (picked : Picked fresh used stales scope names)
    (all : ∀ stale ∈ stales, holds stale) : ∀ name ∈ names, holds name := by
  rw [picked.chosen]
  exact Strategy.forall_mem_choices keeps all

mutual
/-- **A pass keeps what the strategy keeps of a name**, if the values put in place have it. -/
theorem Term.binds_substWith {fresh : Strategy} {holds : String → Prop}
    (keeps : ∀ used stale, holds stale → holds (fresh used stale)) :
    ∀ {term result : Term} {used : Names} {env : Env Term}, term.Binds holds →
    env.Binds holds → (term.substWith fresh used env).outcome = .ok result → result.Binds holds
  | .hole, _, _, _, binds, _, _ => binds.elim
  | .var name, result, used, env, _, values, ok => by
      rcases Term.substWith_var_eq_ok ok with found | ⟨_, _, rfl⟩
      · exact values name _ found
      · trivial
  | .node tag args, result, used, env, binds, values, ok => by
      obtain ⟨changed, inner, rfl⟩ := Term.substWith_node_eq_ok ok
      exact Args.binds_substWith keeps binds values inner

theorem Args.binds_substWith {fresh : Strategy} {holds : String → Prop}
    (keeps : ∀ used stale, holds stale → holds (fresh used stale)) :
    ∀ {args result : Args} {used : Names} {env : Env Term}, args.Binds holds →
    env.Binds holds → (args.substWith fresh used env).outcome = .ok result → result.Binds holds
  | .nil, _, _, _, _, _, ok => by
      cases ok
      trivial
  | .cons bound body rest, result, used, env, ⟨names, bodyBinds, restBinds⟩, values, ok => by
      obtain ⟨scope, newNames, newBody, newRest, pickedOk, bodyOk, restOk, rfl⟩ :=
        Args.substWith_cons_eq_ok ok
      have picked := pickAll_picked pickedOk
      have entries : (newNames.map Term.var).length = bound.length := by
        rw [List.length_map, picked.length_eq]
      have inner := values.bindAll entries Term.binds_map_var
      exact ⟨picked.forall_mem keeps names, Term.binds_substWith keeps bodyBinds inner bodyOk,
        Args.binds_substWith keeps restBinds values restOk⟩
end

/-! ## Substitution and opening -/

section Results

variable {fresh : Strategy} {holds : String → Prop}
  (keeps : ∀ used stale, holds stale → holds (fresh used stale))
include keeps

theorem subst_binds {used : Names} {replacements : List Term} {binder : Binder} {result : Term}
    (body : binder.body.Binds holds) (given : ∀ value ∈ replacements, value.Binds holds)
    (ok : (subst fresh used replacements binder).outcome = .ok result) : result.Binds holds := by
  obtain ⟨lengths, scope, _, inner⟩ := subst_eq_ok ok
  exact Term.binds_substWith keeps body (Env.Binds.nil.bindAll lengths given) inner

theorem openBinder_binds {used : Names} {binder opened : Binder} (binds : binder.Binds holds)
    (ok : (openBinder fresh used binder).outcome = .ok opened) : opened.Binds holds := by
  obtain ⟨_, rfl⟩ | ⟨_, scope, names, body, pickedOk, bodyOk, rfl⟩ := openBinder_eq_ok ok
  · exact binds
  · exact ⟨(pickAll_picked pickedOk).forall_mem keeps binds.1,
      subst_binds keeps binds.2 Term.binds_map_var bodyOk⟩

/-- **Opening keeps what the strategy keeps of a name.** -/
theorem openArgs_binds {used : Names} : ∀ {args opened : Args}, args.Binds holds →
    (openArgs fresh used args).outcome = .ok opened → opened.Binds holds
  | .nil, _, _, ok => by
      cases ok
      trivial
  | .cons bound body rest, _, ⟨names, bodyBinds, restBinds⟩, ok => by
      obtain ⟨binder, others, binderOk, restOk, rfl⟩ := openArgs_cons_eq_ok ok
      have here : binder.Binds holds := openBinder_binds keeps ⟨names, bodyBinds⟩ binderOk
      exact ⟨here.1, here.2, openArgs_binds restBinds restOk⟩

end Results

/-- A substitution into a body without holes has no holes, if the replacements have none. -/
theorem subst_complete {fresh : Strategy} {used : Names} {replacements : List Term}
    {binder : Binder} {result : Term} (complete : binder.body.Complete)
    (given : ∀ value ∈ replacements, value.Complete)
    (ok : (subst fresh used replacements binder).outcome = .ok result) : result.Complete := by
  simp only [Term.complete_iff_binds] at complete given ⊢
  exact subst_binds (fun _ _ _ => trivial) complete given ok

end BindingTrees
