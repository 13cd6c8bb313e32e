import BindingTrees.Proofs.PrintedNames

/-!
# Binding hygiene

A substitution goes along the body of a binder and rebuilds it node by node.  Where the body has
a variable, anything may stand in the result; where it has a node, the result has the same node
with other names (`Term.Overlaid`).  So one can walk along the body and the result together and
list the binders of the result that come from the body, each with the names of those around it
(`Term.bindersAlong`).

**No name twice on a path.**  Every binder met on the walk has distinct names, and none of them is
in use, set aside for the binder substituted into, or bound by a binder around it
(`Term.bindersAlong_substWith`).  The scope grows along each path and holds all of these, and a
list of names is picked outside its scope.  Nothing is asked of free variables or of the strategy.

**Renaming is done once.**  What a pass has renamed is settled, and a second pass finds nothing to
rename in it (`Term.substWith_of_settled`).  So a renamed term is a fixpoint of renaming, it is
opened as it is, and it is printed without an event as the text of the term it was made from
(`hygienic_and_idempotent`).
-/

set_option autoImplicit false

namespace BindingTrees

/-! ## Walking along a body and its result -/

mutual
/-- Wherever a term has a node, another one has a node with the same tag, as many arguments, and
as many names in each of them.  In the place of a variable anything may stand. -/
def Term.Overlaid : Term → Term → Prop
  | .var _, _ => True
  | .node tag args, .node otherTag others => tag = otherTag ∧ args.Overlaid others
  | _, _ => False

def Args.Overlaid : Args → Args → Prop
  | .nil, .nil => True
  | .cons bound body rest, .cons names other others =>
      names.length = bound.length ∧ body.Overlaid other ∧ rest.Overlaid others
  | _, _ => False
end

/-- A binder met on a walk: its names, and those of all binders around it. -/
structure MetBinder where
  around : List String
  names : List String
deriving DecidableEq

mutual
/-- The binders of a result that come from the term it was made from, under names that the walk
has passed already.  The walk goes along both and ends at the variables of the term. -/
def Term.bindersAlong (around : List String) : Term → Term → List MetBinder
  | .node _ args, .node _ others => args.bindersAlong around others
  | _, _ => []

def Args.bindersAlong (around : List String) : Args → Args → List MetBinder
  | .cons _ body rest, .cons names other others =>
      ⟨around, names⟩ :: body.bindersAlong (around ++ names) other ++
        rest.bindersAlong around others
  | _, _ => []
end

mutual
/-- A pass rebuilds the term that it goes along. -/
theorem Term.overlaid_substWith {fresh : Strategy} : ∀ {term result : Term} {used : Names}
    {env : Env Term}, (term.substWith fresh used env).outcome = .ok result → term.Overlaid result
  | .hole, _, _, _, ok => by cases ok
  | .var _, _, _, _, _ => by
      rw [Term.Overlaid]
      trivial
  | .node tag args, _, used, env, ok => by
      obtain ⟨changed, inner, rfl⟩ := Term.substWith_node_eq_ok ok
      exact ⟨rfl, Args.overlaid_substWith inner⟩

theorem Args.overlaid_substWith {fresh : Strategy} : ∀ {args result : Args} {used : Names}
    {env : Env Term}, (args.substWith fresh used env).outcome = .ok result → args.Overlaid result
  | .nil, _, _, _, ok => by
      cases ok
      trivial
  | .cons bound body rest, _, used, env, ok => by
      obtain ⟨scope, names, newBody, newRest, pickedOk, bodyOk, restOk, rfl⟩ :=
        Args.substWith_cons_eq_ok ok
      exact ⟨(pickAll_picked pickedOk).length_eq, Term.overlaid_substWith bodyOk,
        Args.overlaid_substWith restOk⟩
end

/-! ## No name twice on a path -/

/-- The names of a binder are distinct, none of them is in a set, and none is bound around it. -/
structure MetBinder.Apart (base : Names) (met : MetBinder) : Prop where
  distinct : met.names.Nodup
  unused : ∀ name ∈ met.names, name ∉ base
  unshadowing : ∀ name ∈ met.names, name ∉ met.around

mutual
/-- **Binders of a result are apart from the scope they were picked in.**  The names in use hold
those at the start of the walk and those of the binders passed. -/
theorem Term.bindersAlong_substWith {fresh : Strategy} {base : Names} :
    ∀ {term result : Term} {used : Names} {env : Env Term} {around : List String},
    (∀ name ∈ base, name ∈ used) → (∀ name ∈ around, name ∈ used) →
    (term.substWith fresh used env).outcome = .ok result →
      ∀ met ∈ term.bindersAlong around result, met.Apart base
  | .hole, _, _, _, _, _, _, ok => by cases ok
  | .var _, _, _, _, _, _, _, _ => by
      intro met member
      rw [Term.bindersAlong] at member
      · cases member
      · rintro _ _ _ _ ⟨⟩
  | .node tag args, _, used, env, around, held, passed, ok => by
      obtain ⟨changed, inner, rfl⟩ := Term.substWith_node_eq_ok ok
      exact Args.bindersAlong_substWith held passed inner

theorem Args.bindersAlong_substWith {fresh : Strategy} {base : Names} :
    ∀ {args result : Args} {used : Names} {env : Env Term} {around : List String},
    (∀ name ∈ base, name ∈ used) → (∀ name ∈ around, name ∈ used) →
    (args.substWith fresh used env).outcome = .ok result →
      ∀ met ∈ args.bindersAlong around result, met.Apart base
  | .nil, _, _, _, _, _, _, ok => by
      cases ok
      intro met member
      cases member
  | .cons bound body rest, _, used, env, around, held, passed, ok => by
      obtain ⟨scope, names, newBody, newRest, pickedOk, bodyOk, restOk, rfl⟩ :=
        Args.substWith_cons_eq_ok ok
      have picked := pickAll_picked pickedOk
      have here : MetBinder.Apart base ⟨around, names⟩ :=
        ⟨picked.distinct, fun name member inBase => picked.unused name member (held name inBase),
          fun name member bound => picked.unused name member (passed name bound)⟩
      have stillHeld : ∀ name ∈ base, name ∈ scope := fun name inBase =>
        picked.mem_scope_of_used (held name inBase)
      have allPassed : ∀ name ∈ around ++ names, name ∈ scope := by
        intro name member
        rcases List.mem_append.mp member with outer | new
        · exact picked.mem_scope_of_used (passed name outer)
        · rw [picked.gained]
          exact Names.mem_insertAll.mpr (.inl new)
      intro met member
      rw [Args.bindersAlong, List.cons_append, List.mem_cons, List.mem_append] at member
      rcases member with rfl | inBody | inRest
      · exact here
      · exact Term.bindersAlong_substWith stillHeld allPassed bodyOk met inBody
      · exact Args.bindersAlong_substWith held passed restOk met inRest
end

/-! ## Settled terms are fixpoints -/

mutual
/-- **A pass changes nothing in a settled term**, if it sends every name to itself. -/
theorem Term.substWith_of_settled {fresh : Strategy} (honest : fresh.Honest) :
    ∀ {term : Term} {used : Names} {env : Env Term},
    (∀ name, env.valueOf name = .var name) → term.Settled used →
      (term.substWith fresh used env).outcome = .ok term
  | .hole, _, _, _, settled => settled.elim
  | .var name, used, env, itself, inUse => by
      rw [Term.substWith_var_of_mem inUse, itself name]
      rfl
  | .node tag args, used, env, itself, settled => by
      rw [Term.substWith, Recorded.outcome_bind_eq_ok]
      exact ⟨args, Args.substWith_of_settled honest itself settled, rfl⟩

theorem Args.substWith_of_settled {fresh : Strategy} (honest : fresh.Honest) :
    ∀ {args : Args} {used : Names} {env : Env Term},
    (∀ name, env.valueOf name = .var name) → args.Settled used →
      (args.substWith fresh used env).outcome = .ok args
  | .nil, _, _, _, _ => rfl
  | .cons bound body rest, used, env, itself, ⟨⟨distinct, unused⟩, inBody, inRest⟩ => by
      have names : fresh.choices used bound = bound := fresh.choices_of_unused distinct unused
      have stillItself : ∀ name, (env.bindAll bound (bound.map .var)).valueOf name = .var name := by
        intro name
        rw [Env.valueOf_bindAll_congr (List.length_map _) fun _ =>
          (itself name).trans (Env.valueOf_nil name).symm]
        exact Env.valueOf_bindAll_self bound name
      rw [Args.substWith, Recorded.outcome_bind_eq_ok]
      refine ⟨_, pickAll_outcome_of_honest honest used bound, ?_⟩
      rw [Strategy.scope, names, Recorded.outcome_bind_eq_ok]
      refine ⟨body, Term.substWith_of_settled honest stillItself inBody, ?_⟩
      rw [Recorded.outcome_bind_eq_ok]
      exact ⟨rest, Args.substWith_of_settled honest itself inRest, rfl⟩
end

/-! ## Substitution -/

/-- **Bound names are kept apart, and renaming is idempotent.**

Whatever the strategy and the free variables are, a substitution that has a result rebuilds the
body; and every binder of the result that comes from the body has distinct names, none of which is
in use, set aside for the binder substituted into, or bound by a binder around it.

Under a strategy that keeps its promise, let the free variables of a term be in use, and rename it
by the substitution of nothing for no names.  Renaming the result again gives the very same term;
if it is a node, it is opened as it is; and it is printed with the text of the original term,
without asking the strategy or renaming anything. -/
theorem hygienic_and_idempotent :
    (∀ (fresh : Strategy) (used : Names) (replacements : List Term) (binder : Binder)
        (result : Term), (subst fresh used replacements binder).outcome = .ok result →
      binder.body.Overlaid result ∧
      ∃ scope, (reserve fresh used binder.bound).outcome = .ok scope ∧
        (∀ name ∈ used, name ∈ scope) ∧
        ∀ met ∈ binder.body.bindersAlong [] result,
          met.names.Nodup ∧ ∀ name ∈ met.names, name ∉ scope ∧ name ∉ met.around) ∧
    ∀ (fresh : Strategy), fresh.Honest → ∀ (used : Names) (term : Term), term.Complete →
      (∀ name ∈ term.freeVars, name ∈ used) →
      ∃ renamed, (subst fresh used [] ⟨[], term⟩).outcome = .ok renamed ∧
        (subst fresh used [] ⟨[], renamed⟩).outcome = .ok renamed ∧
        (∀ tag args, renamed = .node tag args →
          (openNode fresh used tag args).outcome = .ok args ∧
            (openNode fresh used tag args).events = []) ∧
        ∃ text, (renamed.print fresh used).outcome = .ok text ∧
          (term.print fresh used).outcome = .ok text ∧ (renamed.print fresh used).events = [] := by
  refine ⟨?_, ?_⟩
  · intro fresh used replacements binder result ok
    obtain ⟨_, scope, reserved, inner⟩ := subst_eq_ok ok
    refine ⟨Term.overlaid_substWith inner, scope, reserved,
      fun name => (reserve_picked reserved).mem_scope_of_used, fun met member => ?_⟩
    have apart := Term.bindersAlong_substWith (fun _ held => held)
      (fun _ passed => absurd passed List.not_mem_nil) inner met member
    exact ⟨apart.distinct, fun name bound => ⟨apart.unused name bound,
      apart.unshadowing name bound⟩⟩
  · intro fresh honest used term complete declared
    obtain ⟨renamed, ok, printed⟩ := Term.print_eq_render_substWith honest complete
      fun name free => declared name (Term.mem_freeVars.mpr free)
    have settled : renamed.Settled used := Term.settled_substWith Env.RenamesInto.nil ok
    have text : renamed.print fresh used = pure renamed.render := Term.print_of_settled settled
    refine ⟨renamed, ok, ?_, ?_, renamed.render, ?_, printed, ?_⟩
    · rw [subst_nothing]
      exact Term.substWith_of_settled honest Env.valueOf_nil settled
    · rintro tag args rfl
      have opened : openNode fresh used tag args = pure args := openNode_of_settled settled
      rw [opened]
      exact ⟨rfl, rfl⟩
    · rw [text]
      rfl
    · rw [text]
      rfl

/-- Two nested binders have one name, which is in use, and an undeclared variable has the name
picked for the outer one.  The variable is captured, and still the binders are kept apart.  With
the variable declared the term is renamed otherwise, and once only. -/
theorem hygienic_and_idempotent_nested :
    let lam := fun name body => Term.node "lam" (.cons [name] body .nil)
    let pair := fun left right => Term.node "pair" (.cons [] left (.cons [] right .nil))
    let body := lam "x" (pair (.var "x1") (lam "x" (pair (.var "x") (.var "y"))))
    let result := lam "x1" (pair (.var "x1") (lam "x2" (pair (.var "x2") (.var "x"))))
    let renamed := lam "x2" (pair (.var "x1") (lam "x3" (pair (.var "x3") (.var "y"))))
    ((subst .digits (.ofList ["x"]) [.var "x"] ⟨["y"], body⟩).outcome = .ok result ∧
      ⟨["x1"], ["x2"]⟩ ∈ body.bindersAlong [] result ∧
      ∀ met ∈ body.bindersAlong [] result,
        met.names.Nodup ∧ ∀ name ∈ met.names, name ∉ met.around) ∧
    (subst .digits (.ofList ["x", "x1", "y"]) [] ⟨[], body⟩).outcome = .ok renamed ∧
    (subst .digits (.ofList ["x", "x1", "y"]) [] ⟨[], renamed⟩).outcome = .ok renamed ∧
    (renamed.print .digits (.ofList ["x", "x1", "y"])).events = [] := by
  intro lam pair body result renamed
  have resultIs : (subst .digits (.ofList ["x"]) [.var "x"] ⟨["y"], body⟩).outcome =
      .ok result := by
    rw [Strategy.digits_eq]
    rfl
  have renamedIs : (subst .digits (.ofList ["x", "x1", "y"]) [] ⟨[], body⟩).outcome =
      .ok renamed := by
    rw [Strategy.digits_eq]
    rfl
  have law := hygienic_and_idempotent
  obtain ⟨_, _, _, _, apart⟩ := law.1 _ _ _ _ _ resultIs
  obtain ⟨_, found, again, _, _, _, _, quiet⟩ := law.2 .digits Strategy.digits_honest
    (.ofList ["x", "x1", "y"]) body ⟨⟨trivial, ⟨⟨trivial, trivial, trivial⟩, trivial⟩, trivial⟩,
      trivial⟩ (by decide)
  cases renamedIs.symm.trans found
  refine ⟨⟨resultIs, by decide, fun met member => ?_⟩, renamedIs, again, quiet⟩
  obtain ⟨distinct, outside⟩ := apart met member
  exact ⟨distinct, fun name bound => (outside name bound).2⟩

end BindingTrees
