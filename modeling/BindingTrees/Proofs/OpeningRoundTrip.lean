import BindingTrees.Engine.Opening
import BindingTrees.Proofs.Comparison
import BindingTrees.Proofs.Substitution
import Mathlib.Data.List.Forall2

/-!
# Opening a node and closing it again

Opening gives every argument of a node names that are distinct and not in use, and
changes nothing else (`Opened`): read under its new names, the new body has the nameless
form that the old body had under the old names.  So the node put together again from the
opened arguments is the same up to bound names (`openNode_roundTrip`).

An argument that collides is renamed by a substitution whose replacements are variables
that are *not* in use.  That is sound because the names that the substitution sets aside
for the binder are the very names that were picked for it (`reserve_outcome`), and
filling these in and closing under them gives the body back
(`Nameless.close_instantiate`).
-/

set_option autoImplicit false

namespace BindingTrees

/-- What opening makes of a binder. -/
structure Opened (used : Names) (binder opened : Binder) : Prop where
  length_eq : opened.bound.length = binder.bound.length
  distinct : opened.bound.Nodup
  unused : ∀ name ∈ opened.bound, name ∉ used
  declared : ∀ name ∈ opened.body.freeVars, name ∈ used ∨ name ∈ opened.bound
  form_eq : opened.body.nameless [opened.bound] = binder.body.nameless [binder.bound]

/-! ## Binders -/

section Binders

variable {fresh : Strategy} {used : Names} {binder : Binder}

/-- A body under the names that were filled in for others has the form it had. -/
theorem nameless_of_instantiate {names : List String} {body : Term} (distinct : names.Nodup)
    (lengths : names.length = binder.bound.length)
    (absent : ∀ name ∈ names, name ∈ binder.body.freeNames → name ∈ binder.bound)
    (form : body.nameless [] = binder.instantiate (names.map .var)) :
    body.nameless [names] = binder.body.nameless [binder.bound] := by
  have values : (names.map Term.var).map (·.nameless []) = names.map Nameless.free :=
    List.map_map
  have fits : (binder.body.nameless [binder.bound]).Fits ([] ++ [names.length]) := by
    rw [lengths]
    exact binder.body.fits_nameless [binder.bound]
  have unmentioned : ∀ name ∈ names, ¬ (binder.body.nameless [binder.bound]).Mentions name := by
    intro name member mentioned
    obtain ⟨free, outside⟩ := (Term.mentions_nameless _ _).mp mentioned
    exact (locate?_cons_eq_none_iff.mp outside).1 (absent name member free)
  calc
    body.nameless [names] = (body.nameless []).close names 0 := body.nameless_append []
    _ = ((binder.body.nameless [binder.bound]).instantiate (names.map .free) 0).close names 0 := by
        rw [form, Binder.instantiate, values]
    _ = binder.body.nameless [binder.bound] :=
        Nameless.close_instantiate distinct [] fits unmentioned

/-- The free variables of a body outside its names are a matter of its form. -/
theorem declared_of_form_eq {opened : Binder}
    (form_eq : opened.body.nameless [opened.bound] = binder.body.nameless [binder.bound])
    (declared : ∀ name ∈ binder.body.freeNames, name ∈ used ∨ name ∈ binder.bound) :
    ∀ name ∈ opened.body.freeVars, name ∈ used ∨ name ∈ opened.bound := by
  intro name free
  by_cases bound : name ∈ opened.bound
  · exact .inr bound
  · have mentioned : (opened.body.nameless [opened.bound]).Mentions name :=
      (Term.mentions_nameless _ _).mpr
        ⟨Term.mem_freeVars.mp free, locate?_cons_eq_none_iff.mpr ⟨bound, rfl⟩⟩
    rw [form_eq] at mentioned
    obtain ⟨free', outside⟩ := (Term.mentions_nameless _ _).mp mentioned
    exact .inl ((declared name free').resolve_right (locate?_cons_eq_none_iff.mp outside).1)

/-- **Opening a binder** changes its names only. -/
theorem openBinder_opened {opened : Binder}
    (declared : ∀ name ∈ binder.body.freeNames, name ∈ used ∨ name ∈ binder.bound)
    (ok : (openBinder fresh used binder).outcome = .ok opened) : Opened used binder opened := by
  rw [openBinder] at ok
  split at ok
  · rw [Recorded.outcome_bind_eq_ok] at ok
    obtain ⟨⟨scope, names⟩, pickedOk, ok⟩ := ok
    rw [Recorded.outcome_bind_eq_ok] at ok
    obtain ⟨_, _, ok⟩ := ok
    rw [Recorded.outcome_bind_eq_ok] at ok
    obtain ⟨body, bodyOk, last⟩ := ok
    cases last
    have picked := pickAll_picked pickedOk
    have reserved : (reserve fresh used binder.bound).outcome = .ok scope := by
      rw [reserve_outcome, pickedOk]
      rfl
    have inScope : ∀ name ∈ binder.body.freeNames, name ∈ scope := fun name free =>
      (declared name free).elim picked.mem_scope_of_used picked.mem_scope
    -- The replacements are the names set aside for the binder.
    have contained : ∀ replacement ∈ names.map Term.var, ∀ name ∈ replacement.freeNames,
        name ∈ scope := by
      intro replacement member name free
      obtain ⟨other, chosen, rfl⟩ := List.mem_map.mp member
      rw [Term.mem_freeNames_var.mp free, picked.gained]
      exact Names.mem_insertAll.mpr (.inl chosen)
    have form_eq := nameless_of_instantiate picked.distinct picked.length_eq
      (fun name member free => (declared name free).resolve_left (picked.unused name member))
      (nameless_subst reserved inScope contained bodyOk)
    exact ⟨picked.length_eq, picked.distinct, picked.unused,
      declared_of_form_eq form_eq declared, form_eq⟩
  · next noCollision =>
      cases ok
      obtain ⟨distinct, unused⟩ := collides_eq_false_iff.mp (Bool.eq_false_iff.mpr noCollision)
      exact ⟨rfl, distinct, unused, declared_of_form_eq rfl declared, rfl⟩

/-- Why a binder cannot be opened: a broken promise, or a variable of its body that is
neither bound by it nor in use. -/
theorem openBinder_eq_error {fault : Fault} (complete : binder.body.Complete)
    (failed : (openBinder fresh used binder).outcome = .error fault) :
    (∃ answer stale, fault = .stillUsed answer stale) ∨
      ∃ name ∈ binder.body.freeNames, name ∉ binder.bound ∧ name ∉ used ∧
        fault = .unbound .subst name := by
  rw [openBinder] at failed
  split at failed
  · rw [Recorded.outcome_bind_eq_error] at failed
    rcases failed with picking | ⟨⟨scope, names⟩, pickedOk, failed⟩
    · exact .inl (pickAll_eq_error picking)
    · have picked := pickAll_picked pickedOk
      rw [Recorded.outcome_bind_eq_error] at failed
      rcases failed with impossible | ⟨_, _, failed⟩
      · cases impossible
      · rw [Recorded.outcome_bind_eq_error] at failed
        rcases failed with inBody | ⟨_, _, impossible⟩
        · rcases subst_eq_error complete inBody with
            broken | ⟨different, _⟩ | ⟨scope', reserved, name, free, notInUse, same⟩
          · exact .inl broken
          · exact absurd ((List.length_map _).trans picked.length_eq) different
          · have setAside := reserve_picked reserved
            exact .inr ⟨name, free, fun bound => notInUse (setAside.mem_scope bound),
              fun inUse => notInUse (setAside.mem_scope_of_used inUse), same⟩
        · cases impossible
  · cases failed

end Binders

/-! ## Arguments -/

section Arguments

variable {fresh : Strategy} {used : Names}

theorem openArgs_opened : ∀ {args opened : Args}, (∀ name ∈ args.freeNames, name ∈ used) →
    (openArgs fresh used args).outcome = .ok opened →
      List.Forall₂ (Opened used) args.toList opened.toList
  | .nil, _, _, ok => by
      cases ok
      exact .nil
  | .cons bound body rest, _, declared, ok => by
      obtain ⟨binder, others, binderOk, restOk, rfl⟩ := openArgs_cons_eq_ok ok
      obtain ⟨inBody, inRest⟩ := Args.declared_cons declared
      exact .cons (openBinder_opened inBody binderOk) (openArgs_opened inRest restOk)

theorem openArgs_eq_error : ∀ {args : Args} {fault : Fault}, args.Complete →
    (openArgs fresh used args).outcome = .error fault →
      (∃ answer stale, fault = .stillUsed answer stale) ∨
        ∃ name ∈ args.freeNames, name ∉ used ∧ fault = .unbound .subst name
  | .nil, _, _, failed => by cases failed
  | .cons bound body rest, fault, complete, failed => by
      rw [openArgs, Recorded.outcome_bind_eq_error] at failed
      rcases failed with inBinder | ⟨_, _, failed⟩
      · rcases openBinder_eq_error complete.1 inBinder with
          broken | ⟨name, free, notBound, notInUse, same⟩
        · exact .inl broken
        · exact .inr ⟨name, Args.mem_freeNames_cons.mpr (.inl ⟨free, notBound⟩), notInUse, same⟩
      · rw [Recorded.outcome_bind_eq_error] at failed
        rcases failed with inRest | ⟨_, _, impossible⟩
        · rcases openArgs_eq_error complete.2 inRest with broken | ⟨name, free, notInUse, same⟩
          · exact .inl broken
          · exact .inr ⟨name, Args.mem_freeNames_cons.mpr (.inr free), notInUse, same⟩
        · cases impossible

theorem Args.arity_of_opened : ∀ {args opened : Args},
    List.Forall₂ (Opened used) args.toList opened.toList → opened.arity = args.arity
  | .nil, .nil, _ => rfl
  | .nil, .cons _ _ _, related => by cases related
  | .cons _ _ _, .nil, related => by cases related
  | .cons _ _ _, .cons _ _ _, related => by
      obtain ⟨here, further⟩ := List.forall₂_cons.mp related
      rw [Args.arity, Args.arity, here.length_eq, Args.arity_of_opened further]

theorem Args.nameless_of_opened : ∀ {args opened : Args},
    List.Forall₂ (Opened used) args.toList opened.toList → opened.nameless [] = args.nameless []
  | .nil, .nil, _ => rfl
  | .nil, .cons _ _ _, related => by cases related
  | .cons _ _ _, .nil, related => by cases related
  | .cons _ _ _, .cons _ _ _, related => by
      obtain ⟨here, further⟩ := List.forall₂_cons.mp related
      rw [Args.nameless, Args.nameless, here.length_eq, here.form_eq,
        Args.nameless_of_opened further]

end Arguments

/-! ## Nodes -/

/-- Why a node cannot be opened, with the tag of the node around the variable. -/
theorem openNode_eq_error {fresh : Strategy} {used : Names} {tag : String} {args : Args}
    {fault : Fault} (complete : args.Complete)
    (failed : (openNode fresh used tag args).outcome = .error fault) :
    (∃ answer stale, fault = .stillUsed answer stale) ∨
      ∃ name ∈ args.freeNames, name ∉ used ∧ fault = .opening tag (.unbound .subst name) := by
  rw [openNode, Recorded.outcome_mapError] at failed
  cases inner : (openArgs fresh used args).outcome with
  | ok value =>
      rw [inner] at failed
      cases failed
  | error cause =>
      rw [inner] at failed
      cases failed
      rcases openArgs_eq_error complete inner with
        ⟨answer, stale, rfl⟩ | ⟨name, free, notInUse, rfl⟩
      · exact .inl ⟨answer, stale, rfl⟩
      · exact .inr ⟨name, free, notInUse, rfl⟩

/-- **Opening and closing is the identity up to bound names.**  Unless the strategy breaks
its promise, a node whose free variables are in use can be opened; every argument has as
many names as before, distinct and not in use, and the free variables of its body are in
use or among them; and the node put together again is the same up to bound names, which a
comparison confirms. -/
theorem openNode_roundTrip (fresh : Strategy) (used : Names) (tag : String) (args : Args)
    (complete : (Term.node tag args).Complete)
    (declared : ∀ name ∈ (Term.node tag args).freeVars, name ∈ used)
    (unbroken : (openNode fresh used tag args).Unbroken) :
    ∃ opened, (openNode fresh used tag args).outcome = .ok opened ∧
      List.Forall₂ (Opened used) args.toList opened.toList ∧ opened.arity = args.arity ∧
      (Term.node tag args).AlphaEq (.node tag opened) ∧
      ((equal fresh used (.node tag args) (.node tag opened)).Unbroken →
        (equal fresh used (.node tag args) (.node tag opened)).outcome = .ok true) := by
  have inUse : ∀ name ∈ args.freeNames, name ∈ used := fun name free =>
    declared name (Term.mem_freeVars.mpr (Term.mem_freeNames_node.mpr free))
  cases outcome : (openNode fresh used tag args).outcome with
  | error fault =>
      have answer := unbroken fault outcome
      rcases openNode_eq_error complete outcome with ⟨_, _, rfl⟩ | ⟨name, free, notInUse, _⟩
      · cases answer
      · exact absurd (inUse name free) notInUse
  | ok opened =>
      have related := openArgs_opened inUse (openNode_eq_ok outcome)
      have alike : (Term.node tag args).AlphaEq (.node tag opened) :=
        congrArg (Nameless.node tag) (Args.nameless_of_opened related).symm
      have openedDeclared : ∀ name ∈ (Term.node tag opened).freeVars, name ∈ used :=
        fun name free => inUse name (alike.mem_freeNames_iff.mpr (Term.mem_freeVars.mp free))
      refine ⟨opened, rfl, related, Args.arity_of_opened related, alike, fun kept => ?_⟩
      rw [equal_of_declared complete (Term.complete_of_nameless alike complete) declared
        openedDeclared kept, decide_eq_true alike]

/-- Both names of a binder collide, one with a name in use and one with the name picked
for the other. -/
theorem openNode_roundTrip_mutual :
    let args := Args.cons ["x", "x'"] (.node "ap"
      (.cons [] (.var "x") (.cons [] (.var "x'") .nil))) .nil
    let opened := Args.cons ["x'", "x''"] (.node "ap"
      (.cons [] (.var "x'") (.cons [] (.var "x''") .nil))) .nil
    (openNode (.appending "'") (.ofList ["x"]) "lam" args).outcome = .ok opened ∧
      (Term.node "lam" args).AlphaEq (.node "lam" opened) := by
  intro args opened
  have ok : (openNode (.appending "'") (.ofList ["x"]) "lam" args).outcome = .ok opened := rfl
  have law := openNode_roundTrip (.appending "'") (.ofList ["x"]) "lam" args
    ⟨⟨trivial, trivial, trivial⟩, trivial⟩ (by decide) (Recorded.unbroken_of_ok ok)
  obtain ⟨_, found, _, _, alike, _⟩ := law
  cases ok.symm.trans found
  exact ⟨ok, alike⟩

end BindingTrees
