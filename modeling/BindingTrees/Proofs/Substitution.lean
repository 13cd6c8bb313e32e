import BindingTrees.Engine.Subst
import BindingTrees.Proofs.NamelessForm
import BindingTrees.Proofs.Renaming

/-!
# Substitution avoids capture

Replacing the names of a binder and renaming every binder inside the body gives, up to
bound names, the body with the replacements filled in on nameless forms, where nothing
needs a name (`subst_instantiates`).

**No other failure.** A term without holes is substituted in unless a promise is broken
or one of its free variables has neither a value nor a place among the names in use
(`Term.substWith_eq_error`).

**The invariant.** Going down, the environment follows the scopes passed (`Follows`),
starting from the values of the binder's own names.  A variable of an inner scope is
sent to the picked name at its position; a name of the binder to its replacement, which
has no name of the table; and any other name was in use at the start, so that it is not
in the table either (`Term.nameless_substWith`).
-/

set_option autoImplicit false

namespace BindingTrees

/-! ## Faults -/

mutual
/-- A substitution fails by a broken promise, or at a free variable that has no value
and is not in use. -/
theorem Term.substWith_eq_error {fresh : Strategy} : ∀ {term : Term} {used : Names}
    {env : Env Term} {fault : Fault}, term.Complete →
    (term.substWith fresh used env).outcome = .error fault →
      (∃ answer stale, fault = .stillUsed answer stale) ∨
        ∃ name ∈ term.freeNames, env.find? name = none ∧ name ∉ used ∧
          fault = .unbound .subst name
  | .hole, _, _, _, complete, _ => complete.elim
  | .var name, used, env, fault, _, failed => by
      rw [Term.substWith] at failed
      split at failed
      · cases failed
      · next noValue =>
          split at failed
          · cases failed
          · next notInUse =>
              cases failed
              exact .inr ⟨name, Term.mem_freeNames_var.mpr rfl, noValue, notInUse, rfl⟩
  | .node tag args, used, env, fault, complete, failed => by
      rw [Term.substWith, Recorded.outcome_bind_eq_error] at failed
      rcases failed with inner | ⟨_, _, impossible⟩
      · exact Args.substWith_eq_error complete inner
      · cases impossible

theorem Args.substWith_eq_error {fresh : Strategy} : ∀ {args : Args} {used : Names}
    {env : Env Term} {fault : Fault}, args.Complete →
    (args.substWith fresh used env).outcome = .error fault →
      (∃ answer stale, fault = .stillUsed answer stale) ∨
        ∃ name ∈ args.freeNames, env.find? name = none ∧ name ∉ used ∧
          fault = .unbound .subst name
  | .nil, _, _, _, _, failed => by cases failed
  | .cons bound body rest, used, env, fault, complete, failed => by
      rw [Args.substWith, Recorded.outcome_bind_eq_error] at failed
      rcases failed with picking | ⟨⟨scope, names⟩, pickedOk, failed⟩
      · exact .inl (pickAll_eq_error picking)
      · have picked := pickAll_picked pickedOk
        rw [Recorded.outcome_bind_eq_error] at failed
        rcases failed with inBody | ⟨_, _, failed⟩
        · rcases Term.substWith_eq_error complete.1 inBody with
            broken | ⟨name, free, noValue, notInUse, same⟩
          · exact .inl broken
          · -- A name bound here would have a value, so the variable is free further out.
            have entries : (names.map Term.var).length = bound.length := by
              rw [List.length_map, picked.length_eq]
            rw [Env.find?_bindAll env entries] at noValue
            cases place : lastIndex? name bound with
            | some index =>
                have inside := lastIndex?_lt_length place
                rw [place] at noValue
                simp only [List.getElem?_eq_none_iff, entries] at noValue
                omega
            | none =>
                rw [place] at noValue
                have outside := lastIndex?_eq_none_iff.mp place
                exact .inr ⟨name, Args.mem_freeNames_cons.mpr (.inl ⟨free, outside⟩), noValue,
                  fun inUse => notInUse (picked.mem_scope_of_used inUse), same⟩
        · rw [Recorded.outcome_bind_eq_error] at failed
          rcases failed with inRest | ⟨_, _, impossible⟩
          · rcases Args.substWith_eq_error complete.2 inRest with
              broken | ⟨name, free, noValue, notInUse, same⟩
            · exact .inl broken
            · exact .inr ⟨name, Args.mem_freeNames_cons.mpr (.inr free), noValue, notInUse, same⟩
          · cases impossible
end

/-! ## The nameless form of the result -/

mutual
/-- **One pass fills in the replacements.**  The body is read inside the scopes passed
and the binder, the result inside the table of picked names. -/
theorem Term.nameless_substWith {fresh : Strategy} {base : Names} {outer : List String}
    {replacements : List Term} (lengths : replacements.length = outer.length)
    (contained : ∀ replacement ∈ replacements, ∀ name ∈ replacement.freeNames, name ∈ base) :
    ∀ {term result : Term} {env : Env Term} {table scopes : List (List String)},
    Follows .var (Env.bindAll [] outer replacements) env base table scopes →
    (∀ name ∈ term.freeNames, locate? name scopes = none → name ∈ base) →
    (term.substWith fresh (base.insertScopes table) env).outcome = .ok result →
      result.nameless table = (term.nameless (scopes ++ [outer])).instantiate
        (replacements.map (·.nameless [])) scopes.length
  | .hole, _, _, _, _, _, _, ok => by cases ok
  | .var name, result, env, table, scopes, follows, declared, ok => by
      rw [Term.substWith] at ok
      cases found : locate? name scopes with
      | some position =>
          obtain ⟨entry, value, place⟩ := follows.bound found
          rw [value] at ok
          cases ok
          rw [Term.nameless_var_of_some place,
            Term.nameless_var_of_some (locate?_append_of_some found), Nameless.instantiate,
            if_neg (Nat.ne_of_lt (locate?_depth_lt found))]
      | none =>
          have inUse := declared name (Term.mem_freeNames_var.mpr rfl) found
          rw [follows.free found, Env.find?_bindAll [] lengths] at ok
          cases place : lastIndex? name outer with
          | some index =>
              have inside : index < replacements.length := lengths ▸ lastIndex?_lt_length place
              have position : locate? name (scopes ++ [outer]) = some (scopes.length, index) := by
                rw [locate?_append_of_none found, locate?_cons_of_lastIndex? place]
                rfl
              simp only [place, List.getElem?_eq_getElem inside] at ok
              cases ok
              have outside : ∀ name ∈ replacements[index].freeNames, locate? name table = none :=
                fun name member =>
                  follows.apart (contained _ (List.getElem_mem inside) name member)
              rw [Term.nameless_of_absent outside, Term.nameless_var_of_some position,
                Nameless.instantiate, if_pos rfl, List.getElem?_map,
                List.getElem?_eq_getElem inside]
              rfl
          | none =>
              have position : locate? name (scopes ++ [outer]) = none := by
                rw [locate?_append_of_none found,
                  locate?_cons_of_not_mem (lastIndex?_eq_none_iff.mp place)]
                rfl
              have member : name ∈ base.insertScopes table :=
                Names.mem_insertScopes.mpr (.inl inUse)
              simp only [place, Env.find?_nil, if_pos member] at ok
              cases ok
              rw [Term.nameless_var_of_none (follows.apart inUse),
                Term.nameless_var_of_none position]
              rfl
  | .node tag args, result, env, table, scopes, follows, declared, ok => by
      obtain ⟨changed, inner, rfl⟩ := Term.substWith_node_eq_ok ok
      rw [Term.nameless, Term.nameless, Nameless.instantiate,
        Args.nameless_substWith lengths contained follows declared inner]

theorem Args.nameless_substWith {fresh : Strategy} {base : Names} {outer : List String}
    {replacements : List Term} (lengths : replacements.length = outer.length)
    (contained : ∀ replacement ∈ replacements, ∀ name ∈ replacement.freeNames, name ∈ base) :
    ∀ {args result : Args} {env : Env Term} {table scopes : List (List String)},
    Follows .var (Env.bindAll [] outer replacements) env base table scopes →
    (∀ name ∈ args.freeNames, locate? name scopes = none → name ∈ base) →
    (args.substWith fresh (base.insertScopes table) env).outcome = .ok result →
      result.nameless table = (args.nameless (scopes ++ [outer])).instantiate
        (replacements.map (·.nameless [])) scopes.length
  | .nil, _, _, _, _, _, _, ok => by
      cases ok
      rfl
  | .cons bound body rest, result, env, table, scopes, follows, declared, ok => by
      obtain ⟨scope, names, newBody, newRest, pickedOk, bodyOk, restOk, rfl⟩ :=
        Args.substWith_cons_eq_ok ok
      have picked := pickAll_picked pickedOk
      rw [picked.gained] at bodyOk
      obtain ⟨bodyDeclared, restDeclared⟩ := Args.free_outside_cons declared
      have inBody := Term.nameless_substWith lengths contained
        (follows.enter picked picked.length_eq) bodyDeclared bodyOk
      have inRest := Args.nameless_substWith lengths contained follows restDeclared restOk
      rw [Args.nameless, Args.nameless, NamelessArgs.instantiate, picked.length_eq, inRest, inBody]
      rfl
end

/-! ## Substitution into a binder -/

section Subst

variable {fresh : Strategy} {used : Names} {replacements : List Term} {binder : Binder}

/-- Why a substitution into a binder fails: a broken promise, the number of
replacements, or a variable outside the names in use and those set aside. -/
theorem subst_eq_error {fault : Fault} (complete : binder.body.Complete)
    (failed : (subst fresh used replacements binder).outcome = .error fault) :
    (∃ answer stale, fault = .stillUsed answer stale) ∨
      (replacements.length ≠ binder.bound.length ∧
        fault = .arity binder.bound.length replacements.length) ∨
      ∃ scope, (reserve fresh used binder.bound).outcome = .ok scope ∧
        ∃ name ∈ binder.body.freeNames, name ∉ scope ∧ fault = .unbound .subst name := by
  rw [subst] at failed
  split at failed
  · rw [Recorded.outcome_bind_eq_error] at failed
    rcases failed with reserving | ⟨scope, reserved, inBody⟩
    · exact .inl (reserve_eq_error reserving)
    · rcases Term.substWith_eq_error complete inBody with
        broken | ⟨name, free, _, notInUse, same⟩
      · exact .inl broken
      · exact .inr (.inr ⟨scope, reserved, name, free, notInUse, same⟩)
  · next lengths =>
      cases failed
      exact .inr (.inl ⟨lengths, rfl⟩)

/-- The result of a substitution whose variables are all in use or set aside. -/
theorem nameless_subst {scope : Names} {result : Term}
    (reserved : (reserve fresh used binder.bound).outcome = .ok scope)
    (declared : ∀ name ∈ binder.body.freeNames, name ∈ scope)
    (contained : ∀ replacement ∈ replacements, ∀ name ∈ replacement.freeNames, name ∈ scope)
    (ok : (subst fresh used replacements binder).outcome = .ok result) :
    result.nameless [] = binder.instantiate replacements := by
  rw [subst] at ok
  split at ok
  · next lengths =>
      rw [Recorded.outcome_bind_eq_ok] at ok
      obtain ⟨scope', reserved', inBody⟩ := ok
      cases reserved.symm.trans reserved'
      exact Term.nameless_substWith lengths contained (Follows.refl _ _ scope)
        (fun name free _ => declared name free) inBody
  · cases ok

end Subst

/-- **Substitution is capture-avoiding.**  Let every free variable of the body and of
the replacements be in use or set aside for the binder.  Unless the strategy breaks its
promise, there is a result, and up to bound names it is the body with the replacements
filled in; of a repeated name the last replacement counts. -/
theorem subst_instantiates (fresh : Strategy) (used : Names) (replacements : List Term)
    (binder : Binder) (complete : binder.body.Complete)
    (lengths : replacements.length = binder.bound.length)
    (declared : ∀ scope, (reserve fresh used binder.bound).outcome = .ok scope →
      (∀ name ∈ binder.body.freeVars, name ∈ scope) ∧
        ∀ replacement ∈ replacements, ∀ name ∈ replacement.freeVars, name ∈ scope)
    (unbroken : (subst fresh used replacements binder).Unbroken) :
    (∃ scope, (reserve fresh used binder.bound).outcome = .ok scope ∧
      (∀ name ∈ used, name ∈ scope) ∧ ∀ name ∈ binder.bound, name ∈ scope) ∧
    ∃ result, (subst fresh used replacements binder).outcome = .ok result ∧
      result.nameless [] = binder.instantiate replacements := by
  simp only [Term.mem_freeVars] at declared
  cases outcome : (subst fresh used replacements binder).outcome with
  | error fault =>
      have answer := unbroken fault outcome
      rcases subst_eq_error complete outcome with
        ⟨_, _, rfl⟩ | ⟨different, _⟩ | ⟨scope, reserved, name, free, notInUse, _⟩
      · cases answer
      · exact absurd lengths different
      · exact absurd ((declared scope reserved).1 name free) notInUse
  | ok result =>
      have inner := outcome
      rw [subst, if_pos lengths, Recorded.outcome_bind_eq_ok] at inner
      obtain ⟨scope, reserved, _⟩ := inner
      have picked := reserve_picked reserved
      obtain ⟨inBody, inReplacements⟩ := declared scope reserved
      refine ⟨⟨scope, reserved, fun name => picked.mem_scope_of_used,
        fun name => picked.mem_scope⟩, result, rfl, ?_⟩
      exact nameless_subst reserved inBody inReplacements outcome

/-- Of a name bound twice the second replacement counts, its variable is not captured
by the binder inside, and a variable may have the name that was set aside. -/
theorem subst_instantiates_repeated :
    let body := Term.node "lam" (.cons ["y"] (.node "ap"
      (.cons [] (.var "x") (.cons [] (.var "y") (.cons [] (.var "x'") .nil)))) .nil)
    let result := Term.node "lam" (.cons ["y'"] (.node "ap"
      (.cons [] (.var "y") (.cons [] (.var "y'") (.cons [] (.var "x'") .nil)))) .nil)
    (subst (.appending "'") (.ofList ["y"]) [.var "x", .var "y"] ⟨["x", "x"], body⟩).outcome =
        .ok result ∧
      result.nameless [] = Binder.instantiate ⟨["x", "x"], body⟩ [.var "x", .var "y"] := by
  intro body result
  have ok : (subst (.appending "'") (.ofList ["y"]) [.var "x", .var "y"]
      ⟨["x", "x"], body⟩).outcome = .ok result := rfl
  have reserved : (reserve (.appending "'") (.ofList ["y"]) ["x", "x"]).outcome =
      .ok (.ofList ["y", "x", "x'"]) := rfl
  have law := subst_instantiates (.appending "'") (.ofList ["y"]) [.var "x", .var "y"]
    ⟨["x", "x"], body⟩ ⟨by simp [Term.Complete, Args.Complete], trivial⟩ rfl
    (by
      intro scope found
      cases reserved.symm.trans found
      decide)
    (Recorded.unbroken_of_ok ok)
  obtain ⟨_, _, found, same⟩ := law
  cases ok.symm.trans found
  exact ⟨ok, same⟩

end BindingTrees
