import BindingTrees.Engine.Printing
import BindingTrees.Proofs.EscapingVariables

/-!
# Printing is one renaming pass

Printing opens a node, goes into the bodies that opening returned, and opens the nodes in
there, so that an inner binder may be renamed again and again on the way.  A substitution
without replacements renames every binder once, on the way down the original term.  The
text printed is the plain text of the term that this one pass gives
(`print_eq_render_subst`).

**Settled terms.**  A term is settled when its free variables are in use and the names of
every binder are distinct and not in use where the binder stands (`Term.Settled`).  A pass
that sends names to variables in use settles a term (`Term.settled_substWith`), and a
settled term is printed as it stands, without an event (`Term.print_of_settled`).

**One binder.**  A binder that collides is renamed together with everything inside it, by
the very pass that it would undergo as a part of the term, and is settled from then on.  One
that does not collide is kept, and going on inside it is the same as going on with each of
its names sent to itself (`Term.substWith_congr`).
-/

set_option autoImplicit false

namespace BindingTrees

/-! ## Settled terms -/

mutual
/-- The free variables are in use, and the names of each binder are distinct and not in use
where it stands. -/
def Term.Settled (used : Names) : Term → Prop
  | .hole => False
  | .var name => name ∈ used
  | .node _ args => args.Settled used

def Args.Settled (used : Names) : Args → Prop
  | .nil => True
  | .cons bound body rest =>
      (bound.Nodup ∧ ∀ name ∈ bound, name ∉ used) ∧ body.Settled (used.insertAll bound) ∧
        rest.Settled used
end

section Opening

variable {fresh : Strategy} {used : Names}

/-- A binder with distinct names that are not in use is opened as it is. -/
theorem openBinder_of_unused {binder : Binder} (distinct : binder.bound.Nodup)
    (unused : ∀ name ∈ binder.bound, name ∉ used) : openBinder fresh used binder = pure binder := by
  have apart : collides used binder.bound = false := collides_eq_false_iff.mpr ⟨distinct, unused⟩
  rw [openBinder, apart]
  rfl

theorem openArgs_of_settled : ∀ {args : Args}, args.Settled used →
    openArgs fresh used args = pure args
  | .nil, _ => rfl
  | .cons bound body rest, ⟨⟨distinct, unused⟩, _, settled⟩ => by
      have binder : openBinder fresh used ⟨bound, body⟩ = pure ⟨bound, body⟩ :=
        openBinder_of_unused distinct unused
      rw [openArgs, binder, openArgs_of_settled settled]
      rfl

/-- A settled node is opened as it is. -/
theorem openNode_of_settled {tag : String} {args : Args} (settled : args.Settled used) :
    openNode fresh used tag args = pure args := by
  rw [openNode, openArgs_of_settled settled]
  rfl

end Opening

mutual
/-- **A settled term is printed as it stands.** -/
theorem Term.print_of_settled {fresh : Strategy} : ∀ {term : Term} {used : Names},
    term.Settled used → term.print fresh used = pure term.render
  | .hole, _, settled => settled.elim
  | .var name, used, _ => by rw [Term.print, Term.render]
  | .node tag args, used, settled => by
      have opened : openNode fresh used tag args = pure args := openNode_of_settled settled
      rw [Term.print_node, opened, Term.render]
      show (do let texts ← args.printEach fresh used; pure (applied tag texts)) = _
      rw [Args.printEach_of_settled settled]
      rfl

theorem Args.printEach_of_settled {fresh : Strategy} : ∀ {args : Args} {used : Names},
    args.Settled used → args.printEach fresh used = pure args.renderEach
  | .nil, _, _ => by rw [Args.printEach, Args.renderEach]
  | .cons bound body rest, used, ⟨_, bodySettled, restSettled⟩ => by
      rw [Args.printEach, Term.print_of_settled bodySettled,
        Args.printEach_of_settled restSettled, Args.renderEach]
      rfl
end

/-! ## A pass settles a term -/

/-- Every value of an environment is a variable in use. -/
def Env.RenamesInto (env : Env Term) (used : Names) : Prop :=
  ∀ name value, env.find? name = some value → ∃ other ∈ used, value = .var other

namespace Env.RenamesInto

variable {env : Env Term} {used scope : Names}

theorem nil : Env.RenamesInto [] used := by
  intro name value found
  cases found

/-- Names sent to names that the set grew by are sent to names in use. -/
theorem bindAll (renames : env.RenamesInto used) {bound names : List String}
    (lengths : names.length = bound.length) (kept : ∀ name ∈ used, name ∈ scope)
    (gained : ∀ name ∈ names, name ∈ scope) :
    (env.bindAll bound (names.map .var)).RenamesInto scope := by
  intro name value found
  have entries : (names.map Term.var).length = bound.length := by rw [List.length_map, lengths]
  rcases Env.find?_bindAll_eq_some entries found with ⟨_, member⟩ | ⟨_, earlier⟩
  · obtain ⟨other, picked, rfl⟩ := List.mem_map.mp member
    exact ⟨other, gained other picked, rfl⟩
  · obtain ⟨other, inUse, rfl⟩ := renames name value earlier
    exact ⟨other, kept other inUse, rfl⟩

end Env.RenamesInto

mutual
/-- **A pass that sends names to variables in use settles a term.** -/
theorem Term.settled_substWith {fresh : Strategy} : ∀ {term result : Term} {used : Names}
    {env : Env Term}, env.RenamesInto used →
    (term.substWith fresh used env).outcome = .ok result → result.Settled used
  | .hole, _, _, _, _, ok => by cases ok
  | .var name, result, used, env, renames, ok => by
      rcases Term.substWith_var_eq_ok ok with found | ⟨_, inUse, rfl⟩
      · obtain ⟨other, inUse, rfl⟩ := renames name _ found
        exact inUse
      · exact inUse
  | .node tag args, result, used, env, renames, ok => by
      obtain ⟨changed, inner, rfl⟩ := Term.substWith_node_eq_ok ok
      exact Args.settled_substWith renames inner

theorem Args.settled_substWith {fresh : Strategy} : ∀ {args result : Args} {used : Names}
    {env : Env Term}, env.RenamesInto used →
    (args.substWith fresh used env).outcome = .ok result → result.Settled used
  | .nil, _, _, _, _, ok => by
      cases ok
      trivial
  | .cons bound body rest, result, used, env, renames, ok => by
      obtain ⟨scope, names, newBody, newRest, pickedOk, bodyOk, restOk, rfl⟩ :=
        Args.substWith_cons_eq_ok ok
      have picked := pickAll_picked pickedOk
      rw [picked.gained] at bodyOk
      have inner : (env.bindAll bound (names.map .var)).RenamesInto (used.insertAll names) :=
        renames.bindAll picked.length_eq (fun name inUse => Names.mem_insertAll.mpr (.inr inUse))
          fun name member => Names.mem_insertAll.mpr (.inl member)
      exact ⟨⟨picked.distinct, picked.unused⟩, Term.settled_substWith inner bodyOk,
        Args.settled_substWith renames restOk⟩
end

/-! ## Names sent to themselves -/

/-- What a variable in use is replaced by. -/
def Env.valueOf (env : Env Term) (name : String) : Term := (env.find? name).getD (.var name)

theorem Term.substWith_var_of_mem {fresh : Strategy} {used : Names} {env : Env Term}
    {name : String} (inUse : name ∈ used) :
    (Term.var name).substWith fresh used env = pure (env.valueOf name) := by
  rw [Term.substWith, Env.valueOf]
  cases env.find? name with
  | some replacement => rfl
  | none => exact if_pos inUse

/-- Environments that agree on a name agree on it after the same names got the same values. -/
theorem Env.valueOf_bindAll_congr {env other : Env Term} {bound : List String} {values : List Term}
    (lengths : values.length = bound.length) {name : String}
    (agree : name ∉ bound → env.valueOf name = other.valueOf name) :
    (env.bindAll bound values).valueOf name = (other.bindAll bound values).valueOf name := by
  rw [Env.valueOf, Env.valueOf, Env.find?_bindAll env lengths, Env.find?_bindAll other lengths]
  cases place : lastIndex? name bound with
  | some index => rfl
  | none => exact agree (lastIndex?_eq_none_iff.mp place)

mutual
/-- A pass depends on the values of the free variables alone, if these are in use. -/
theorem Term.substWith_congr {fresh : Strategy} : ∀ {term : Term} {used : Names}
    {env other : Env Term}, (∀ name ∈ term.freeNames, name ∈ used) →
    (∀ name ∈ term.freeNames, env.valueOf name = other.valueOf name) →
    (term.substWith fresh used env).outcome = (term.substWith fresh used other).outcome
  | .hole, _, _, _, _, _ => by rw [Term.substWith, Term.substWith]
  | .var name, used, env, other, declared, agree => by
      have free : name ∈ (Term.var name).freeNames := Term.mem_freeNames_var.mpr rfl
      rw [Term.substWith_var_of_mem (declared name free),
        Term.substWith_var_of_mem (declared name free), agree name free]
  | .node tag args, used, env, other, declared, agree => by
      rw [Term.substWith, Term.substWith, Recorded.outcome_bind, Recorded.outcome_bind,
        Args.substWith_congr declared agree]

theorem Args.substWith_congr {fresh : Strategy} : ∀ {args : Args} {used : Names}
    {env other : Env Term}, (∀ name ∈ args.freeNames, name ∈ used) →
    (∀ name ∈ args.freeNames, env.valueOf name = other.valueOf name) →
    (args.substWith fresh used env).outcome = (args.substWith fresh used other).outcome
  | .nil, _, _, _, _, _ => by rw [Args.substWith, Args.substWith]
  | .cons bound body rest, used, env, other, declared, agree => by
      rw [Args.substWith, Args.substWith, Recorded.outcome_bind, Recorded.outcome_bind]
      cases picking : (pickAll fresh used bound).outcome with
      | error fault => rfl
      | ok value =>
          obtain ⟨scope, names⟩ := value
          have picked := pickAll_picked picking
          have entries : (names.map Term.var).length = bound.length := by
            rw [List.length_map, picked.length_eq]
          obtain ⟨bodyDeclared, restDeclared⟩ := Args.declared_cons declared
          have inScope : ∀ name ∈ body.freeNames, name ∈ scope := fun name free =>
            (bodyDeclared name free).elim picked.mem_scope_of_used picked.mem_scope
          have inBody : (body.substWith fresh scope (env.bindAll bound (names.map .var))).outcome =
              (body.substWith fresh scope (other.bindAll bound (names.map .var))).outcome :=
            Term.substWith_congr inScope fun name free =>
              Env.valueOf_bindAll_congr entries fun outside =>
                agree name (Args.mem_freeNames_cons.mpr (.inl ⟨free, outside⟩))
          have inRest : (rest.substWith fresh used env).outcome =
              (rest.substWith fresh used other).outcome :=
            Args.substWith_congr restDeclared fun name free =>
              agree name (Args.mem_freeNames_cons.mpr (.inr free))
          simp only [Except.bind, Recorded.outcome_bind, inBody, inRest]
end

theorem Env.valueOf_nil (name : String) : Env.valueOf [] name = .var name := rfl

/-- Names sent to themselves count like names that are not sent anywhere. -/
theorem Env.valueOf_bindAll_self (bound : List String) (name : String) :
    (Env.bindAll [] bound (bound.map .var)).valueOf name = .var name := by
  rw [Env.valueOf, Env.find?_bindAll [] (List.length_map _)]
  cases place : lastIndex? name bound with
  | some index =>
      simp only [List.getElem?_map, getElem?_of_lastIndex? place, Option.map_some,
        Option.getD_some]
  | none => rfl

/-! ## A pass without replacements -/

/-- A substitution without replacements is one pass. -/
theorem subst_nothing (fresh : Strategy) (used : Names) (term : Term) :
    (subst fresh used [] ⟨[], term⟩).outcome = (term.substWith fresh used []).outcome := by
  rfl

/-- A pass over a term whose free variables are in use changes bound names only. -/
theorem Term.alphaEq_of_substWith {fresh : Strategy} {used : Names} {term renamed : Term}
    (declared : ∀ name ∈ term.freeNames, name ∈ used)
    (ok : (term.substWith fresh used []).outcome = .ok renamed) : renamed.AlphaEq term := by
  have reserved : (reserve fresh used []).outcome = .ok used := rfl
  have contained : ∀ replacement ∈ ([] : List Term), ∀ name ∈ replacement.freeNames,
      name ∈ used := fun replacement member => absurd member List.not_mem_nil
  rw [← subst_nothing] at ok
  rw [Term.AlphaEq, nameless_subst reserved declared contained ok, Binder.instantiate_nothing]

/-! ## Printing -/

namespace Strategy

/-- The environment that a pass starts to follow inside a binder. -/
def renames (fresh : Strategy) (used : Names) (bound : List String) : Env Term :=
  Env.bindAll [] bound ((fresh.choices used bound).map .var)

variable {fresh : Strategy} {used : Names} {bound : List String}

theorem renames_within : (fresh.renames used bound).Within (fresh.scope used bound) :=
  Env.Within.nil.bindAll (fresh.length_map_choices used bound Term.var)
    (fun _ => fresh.mem_scope_of_used bound) (fun _ => fresh.mem_scope_of_mem used)

theorem renames_renamesInto : (fresh.renames used bound).RenamesInto (fresh.scope used bound) :=
  Env.RenamesInto.nil.bindAll (fresh.length_choices used bound)
    (fun _ => fresh.mem_scope_of_used bound) (fun _ => fresh.mem_scope_of_chosen)

/-- The names of a binder that does not collide are sent to themselves. -/
theorem renames_valueOf (distinct : bound.Nodup) (unused : ∀ name ∈ bound, name ∉ used)
    (name : String) : (fresh.renames used bound).valueOf name = Env.valueOf [] name := by
  rw [renames, fresh.choices_of_unused distinct unused, Env.valueOf_bindAll_self, Env.valueOf_nil]

end Strategy

section Binders

variable {fresh : Strategy} {used : Names}

/-- A binder that collides is opened by the pass that it would undergo as a part of a term. -/
theorem openBinder_of_collides (honest : fresh.Honest) {binder : Binder}
    (collision : collides used binder.bound = true) {renamed : Term}
    (ok : (binder.body.substWith fresh (fresh.scope used binder.bound)
      (fresh.renames used binder.bound)).outcome = .ok renamed) :
    (openBinder fresh used binder).outcome = .ok ⟨fresh.choices used binder.bound, renamed⟩ := by
  have lengths := fresh.length_map_choices used binder.bound Term.var
  have substOk : (subst fresh used ((fresh.choices used binder.bound).map .var) binder).outcome =
      .ok renamed := by
    rw [subst_of_reserved lengths (reserve_outcome_of_honest honest used binder.bound)]
    exact ok
  rw [openBinder, if_pos collision, Recorded.outcome_bind_eq_ok]
  refine ⟨_, pickAll_outcome_of_honest honest used binder.bound, ?_⟩
  rw [Recorded.outcome_bind_eq_ok]
  refine ⟨(), rfl, ?_⟩
  rw [Recorded.outcome_bind_eq_ok]
  exact ⟨renamed, substOk, rfl⟩

/-- Opening a binder gives it the names that a pass gives it, and printing the opened body
gives the plain text of what the pass makes of the body, if that is so inside a binder that
is kept. -/
theorem openBinder_prints (honest : fresh.Honest) (binder : Binder)
    (complete : binder.body.Complete)
    (declared : ∀ name ∈ binder.body.freeNames, name ∈ used ∨ name ∈ binder.bound)
    (inside : ∃ renamed,
      (binder.body.substWith fresh (used.insertAll binder.bound) []).outcome = .ok renamed ∧
        (binder.body.print fresh (used.insertAll binder.bound)).outcome = .ok renamed.render) :
    ∃ opened renamed, (openBinder fresh used binder).outcome = .ok opened ∧
      opened.bound = fresh.choices used binder.bound ∧
      (binder.body.substWith fresh (fresh.scope used binder.bound)
        (fresh.renames used binder.bound)).outcome = .ok renamed ∧
      (opened.body.print fresh (used.insertAll opened.bound)).outcome = .ok renamed.render := by
  have inScope : ∀ name ∈ binder.body.freeNames, name ∈ fresh.scope used binder.bound :=
    fun name free => (declared name free).elim (fresh.mem_scope_of_used binder.bound)
      (fresh.mem_scope_of_mem used)
  by_cases collision : collides used binder.bound = true
  · obtain ⟨renamed, ok⟩ :=
      Term.substWith_of_declared honest complete Strategy.renames_within inScope
    have settled := Term.settled_substWith Strategy.renames_renamesInto ok
    refine ⟨_, renamed, openBinder_of_collides honest collision ok, rfl, ok, ?_⟩
    show (renamed.print fresh (fresh.scope used binder.bound)).outcome = _
    rw [Term.print_of_settled settled]
    rfl
  · obtain ⟨distinct, unused⟩ := collides_eq_false_iff.mp (Bool.eq_false_iff.mpr collision)
    have names := fresh.choices_of_unused distinct unused
    obtain ⟨renamed, ok, printed⟩ := inside
    refine ⟨binder, renamed, ?_, names.symm, ?_, printed⟩
    · rw [openBinder_of_unused distinct unused]
      rfl
    · rw [Term.substWith_congr inScope fun name _ => Strategy.renames_valueOf distinct unused name,
        Strategy.scope, names]
      exact ok

end Binders

mutual
/-- Printing gives the plain text of what one pass makes of a term. -/
theorem Term.print_eq_render_substWith {fresh : Strategy} (honest : fresh.Honest) :
    ∀ {term : Term} {used : Names}, term.Complete → (∀ name ∈ term.freeNames, name ∈ used) →
    ∃ renamed, (term.substWith fresh used []).outcome = .ok renamed ∧
      (term.print fresh used).outcome = .ok renamed.render
  | .hole, _, complete, _ => complete.elim
  | .var name, used, _, declared => by
      have inUse : name ∈ used := declared name (Term.mem_freeNames_var.mpr rfl)
      refine ⟨.var name, ?_, ?_⟩
      · rw [Term.substWith_var_of_mem inUse]
        rfl
      · rw [Term.print]
        rfl
  | .node tag args, used, complete, declared => by
      obtain ⟨opened, renamed, openedOk, renamedOk, printed⟩ :=
        Args.print_eq_render_substWith honest complete declared
      refine ⟨.node tag renamed, ?_, ?_⟩
      · rw [Term.substWith, Recorded.outcome_bind_eq_ok]
        exact ⟨renamed, renamedOk, rfl⟩
      · have nodeOk : (openNode fresh used tag args).outcome = .ok opened := by
          rw [openNode, Recorded.outcome_mapError, openedOk]
          rfl
        rw [Term.print_node, Recorded.outcome_bind_eq_ok]
        refine ⟨opened, nodeOk, ?_⟩
        rw [Recorded.outcome_bind_eq_ok]
        exact ⟨renamed.renderEach, printed, rfl⟩

theorem Args.print_eq_render_substWith {fresh : Strategy} (honest : fresh.Honest) :
    ∀ {args : Args} {used : Names}, args.Complete → (∀ name ∈ args.freeNames, name ∈ used) →
    ∃ opened renamed, (openArgs fresh used args).outcome = .ok opened ∧
      (args.substWith fresh used []).outcome = .ok renamed ∧
      (opened.printEach fresh used).outcome = .ok renamed.renderEach
  | .nil, used, _, _ => by
      refine ⟨.nil, .nil, rfl, rfl, ?_⟩
      rw [Args.printEach]
      rfl
  | .cons bound body rest, used, complete, declared => by
      obtain ⟨bodyDeclared, restDeclared⟩ := Args.declared_cons declared
      have kept : ∀ name ∈ body.freeNames, name ∈ used.insertAll bound := fun name free =>
        Names.mem_insertAll.mpr (bodyDeclared name free).symm
      obtain ⟨binder, newBody, binderOk, names, bodyOk, bodyPrinted⟩ :=
        openBinder_prints honest ⟨bound, body⟩ complete.1 bodyDeclared
          (Term.print_eq_render_substWith honest complete.1 kept)
      obtain ⟨opened, renamed, openedOk, renamedOk, printed⟩ :=
        Args.print_eq_render_substWith honest complete.2 restDeclared
      refine ⟨.cons binder.bound binder.body opened,
        .cons (fresh.choices used bound) newBody renamed, ?_, ?_, ?_⟩
      · rw [openArgs, Recorded.outcome_bind_eq_ok]
        refine ⟨binder, binderOk, ?_⟩
        rw [Recorded.outcome_bind_eq_ok]
        exact ⟨opened, openedOk, rfl⟩
      · rw [Args.substWith, Recorded.outcome_bind, pickAll_outcome_of_honest honest]
        show (_ >>= _ : Recorded Fault Args).outcome = _
        rw [Recorded.outcome_bind_eq_ok]
        refine ⟨newBody, bodyOk, ?_⟩
        rw [Recorded.outcome_bind_eq_ok]
        exact ⟨renamed, renamedOk, rfl⟩
      · rw [Args.printEach, Recorded.outcome_bind_eq_ok]
        refine ⟨newBody.render, bodyPrinted, ?_⟩
        rw [Recorded.outcome_bind_eq_ok]
        refine ⟨renamed.renderEach, printed, ?_⟩
        rw [names, Args.renderEach]
        rfl
end

/-- The text of a term is the plain text of any result of a pass over it. -/
theorem Term.print_of_substWith {fresh : Strategy} (honest : fresh.Honest) {term renamed : Term}
    {used : Names} (complete : term.Complete) (declared : ∀ name ∈ term.freeNames, name ∈ used)
    (ok : (term.substWith fresh used []).outcome = .ok renamed) :
    (term.print fresh used).outcome = .ok renamed.render := by
  obtain ⟨_, found, printed⟩ := Term.print_eq_render_substWith honest complete declared
  cases ok.symm.trans found
  exact printed

/-- **Printing is one renaming pass, written out plainly.**  Let the strategy keep its promise
and let the free variables of a term be in use.  Then the substitution of nothing for no names
has a result, and the term is printed as the plain text of that result. -/
theorem print_eq_render_subst (fresh : Strategy) (honest : fresh.Honest) (used : Names)
    (term : Term) (complete : term.Complete) (declared : ∀ name ∈ term.freeVars, name ∈ used) :
    ∃ renamed, (subst fresh used [] ⟨[], term⟩).outcome = .ok renamed ∧
      (term.print fresh used).outcome = .ok renamed.render := by
  rw [subst_nothing]
  exact Term.print_eq_render_substWith honest complete fun name free =>
    declared name (Term.mem_freeVars.mpr free)

/-- The inner binder is kept at first, collides once the outer one is renamed, and is renamed
to the name that one pass gives it. -/
theorem print_eq_render_subst_nested :
    let term := Term.node "lam" (.cons ["x"] (.node "lam" (.cons ["x1"] (.node "ap"
      (.cons [] (.var "x") (.cons [] (.var "x1") .nil))) .nil)) .nil)
    let renamed := Term.node "lam" (.cons ["x1"] (.node "lam" (.cons ["x2"] (.node "ap"
      (.cons [] (.var "x1") (.cons [] (.var "x2") .nil))) .nil)) .nil)
    (subst .digits (.ofList ["x"]) [] ⟨[], term⟩).outcome = .ok renamed ∧
      (term.print .digits (.ofList ["x"])).outcome = .ok "lam(x1.lam(x2.ap(x1,x2)))" := by
  intro term renamed
  have ok : (subst .digits (.ofList ["x"]) [] ⟨[], term⟩).outcome = .ok renamed := by
    rw [Strategy.digits_eq]
    rfl
  have law := print_eq_render_subst .digits Strategy.digits_honest (.ofList ["x"]) term
    ⟨⟨⟨trivial, trivial, trivial⟩, trivial⟩, trivial⟩ (by decide)
  obtain ⟨_, found, printed⟩ := law
  cases ok.symm.trans found
  exact ⟨ok, printed⟩

end BindingTrees
