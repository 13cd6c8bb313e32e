import BindingTrees.Proofs.OpeningRoundTrip
import BindingTrees.Proofs.PrintedText

/-!
# Faults are justified

Under a strategy that keeps its promise no operation of the engine fails without reason
(`faults_justified`): a fault is a wrong number of replacements, or it names a variable that is
free in what the operation was given, not bound there and not declared.  Nothing is assumed of the
free variables, so the names in use may leave out as many of them as they like.

**One way to fail.**  `Recorded.FailsOnly` bounds the faults of a step, and the bound passes
through sequences (`Recorded.FailsOnly.bind`).  Substitution and opening fail at an exposed
variable, which is free and undeclared.  A comparison fails at a variable that no scope passed on
its side has; those of the scopes stand for shared names, which are in use.

**Printing** goes into bodies that opening has rewritten, but a body that was rewritten is settled
and prints as it stands (`openBinder_settled`).  So printing fails, if it does, inside binders
that were kept as they are, and the variable is free in the term itself.
-/

set_option autoImplicit false

namespace BindingTrees

/-! ## Bounds on faults -/

namespace Recorded

variable {α β : Type} {allowed more : Fault → Prop}

/-- Every fault of a step is an allowed one. -/
def FailsOnly (allowed : Fault → Prop) (step : Recorded Fault α) : Prop :=
  ∀ fault, step.outcome = .error fault → allowed fault

namespace FailsOnly

theorem of_ok {step : Recorded Fault α} {value : α} (ok : step.outcome = .ok value) :
    step.FailsOnly allowed := by
  intro fault failed
  cases ok.symm.trans failed

theorem mono {step : Recorded Fault α} (fails : step.FailsOnly allowed)
    (wider : ∀ fault, allowed fault → more fault) : step.FailsOnly more :=
  fun fault failed => wider fault (fails fault failed)

/-- A sequence fails only as its parts do, the second after a value of the first. -/
theorem bind {step : Recorded Fault α} {next : α → Recorded Fault β}
    (first : step.FailsOnly allowed)
    (second : ∀ value, step.outcome = .ok value → (next value).FailsOnly allowed) :
    (step >>= next).FailsOnly allowed := by
  intro fault failed
  rcases outcome_bind_eq_error.mp failed with here | ⟨value, ok, further⟩
  · exact first fault here
  · exact second value ok fault further

/-- A step that cannot fail in an allowed way has a value. -/
theorem exists_ok {step : Recorded Fault α} (fails : step.FailsOnly allowed)
    (never : ∀ fault, ¬ allowed fault) : ∃ value, step.outcome = .ok value := by
  cases outcome : step.outcome with
  | error fault => exact absurd (fails fault outcome) (never fault)
  | ok value => exact ⟨value, rfl⟩

end FailsOnly

end Recorded

/-- A fault that names a variable which escapes. -/
def Fault.Blames (operation : Operation) (escapes : String → Prop) (fault : Fault) : Prop :=
  ∃ name, escapes name ∧ fault = .unbound operation name

theorem Fault.Blames.mono {operation : Operation} {escapes more : String → Prop}
    (wider : ∀ name, escapes name → more name) (fault : Fault)
    (blames : fault.Blames operation escapes) : fault.Blames operation more := by
  obtain ⟨name, escaping, same⟩ := blames
  exact ⟨name, wider name escaping, same⟩

/-! ## Substitution -/

section Subst

variable {fresh : Strategy} (honest : fresh.Honest) {used : Names} {replacements : List Term}
  {binder : Binder}
include honest

/-- **A substitution fails only at an undeclared variable**, if the numbers agree. -/
theorem subst_failsOnly (complete : binder.body.Complete)
    (lengths : replacements.length = binder.bound.length) :
    (subst fresh used replacements binder).FailsOnly (Fault.Blames .subst fun name =>
      name ∈ binder.body.freeNames ∧ name ∉ binder.bound ∧ name ∉ used) := by
  intro fault failed
  have reports : Reports (fun name => binder.Exposes fresh used name)
      (subst fresh used replacements binder).outcome := subst_reports honest complete lengths
  rw [failed] at reports
  cases reports with
  | unbound name exposed =>
      obtain ⟨free, outside⟩ := Term.free_of_exposes exposed
      exact ⟨name, ⟨free, fun bound => outside (fresh.mem_scope_of_mem used bound),
        fun inUse => outside (fresh.mem_scope_of_used binder.bound inUse)⟩, rfl⟩

/-! ## Opening -/

theorem openBinder_failsOnly (complete : binder.body.Complete) :
    (openBinder fresh used binder).FailsOnly (Fault.Blames .subst fun name =>
      name ∈ binder.body.freeNames ∧ name ∉ binder.bound ∧ name ∉ used) := by
  rw [openBinder]
  split
  · refine .bind (.of_ok (pickAll_outcome_of_honest honest used binder.bound)) ?_
    rintro ⟨scope, names⟩ pickedOk
    have lengths : (names.map Term.var).length = binder.bound.length := by
      rw [List.length_map, (pickAll_picked pickedOk).length_eq]
    refine .bind (.of_ok rfl) fun _ _ => ?_
    exact .bind (subst_failsOnly honest complete lengths) fun _ _ => .of_ok rfl
  · exact .of_ok rfl

end Subst

section Opening

variable {fresh : Strategy} (honest : fresh.Honest) {used : Names}
include honest

theorem openArgs_failsOnly : ∀ {args : Args}, args.Complete →
    (openArgs fresh used args).FailsOnly
      (Fault.Blames .subst fun name => name ∈ args.freeNames ∧ name ∉ used)
  | .nil, _ => .of_ok rfl
  | .cons bound body rest, complete => by
      rw [openArgs]
      have inBinder : (openBinder fresh used ⟨bound, body⟩).FailsOnly _ :=
        openBinder_failsOnly honest complete.1
      refine .bind (inBinder.mono (Fault.Blames.mono ?_)) fun _ _ =>
        .bind ((openArgs_failsOnly complete.2).mono (Fault.Blames.mono ?_)) fun _ _ => .of_ok rfl
      · rintro name ⟨free, notBound, notInUse⟩
        exact ⟨Args.mem_freeNames_cons.mpr (.inl ⟨free, notBound⟩), notInUse⟩
      · rintro name ⟨free, notInUse⟩
        exact ⟨Args.mem_freeNames_cons.mpr (.inr free), notInUse⟩

/-- **Opening a node fails only at an undeclared variable**, with the tag of the node around it. -/
theorem openNode_failsOnly {tag : String} {args : Args} (complete : args.Complete) :
    (openNode fresh used tag args).FailsOnly fun fault =>
      ∃ name ∈ args.freeNames, name ∉ used ∧ fault = .opening tag (.unbound .subst name) := by
  intro fault failed
  rw [openNode, Recorded.outcome_mapError] at failed
  cases inner : (openArgs fresh used args).outcome with
  | ok value =>
      rw [inner] at failed
      cases failed
  | error cause =>
      rw [inner] at failed
      cases failed
      obtain ⟨name, ⟨free, notInUse⟩, rfl⟩ := openArgs_failsOnly honest complete cause inner
      exact ⟨name, free, notInUse, rfl⟩

/-- **A node whose free variables are declared can be opened**, each binder by itself. -/
theorem openNode_of_declared (tag : String) {args : Args} (complete : args.Complete)
    (declared : ∀ name ∈ args.freeNames, name ∈ used) :
    ∃ opened, (openNode fresh used tag args).outcome = .ok opened ∧
      List.Forall₂ (Opened used) args.toList opened.toList := by
  have never : ∀ fault : Fault, ¬ ∃ name ∈ args.freeNames, name ∉ used ∧
      fault = .opening tag (.unbound .subst name) := by
    rintro fault ⟨name, free, notInUse, _⟩
    exact notInUse (declared name free)
  obtain ⟨opened, ok⟩ := (openNode_failsOnly honest complete).exists_ok never
  exact ⟨opened, ok, openArgs_opened declared (openNode_eq_ok ok)⟩

end Opening

/-! ## Comparison -/

/-- A name without a reading is neither in a scope nor declared. -/
theorem readName_eq_none {declared : Names} {table scopes : List (List String)} {name : String}
    (unread : readName declared table scopes name = none) :
    locate? name scopes = none ∧ name ∉ declared := by
  rw [readName] at unread
  cases found : locate? name scopes with
  | some position =>
      rw [found] at unread
      cases unread
  | none =>
      refine ⟨rfl, fun member => ?_⟩
      simp only [found, if_pos member, reduceCtorEq] at unread

/-- A variable that stands for nothing in use is in no scope and not declared. -/
theorem resolve_failsOnly {declared : Names} {env : Env String}
    {table scopes : List (List String)} {name : String}
    (follows : Follows id [] env declared table scopes) :
    (resolve (declared.insertScopes table) env name).FailsOnly (Fault.Blames .equal fun other =>
      other = name ∧ locate? other scopes = none ∧ other ∉ declared) := by
  intro fault failed
  obtain ⟨same, unread⟩ := resolve_eq_error follows failed
  exact ⟨name, ⟨rfl, readName_eq_none unread⟩, same⟩

/-- Entering a pair of binders shares names, and both environments follow on. -/
theorem shareAll_enters {fresh : Strategy} (honest : fresh.Honest) {declared : Names}
    {left right : Env String} {table leftScopes rightScopes : List (List String)}
    (onLeft : Follows id [] left declared table leftScopes)
    (onRight : Follows id [] right declared table rightScopes) {bound other : List String}
    (lengths : bound.length = other.length) :
    let names := sharedNames fresh declared table bound.length
    (shareAll fresh (declared.insertScopes table) left right bound other).outcome =
        .ok (declared.insertScopes (names :: table), left.bindAll bound names,
          right.bindAll other names) ∧
      Follows id [] (left.bindAll bound names) declared (names :: table) (bound :: leftScopes) ∧
      Follows id [] (right.bindAll other names) declared (names :: table)
        (other :: rightScopes) := by
  intro names
  have picking := pickAll_outcome_of_honest honest (declared.insertScopes table)
    (List.replicate bound.length sharedRoot)
  have picked := pickAll_picked picking
  have count : names.length = bound.length := by
    rw [show names.length = _ from picked.length_eq, List.length_replicate]
  have leftEnters := onLeft.enter picked count
  have rightEnters := onRight.enter picked (count.trans lengths)
  rw [List.map_id] at leftEnters rightEnters
  refine ⟨?_, leftEnters, rightEnters⟩
  rw [shareAll_outcome _ _ _ lengths, picking]
  rfl

/-- The names that a comparison may blame: free on one side, outside the scopes of that side, and
not declared. -/
def EscapesOneOf (declared : Names) (leftScopes rightScopes : List (List String))
    (left right : Names) (name : String) : Prop :=
  ((name ∈ left ∧ locate? name leftScopes = none) ∨
    (name ∈ right ∧ locate? name rightScopes = none)) ∧ name ∉ declared

namespace EscapesOneOf

variable {declared : Names} {leftScopes rightScopes : List (List String)}
  {bound otherBound : List String} {body otherBody : Term} {rest otherRest : Args} {name : String}

/-- A name that escapes from the first bodies, whose own names are one more scope, escapes from
the arguments. -/
theorem of_body (escapes : EscapesOneOf declared (bound :: leftScopes) (otherBound :: rightScopes)
    body.freeNames otherBody.freeNames name) :
    EscapesOneOf declared leftScopes rightScopes (Args.cons bound body rest).freeNames
      (Args.cons otherBound otherBody otherRest).freeNames name := by
  have oneSide : ∀ {bound : List String} {body : Term} {rest : Args}
      {scopes : List (List String)},
      name ∈ body.freeNames ∧ locate? name (bound :: scopes) = none →
        name ∈ (Args.cons bound body rest).freeNames ∧ locate? name scopes = none := by
    rintro bound body rest scopes ⟨free, outside⟩
    obtain ⟨notHere, notFurther⟩ := locate?_cons_eq_none_iff.mp outside
    exact ⟨Args.mem_freeNames_cons.mpr (.inl ⟨free, notHere⟩), notFurther⟩
  exact ⟨escapes.1.imp oneSide oneSide, escapes.2⟩

theorem of_rest (escapes : EscapesOneOf declared leftScopes rightScopes rest.freeNames
    otherRest.freeNames name) :
    EscapesOneOf declared leftScopes rightScopes (Args.cons bound body rest).freeNames
      (Args.cons otherBound otherBody otherRest).freeNames name := by
  have oneSide : ∀ {bound : List String} {body : Term} {rest : Args},
      name ∈ rest.freeNames → name ∈ (Args.cons bound body rest).freeNames :=
    fun free => Args.mem_freeNames_cons.mpr (.inr free)
  exact ⟨escapes.1.imp (And.imp_left oneSide) (And.imp_left oneSide), escapes.2⟩

end EscapesOneOf

mutual
/-- **A comparison fails only at an undeclared variable of one of its sides.** -/
theorem Term.equalUnder_failsOnly {fresh : Strategy} (honest : fresh.Honest) {declared : Names} :
    ∀ {first second : Term} {left right : Env String}
      {table leftScopes rightScopes : List (List String)}, first.Complete →
    Follows id [] left declared table leftScopes →
    Follows id [] right declared table rightScopes →
      (first.equalUnder fresh (declared.insertScopes table) left right second).FailsOnly
        (Fault.Blames .equal
          (EscapesOneOf declared leftScopes rightScopes first.freeNames second.freeNames))
  | .hole, _, _, _, _, _, _, complete, _, _ => complete.elim
  | .var first, .var second, left, right, table, leftScopes, rightScopes, _, onLeft, onRight => by
      rw [Term.equalUnder]
      refine .bind ((resolve_failsOnly onLeft).mono (Fault.Blames.mono ?_)) fun _ _ =>
        .bind ((resolve_failsOnly onRight).mono (Fault.Blames.mono ?_)) fun _ _ => .of_ok rfl
      · rintro name ⟨same, outside, undeclared⟩
        exact ⟨.inl ⟨Term.mem_freeNames_var.mpr same, outside⟩, undeclared⟩
      · rintro name ⟨same, outside, undeclared⟩
        exact ⟨.inr ⟨Term.mem_freeNames_var.mpr same, outside⟩, undeclared⟩
  | .var _, .hole, _, _, _, _, _, _, _, _ => .of_ok rfl
  | .var _, .node _ _, _, _, _, _, _, _, _, _ => .of_ok rfl
  | .node tag args, .node otherTag otherArgs, left, right, table, leftScopes, rightScopes,
      complete, onLeft, onRight => by
      rw [Term.equalUnder]
      split
      · next alike =>
          exact Args.equalUnder_failsOnly honest complete alike.2 onLeft onRight
      · exact .of_ok rfl
  | .node _ _, .hole, _, _, _, _, _, _, _, _ => .of_ok rfl
  | .node _ _, .var _, _, _, _, _, _, _, _, _ => .of_ok rfl

theorem Args.equalUnder_failsOnly {fresh : Strategy} (honest : fresh.Honest) {declared : Names} :
    ∀ {args others : Args} {left right : Env String}
      {table leftScopes rightScopes : List (List String)}, args.Complete →
    args.arity = others.arity →
    Follows id [] left declared table leftScopes →
    Follows id [] right declared table rightScopes →
      (args.equalUnder fresh (declared.insertScopes table) left right others).FailsOnly
        (Fault.Blames .equal
          (EscapesOneOf declared leftScopes rightScopes args.freeNames others.freeNames))
  | .nil, _, _, _, _, _, _, _, _, _, _ => by
      rw [Args.equalUnder]
      exact .of_ok rfl
  | .cons _ _ _, .nil, _, _, _, _, _, _, arities, _, _ => by cases arities
  | .cons bound body rest, .cons otherBound otherBody otherRest, left, right, table, leftScopes,
      rightScopes, complete, arities, onLeft, onRight => by
      obtain ⟨lengths, restArities⟩ := List.cons.inj arities
      obtain ⟨shared, leftEnters, rightEnters⟩ := shareAll_enters honest onLeft onRight lengths
      rw [Args.equalUnder]
      refine .bind (.of_ok shared) fun value sharedOk => ?_
      cases shared.symm.trans sharedOk
      refine .bind ?_ fun same _ => ?_
      · exact (Term.equalUnder_failsOnly honest complete.1 leftEnters rightEnters).mono
          (Fault.Blames.mono fun _ => EscapesOneOf.of_body)
      · cases same with
        | false => exact .of_ok rfl
        | true =>
            exact (Args.equalUnder_failsOnly honest complete.2 restArities onLeft onRight).mono
              (Fault.Blames.mono fun _ => EscapesOneOf.of_rest)
end

/-- The whole comparison. -/
theorem equal_failsOnly {fresh : Strategy} (honest : fresh.Honest) (used : Names) {left : Term}
    (right : Term) (complete : left.Complete) :
    (equal fresh used left right).FailsOnly (Fault.Blames .equal fun name =>
      (name ∈ left.freeNames ∨ name ∈ right.freeNames) ∧ name ∉ used) := by
  have start := Follows.refl id [] used
  refine (Term.equalUnder_failsOnly honest complete start start).mono (Fault.Blames.mono ?_)
  rintro name ⟨free, undeclared⟩
  exact ⟨free.imp And.left And.left, undeclared⟩

/-! ## Printing -/

/-- The new body of a binder that collides is settled under its new names. -/
theorem openBinder_settled_of_collides {fresh : Strategy} {used : Names} {binder opened : Binder}
    (collision : collides used binder.bound = true)
    (ok : (openBinder fresh used binder).outcome = .ok opened) :
    opened.body.Settled (used.insertAll opened.bound) := by
  obtain ⟨apart, _⟩ | ⟨_, scope, names, body, pickedOk, bodyOk, rfl⟩ := openBinder_eq_ok ok
  · cases apart.symm.trans collision
  · have picked := pickAll_picked pickedOk
    obtain ⟨_, reservedScope, reserved, inner⟩ := subst_eq_ok bodyOk
    -- The names set aside for the binder are those picked for it.
    rw [reserve_outcome, pickedOk] at reserved
    cases reserved
    have renames : (Env.bindAll [] binder.bound (names.map .var)).RenamesInto scope := by
      rw [picked.gained]
      exact Env.RenamesInto.nil.bindAll picked.length_eq
        (fun name inUse => Names.mem_insertAll.mpr (.inr inUse))
        fun name member => Names.mem_insertAll.mpr (.inl member)
    exact picked.gained ▸ Term.settled_substWith renames inner

/-- A binder is opened as it is, or its new body is settled under its new names. -/
theorem openBinder_settled {fresh : Strategy} {used : Names} {binder opened : Binder}
    (ok : (openBinder fresh used binder).outcome = .ok opened) :
    opened = binder ∨ opened.body.Settled (used.insertAll opened.bound) := by
  obtain ⟨_, same⟩ | ⟨collision, _⟩ := openBinder_eq_ok ok
  · exact .inl same
  · exact .inr (openBinder_settled_of_collides collision ok)

/-- A fault of printing: some node could not be opened, because of an undeclared variable. -/
def Fault.BlamesWhileOpening (escapes : String → Prop) (fault : Fault) : Prop :=
  ∃ tag name, escapes name ∧ fault = .opening tag (.unbound .subst name)

theorem Fault.BlamesWhileOpening.mono {escapes more : String → Prop}
    (wider : ∀ name, escapes name → more name) (fault : Fault)
    (blames : fault.BlamesWhileOpening escapes) : fault.BlamesWhileOpening more := by
  obtain ⟨tag, name, escaping, same⟩ := blames
  exact ⟨tag, name, wider name escaping, same⟩

mutual
/-- **Printing fails only at an undeclared variable of the term itself.** -/
theorem Term.print_failsOnly {fresh : Strategy} (honest : fresh.Honest) :
    ∀ {term : Term} {used : Names}, term.Complete → (term.print fresh used).FailsOnly
      (Fault.BlamesWhileOpening fun name => name ∈ term.freeNames ∧ name ∉ used)
  | .hole, _, complete => complete.elim
  | .var name, used, _ => by
      rw [Term.print]
      exact .of_ok rfl
  | .node tag args, used, complete => by
      rw [Term.print_node]
      refine .bind ((openNode_failsOnly honest complete).mono ?_) fun opened openedOk =>
        .bind (Args.printEach_failsOnly honest complete (openNode_eq_ok openedOk)) fun _ _ =>
          .of_ok rfl
      rintro fault ⟨name, free, notInUse, same⟩
      exact ⟨tag, name, ⟨free, notInUse⟩, same⟩

theorem Args.printEach_failsOnly {fresh : Strategy} (honest : fresh.Honest) :
    ∀ {args opened : Args} {used : Names}, args.Complete →
    (openArgs fresh used args).outcome = .ok opened → (opened.printEach fresh used).FailsOnly
      (Fault.BlamesWhileOpening fun name => name ∈ args.freeNames ∧ name ∉ used)
  | .nil, _, _, _, ok => by
      cases ok
      rw [Args.printEach]
      exact .of_ok rfl
  | .cons bound body rest, _, used, complete, ok => by
      obtain ⟨binder, others, binderOk, restOk, rfl⟩ := openArgs_cons_eq_ok ok
      rw [Args.printEach]
      refine .bind ?_ fun _ _ => .bind ?_ fun _ _ => .of_ok rfl
      · rcases openBinder_settled binderOk with rfl | settled
        · refine (Term.print_failsOnly honest complete.1).mono
            (Fault.BlamesWhileOpening.mono ?_)
          rintro name ⟨free, outside⟩
          rw [Names.mem_insertAll, not_or] at outside
          exact ⟨Args.mem_freeNames_cons.mpr (.inl ⟨free, outside.1⟩), outside.2⟩
        · rw [Term.print_of_settled settled]
          exact .of_ok rfl
      · refine (Args.printEach_failsOnly honest complete.2 restOk).mono
          (Fault.BlamesWhileOpening.mono ?_)
        rintro name ⟨free, notInUse⟩
        exact ⟨Args.mem_freeNames_cons.mpr (.inr free), notInUse⟩
end

/-- A term whose free variables are in use can be printed. -/
theorem Term.print_of_declared {fresh : Strategy} (honest : fresh.Honest) {term : Term}
    {used : Names} (complete : term.Complete) (declared : ∀ name ∈ term.freeNames, name ∈ used) :
    ∃ text, (term.print fresh used).outcome = .ok text := by
  refine (Term.print_failsOnly honest complete).exists_ok ?_
  rintro fault ⟨_, name, ⟨free, notInUse⟩, _⟩
  exact notInUse (declared name free)

/-- A term without holes can be printed under its own free variables. -/
theorem Term.Complete.exists_print {fresh : Strategy} (honest : fresh.Honest) {term : Term}
    (complete : term.Complete) : ∃ text, (term.print fresh term.freeVars).outcome = .ok text :=
  Term.print_of_declared honest complete fun _ free => Term.mem_freeVars.mpr free

/-- A term without holes has a text by itself. -/
theorem Term.Complete.exists_display {term : Term} (complete : term.Complete) :
    ∃ text, (term.print .digits term.freeVars).outcome = .ok text ∧ term.display = .ok text := by
  obtain ⟨text, printed⟩ := complete.exists_print Strategy.digits_honest
  exact ⟨text, printed, Term.display_of_print printed⟩

/-! ## All operations -/

/-- **Faults are never false alarms.**  Let the strategy keep its promise, and let terms have no
holes.  A substitution fails for the number of replacements, or it names a variable that is free in
the body, not bound and not declared; a comparison names one that is free in either term and not
declared; and opening or printing names, with the tag of a node around it, one that is free in
the node or term and not declared.  So none of them fails when all these variables are declared and
the numbers agree, and a node always has a text by itself. -/
theorem faults_justified (fresh : Strategy) (honest : fresh.Honest) (used : Names) :
    (∀ (replacements : List Term) (binder : Binder), binder.body.Complete →
      (∀ fault, (subst fresh used replacements binder).outcome = .error fault →
        (replacements.length ≠ binder.bound.length ∧
          fault = .arity binder.bound.length replacements.length) ∨
        ∃ name ∈ binder.body.freeVars, name ∉ binder.bound ∧ name ∉ used ∧
          fault = .unbound .subst name) ∧
      (replacements.length = binder.bound.length →
        (∀ name ∈ binder.body.freeVars, name ∈ used ∨ name ∈ binder.bound) →
        ∃ result, (subst fresh used replacements binder).outcome = .ok result)) ∧
    (∀ left right : Term, left.Complete → right.Complete →
      (∀ fault, (equal fresh used left right).outcome = .error fault →
        ∃ name, (name ∈ left.freeVars ∨ name ∈ right.freeVars) ∧ name ∉ used ∧
          fault = .unbound .equal name) ∧
      ((∀ name ∈ left.freeVars, name ∈ used) → (∀ name ∈ right.freeVars, name ∈ used) →
        ∃ answer, (equal fresh used left right).outcome = .ok answer)) ∧
    (∀ (tag : String) (args : Args), (Term.node tag args).Complete →
      (∀ fault, (openNode fresh used tag args).outcome = .error fault →
        ∃ name ∈ (Term.node tag args).freeVars, name ∉ used ∧
          fault = .opening tag (.unbound .subst name)) ∧
      ((∀ name ∈ (Term.node tag args).freeVars, name ∈ used) →
        ∃ opened, (openNode fresh used tag args).outcome = .ok opened)) ∧
    (∀ term : Term, term.Complete →
      (∀ fault, (term.print fresh used).outcome = .error fault →
        ∃ tag, ∃ name ∈ term.freeVars, name ∉ used ∧
          fault = .opening tag (.unbound .subst name)) ∧
      ((∀ name ∈ term.freeVars, name ∈ used) →
        ∃ text, (term.print fresh used).outcome = .ok text)) ∧
    ∀ (tag : String) (args : Args), (Term.node tag args).Complete →
      ∃ text, ((Term.node tag args).print .digits (Term.node tag args).freeVars).outcome =
        .ok text ∧ (Term.node tag args).display = .ok text := by
  simp only [Term.mem_freeVars]
  refine ⟨?_, ?_, ?_, ?_, ?_⟩
  · intro replacements binder complete
    refine ⟨fun fault failed => ?_, fun lengths declared => ?_⟩
    · by_cases lengths : replacements.length = binder.bound.length
      · obtain ⟨name, ⟨free, notBound, notInUse⟩, same⟩ :=
          subst_failsOnly honest complete lengths fault failed
        exact .inr ⟨name, free, notBound, notInUse, same⟩
      · rw [subst, if_neg lengths] at failed
        cases failed
        exact .inl ⟨lengths, rfl⟩
    · refine (subst_failsOnly honest complete lengths).exists_ok ?_
      rintro fault ⟨name, ⟨free, notBound, notInUse⟩, _⟩
      exact (declared name free).elim notInUse notBound
  · intro left right complete _
    refine ⟨fun fault failed => ?_, fun leftDeclared rightDeclared => ?_⟩
    · obtain ⟨name, ⟨free, notInUse⟩, same⟩ :=
        equal_failsOnly honest used right complete fault failed
      exact ⟨name, free, notInUse, same⟩
    · refine (equal_failsOnly honest used right complete).exists_ok ?_
      rintro fault ⟨name, ⟨free, notInUse⟩, _⟩
      exact notInUse (free.elim (leftDeclared name) (rightDeclared name))
  · intro tag args complete
    refine ⟨openNode_failsOnly honest complete, fun declared => ?_⟩
    obtain ⟨opened, ok, _⟩ := openNode_of_declared honest tag complete declared
    exact ⟨opened, ok⟩
  · intro term complete
    refine ⟨fun fault failed => ?_, fun declared => ?_⟩
    · obtain ⟨tag, name, ⟨free, notInUse⟩, same⟩ :=
        Term.print_failsOnly honest complete fault failed
      exact ⟨tag, name, free, notInUse, same⟩
    · exact Term.print_of_declared honest complete declared
  · exact fun tag args complete => complete.exists_display

/-- The inner binder collides and its body has the undeclared `z`: printing gets past the outer
binder and fails there, and `z` is free in the whole term. -/
theorem faults_justified_nested :
    let inner := Args.cons ["x"] (.node "ap" (.cons [] (.var "x") (.cons [] (.var "z") .nil))) .nil
    let term := Term.node "let" (.cons ["y"] (.node "fun" inner) .nil)
    (term.print .digits (.ofList ["x"])).outcome = .error (.opening "fun" (.unbound .subst "z")) ∧
      "z" ∈ term.freeVars ∧ "z" ∉ Names.ofList ["x"] := by
  intro inner term
  have refused : (openNode .digits (.ofList ["x", "y"]) "fun" inner).outcome =
      .error (.opening "fun" (.unbound .subst "z")) := by
    rw [Strategy.digits_eq]
    rfl
  have failed : (term.print .digits (.ofList ["x"])).outcome =
      .error (.opening "fun" (.unbound .subst "z")) := by
    rw [Term.print_node, Recorded.outcome_bind_eq_error]
    refine .inr ⟨_, rfl, ?_⟩
    rw [Recorded.outcome_bind_eq_error, Args.printEach, Recorded.outcome_bind_eq_error,
      Term.print_node, Recorded.outcome_bind_eq_error]
    exact .inl (.inl (.inl refused))
  have law := faults_justified .digits Strategy.digits_honest (.ofList ["x"])
  obtain ⟨_, name, free, notInUse, same⟩ :=
    (law.2.2.2.1 term ⟨⟨⟨trivial, trivial, trivial⟩, trivial⟩, trivial⟩).1 _ failed
  cases same
  exact ⟨failed, free, notInUse⟩

end BindingTrees
