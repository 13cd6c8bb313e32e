import BindingTrees.Proofs.JustifiedFaults

/-!
# Comparison is a partial equivalence

With undeclared variables about, a comparison need not decide equality up to bound names, and it
may fail.  It is still an equivalence on the terms that it has an answer for
(`equal_partial_equivalence`).

**Symmetry.**  Both ways round, a comparison of two terms takes the same steps: it shares as many
names at each pair of binders, and stops at the same pair of subterms (`Term.equalUnder_swap`).
If it stops with a fault, the other way round does too, though perhaps at another variable, as
the variable on the left is looked up first.

**Transitivity.**  A positive answer means that both sides are read alike, whether a variable is
declared or taken for a shared name; readings are compared for equality.

**Reflexivity.**  A term compared with itself is looked up in one environment on both sides, so a
comparison that gets to its end has found no difference (`Term.equalUnder_self`).  The readings do
not tell this: a comparison may say no before it meets the variable that has no reading.
-/

set_option autoImplicit false

namespace BindingTrees

/-! ## The answer on arguments -/

section Cons

variable {fresh : Strategy} {used : Names} {left right : Env String}
  {bound otherBound : List String} {body otherBody : Term} {rest otherRest : Args} {answer : Bool}

/-- The first arguments are compared under their shared names, and the others only if there was no
difference. -/
theorem Args.equalUnder_cons_eq_ok :
    ((Args.cons bound body rest).equalUnder fresh used left right
        (.cons otherBound otherBody otherRest)).outcome = .ok answer ↔
      ∃ scope left' right',
        (shareAll fresh used left right bound otherBound).outcome = .ok (scope, left', right') ∧
        (((body.equalUnder fresh scope left' right' otherBody).outcome = .ok false ∧
            answer = false) ∨
          ((body.equalUnder fresh scope left' right' otherBody).outcome = .ok true ∧
            (rest.equalUnder fresh used left right otherRest).outcome = .ok answer)) := by
  simp only [Args.equalUnder, Recorded.outcome_bind_eq_ok, Prod.exists]
  constructor
  · rintro ⟨scope, left', right', shared, same, bodyOk, next⟩
    refine ⟨scope, left', right', shared, ?_⟩
    cases same with
    | false =>
        cases next
        exact .inl ⟨bodyOk, rfl⟩
    | true => exact .inr ⟨bodyOk, next⟩
  · rintro ⟨scope, left', right', shared, ⟨bodyOk, rfl⟩ | ⟨bodyOk, restOk⟩⟩
    · exact ⟨scope, left', right', shared, false, bodyOk, rfl⟩
    · exact ⟨scope, left', right', shared, true, bodyOk, restOk⟩

/-- Both sides are given the names that are picked for as many copies of one name. -/
theorem shareAll_eq_ok (lengths : bound.length = otherBound.length) {scope : Names}
    {left' right' : Env String} :
    (shareAll fresh used left right bound otherBound).outcome = .ok (scope, left', right') ↔
      ∃ names, (pickAll fresh used (List.replicate bound.length sharedRoot)).outcome =
          .ok (scope, names) ∧
        left.bindAll bound names = left' ∧ right.bindAll otherBound names = right' := by
  rw [shareAll_outcome used left right lengths]
  cases (pickAll fresh used (List.replicate bound.length sharedRoot)).outcome with
  | error fault => simp [Except.map]
  | ok value =>
      obtain ⟨reached, names⟩ := value
      simp only [Except.map, Except.ok.injEq, Prod.mk.injEq]
      constructor
      · rintro ⟨rfl, onLeft, onRight⟩
        exact ⟨names, ⟨rfl, rfl⟩, onLeft, onRight⟩
      · rintro ⟨_, ⟨rfl, rfl⟩, onLeft, onRight⟩
        exact ⟨rfl, onLeft, onRight⟩

/-- Names are shared alike when the sides change places. -/
theorem shareAll_swap (lengths : bound.length = otherBound.length) {scope : Names}
    {left' right' : Env String}
    (shared : (shareAll fresh used left right bound otherBound).outcome =
      .ok (scope, left', right')) :
    (shareAll fresh used right left otherBound bound).outcome = .ok (scope, right', left') := by
  obtain ⟨names, picked, onLeft, onRight⟩ := (shareAll_eq_ok lengths).mp shared
  exact (shareAll_eq_ok lengths.symm).mpr ⟨names, lengths ▸ picked, onRight, onLeft⟩

/-- One list of names under one environment gets one environment on both sides. -/
theorem shareAll_self {env left' right' : Env String} {scope : Names}
    (shared : (shareAll fresh used env env bound bound).outcome = .ok (scope, left', right')) :
    left' = right' := by
  obtain ⟨names, _, rfl, onRight⟩ := (shareAll_eq_ok rfl).mp shared
  exact onRight

end Cons

/-! ## Both ways round -/

mutual
/-- **A comparison has the same answer the other way round.** -/
theorem Term.equalUnder_swap {fresh : Strategy} {answer : Bool} :
    ∀ {first second : Term} {used : Names} {left right : Env String}, second.Complete →
    (first.equalUnder fresh used left right second).outcome = .ok answer →
      (second.equalUnder fresh used right left first).outcome = .ok answer
  | .hole, _, _, _, _, _, ok => by cases ok
  | .var _, .hole, _, _, _, complete, _ => complete.elim
  | .node _ _, .hole, _, _, _, complete, _ => complete.elim
  | .var first, .var second, used, left, right, _, ok => by
      simp only [Term.equalUnder, Recorded.outcome_bind_eq_ok] at ok ⊢
      obtain ⟨target, firstOk, other, secondOk, last⟩ := ok
      cases last
      exact ⟨other, secondOk, target, firstOk, congrArg Except.ok Bool.beq_comm⟩
  | .var _, .node _ _, _, _, _, _, ok => by
      cases ok
      rfl
  | .node _ _, .var _, _, _, _, _, ok => by
      cases ok
      rfl
  | .node tag args, .node otherTag others, used, left, right, complete, ok => by
      rw [Term.equalUnder] at ok ⊢
      by_cases alike : tag = otherTag ∧ args.arity = others.arity
      · rw [if_pos alike] at ok
        rw [if_pos ⟨alike.1.symm, alike.2.symm⟩]
        exact Args.equalUnder_swap complete alike.2 ok
      · rw [if_neg alike] at ok
        rw [if_neg fun other => alike ⟨other.1.symm, other.2.symm⟩]
        exact ok

theorem Args.equalUnder_swap {fresh : Strategy} {answer : Bool} :
    ∀ {args others : Args} {used : Names} {left right : Env String}, others.Complete →
    args.arity = others.arity →
    (args.equalUnder fresh used left right others).outcome = .ok answer →
      (others.equalUnder fresh used right left args).outcome = .ok answer
  | .nil, .nil, _, _, _, _, _, ok => ok
  | .nil, .cons _ _ _, _, _, _, _, arities, _ => by cases arities
  | .cons _ _ _, .nil, _, _, _, _, arities, _ => by cases arities
  | .cons bound body rest, .cons otherBound otherBody otherRest, used, left, right, complete,
      arities, ok => by
      obtain ⟨lengths, restArities⟩ := List.cons.inj arities
      obtain ⟨scope, left', right', shared, further⟩ := Args.equalUnder_cons_eq_ok.mp ok
      refine Args.equalUnder_cons_eq_ok.mpr
        ⟨scope, right', left', shareAll_swap lengths shared, ?_⟩
      refine further.imp ?_ ?_
      · rintro ⟨bodyOk, no⟩
        exact ⟨Term.equalUnder_swap complete.1 bodyOk, no⟩
      · rintro ⟨bodyOk, restOk⟩
        exact ⟨Term.equalUnder_swap complete.1 bodyOk,
          Args.equalUnder_swap complete.2 restArities restOk⟩
end

/-! ## A term and itself -/

mutual
/-- **A term is not found different from itself.** -/
theorem Term.equalUnder_self {fresh : Strategy} {answer : Bool} :
    ∀ {term : Term} {used : Names} {env : Env String},
    (term.equalUnder fresh used env env term).outcome = .ok answer → answer = true
  | .hole, _, _, ok => by cases ok
  | .var name, used, env, ok => by
      simp only [Term.equalUnder, Recorded.outcome_bind_eq_ok] at ok
      obtain ⟨target, firstOk, other, secondOk, last⟩ := ok
      cases firstOk.symm.trans secondOk
      cases last
      exact beq_self_eq_true target
  | .node tag args, used, env, ok => by
      rw [Term.equalUnder, if_pos ⟨rfl, rfl⟩] at ok
      exact Args.equalUnder_self ok

theorem Args.equalUnder_self {fresh : Strategy} {answer : Bool} :
    ∀ {args : Args} {used : Names} {env : Env String},
    (args.equalUnder fresh used env env args).outcome = .ok answer → answer = true
  | .nil, _, _, ok => by
      cases ok
      rfl
  | .cons bound body rest, used, env, ok => by
      obtain ⟨scope, left', right', shared, further⟩ := Args.equalUnder_cons_eq_ok.mp ok
      cases shareAll_self shared
      rcases further with ⟨bodyOk, _⟩ | ⟨_, restOk⟩
      · cases Term.equalUnder_self bodyOk
      · exact Args.equalUnder_self restOk
end

/-! ## Whole terms -/

section Whole

variable {fresh : Strategy} (honest : fresh.Honest) (used : Names)
include honest

/-- A comparison without an answer names a variable. -/
theorem equal_eq_error {left : Term} (right : Term) (complete : left.Complete) {fault : Fault}
    (failed : (equal fresh used left right).outcome = .error fault) :
    ∃ name, fault = .unbound .equal name := by
  obtain ⟨name, _, same⟩ := equal_failsOnly honest used right complete fault failed
  exact ⟨name, same⟩

/-- Either way round there is the same answer, or none. -/
theorem equal_swap {left right : Term} (leftComplete : left.Complete)
    (rightComplete : right.Complete) :
    (∃ answer, (equal fresh used left right).outcome = .ok answer ∧
      (equal fresh used right left).outcome = .ok answer) ∨
    ∃ name other, (equal fresh used left right).outcome = .error (.unbound .equal name) ∧
      (equal fresh used right left).outcome = .error (.unbound .equal other) := by
  cases outcome : (equal fresh used left right).outcome with
  | ok answer => exact .inl ⟨answer, rfl, Term.equalUnder_swap rightComplete outcome⟩
  | error fault =>
      obtain ⟨name, rfl⟩ := equal_eq_error honest used right leftComplete outcome
      cases back : (equal fresh used right left).outcome with
      | ok answer => cases outcome.symm.trans (Term.equalUnder_swap leftComplete back)
      | error otherFault =>
          obtain ⟨other, rfl⟩ := equal_eq_error honest used left rightComplete back
          exact .inr ⟨name, other, rfl, rfl⟩

/-- Terms that are found equal to one term are found equal. -/
theorem equal_trans {first second third : Term} (firstComplete : first.Complete)
    (secondComplete : second.Complete)
    (earlier : (equal fresh used first second).outcome = .ok true)
    (later : (equal fresh used second third).outcome = .ok true) :
    (equal fresh used first third).outcome = .ok true := by
  have firstJudged := equal_judges fresh used second firstComplete
  have secondJudged := equal_judges fresh used third secondComplete
  rw [earlier] at firstJudged
  rw [later] at secondJudged
  obtain ⟨form, firstRead, secondRead⟩ := firstJudged.exists_form
  obtain ⟨other, readAgain, thirdRead⟩ := secondJudged.exists_form
  cases secondRead.symm.trans readAgain
  exact (equal_judges fresh used third firstComplete).eq_ok_true honest firstRead thirdRead

/-- A term is found equal to itself, or has a variable that is a fault. -/
theorem equal_self {term : Term} (complete : term.Complete) :
    (equal fresh used term term).outcome = .ok true ∨
      ∃ name, (equal fresh used term term).outcome = .error (.unbound .equal name) := by
  cases outcome : (equal fresh used term term).outcome with
  | ok answer =>
      cases Term.equalUnder_self outcome
      exact .inl rfl
  | error fault =>
      obtain ⟨name, rfl⟩ := equal_eq_error honest used term complete outcome
      exact .inr ⟨name, rfl⟩

end Whole

/-- **Comparison is a partial equivalence**, under any names in use and whether or not they hold
the free variables, if the strategy keeps its promise.  Two terms compared either way round have
the same answer, or both comparisons report a variable.  Terms found equal to one and the same
term are found equal.  And a term compared with itself is found equal, or a variable is reported;
it is never found different. -/
theorem equal_partial_equivalence (fresh : Strategy) (honest : fresh.Honest) (used : Names) :
    (∀ left right : Term, left.Complete → right.Complete →
      (∃ answer, (equal fresh used left right).outcome = .ok answer ∧
        (equal fresh used right left).outcome = .ok answer) ∨
      ∃ name other, (equal fresh used left right).outcome = .error (.unbound .equal name) ∧
        (equal fresh used right left).outcome = .error (.unbound .equal other)) ∧
    (∀ first second third : Term, first.Complete → second.Complete → third.Complete →
      (equal fresh used first second).outcome = .ok true →
      (equal fresh used second third).outcome = .ok true →
        (equal fresh used first third).outcome = .ok true) ∧
    ∀ term : Term, term.Complete → (equal fresh used term term).outcome = .ok true ∨
      ∃ name, (equal fresh used term term).outcome = .error (.unbound .equal name) := by
  refine ⟨?_, ?_, ?_⟩
  · intro left right leftComplete rightComplete
    exact equal_swap honest used leftComplete rightComplete
  · intro first second third firstComplete secondComplete _ earlier later
    exact equal_trans honest used firstComplete secondComplete earlier later
  · intro term complete
    exact equal_self honest used complete

/-- In the empty context the undeclared `x` of `lam(y.x)` is taken for the shared name, so that
this term is found equal to two others from which it differs; these are found equal too.  Two
undeclared variables are reported either way round, each where it stands on the left. -/
theorem equal_partial_equivalence_undeclared :
    let lam := fun name body => Term.node "lam" (.cons [name] body .nil)
    let first := lam "x" (.var "x")
    let second := lam "y" (.var "x")
    let third := lam "z" (.var "z")
    (¬ first.AlphaEq second ∧ (equal .digits ∅ first second).outcome = .ok true ∧
      (equal .digits ∅ second third).outcome = .ok true ∧
      (equal .digits ∅ first third).outcome = .ok true) ∧
    (equal .digits ∅ second first).outcome = .ok true ∧
    (equal .digits ∅ (.var "p") (.var "q")).outcome = .error (.unbound .equal "p") ∧
    (∃ other, (equal .digits ∅ (.var "q") (.var "p")).outcome = .error (.unbound .equal other)) ∧
    ∃ name, (equal .digits ∅ (.var "p") (.var "p")).outcome = .error (.unbound .equal name) := by
  intro lam first second third
  have law := equal_partial_equivalence .digits Strategy.digits_honest ∅
  have earlier : (equal .digits ∅ first second).outcome = .ok true := rfl
  have later : (equal .digits ∅ second third).outcome = .ok true := rfl
  have reported : (equal .digits ∅ (.var "p") (.var "q")).outcome =
      .error (.unbound .equal "p") := rfl
  refine ⟨⟨by decide, earlier, later, ?_⟩, ?_, reported, ?_, ?_⟩
  · exact law.2.1 first second third ⟨trivial, trivial⟩ ⟨trivial, trivial⟩ ⟨trivial, trivial⟩
      earlier later
  · rcases law.1 first second ⟨trivial, trivial⟩ ⟨trivial, trivial⟩ with
      ⟨answer, found, back⟩ | ⟨_, _, failed, _⟩
    · cases earlier.symm.trans found
      exact back
    · cases earlier.symm.trans failed
  · rcases law.1 (.var "p") (.var "q") trivial trivial with
      ⟨answer, found, _⟩ | ⟨_, other, _, back⟩
    · cases reported.symm.trans found
    · exact ⟨other, back⟩
  · rcases law.2.2 (.var "p") trivial with found | failed
    · cases found
    · exact failed

end BindingTrees
