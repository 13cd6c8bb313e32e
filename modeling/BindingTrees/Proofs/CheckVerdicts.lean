import BindingTrees.Proofs.SubstitutionLaws
import BindingTrees.Proofs.WellFormedSessions
import BindingTrees.Scenario.Verdict

/-!
# What the verdict on a check means

A check is carried out in two stages: the terms that it names are built, and the operation of its
kind is applied to them under the names in use.  Each stage is settled by what is known of it
alone, so the outcome of a check is an equation between the stages
(`Document.evaluate_comparison`, `Document.evaluate_subst`).

**Comparisons.**  When the free variables of both terms are in use, the engine decides equality up
to bound names, and the check passes on the answer it asks for.  Without any condition on the
variables, a check for equality and one for inequality of the same terms have opposite verdicts,
unless neither has an answer, and then both fail for the same reason.

**Substitutions.**  The result is printed under the same names in use.  That cannot fail, because
a free variable of the result is one of a replacement, or one of the body that was not replaced
(`declared_of_instantiate`).
-/

set_option autoImplicit false

namespace BindingTrees.Scenario

/-! ## The parts of an evaluation -/

/-- The names in use for a check are those of its own list, and those of the document only if it
has none. -/
theorem Document.usedBy_eq (doc : Document) (check : Check) :
    doc.usedBy check = .ofList (check.used.getD (doc.used.getD [])) := by
  rw [Document.usedBy]
  cases check.used with
  | none => rfl
  | some names => rfl

/-- The result of a check that is not an error check, from the outcome of its operation. -/
theorem Document.runCheck_of_ne (doc : Document) (fresh : Strategy) {check : Check}
    (ordinary : check.kind ≠ .error) :
    (doc.runCheck fresh check).1 =
      check.resultOf (doc.evaluate fresh check.kind check).outcome := by
  rw [Document.runCheck, if_neg ordinary]

/-- The result of an error check, from the outcome of the operation it expects to fail. -/
theorem Document.runCheck_of_error (doc : Document) (fresh : Strategy) {check : Check}
    (failing : check.kind = .error) :
    (doc.runCheck fresh check).1 =
      check.resultOfFailing (doc.evaluate fresh check.op check).outcome := by
  rw [Document.runCheck, if_pos failing]

theorem mapError_eq_error_iff {ε ε' α : Type} {step : Except ε α} {wrap : ε → ε'} {error : ε'} :
    step.mapError wrap = .error error ↔ ∃ cause, step = .error cause ∧ error = wrap cause := by
  cases step with
  | error fault => simp [Except.mapError, eq_comm]
  | ok result => simp [Except.mapError]

section Recall

variable {doc : Document}

theorem Document.recall_eq_ok_iff {name : String} {term : Term} :
    (doc.recall name).outcome = .ok term ↔ doc.term name = .ok term := by
  rw [Document.recall, Recorded.outcome_ofExcept, mapError_eq_ok_iff]

theorem Document.recall_eq_error_iff {name : String} {error : EvalError} :
    (doc.recall name).outcome = .error error ↔
      ∃ cause, doc.term name = .error cause ∧ error = .unfold cause := by
  rw [Document.recall, Recorded.outcome_ofExcept, mapError_eq_error_iff]

/-- The terms of a list of names, all of which have one. -/
theorem Document.recallAll_eq_ok_iff {names : List String} : ∀ {terms : List Term},
    (doc.recallAll names).outcome = .ok terms ↔ names.map doc.term = terms.map .ok := by
  induction names with
  | nil =>
      intro terms
      cases terms with
      | nil => exact ⟨fun _ => rfl, fun _ => rfl⟩
      | cons term terms => exact ⟨nofun, nofun⟩
  | cons name names ih =>
      intro terms
      simp only [Document.recallAll, Recorded.outcome_bind_eq_ok, Document.recall_eq_ok_iff, ih]
      constructor
      · rintro ⟨term, first, others, rest, ⟨⟩⟩
        rw [List.map_cons, List.map_cons, first, rest]
      · intro built
        cases terms with
        | nil => cases built
        | cons term terms =>
            obtain ⟨first, rest⟩ := List.cons.inj built
            exact ⟨term, first, terms, rest, rfl⟩

/-- What a document builds has no holes. -/
theorem Document.complete_of_term {name : String} {term : Term} (built : doc.term name = .ok term) :
    term.Complete :=
  (Document.unfolds_of_term built).wellFormed.complete

end Recall

/-! ## Outcomes of the operations -/

section Operations

variable {doc : Document} {fresh : Strategy} {check : Check}

/-- **A comparison** of terms that can be built. -/
theorem Document.evaluate_comparison {kind : Kind} (compares : kind = .equal ∨ kind = .unequal)
    {left right : Term} (leftBuilt : doc.term check.left = .ok left)
    (rightBuilt : doc.term check.right = .ok right) :
    (doc.evaluate fresh kind check).outcome =
      ((equal fresh (doc.usedBy check) left right).outcome.mapError .engine).map comparison := by
  have leftIs : (doc.recall check.left).outcome = .ok left :=
    Document.recall_eq_ok_iff.mpr leftBuilt
  have rightIs : (doc.recall check.right).outcome = .ok right :=
    Document.recall_eq_ok_iff.mpr rightBuilt
  have answer : ∀ step : Recorded EvalError Bool,
      (step >>= fun same => pure (comparison same)).outcome = step.outcome.map comparison := by
    intro step
    rw [Recorded.outcome_bind]
    cases step.outcome with
    | error error => rfl
    | ok same => rfl
  rw [← Recorded.outcome_mapError, ← answer]
  rcases compares with rfl | rfl <;>
    · rw [Document.evaluate, Recorded.outcome_bind, leftIs]
      simp only [Except.bind]
      rw [Recorded.outcome_bind, rightIs]
      rfl

/-- **A substitution** of terms that can be built into the first binder of a node. -/
theorem Document.evaluate_subst {tag : String} {bound : List String} {body : Term} {rest : Args}
    (leftBuilt : doc.term check.left = .ok (.node tag (.cons bound body rest)))
    {values : List Term}
    (valuesBuilt : (check.replacements.getD []).map doc.term = values.map .ok) :
    (doc.evaluate fresh .subst check).outcome =
      ((subst fresh (doc.usedBy check) values ⟨bound, body⟩).outcome.bind fun result =>
        (result.print fresh (doc.usedBy check)).outcome).mapError .engine := by
  have leftIs : (doc.recall check.left).outcome = .ok (.node tag (.cons bound body rest)) :=
    Document.recall_eq_ok_iff.mpr leftBuilt
  rw [Document.evaluate, Recorded.outcome_bind, leftIs]
  simp only [Except.bind]
  rw [Recorded.outcome_bind, Document.recallAll_eq_ok_iff.mpr valuesBuilt]
  simp only [Except.bind]
  rw [Recorded.outcome_bind, Recorded.outcome_mapError]
  cases (subst fresh (doc.usedBy check) values ⟨bound, body⟩).outcome with
  | error fault => rfl
  | ok result => rfl

/-- A comparison that has an answer says yes or no. -/
theorem Document.evaluate_comparison_eq_ok {kind : Kind}
    (compares : kind = .equal ∨ kind = .unequal) {got : String}
    (ok : (doc.evaluate fresh kind check).outcome = .ok got) : ∃ same, got = comparison same := by
  have leftOk := ok
  rw [Document.evaluate, Recorded.outcome_bind_eq_ok] at leftOk
  obtain ⟨left, leftIs, rightOk⟩ := leftOk
  have rightBuilt : ∃ right, doc.term check.right = .ok right := by
    rcases compares with rfl | rfl <;>
      · simp only [Recorded.outcome_bind_eq_ok, Document.recall_eq_ok_iff] at rightOk
        obtain ⟨right, rightBuilt, _⟩ := rightOk
        exact ⟨right, rightBuilt⟩
  obtain ⟨right, rightBuilt⟩ := rightBuilt
  rw [Document.evaluate_comparison compares (Document.recall_eq_ok_iff.mp leftIs) rightBuilt] at ok
  cases step : (equal fresh (doc.usedBy check) left right).outcome with
  | error fault =>
      rw [step] at ok
      cases ok
  | ok same =>
      rw [step] at ok
      cases ok
      exact ⟨same, rfl⟩

/-- A comparison of terms that can be built fails only at an undeclared variable of one of them. -/
theorem Document.evaluate_comparison_eq_error (honest : fresh.Honest) {kind : Kind}
    (compares : kind = .equal ∨ kind = .unequal) {left right : Term}
    (leftBuilt : doc.term check.left = .ok left) (rightBuilt : doc.term check.right = .ok right)
    {error : EvalError} (failed : (doc.evaluate fresh kind check).outcome = .error error) :
    ∃ name, (name ∈ left.freeNames ∨ name ∈ right.freeNames) ∧ name ∉ doc.usedBy check ∧
      error = .engine (.unbound .equal name) := by
  rw [Document.evaluate_comparison compares leftBuilt rightBuilt] at failed
  cases step : (equal fresh (doc.usedBy check) left right).outcome with
  | ok same =>
      rw [step] at failed
      cases failed
  | error fault =>
      rw [step] at failed
      cases failed
      obtain ⟨name, ⟨free, undeclared⟩, rfl⟩ := equal_failsOnly honest (doc.usedBy check) right
        (Document.complete_of_term leftBuilt) fault step
      exact ⟨name, free, undeclared, rfl⟩

end Operations

/-! ## Printing the result of a substitution -/

/-- **What was substituted can be printed under the same names in use.** -/
theorem subst_prints {fresh : Strategy} (honest : fresh.Honest) (used : Names) (binder : Binder)
    {values : List Term} (complete : binder.body.Complete)
    (given : ∀ value ∈ values, value.Complete) (lengths : values.length = binder.bound.length)
    (declared : ∀ name ∈ binder.body.freeNames, name ∈ used ∨ name ∈ binder.bound)
    (contained : ∀ value ∈ values, ∀ name ∈ value.freeNames, name ∈ used) :
    ∃ filled text, (subst fresh used values binder).outcome = .ok filled ∧
      filled.nameless [] = binder.instantiate values ∧
      (filled.print fresh used).outcome = .ok text := by
  obtain ⟨filled, ok, form⟩ := subst_of_declared honest used binder complete lengths declared
    contained
  obtain ⟨text, printed⟩ := Term.print_of_declared honest (subst_complete complete given ok)
    (declared_of_instantiate lengths form declared contained)
  exact ⟨filled, text, ok, form, printed⟩

/-! ## Verdicts -/

section Verdicts

variable {doc : Document} {fresh : Strategy} {check : Check}

/-- The verdict on a comparison of terms whose free variables are in use. -/
theorem Document.runCheck_comparison (honest : fresh.Honest)
    (compares : check.kind = .equal ∨ check.kind = .unequal) {left right : Term}
    (leftBuilt : doc.term check.left = .ok left) (rightBuilt : doc.term check.right = .ok right)
    (leftDeclared : ∀ name ∈ left.freeVars, name ∈ doc.usedBy check)
    (rightDeclared : ∀ name ∈ right.freeVars, name ∈ doc.usedBy check) :
    (doc.runCheck fresh check).1 =
      check.resultOf (.ok (comparison (decide (left.AlphaEq right)))) := by
  have ordinary : check.kind ≠ .error := by
    rcases compares with kind | kind <;> simp [kind]
  have leftComplete := Document.complete_of_term leftBuilt
  have decided := equal_of_declared leftComplete (Document.complete_of_term rightBuilt)
    leftDeclared rightDeclared (equal_unbroken honest (doc.usedBy check) right leftComplete)
  rw [Document.runCheck_of_ne doc fresh ordinary,
    Document.evaluate_comparison compares leftBuilt rightBuilt, decided]
  rfl

/-- A check for equality accepts the answer yes. -/
theorem Check.accepts_of_equal (kind : check.kind = .equal) (same : Bool) :
    check.accepts (comparison same) = same := by
  rw [Check.accepts, kind]
  cases same with
  | false => rfl
  | true => rfl

/-- A check for inequality accepts the answer no. -/
theorem Check.accepts_of_unequal (kind : check.kind = .unequal) (same : Bool) :
    check.accepts (comparison same) = !same := by
  rw [Check.accepts, kind]
  cases same with
  | false => rfl
  | true => rfl

/-- Checks for equality and for inequality of the same terms under the same names in use are judged
by one outcome. -/
theorem Document.runCheck_opposites {other : Check} (kind : check.kind = .equal)
    (otherKind : other.kind = .unequal) (used : other.used = check.used)
    (left : other.left = check.left) (right : other.right = check.right) :
    let outcome := (doc.evaluate fresh .equal check).outcome
    (doc.runCheck fresh check).1 = check.resultOf outcome ∧
      (doc.runCheck fresh other).1 = other.resultOf outcome := by
  have same : doc.evaluate fresh .unequal other = doc.evaluate fresh .equal check := by
    rw [Document.evaluate, Document.evaluate, Document.usedBy_eq, Document.usedBy_eq, used, left,
      right]
  intro outcome
  constructor
  · rw [Document.runCheck_of_ne doc fresh (by simp [kind]), kind]
  · rw [Document.runCheck_of_ne doc fresh (by simp [otherKind]), otherKind, same]

/-- The verdict on a substitution whose free variables are in use. -/
theorem Document.runCheck_subst (honest : fresh.Honest) (kind : check.kind = .subst)
    {tag : String} {bound : List String} {body : Term} {rest : Args}
    (leftBuilt : doc.term check.left = .ok (.node tag (.cons bound body rest)))
    {values : List Term} (valuesBuilt : (check.replacements.getD []).map doc.term = values.map .ok)
    (lengths : values.length = bound.length)
    (declared : ∀ name ∈ body.freeNames, name ∈ doc.usedBy check ∨ name ∈ bound)
    (contained : ∀ value ∈ values, ∀ name ∈ value.freeNames, name ∈ doc.usedBy check) :
    ∃ (filled : Term) (text : String),
      filled.nameless [] = Binder.instantiate ⟨bound, body⟩ values ∧
      (filled.print fresh (doc.usedBy check)).outcome = .ok text ∧
      (doc.runCheck fresh check).1 = ⟨check, text == check.want, text, none⟩ := by
  have complete : body.Complete := (Document.complete_of_term leftBuilt).1
  have given : ∀ value ∈ values, value.Complete := by
    intro value member
    have among : Except.ok value ∈ (check.replacements.getD []).map doc.term :=
      valuesBuilt ▸ List.mem_map_of_mem member
    obtain ⟨name, _, built⟩ := List.mem_map.mp among
    exact Document.complete_of_term built
  obtain ⟨filled, text, ok, form, printed⟩ := subst_prints honest (doc.usedBy check) ⟨bound, body⟩
    complete given lengths declared contained
  refine ⟨filled, text, form, printed, ?_⟩
  rw [Document.runCheck_of_ne doc fresh (by simp [kind]), kind,
    Document.evaluate_subst leftBuilt valuesBuilt, ok]
  simp only [Except.bind, printed, Except.mapError, Check.resultOf, Check.accepts, kind]

end Verdicts

/-- **Verdicts mean what they say.**  Let the strategy be one of those known by name, and let the
names in use be those of the check's own list, or those of the document if the check has none.

A check for equality or inequality of two terms with free variables in use has no error, and
passes exactly when the terms are, or are not, the same up to bound names.  A substitution check
whose left term has as many names in its first binder as there are replacements, all free
variables being in use, has no error; its answer is the printed form of a term which is, up to
bound names, that binder with the replacements filled in, and it passes exactly when this is the
expected text.  And whatever the variables are, a check for equality and one for inequality of the
same terms under the same names in use have the same error and fail, or have the same answer and
one of them passes; if the terms can be built, the error names a variable that is not in use. -/
theorem Document.verdict_meaning (doc : Document) (fresh : Strategy)
    (known : fresh = .digits ∨ fresh = .primes) (check : Check) :
    let used := Names.ofList (check.used.getD (doc.used.getD []))
    let result := (doc.runCheck fresh check).1
    (∀ left right, check.kind = .equal ∨ check.kind = .unequal →
      doc.term check.left = .ok left → doc.term check.right = .ok right →
      (∀ name ∈ left.freeVars, name ∈ used) → (∀ name ∈ right.freeVars, name ∈ used) →
      result.err = none ∧
        (check.kind = .equal → (result.passed = true ↔ left.AlphaEq right)) ∧
        (check.kind = .unequal → (result.passed = true ↔ ¬ left.AlphaEq right))) ∧
    (∀ tag bound body rest values, check.kind = .subst →
      doc.term check.left = .ok (.node tag (.cons bound body rest)) →
      (check.replacements.getD []).map doc.term = values.map .ok →
      bound.length = (check.replacements.getD []).length →
      (∀ name ∈ body.freeVars, name ∈ used ∨ name ∈ bound) →
      (∀ value ∈ values, ∀ name ∈ value.freeVars, name ∈ used) →
      result.err = none ∧
        (∃ filled : Term, filled.nameless [] = Binder.instantiate ⟨bound, body⟩ values ∧
          (filled.print fresh used).outcome = .ok result.got) ∧
        (result.passed = true ↔ result.got = check.want)) ∧
    ∀ other : Check, check.kind = .equal → other.kind = .unequal → other.used = check.used →
      other.left = check.left → other.right = check.right →
      let opposite := (doc.runCheck fresh other).1
      (∃ error, result.err = some error ∧ opposite.err = some error ∧
        result.passed = false ∧ opposite.passed = false ∧
        ∀ left right, doc.term check.left = .ok left → doc.term check.right = .ok right →
          ∃ name, (name ∈ left.freeVars ∨ name ∈ right.freeVars) ∧ name ∉ used ∧
            error = .engine (.unbound .equal name)) ∨
      (result.err = none ∧ opposite.err = none ∧ opposite.got = result.got ∧
        opposite.passed = !result.passed) := by
  have honest := Strategy.honest_of_known known
  intro used result
  have inUse : doc.usedBy check = used := doc.usedBy_eq check
  refine ⟨?_, ?_, ?_⟩
  · intro left right compares leftBuilt rightBuilt leftDeclared rightDeclared
    have verdict : result = check.resultOf (.ok (comparison (decide (left.AlphaEq right)))) :=
      Document.runCheck_comparison honest compares leftBuilt rightBuilt (inUse ▸ leftDeclared)
        (inUse ▸ rightDeclared)
    rw [verdict, Check.resultOf]
    refine ⟨rfl, fun kind => ?_, fun kind => ?_⟩
    · rw [Check.accepts_of_equal kind, decide_eq_true_iff]
    · rw [Check.accepts_of_unequal kind, Bool.not_eq_true', decide_eq_false_iff_not]
  · intro tag bound body rest values kind leftBuilt valuesBuilt lengths declared contained
    have count : values.length = bound.length := by
      have lists := congrArg List.length valuesBuilt
      rw [List.length_map, List.length_map] at lists
      exact lists.symm.trans lengths.symm
    simp only [Term.mem_freeVars, ← inUse] at declared contained
    obtain ⟨filled, text, form, printed, verdict⟩ :=
      Document.runCheck_subst honest kind leftBuilt valuesBuilt count declared contained
    rw [show result = _ from verdict]
    exact ⟨rfl, ⟨filled, form, inUse ▸ printed⟩, beq_iff_eq⟩
  · intro other kind otherKind sameUsed sameLeft sameRight opposite
    obtain ⟨verdict, otherVerdict⟩ : result = _ ∧ opposite = _ :=
      Document.runCheck_opposites kind otherKind sameUsed sameLeft sameRight
    rw [verdict, otherVerdict]
    cases outcome : (doc.evaluate fresh .equal check).outcome with
    | error error =>
        refine .inl ⟨error, rfl, rfl, rfl, rfl, fun left right leftBuilt rightBuilt => ?_⟩
        simp only [Term.mem_freeVars, ← inUse]
        exact Document.evaluate_comparison_eq_error honest (.inl rfl) leftBuilt rightBuilt outcome
    | ok got =>
        obtain ⟨same, rfl⟩ := Document.evaluate_comparison_eq_ok (.inl rfl) outcome
        refine .inr ⟨rfl, rfl, rfl, ?_⟩
        simp only [Check.resultOf, Check.accepts_of_equal kind,
          Check.accepts_of_unequal otherKind]

/-- The identity under two names, one of them through a reference, and a function of two arguments
that captures a variable unless it is renamed. -/
def renamedTwins : Document where
  used := some []
  terms :=
    [("id", .mk "" "" "lam" (some [⟨some ["x"], .mk "x" "" "" none⟩])),
      ("same", .mk "" "other" "" none),
      ("other", .mk "" "" "lam" (some [⟨some ["y"], .mk "y" "" "" none⟩])),
      ("const", .mk "" "" "lam" (some [⟨some ["x"],
        .mk "" "" "lam" (some [⟨some ["y"], .mk "x" "" "" none⟩])⟩])),
      ("y", .mk "y" "" "" none)]

/-- The twins are found equal and not unequal, and the function is applied to `y` under a list of
names that the check has of its own. -/
theorem Document.verdict_meaning_twins :
    let equality : Check := { kind := .equal, left := "id", right := "same" }
    let inequality : Check := { equality with kind := .unequal }
    let application : Check :=
      { kind := .subst, used := some ["y"], left := "const", replacements := some ["y"] }
    let applied := (renamedTwins.runCheck .digits application).1
    (renamedTwins.runCheck .digits equality).1.passed = true ∧
      (renamedTwins.runCheck .digits inequality).1.passed = false ∧
      applied.err = none ∧
      ∃ filled : Term, filled.nameless [] = Binder.instantiate
          ⟨["x"], .node "lam" (.cons ["y"] (.var "x") .nil)⟩ [.var "y"] ∧
        (filled.print .digits (.ofList ["y"])).outcome = .ok applied.got := by
  intro equality inequality application applied
  have id : renamedTwins.term "id" = .ok (.node "lam" (.cons ["x"] (.var "x") .nil)) :=
    Document.term_of_unfolds
      (.name rfl (.tag (by decide) (.cons (by decide) (.var (by decide) rfl) .nil)))
  have same : renamedTwins.term "same" = .ok (.node "lam" (.cons ["y"] (.var "y") .nil)) :=
    Document.term_of_unfolds (.name rfl (.ref (by decide) rfl
      (.name rfl (.tag (by decide) (.cons (by decide) (.var (by decide) rfl) .nil)))))
  have const : renamedTwins.term "const" = .ok (.node "lam" (.cons ["x"]
      (.node "lam" (.cons ["y"] (.var "x") .nil)) .nil)) :=
    Document.term_of_unfolds (.name rfl (.tag (by decide) (.cons (by decide)
      (.tag (by decide) (.cons (by decide) (.var (by decide) rfl) .nil)) .nil)))
  have y : renamedTwins.term "y" = .ok (.var "y") :=
    Document.term_of_unfolds (.name rfl (.var (by decide) rfl))
  obtain ⟨_, asked, _⟩ := (Document.verdict_meaning renamedTwins .digits (.inl rfl) equality).1
    _ _ (.inl rfl) id same (by decide) (by decide)
  obtain ⟨_, _, refused⟩ :=
    (Document.verdict_meaning renamedTwins .digits (.inl rfl) inequality).1
      _ _ (.inr rfl) id same (by decide) (by decide)
  obtain ⟨noError, answer, _⟩ :=
    (Document.verdict_meaning renamedTwins .digits (.inl rfl) application).2.1 _ _ _ _ [.var "y"]
      rfl const (congrArg (fun term => [term]) y) rfl (by decide) (by decide)
  refine ⟨(asked rfl).mpr (by decide), ?_, noError, answer⟩
  exact Bool.eq_false_iff.mpr fun passed => (refused rfl).mp passed (by decide)

end BindingTrees.Scenario
