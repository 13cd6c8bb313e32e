import BindingTrees.Proofs.CheckVerdicts

/-!
# Checks that a term cannot be built

An error check expects its operation to fail, and asks nothing of the failure but its message.  So
it says something about building a term only if the operation cannot fail otherwise.  The operation
`oper` prints the left term once it is built, with the free variables of the term in use, and the
renaming of bound names on the way may fail for a variable that is not in use.

**A term that is built is printed** (`Document.evaluate_oper_of_built`).  It has no holes, and none
of its free variables is missing from the names in use, so there is no variable to fail for.

**The operation fails exactly when the term cannot be built**, and with the error of building it
(`Document.evaluate_oper_eq_error_iff`).
-/

set_option autoImplicit false

namespace BindingTrees.Scenario

/-- An error check passes when its operation fails with a message that contains the text wanted. -/
theorem Check.resultOfFailing_passed_iff {check : Check} {outcome : Except EvalError String} :
    (check.resultOfFailing outcome).passed = true ↔
      ∃ error, outcome = .error error ∧ check.want.toList <:+: error.message.toList := by
  cases outcome with
  | ok got => simp [Check.resultOfFailing]
  | error error => simp [Check.resultOfFailing, Text.occursIn_iff]

/-! ## Building and printing -/

section Oper

variable {doc : Document} {fresh : Strategy} {check : Check}

/-- **A term that is built is printed** under its own free variables. -/
theorem Document.evaluate_oper_of_built (honest : fresh.Honest) {left : Term}
    (built : doc.term check.left = .ok left) :
    ∃ text, (left.print fresh left.freeVars).outcome = .ok text ∧
      (doc.evaluate fresh .oper check).outcome = .ok text := by
  obtain ⟨text, printed⟩ := (Document.complete_of_term built).exists_print honest
  refine ⟨text, printed, ?_⟩
  rw [Document.evaluate, Recorded.outcome_bind_eq_ok]
  refine ⟨left, Document.recall_eq_ok_iff.mpr built, ?_⟩
  simp only [Recorded.outcome_mapError, printed, Except.mapError]

/-- **The operation fails exactly when the term cannot be built.** -/
theorem Document.evaluate_oper_eq_error_iff (honest : fresh.Honest) {error : EvalError} :
    (doc.evaluate fresh .oper check).outcome = .error error ↔
      ∃ cause, doc.term check.left = .error cause ∧ error = .unfold cause := by
  rw [← Document.recall_eq_error_iff, Document.evaluate, Recorded.outcome_bind_eq_error]
  refine ⟨?_, .inl⟩
  rintro (unbuilt | ⟨left, recalled, failed⟩)
  · exact unbuilt
  · have built : doc.term check.left = .ok left := Document.recall_eq_ok_iff.mp recalled
    obtain ⟨text, printed, _⟩ := Document.evaluate_oper_of_built honest built
    simp [Recorded.outcome_mapError, printed, Except.mapError] at failed

end Oper

/-- **A check that a term cannot be built detects just that.**  Let the strategy be one of those
known by name.  An error check on the operation `oper`, whatever text it wants, passes exactly when
its left term cannot be built and the error has a message that contains the text.  When the term
is built, it has a printed form under its own free variables, which is the outcome of the operation;
the check has no error and does not pass, and its answer is that there was no error, and the printed
form. -/
theorem Document.oper_check_detects_construction (doc : Document) (fresh : Strategy)
    (known : fresh = .digits ∨ fresh = .primes) (check : Check) (kind : check.kind = .error)
    (op : check.op = .oper) :
    let result := (doc.runCheck fresh check).1
    (result.passed = true ↔ ∃ error, doc.term check.left = .error error ∧
      check.want.toList <:+: error.message.toList) ∧
    ∀ left, doc.term check.left = .ok left →
      ∃ text, (left.print fresh left.freeVars).outcome = .ok text ∧
        (doc.evaluate fresh check.op check).outcome = .ok text ∧
        result = ⟨check, false, "no error: " ++ text, none⟩ := by
  have honest := Strategy.honest_of_known known
  intro result
  have verdict : result = _ := doc.runCheck_of_error fresh kind
  rw [op] at verdict ⊢
  constructor
  · rw [verdict, Check.resultOfFailing_passed_iff]
    constructor
    · rintro ⟨error, failed, contained⟩
      obtain ⟨cause, unbuilt, rfl⟩ := (Document.evaluate_oper_eq_error_iff honest).mp failed
      exact ⟨cause, unbuilt, contained⟩
    · rintro ⟨cause, unbuilt, contained⟩
      exact ⟨.unfold cause, (Document.evaluate_oper_eq_error_iff honest).mpr ⟨cause, unbuilt, rfl⟩,
        contained⟩
  · intro left built
    obtain ⟨text, printed, answer⟩ := Document.evaluate_oper_of_built honest built
    refine ⟨text, printed, answer, ?_⟩
    rw [verdict, answer, Check.resultOfFailing]

/-- A function inside a function that binds the same name, with a free variable, and a sketch that
refers to nothing. -/
def shadowedAndBroken : Document where
  terms :=
    [("shadowed", .mk "" "" "lam" (some [⟨some ["x"], .mk "" "" "lam" (some [⟨some ["x"],
        .mk "" "" "ap" (some [⟨none, .mk "x" "" "" none⟩, ⟨none, .mk "y" "" "" none⟩])⟩])⟩])),
      ("broken", .mk "" "nowhere" "" none)]

/-- The first term is printed with its inner name renamed, so the check does not pass although it
accepts any message.  The second is not built, and the check passes for a part of the message and
fails for a text that is not in it. -/
theorem Document.oper_check_detects_construction_shadowed :
    let any : Check := { kind := .error, op := .oper, left := "shadowed" }
    let unknown : Check := { kind := .error, op := .oper, left := "broken", want := "unknown term" }
    let unbound : Check := { kind := .error, op := .oper, left := "broken", want := "unbound" }
    (shadowedAndBroken.runCheck .digits any).1 =
        ⟨any, false, "no error: lam(x.lam(x1.ap(x1,y)))", none⟩ ∧
      (shadowedAndBroken.runCheck .digits unknown).1.passed = true ∧
      (shadowedAndBroken.runCheck .digits unbound).1.passed = false := by
  intro any unknown unbound
  let shadowed : Term := .node "lam" (.cons ["x"] (.node "lam" (.cons ["x"] (.node "ap"
    (.cons [] (.var "x") (.cons [] (.var "y") .nil))) .nil)) .nil)
  have built : shadowedAndBroken.term "shadowed" = .ok shadowed :=
    Document.term_of_unfolds (.name rfl (.tag (by decide) (.cons (by decide)
      (.tag (by decide) (.cons (by decide) (.tag (by decide) (.cons (by decide)
        (.var (by decide) rfl) (.cons (by decide) (.var (by decide) rfl) .nil))) .nil)) .nil)))
  have unbuilt :
      shadowedAndBroken.term "broken" = .error (.within "broken" (.unknown "nowhere")) := by
    rw [Document.term, Document.unfold]
    show (shadowedAndBroken.unfold ["shadowed"] "nowhere").mapError
      (UnfoldError.within "broken") = _
    rw [Document.unfold]
    rfl
  have printed : (shadowed.print .digits shadowed.freeVars).outcome =
      .ok "lam(x.lam(x1.ap(x1,y)))" := by
    rw [Strategy.digits_eq]
    decide +kernel
  refine ⟨?_, ?_, ?_⟩
  · obtain ⟨text, ok, _, result⟩ := (Document.oper_check_detects_construction shadowedAndBroken
      .digits (.inl rfl) any rfl rfl).2 shadowed built
    cases ok.symm.trans printed
    exact result
  · exact (Document.oper_check_detects_construction shadowedAndBroken .digits (.inl rfl) unknown
      rfl rfl).1.mpr ⟨_, unbuilt, Text.occursIn_iff.mp (by decide +kernel)⟩
  · refine Bool.eq_false_iff.mpr fun passed => ?_
    obtain ⟨error, failed, contained⟩ := (Document.oper_check_detects_construction
      shadowedAndBroken .digits (.inl rfl) unbound rfl rfl).1.mp passed
    cases unbuilt.symm.trans failed
    exact absurd (Text.occursIn_iff.mpr contained) (by decide +kernel)

end BindingTrees.Scenario
