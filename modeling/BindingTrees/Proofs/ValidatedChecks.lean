import BindingTrees.Proofs.CheckVerdicts
import BindingTrees.Scenario.Validation

/-!
# Validation and evaluation agree

Validation and evaluation each go through the kinds of checks by themselves.  Validation decides
which checks are fit to be carried out, and evaluation carries them out.

**Validation** refuses a document exactly when one of its checks is faulty
(`Document.Faulty`): it has no name, its kind or the operation of an error check is unknown, or it
names a term that the document does not have.  The error is about the first such check
(`Document.validateFrom_cases`).

**Evaluation.**  `Document.Stops` lists the ways in which an operation comes to have no answer.
For a check that is not faulty the operation is known, and every term it names has a sketch, so
that an error in building it comes from inside the sketch (`Document.term_eq_error`).  What remains
besides (`Document.Remains`) are a left term without binders, and a call of the engine on the terms
that were built which ends with a fault (`Document.CallFails`), and never with a broken promise.
-/

set_option autoImplicit false

namespace BindingTrees.Scenario

/-! ## Faulty checks -/

/-- The kinds that a check may have. -/
def checkKinds : List Kind := [.print, .equal, .unequal, .freeVars, .subst, .error]

/-- The operations that an error check may expect to fail. -/
def failingOps : List Kind := [.print, .equal, .subst, .oper]

/-- The operations that evaluation can carry out. -/
def operations : List Kind := [.print, .equal, .unequal, .freeVars, .subst, .oper]

/-- The operation that a check carries out: for an error check, the one that is to fail. -/
def Check.operation (check : Check) : Kind :=
  if check.kind = .error then check.op else check.kind

/-- Whether terms are compared. -/
def Check.Compares (check : Check) : Prop :=
  check.operation = .equal ∨ check.operation = .unequal

/-- A check names a term: as the left one, as a replacement, or as the right one of a
comparison. -/
def Check.Refers (check : Check) (name : String) : Prop :=
  name = check.left ∨ name ∈ check.replacements.getD [] ∨ (check.Compares ∧ name = check.right)

/-- A check that cannot be carried out. -/
def Document.Faulty (doc : Document) (check : Check) : Prop :=
  check.name = "" ∨ check.kind ∉ checkKinds ∨ (check.kind = .error ∧ check.op ∉ failingOps) ∨
    ∃ name, check.Refers name ∧ doc.terms.lookup name = none

/-- What validation says about a faulty check: where it stands or how it is called, and one of its
faults. -/
inductive Document.Objection (doc : Document) (position : Nat) (check : Check) : Invalid → Prop
  | unnamed : check.name = "" → doc.Objection position check (.missingName position)
  | kind : check.kind ∉ checkKinds →
      doc.Objection position check (.unknownKind check.name check.kind)
  | op : check.kind = .error → check.op ∉ failingOps →
      doc.Objection position check (.unknownOp check.name check.op)
  | term {name : String} : check.Refers name → doc.terms.lookup name = none →
      doc.Objection position check (.unknownTerm check.name name)

theorem Document.Objection.faulty {doc : Document} {position : Nat} {check : Check}
    {invalid : Invalid} (objection : doc.Objection position check invalid) : doc.Faulty check := by
  cases objection with
  | unnamed empty => exact .inl empty
  | kind unknown => exact .inr (.inl unknown)
  | op failing unknown => exact .inr (.inr (.inl ⟨failing, unknown⟩))
  | term refers missing => exact .inr (.inr (.inr ⟨_, refers, missing⟩))

/-! ## Validation -/

/-- What the terms of a check are, or why it has none. -/
inductive Check.TermNames (check : Check) : Except Invalid (List String) → Prop
  | unknownKind : check.kind ∉ checkKinds →
      check.TermNames (.error (.unknownKind check.name check.kind))
  | unknownOp : check.kind = .error → check.op ∉ failingOps →
      check.TermNames (.error (.unknownOp check.name check.op))
  | names {names : List String} : check.kind ∈ checkKinds →
      (check.kind = .error → check.op ∈ failingOps) →
      (∀ name, name ∈ names ↔ check.Refers name) → check.TermNames (.ok names)

theorem Check.refers_of_not_compares {check : Check} (alone : ¬ check.Compares) (name : String) :
    name ∈ check.left :: check.replacements.getD [] ↔ check.Refers name := by
  simp [Check.Refers, alone]

theorem Check.refers_of_compares {check : Check} (compares : check.Compares) (name : String) :
    name ∈ check.left :: check.replacements.getD [] ++ [check.right] ↔ check.Refers name := by
  simp [Check.Refers, compares]

/-- The terms of a check are those that it names. -/
theorem Check.termNames_sound (check : Check) : check.TermNames check.termNames := by
  rw [Check.termNames]
  cases kind : check.kind with
  | print | freeVars | subst =>
      refine .names (by simp [kind, checkKinds]) (by simp [kind]) (Check.refers_of_not_compares ?_)
      simp [Check.Compares, Check.operation, kind]
  | equal | unequal =>
      refine .names (by simp [kind, checkKinds]) (by simp [kind]) (Check.refers_of_compares ?_)
      simp [Check.Compares, Check.operation, kind]
  | error =>
      cases op : check.op with
      | print | subst | oper =>
          refine .names (by simp [kind, checkKinds]) (by simp [op, failingOps])
            (Check.refers_of_not_compares ?_)
          simp [Check.Compares, Check.operation, kind, op]
      | equal =>
          refine .names (by simp [kind, checkKinds]) (by simp [op, failingOps])
            (Check.refers_of_compares ?_)
          simp [Check.Compares, Check.operation, kind, op]
      | unequal | freeVars | error | other =>
          simp only [← op]
          exact .unknownOp kind (by simp [op, failingOps])
  | oper | other =>
      simp only [← kind]
      exact .unknownKind (by simp [kind, checkKinds])

theorem Document.hasTerm_eq_false_iff {doc : Document} {name : String} :
    doc.hasTerm name = false ↔ doc.terms.lookup name = none := by
  rw [Document.hasTerm, Option.isSome_eq_false_iff, Option.isNone_iff_eq_none]

/-- **One check.**  Validation objects to a faulty check, and to no other. -/
theorem Document.validateCheck_cases (doc : Document) (position : Nat) (check : Check) :
    (doc.validateCheck position check = .ok () ∧ ¬ doc.Faulty check) ∨
      ∃ invalid, doc.validateCheck position check = .error invalid ∧
        doc.Objection position check invalid := by
  rw [Document.validateCheck]
  by_cases unnamed : check.name = ""
  · refine .inr ⟨.missingName position, ?_, .unnamed unnamed⟩
    rw [if_pos (String.isEmpty_iff.mpr unnamed)]
    rfl
  · rw [if_neg fun empty => unnamed (String.isEmpty_iff.mp empty)]
    have sound := check.termNames_sound
    cases outcome : check.termNames with
    | error invalid =>
        rw [outcome] at sound
        refine .inr ⟨invalid, rfl, ?_⟩
        cases sound with
        | unknownKind unknown => exact .kind unknown
        | unknownOp failing unknown => exact .op failing unknown
    | ok names =>
        rw [outcome] at sound
        cases sound with
        | names kinds ops refers =>
            simp only [pure, bind, Except.pure, Except.bind]
            cases search : names.find? (!doc.hasTerm ·) with
            | some name =>
                have missing := List.find?_some search
                rw [Bool.not_eq_true', Document.hasTerm_eq_false_iff] at missing
                have named := (refers name).mp (List.mem_of_find?_eq_some search)
                exact .inr ⟨_, rfl, .term named missing⟩
            | none =>
                refine .inl ⟨rfl, ?_⟩
                rintro (empty | unknown | ⟨failing, unknown⟩ | ⟨name, named, missing⟩)
                · exact unnamed empty
                · exact unknown kinds
                · exact unknown (ops failing)
                · have present := List.find?_eq_none.mp search name ((refers name).mpr named)
                  rw [← Document.hasTerm_eq_false_iff] at missing
                  simp [missing] at present

/-- **All checks from a position on.**  The first faulty one is objected to. -/
theorem Document.validateFrom_cases (doc : Document) (checks : List Check) :
    ∀ position,
    (doc.validateFrom position checks = .ok () ∧ ∀ check ∈ checks, ¬ doc.Faulty check) ∨
      ∃ invalid before check after, doc.validateFrom position checks = .error invalid ∧
        checks = before ++ check :: after ∧ (∀ earlier ∈ before, ¬ doc.Faulty earlier) ∧
        doc.Objection (position + before.length) check invalid := by
  -- The position moves on with the checks, so it stays open in the induction.
  induction checks with
  | nil =>
      intro position
      exact .inl ⟨rfl, by simp⟩
  | cons first rest ih =>
      intro position
      rw [Document.validateFrom]
      rcases doc.validateCheck_cases position first with ⟨ok, fit⟩ | ⟨invalid, failed, objection⟩
      · rw [ok]
        rcases ih (position + 1) with ⟨restOk, restFit⟩ |
          ⟨invalid, before, check, after, failed, split, earlier, objection⟩
        · exact .inl ⟨restOk, List.forall_mem_cons.mpr ⟨fit, restFit⟩⟩
        · refine .inr ⟨invalid, first :: before, check, after, failed, by rw [split]; rfl,
            List.forall_mem_cons.mpr ⟨fit, earlier⟩, ?_⟩
          rwa [List.length_cons, Nat.add_comm before.length, ← Nat.add_assoc]
      · rw [failed]
        exact .inr ⟨invalid, [], first, rest, rfl, rfl, by simp, objection⟩

/-! ## Evaluation -/

/-- A call of the engine on the terms of a check ends with a fault: printing or comparing them under
the names in use, substituting into the first binder of the left one, or printing the result.  The
operation `oper` makes no such call, as it prints a term under its own free variables. -/
inductive Document.CallFails (doc : Document) (fresh : Strategy) (kind : Kind) (check : Check)
    (fault : Fault) : Prop
  | printing {left : Term} : kind = .print → doc.term check.left = .ok left →
      (left.print fresh (doc.usedBy check)).outcome = .error fault →
      doc.CallFails fresh kind check fault
  | comparing {left right : Term} : kind = .equal ∨ kind = .unequal →
      doc.term check.left = .ok left → doc.term check.right = .ok right →
      (equal fresh (doc.usedBy check) left right).outcome = .error fault →
      doc.CallFails fresh kind check fault
  | substituting {tag : String} {bound : List String} {body : Term} {rest : Args}
      {values : List Term} : kind = .subst →
      doc.term check.left = .ok (.node tag (.cons bound body rest)) →
      (check.replacements.getD []).map doc.term = values.map .ok →
      (subst fresh (doc.usedBy check) values ⟨bound, body⟩).outcome = .error fault →
      doc.CallFails fresh kind check fault
  | printingResult {tag : String} {bound : List String} {body : Term} {rest : Args}
      {values : List Term} {result : Term} : kind = .subst →
      doc.term check.left = .ok (.node tag (.cons bound body rest)) →
      (check.replacements.getD []).map doc.term = values.map .ok →
      (subst fresh (doc.usedBy check) values ⟨bound, body⟩).outcome = .ok result →
      (result.print fresh (doc.usedBy check)).outcome = .error fault →
      doc.CallFails fresh kind check fault

/-- How an operation on the terms of a check comes to have no answer. -/
inductive Document.Stops (doc : Document) (fresh : Strategy) (kind : Kind) (check : Check) :
    EvalError → Prop
  | left {cause : UnfoldError} : doc.term check.left = .error cause →
      doc.Stops fresh kind check (.unfold cause)
  | right {cause : UnfoldError} : kind = .equal ∨ kind = .unequal →
      doc.term check.right = .error cause → doc.Stops fresh kind check (.unfold cause)
  | replacement {name : String} {cause : UnfoldError} : name ∈ check.replacements.getD [] →
      doc.term name = .error cause → doc.Stops fresh kind check (.unfold cause)
  | noBinders {left : Term} : kind = .subst → doc.term check.left = .ok left →
      (∀ tag bound body rest, left ≠ .node tag (.cons bound body rest)) →
      doc.Stops fresh kind check (.noBinders check.left)
  | engine {fault : Fault} : fault.ToCaller → doc.CallFails fresh kind check fault →
      doc.Stops fresh kind check (.engine fault)
  | unknownKind : kind ∉ operations → doc.Stops fresh kind check (.unknownKind kind)

section Stops

variable {doc : Document} {fresh : Strategy} {kind : Kind} {check : Check} {error : EvalError}

theorem Document.Stops.of_engine {α : Type} {step : Recorded Fault α}
    (fails : step.FailsOnly Fault.ToCaller)
    (call : ∀ {fault}, step.outcome = .error fault → doc.CallFails fresh kind check fault)
    (failed : (step.mapError .engine).outcome = .error error) :
    doc.Stops fresh kind check error := by
  rw [Recorded.outcome_mapError, mapError_eq_error_iff] at failed
  obtain ⟨fault, stepFailed, rfl⟩ := failed
  exact .engine (fails fault stepFailed) (call stepFailed)

/-- A list of names whose terms cannot all be built has one whose term cannot. -/
theorem Document.recallAll_eq_error : ∀ {names : List String},
    (doc.recallAll names).outcome = .error error →
      ∃ name ∈ names, ∃ cause, doc.term name = .error cause ∧ error = .unfold cause
  | [], failed => by cases failed
  | name :: names, failed => by
      rw [Document.recallAll, Recorded.outcome_bind_eq_error] at failed
      rcases failed with failed | ⟨term, _, failed⟩
      · exact ⟨name, List.mem_cons_self, Document.recall_eq_error_iff.mp failed⟩
      · rw [Recorded.outcome_bind_eq_error] at failed
        rcases failed with failed | ⟨terms, _, impossible⟩
        · obtain ⟨other, member, unbuilt⟩ := Document.recallAll_eq_error failed
          exact ⟨other, List.mem_cons_of_mem name member, unbuilt⟩
        · cases impossible

/-- The terms that were built for a list of names have no holes. -/
theorem Document.complete_of_built {names : List String} {terms : List Term}
    (built : names.map doc.term = terms.map .ok) : ∀ term ∈ terms, term.Complete := by
  intro term member
  have listed : Except.ok term ∈ names.map doc.term := built ▸ List.mem_map_of_mem member
  obtain ⟨name, _, termBuilt⟩ := List.mem_map.mp listed
  exact Document.complete_of_term termBuilt

/-- A substitution into the first binder of a node stops at a replacement, in the engine, or where
the result is printed. -/
theorem Document.Stops.of_substitution (honest : fresh.Honest) {tag : String} {bound : List String}
    {body : Term} {rest : Args}
    (leftBuilt : doc.term check.left = .ok (.node tag (.cons bound body rest)))
    (failed : Recorded.outcome (do
      let values ← doc.recallAll (check.replacements.getD [])
      let result ← (subst fresh (doc.usedBy check) values ⟨bound, body⟩).mapError .engine
      (result.print fresh (doc.usedBy check)).mapError .engine) = .error error) :
    doc.Stops fresh .subst check error := by
  have complete : body.Complete := (Document.complete_of_term leftBuilt).1
  simp only [Recorded.outcome_bind_eq_error] at failed
  rcases failed with failed | ⟨values, recalledAll, failed⟩
  · obtain ⟨name, member, cause, unbuilt, rfl⟩ := Document.recallAll_eq_error failed
    exact .replacement member unbuilt
  · have valuesBuilt := Document.recallAll_eq_ok_iff.mp recalledAll
    rcases failed with failed | ⟨result, ok, failed⟩
    · exact .of_engine (subst_toCaller honest _ values complete)
        (.substituting rfl leftBuilt valuesBuilt) failed
    · -- What is printed is no term of the document, but its parts are.
      rw [Recorded.outcome_mapError_eq_ok] at ok
      have filled : result.Complete :=
        subst_complete complete (Document.complete_of_built valuesBuilt) ok
      exact .of_engine (Term.print_toCaller honest _ filled)
        (.printingResult rfl leftBuilt valuesBuilt ok) failed

/-- **An operation without an answer** stopped in one of the ways listed, whatever its kind. -/
theorem Document.evaluate_eq_error (honest : fresh.Honest)
    (failed : (doc.evaluate fresh kind check).outcome = .error error) :
    doc.Stops fresh kind check error := by
  rw [Document.evaluate, Recorded.outcome_bind_eq_error] at failed
  rcases failed with failed | ⟨left, recalled, failed⟩
  · obtain ⟨cause, unbuilt, rfl⟩ := Document.recall_eq_error_iff.mp failed
    exact .left unbuilt
  · have leftBuilt : doc.term check.left = .ok left := Document.recall_eq_ok_iff.mp recalled
    have complete : left.Complete := Document.complete_of_term leftBuilt
    cases kind with
    | oper =>
        obtain ⟨text, printed⟩ := complete.exists_print honest
        simp [Recorded.outcome_mapError, printed, Except.mapError] at failed
    | print =>
        exact .of_engine (Term.print_toCaller honest _ complete) (.printing rfl leftBuilt) failed
    | freeVars => cases failed
    | equal | unequal =>
        simp only [Recorded.outcome_bind_eq_error] at failed
        rcases failed with failed | ⟨right, rightRecalled, failed | ⟨same, _, impossible⟩⟩
        · obtain ⟨cause, unbuilt, rfl⟩ := Document.recall_eq_error_iff.mp failed
          exact .right (by simp) unbuilt
        · have rightBuilt : doc.term check.right = .ok right :=
            Document.recall_eq_ok_iff.mp rightRecalled
          exact .of_engine (equal_toCaller honest _ right complete)
            (.comparing (by simp) leftBuilt rightBuilt) failed
        · cases impossible
    | subst =>
        cases left with
        | hole => exact complete.elim
        | var name =>
            cases failed
            exact .noBinders rfl leftBuilt (by simp)
        | node tag args =>
            cases args with
            | nil =>
                cases failed
                exact .noBinders rfl leftBuilt (by simp)
            | cons bound body rest => exact .of_substitution honest leftBuilt failed
    | error | other =>
        cases failed
        exact .unknownKind (by simp [operations])

/-- An error in building the term of a name that has a sketch comes from inside the sketch. -/
theorem Document.term_eq_error {name : String} {sketch : Sketch} {cause : UnfoldError}
    (found : doc.terms.lookup name = some sketch) (failed : doc.term name = .error cause) :
    ∃ inner, cause = .within name inner := by
  have listed : name ∈ doc.terms.map (·.1) := by
    obtain ⟨_, _, split, _⟩ := List.lookup_eq_some_iff.mp found
    simp [split]
  rw [Document.term, Document.unfold, found] at failed
  simp only [if_pos listed] at failed
  obtain ⟨inner, _, wrapped⟩ := mapError_eq_error_iff.mp failed
  exact ⟨inner, wrapped⟩

end Stops

/-! ## Agreement -/

/-- The kinds and operations that validation lets pass are carried out by evaluation. -/
theorem Check.operation_mem {check : Check} (kinds : check.kind ∈ checkKinds)
    (ops : check.kind = .error → check.op ∈ failingOps) : check.operation ∈ operations := by
  rw [Check.operation]
  split
  · next failing =>
      have sub : failingOps ⊆ operations := by decide
      exact sub (ops failing)
  · next ordinary =>
      have rest : ∀ kind ∈ checkKinds, kind ≠ .error → kind ∈ operations := by decide
      exact rest check.kind kinds ordinary

/-- The errors that remain for a check that is not faulty: a term that it names cannot be built
although it has a sketch, the left term has no binder to substitute into, or a call of the engine
ends with the answer that a variable is unbound or the number of replacements wrong. -/
inductive Document.Remains (doc : Document) (fresh : Strategy) (check : Check) : EvalError → Prop
  | building {name : String} {cause : UnfoldError} : check.Refers name →
      doc.term name = .error (.within name cause) →
      doc.Remains fresh check (.unfold (.within name cause))
  | noBinders {left : Term} : check.operation = .subst → doc.term check.left = .ok left →
      (∀ tag bound body rest, left ≠ .node tag (.cons bound body rest)) →
      doc.Remains fresh check (.noBinders check.left)
  | engine {fault : Fault} : fault.ToCaller → doc.CallFails fresh check.operation check fault →
      doc.Remains fresh check (.engine fault)

section Remains

variable {doc : Document} {fresh : Strategy} {check : Check}

theorem Document.remains_of_refers (fit : ¬ doc.Faulty check) {name : String}
    (refers : check.Refers name) {cause : UnfoldError} (failed : doc.term name = .error cause) :
    doc.Remains fresh check (.unfold cause) := by
  cases found : doc.terms.lookup name with
  | none => exact absurd (.inr (.inr (.inr ⟨name, refers, found⟩))) fit
  | some sketch =>
      obtain ⟨inner, rfl⟩ := Document.term_eq_error found failed
      exact .building refers failed

/-- **A check that is not faulty** has an answer or ends with one of the errors that remain. -/
theorem Document.Stops.remains (fit : ¬ doc.Faulty check) {error : EvalError}
    (stops : doc.Stops fresh check.operation check error) : doc.Remains fresh check error := by
  cases stops with
  | left failed => exact Document.remains_of_refers fit (.inl rfl) failed
  | right compares failed =>
      exact Document.remains_of_refers fit (.inr (.inr ⟨compares, rfl⟩)) failed
  | replacement member failed => exact Document.remains_of_refers fit (.inr (.inl member)) failed
  | noBinders substitutes built bare => exact .noBinders substitutes built bare
  | engine toCaller call => exact .engine toCaller call
  | unknownKind unknown =>
      simp only [Document.Faulty, not_or, not_and, not_not] at fit
      exact absurd (Check.operation_mem fit.2.1 fit.2.2.1) unknown

end Remains

/-- A check is judged by the outcome of its operation. -/
theorem Document.runCheck_eq (doc : Document) (fresh : Strategy) (check : Check) :
    (doc.runCheck fresh check).1 =
      (if check.kind = .error then check.resultOfFailing else check.resultOf)
        (doc.evaluate fresh check.operation check).outcome := by
  rw [Document.runCheck, Check.operation]
  split
  · rfl
  · rfl

/-- **Validation and evaluation agree.**  A document is refused exactly when one of its checks is
faulty, and then the error is an objection to the first check that is.  In a document that is
accepted, the operation by whose outcome a check is judged has a text as its outcome, or an error
that comes from inside a term which the check names, from a left term without binders, or from a
call of the engine on the terms that were built, which ends with an unbound variable or a wrong
number of replacements: never an unknown kind, and never a name that the document does not have. -/
theorem Document.validation_agrees_with_evaluation (doc : Document) :
    ((∃ invalid, doc.validate = .error invalid) ↔ ∃ check ∈ doc.checks, doc.Faulty check) ∧
    (∀ invalid, doc.validate = .error invalid →
      ∃ before check after, doc.checks = before ++ check :: after ∧
        (∀ earlier ∈ before, ¬ doc.Faulty earlier) ∧ doc.Faulty check ∧
        doc.Objection before.length check invalid) ∧
    (doc.validate = .ok () →
      ∀ check ∈ doc.checks, ∀ fresh : Strategy, fresh = .digits ∨ fresh = .primes →
        let outcome := (doc.evaluate fresh check.operation check).outcome
        (doc.runCheck fresh check).1 =
          (if check.kind = .error then check.resultOfFailing else check.resultOf) outcome ∧
        ((∃ text, outcome = .ok text) ∨
          ∃ error, outcome = .error error ∧ doc.Remains fresh check error)) := by
  rcases doc.validateFrom_cases doc.checks 0 with ⟨accepted, fit⟩ |
    ⟨invalid, before, check, after, refused, split, earlier, objection⟩
  · refine ⟨⟨?_, ?_⟩, ?_, ?_⟩
    · rintro ⟨invalid, refused⟩
      cases accepted.symm.trans refused
    · rintro ⟨check, member, faulty⟩
      exact absurd faulty (fit check member)
    · intro invalid refused
      cases accepted.symm.trans refused
    · intro _ check member fresh known outcome
      refine ⟨doc.runCheck_eq fresh check, ?_⟩
      cases reached : outcome with
      | ok text => exact .inl ⟨text, rfl⟩
      | error error =>
          have stops : doc.Stops fresh check.operation check error :=
            Document.evaluate_eq_error (Strategy.honest_of_known known) reached
          exact .inr ⟨error, rfl, stops.remains (fit check member)⟩
  · rw [Nat.zero_add] at objection
    refine ⟨⟨fun _ => ?_, fun _ => ⟨invalid, refused⟩⟩, ?_, ?_⟩
    · exact ⟨check, by simp [split], objection.faulty⟩
    · intro reported again
      cases refused.symm.trans again
      exact ⟨before, check, after, split, earlier, objection.faulty, objection⟩
    · intro accepted
      cases refused.symm.trans accepted

/-- A sketch that refers to nothing, and a check that compares it with a variable. -/
def brokenInside : Document where
  terms := [("x", .mk "x" "" "" none), ("broken", .mk "" "nowhere" "" none)]
  checks := [{ name := "compare", kind := .equal, left := "x", right := "broken" }]

/-- The document with one more check, which names what the sketch refers to. -/
def brokenDirectly : Document :=
  { brokenInside with checks := brokenInside.checks ++
      [{ name := "print", kind := .error, op := .oper, left := "nowhere" }] }

/-- The first document is accepted and its check stops inside the sketch.  The second is refused,
and not because of the first check. -/
theorem Document.validation_agrees_with_evaluation_broken :
    let compare : Check := { name := "compare", kind := .equal, left := "x", right := "broken" }
    brokenInside.validate = .ok () ∧
      (∃ error, (brokenInside.evaluate .primes .equal compare).outcome = .error error ∧
        brokenInside.Remains .primes compare error) ∧
      brokenDirectly.validate = .error (.unknownTerm "print" "nowhere") ∧
      ∃ before check after, brokenDirectly.checks = before ++ check :: after ∧
        (∀ earlier ∈ before, ¬ brokenDirectly.Faulty earlier) ∧ brokenDirectly.Faulty check ∧
        brokenDirectly.Objection before.length check (.unknownTerm "print" "nowhere") := by
  intro compare
  have accepted : brokenInside.validate = .ok () := rfl
  have refused : brokenDirectly.validate = .error (.unknownTerm "print" "nowhere") := rfl
  have unbuilt : brokenInside.term "broken" = .error (.within "broken" (.unknown "nowhere")) := by
    rw [Document.term, Document.unfold]
    show (brokenInside.unfold ["x"] "nowhere").mapError (UnfoldError.within "broken") = _
    rw [Document.unfold]
    rfl
  obtain ⟨_, answer | stopped⟩ := (Document.validation_agrees_with_evaluation brokenInside).2.2
    accepted compare List.mem_cons_self .primes (.inr rfl)
  · obtain ⟨text, ok⟩ := answer
    obtain ⟨_, _, ok⟩ := Recorded.outcome_bind_eq_ok.mp ok
    obtain ⟨right, recalled, _⟩ := Recorded.outcome_bind_eq_ok.mp ok
    cases unbuilt.symm.trans (Document.recall_eq_ok_iff.mp recalled)
  · exact ⟨accepted, stopped, refused,
      (Document.validation_agrees_with_evaluation brokenDirectly).2.1 _ refused⟩

end BindingTrees.Scenario
