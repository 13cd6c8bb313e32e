import BindingTrees.Proofs.FreshNames
import BindingTrees.Proofs.Substitution
import BindingTrees.Term.Formation

/-!
# Which variables a substitution reports

A variable that is neither bound nor declared should be a fault.  The set it is looked up
in also holds the names set aside for the binder and the names picked for the binders on
the way to it, so a variable with one of these names is let through, and may even be
captured by the binder that was given the name (`subst_admits_invented_name`).

A variable is exposed where it stands outside that set (`Term.Exposes`).  Under a strategy
that keeps its promise a substitution reports an exposed variable when there is one, and
has a result when there is none (`Term.substWith_reports`).  So an undeclared variable is
reported exactly when some variable is exposed (`subst_reports_escape_iff`).

**Only invented names are let through.**  A name that was picked is a bound name or an
answer of the strategy (`Strategy.mem_choices`), so an undeclared variable that is no
answer of the strategy is exposed wherever it is free (`subst_reports_of_not_answer`).  The
answers of the strategies known by name end in a digit or a prime mark.
-/

set_option autoImplicit false

namespace BindingTrees

/-! ## Exposed variables -/

mutual
/-- Somewhere in the term the variable `name` stands where it is not in use, although the
names picked for the binders around it count as in use there. -/
def Term.Exposes (fresh : Strategy) (used : Names) (name : String) : Term → Prop
  | .hole => False
  | .var other => name = other ∧ name ∉ used
  | .node _ args => args.Exposes fresh used name

def Args.Exposes (fresh : Strategy) (used : Names) (name : String) : Args → Prop
  | .nil => False
  | .cons bound body rest =>
      body.Exposes fresh (fresh.scope used bound) name ∨ rest.Exposes fresh used name
end

/-- The body of a binder exposes a variable once names for the binder were set aside. -/
def Binder.Exposes (fresh : Strategy) (used : Names) (name : String) (binder : Binder) : Prop :=
  binder.body.Exposes fresh (fresh.scope used binder.bound) name

/-- What the outcome of a substitution says of the exposed variables. -/
inductive Reports {α : Type} (exposes : String → Prop) : Except Fault α → Prop where
  | result (value : α) (sheltered : ∀ name, ¬ exposes name) : Reports exposes (.ok value)
  | unbound (name : String) (exposed : exposes name) :
      Reports exposes (.error (.unbound .subst name))

namespace Reports

variable {α β : Type} {exposes more : String → Prop}

/-- There is a report exactly when there is something to report. -/
theorem exists_unbound_iff {outcome : Except Fault α} (reports : Reports exposes outcome) :
    (∃ name, outcome = .error (.unbound .subst name)) ↔ ∃ name, exposes name := by
  cases reports with
  | result value sheltered =>
      constructor
      · rintro ⟨name, impossible⟩
        cases impossible
      · rintro ⟨name, exposed⟩
        exact absurd exposed (sheltered name)
  | unbound name exposed => exact ⟨fun _ => ⟨name, exposed⟩, fun _ => ⟨name, rfl⟩⟩

/-- A value made from the result is reported on alike. -/
theorem map {step : Recorded Fault α} (former : α → β) (reports : Reports exposes step.outcome) :
    Reports exposes (step >>= fun value => pure (former value)).outcome := by
  rw [Recorded.outcome_bind]
  cases outcome : step.outcome with
  | error fault =>
      rw [outcome] at reports
      cases reports with
      | unbound name exposed => exact .unbound name exposed
  | ok value =>
      rw [outcome] at reports
      cases reports with
      | result _ sheltered => exact .result (former value) sheltered

/-- A sequence reports what either of its parts has to report, the first part first. -/
theorem bind {step : Recorded Fault α} {next : α → Recorded Fault β}
    (first : Reports exposes step.outcome) (second : ∀ value, Reports more (next value).outcome) :
    Reports (fun name => exposes name ∨ more name) (step >>= next).outcome := by
  rw [Recorded.outcome_bind]
  cases outcome : step.outcome with
  | error fault =>
      rw [outcome] at first
      cases first with
      | unbound name exposed => exact .unbound name (.inl exposed)
  | ok value =>
      rw [outcome] at first
      cases first with
      | result _ sheltered =>
          show Reports _ (next value).outcome
          have rest := second value
          cases restOutcome : (next value).outcome with
          | error fault =>
              rw [restOutcome] at rest
              cases rest with
              | unbound name exposed => exact .unbound name (.inr exposed)
          | ok final =>
              rw [restOutcome] at rest
              cases rest with
              | result _ restSheltered =>
                  exact .result final fun name exposed =>
                    exposed.elim (sheltered name) (restSheltered name)

end Reports

/-! ## Values of names in use -/

/-- Only names in use have a value. -/
def Env.Within {α : Type} (env : Env α) (used : Names) : Prop :=
  ∀ name value, env.find? name = some value → name ∈ used

namespace Env.Within

variable {α : Type} {env : Env α} {used scope : Names}

theorem nil : Env.Within ([] : Env α) used := by
  intro name value found
  cases found

/-- Names that get a value are in use if the set grew by them. -/
theorem bindAll (within : env.Within used) {names : List String} {values : List α}
    (lengths : values.length = names.length) (kept : ∀ name ∈ used, name ∈ scope)
    (gained : ∀ name ∈ names, name ∈ scope) : (env.bindAll names values).Within scope := by
  intro name value found
  rcases Env.find?_bindAll_eq_some lengths found with ⟨member, _⟩ | ⟨_, earlier⟩
  · exact gained name member
  · exact kept name (within name value earlier)

end Env.Within

/-! ## Reports -/

mutual
/-- **One pass reports what is exposed**, when only names in use have a value. -/
theorem Term.substWith_reports {fresh : Strategy} (honest : fresh.Honest) :
    ∀ {term : Term} {used : Names} {env : Env Term}, term.Complete → env.Within used →
      Reports (fun name => term.Exposes fresh used name) (term.substWith fresh used env).outcome
  | .hole, _, _, complete, _ => complete.elim
  | .var name, used, env, _, within => by
      rw [Term.substWith]
      cases found : env.find? name with
      | some replacement =>
          refine .result replacement ?_
          rintro _ ⟨rfl, notInUse⟩
          exact notInUse (within _ replacement found)
      | none =>
          by_cases inUse : name ∈ used
          · simp only [if_pos inUse]
            refine .result (Term.var name) ?_
            rintro _ ⟨rfl, notInUse⟩
            exact notInUse inUse
          · simp only [if_neg inUse]
            exact .unbound name ⟨rfl, inUse⟩
  | .node tag args, used, env, complete, within => by
      rw [Term.substWith]
      exact (Args.substWith_reports honest complete within).map (Term.node tag)

theorem Args.substWith_reports {fresh : Strategy} (honest : fresh.Honest) :
    ∀ {args : Args} {used : Names} {env : Env Term}, args.Complete → env.Within used →
      Reports (fun name => args.Exposes fresh used name) (args.substWith fresh used env).outcome
  | .nil, _, _, _, _ => by
      rw [Args.substWith]
      exact .result Args.nil fun _ impossible => impossible
  | .cons bound body rest, used, env, complete, within => by
      rw [Args.substWith, Recorded.outcome_bind, pickAll_outcome_of_honest honest]
      have inner := within.bindAll (fresh.length_map_choices used bound Term.var)
        (fun _ => fresh.mem_scope_of_used bound) (fun _ => fresh.mem_scope_of_mem used)
      have inBody := Term.substWith_reports honest complete.1 inner
      have inRest := Args.substWith_reports honest complete.2 within
      exact inBody.bind fun newBody => inRest.map (Args.cons (fresh.choices used bound) newBody)
end

mutual
/-- An exposed variable is free and not in use. -/
theorem Term.free_of_exposes {fresh : Strategy} {name : String} : ∀ {term : Term} {used : Names},
    term.Exposes fresh used name → name ∈ term.freeNames ∧ name ∉ used
  | .hole, _, impossible => impossible.elim
  | .var _, _, ⟨same, notInUse⟩ => ⟨Term.mem_freeNames_var.mpr same, notInUse⟩
  | .node _ _, _, exposed => by
      obtain ⟨free, notInUse⟩ := Args.free_of_exposes exposed
      exact ⟨Term.mem_freeNames_node.mpr free, notInUse⟩

theorem Args.free_of_exposes {fresh : Strategy} {name : String} : ∀ {args : Args} {used : Names},
    args.Exposes fresh used name → name ∈ args.freeNames ∧ name ∉ used
  | .nil, _, impossible => impossible.elim
  | .cons bound _ _, used, .inl exposed => by
      obtain ⟨free, outside⟩ := Term.free_of_exposes exposed
      -- The names of the binder are in use inside it.
      have notBound : name ∉ bound := fun member =>
        outside (fresh.mem_scope_of_mem used member)
      exact ⟨Args.mem_freeNames_cons.mpr (.inl ⟨free, notBound⟩), fun inUse =>
        outside (fresh.mem_scope_of_used bound inUse)⟩
  | .cons _ _ _, _, .inr exposed => by
      obtain ⟨free, notInUse⟩ := Args.free_of_exposes exposed
      exact ⟨Args.mem_freeNames_cons.mpr (.inr free), notInUse⟩
end

/-- A pass over a term whose free variables are in use has a result. -/
theorem Term.substWith_of_declared {fresh : Strategy} (honest : fresh.Honest) {term : Term}
    {used : Names} {env : Env Term} (complete : term.Complete) (within : env.Within used)
    (declared : ∀ name ∈ term.freeNames, name ∈ used) :
    ∃ result, (term.substWith fresh used env).outcome = .ok result := by
  have reports := Term.substWith_reports honest complete within
  cases outcome : (term.substWith fresh used env).outcome with
  | ok result => exact ⟨result, rfl⟩
  | error fault =>
      rw [outcome] at reports
      cases reports with
      | unbound name exposed =>
          obtain ⟨free, notInUse⟩ := Term.free_of_exposes exposed
          exact absurd (declared name free) notInUse

/-- A substitution into a binder reports what the binder exposes. -/
theorem subst_reports {fresh : Strategy} (honest : fresh.Honest) {used : Names}
    {replacements : List Term} {binder : Binder} (complete : binder.body.Complete)
    (lengths : replacements.length = binder.bound.length) :
    Reports (fun name => binder.Exposes fresh used name)
      (subst fresh used replacements binder).outcome := by
  rw [subst_of_reserved lengths (reserve_outcome_of_honest honest used binder.bound)]
  refine Term.substWith_reports honest complete ?_
  exact Env.Within.nil.bindAll lengths (fun _ => fresh.mem_scope_of_used binder.bound)
    (fun _ => fresh.mem_scope_of_mem used)

/-! ## Names that the strategy did not invent -/

namespace Strategy

/-- A name that the strategy gives for some name in use. -/
def Answers (fresh : Strategy) (name : String) : Prop :=
  ∃ (used : Names) (stale : String), stale ∈ used ∧ fresh used stale = name

/-- A name without a mark at its end is no answer of the strategies known by name. -/
theorem not_answers_of_known {fresh : Strategy} (known : fresh = .digits ∨ fresh = .primes)
    {name : String} (unmarked : ¬ EndsInMark name) : ¬ fresh.Answers name := by
  rintro ⟨used, stale, inUse, rfl⟩
  exact unmarked (endsInMark_of_known known inUse)

/-- A name given for a list was kept or is an answer. -/
theorem mem_choices {fresh : Strategy} {name : String} :
    ∀ {used : Names} {stales : List String}, name ∈ fresh.choices used stales →
      name ∈ stales ∨ fresh.Answers name
  | _, [], member => absurd member List.not_mem_nil
  | used, stale :: rest, member => by
      rcases List.mem_cons.mp member with here | later
      · rw [choice] at here
        split at here
        · next inUse => exact .inr ⟨used, stale, inUse, here.symm⟩
        · exact .inl (List.mem_cons.mpr (.inl here))
      · exact (mem_choices later).imp_left (List.mem_cons_of_mem stale)

/-- Picking names for a list does not bring a name into use that was neither in use nor in
the list, unless the strategy answered with it. -/
theorem not_mem_scope {fresh : Strategy} {used : Names} {stales : List String}
    {name : String} (notAnswer : ¬ fresh.Answers name) (notInUse : name ∉ used)
    (notBound : name ∉ stales) : name ∉ fresh.scope used stales := by
  intro member
  rcases Names.mem_insertAll.mp member with chosen | inUse
  · exact (mem_choices chosen).elim notBound notAnswer
  · exact notInUse inUse

end Strategy

mutual
/-- A free variable that is not in use is exposed unless the strategy answers with it. -/
theorem Term.exposes_of_not_answer {fresh : Strategy} {name : String}
    (notAnswer : ¬ fresh.Answers name) : ∀ {term : Term} {used : Names},
    name ∈ term.freeNames → name ∉ used → term.Exposes fresh used name
  | .hole, _, free, _ => absurd free Names.not_mem_empty
  | .var _, _, free, notInUse => ⟨Term.mem_freeNames_var.mp free, notInUse⟩
  | .node _ _, _, free, notInUse =>
      Args.exposes_of_not_answer notAnswer (Term.mem_freeNames_node.mp free) notInUse

theorem Args.exposes_of_not_answer {fresh : Strategy} {name : String}
    (notAnswer : ¬ fresh.Answers name) : ∀ {args : Args} {used : Names},
    name ∈ args.freeNames → name ∉ used → args.Exposes fresh used name
  | .nil, _, free, _ => absurd free Names.not_mem_empty
  | .cons _ _ _, _, free, notInUse => by
      rcases Args.mem_freeNames_cons.mp free with ⟨inBody, notBound⟩ | inRest
      · exact .inl (Term.exposes_of_not_answer notAnswer inBody
          (Strategy.not_mem_scope notAnswer notInUse notBound))
      · exact .inr (Args.exposes_of_not_answer notAnswer inRest notInUse)
end

/-- **An undeclared variable is reported unless its name was invented.** -/
theorem subst_reports_of_not_answer {fresh : Strategy} (honest : fresh.Honest) {used : Names}
    {replacements : List Term} {binder : Binder} (complete : binder.body.Complete)
    (lengths : replacements.length = binder.bound.length) {name : String}
    (free : name ∈ binder.body.freeVars) (notBound : name ∉ binder.bound)
    (notDeclared : name ∉ used) (notAnswer : ¬ fresh.Answers name) :
    ∃ reported, (subst fresh used replacements binder).outcome =
      .error (.unbound .subst reported) := by
  refine (subst_reports honest complete lengths).exists_unbound_iff.mpr ⟨name, ?_⟩
  exact Term.exposes_of_not_answer notAnswer (Term.mem_freeVars.mp free)
    (Strategy.not_mem_scope notAnswer notDeclared notBound)

/-! ## Undeclared variables -/

/-- **When an undeclared variable is reported.**  For the strategies known by name, a
substitution reports a fault whenever the body has an undeclared variable, exactly if there
is no such variable or some variable is exposed.  In the remaining case every undeclared
variable has, at each of its places, a name that was set aside or picked on the way there,
and the substitution lets all of them through.  An undeclared variable whose name does not end
in a digit or a prime mark always leads to a report. -/
theorem subst_reports_escape_iff (fresh : Strategy) (known : fresh = .digits ∨ fresh = .primes)
    (used : Names) (replacements : List Term) (binder : Binder) (complete : binder.body.Complete)
    (lengths : replacements.length = binder.bound.length) :
    (((∃ name ∈ binder.body.freeVars, name ∉ binder.bound ∧ name ∉ used) →
      ∃ reported, (subst fresh used replacements binder).outcome =
        .error (.unbound .subst reported)) ↔
    (∀ name ∈ binder.body.freeVars, name ∈ binder.bound ∨ name ∈ used) ∨
      ∃ name, binder.Exposes fresh used name) ∧
    ∀ name ∈ binder.body.freeVars, name ∉ binder.bound → name ∉ used →
      ¬ Strategy.EndsInMark name → ∃ reported, (subst fresh used replacements binder).outcome =
        .error (.unbound .subst reported) := by
  have honest := Strategy.honest_of_known known
  have reports : Reports (fun name => binder.Exposes fresh used name)
      (subst fresh used replacements binder).outcome :=
    subst_reports honest complete lengths
  refine ⟨?_, fun name free notBound notDeclared unmarked =>
    subst_reports_of_not_answer honest complete lengths free notBound notDeclared
      (Strategy.not_answers_of_known known unmarked)⟩
  rw [reports.exists_unbound_iff]
  constructor
  · intro reported
    by_cases escaping : ∃ name ∈ binder.body.freeVars, name ∉ binder.bound ∧ name ∉ used
    · exact .inr (reported escaping)
    · refine .inl fun name free => ?_
      by_contra outside
      rw [not_or] at outside
      exact escaping ⟨name, free, outside⟩
  · rintro (declared | exposed) ⟨name, free, notBound, notInUse⟩
    · exact absurd (declared name free) (by simp [notBound, notInUse])
    · exact exposed

/-- The undeclared `x1` has the name set aside for the binder and is let through, but the
undeclared `z` beside it is exposed and reported. -/
theorem subst_reports_escape_beside_invented :
    let binder : Binder := ⟨["x"], .node "ap"
      (.cons [] (.var "x1") (.cons [] (.var "x") (.cons [] (.var "z") .nil)))⟩
    ("z" ∈ binder.body.freeVars ∧ "z" ∉ binder.bound ∧ "z" ∉ Names.ofList ["x"]) ∧
      ¬ Strategy.EndsInMark "z" ∧ binder.Exposes .digits (.ofList ["x"]) "z" ∧
      ∃ reported, (subst .digits (.ofList ["x"]) [.var "x"] binder).outcome =
        .error (.unbound .subst reported) := by
  intro binder
  have escaping : "z" ∈ binder.body.freeVars ∧ "z" ∉ binder.bound ∧ "z" ∉ Names.ofList ["x"] := by
    decide
  have exposed : binder.Exposes .digits (.ofList ["x"]) "z" := by
    rw [Strategy.digits_eq]
    exact .inr (.inr (.inl ⟨rfl, by decide⟩))
  have law := subst_reports_escape_iff .digits (.inl rfl) (.ofList ["x"]) [.var "x"] binder
    ⟨trivial, trivial, trivial, trivial⟩ rfl
  exact ⟨escaping, by decide, exposed, law.1.mpr (.inr ⟨"z", exposed⟩) ⟨"z", escaping⟩⟩

/-- **Undeclared variables that are let through.**  With `x` in use, the free `x1` of
`lam(x.x1)` is captured by the binder, which is renamed to `x1`; and a body that is only
the variable `x1` is returned as it stands, because `x1` was set aside for the bound `x`.
With prime marks the same happens to `x'`. -/
theorem subst_admits_invented_name :
    let body := Term.node "lam" (.cons ["x"] (.var "x1") .nil)
    let primed := Term.node "lam" (.cons ["x"] (.var "x'") .nil)
    (body.WellFormed ∧ "x1" ∈ body.freeVars ∧ "x1" ∉ Names.ofList ["x"]) ∧
      (subst .digits (.ofList ["x"]) [] ⟨[], body⟩).outcome =
        .ok (.node "lam" (.cons ["x1"] (.var "x1") .nil)) ∧
      (subst .digits (.ofList ["x"]) [.var "x"] ⟨["x"], .var "x1"⟩).outcome = .ok (.var "x1") ∧
      (primed.WellFormed ∧ "x'" ∈ primed.freeVars ∧ "x'" ∉ Names.ofList ["x"]) ∧
      (subst .primes (.ofList ["x"]) [] ⟨[], primed⟩).outcome =
        .ok (.node "lam" (.cons ["x'"] (.var "x'") .nil)) := by
  intro body primed
  rw [Strategy.digits_eq, Strategy.primes_eq]
  have atomic : ∀ name ∈ ["x"], Atomic name := by decide
  exact ⟨⟨⟨atomic, trivial, trivial⟩, by decide, by decide⟩, rfl, rfl,
    ⟨⟨atomic, trivial, trivial⟩, by decide, by decide⟩, rfl⟩

end BindingTrees
