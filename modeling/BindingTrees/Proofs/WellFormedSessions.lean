import BindingTrees.Proofs.BoundNames
import BindingTrees.Proofs.JustifiedFaults
import BindingTrees.Proofs.ReferenceUnfolding

/-!
# Sessions keep terms well-formed

Only forming a node examines the names it binds.  Substitution and opening put nodes together
unexamined, and what they return may be given to any operation again, so that a single name that
is not atomic would spread.  None ever arises.

**Model.**  A `Session` is what a caller has obtained so far: terms, and the binders that opening
returned.  `Session.Step` is one operation that succeeds on what is there: a variable, a node
formed over terms of the session with any names whatever, a substitution into one of them with any
outer names, the opening of one of its nodes, or the term of a name in a document.  Each step may
use either of the strategies known by name, under any names in use.  An operation that fails
returns nothing and leaves the session as it is.

**Invariant.**  An answer of either strategy to an atomic name is atomic, even if nothing is left
of the name once its suffix is dropped, since a numeral takes its place
(`Strategy.atomic_of_known`).  So each step keeps the session well-formed
(`Session.WellFormed.step`), and so does every sequence of steps (`Session.WellFormed.reachable`).
Nothing more can be said of the terms of a session: from each one a session with any given
well-formed term can be reached (`Session.exists_holding`).

**Consequences.**  A node can be formed over the terms and the opened binders of a session, and no
operation on them meets a missing term or an answer that is in use
(`Session.wellFormed_throughout`).
-/

set_option autoImplicit false

namespace BindingTrees

/-! ## Atomic names -/

theorem atomic_iff_forall {name : String} :
    Atomic name ↔ name ≠ "" ∧
      ∀ c ∈ name.toList, c ∉ ['.', ',', '(', ')'] ∧ Text.isBlank c = false := by
  have delimited : ∀ c, isDelimiter c = false ↔ c ∉ ['.', ',', '(', ')'] := by
    intro c
    simp [isDelimiter, and_assoc]
  simp only [atomic_iff, ne_eq, String.toList_eq_nil_iff, delimited, ← forall_and]

theorem isBlank_of_isSuffixMark {c : Char} (mark : Strategy.isSuffixMark c = true) :
    Text.isBlank c = false := by
  rw [Bool.eq_false_iff]
  intro blank
  rw [Text.isBlank, Bool.or_eq_true, Bool.or_eq_true, Bool.and_eq_true, beq_iff_eq,
    List.contains_iff_mem] at blank
  rcases blank with (rfl | ⟨_, low⟩) | wide
  · exact absurd mark (by decide)
  · -- The layout characters come before the prime mark, and the digits come after it.
    have above : Text.apostrophe ≤ c := by
      rw [Strategy.isSuffixMark, Bool.or_eq_true, Char.isDigit, Bool.and_eq_true] at mark
      rcases mark with ⟨digit, _⟩ | same
      · have atLeast : '0' ≤ c := of_decide_eq_true digit
        exact Char.le_trans (by decide) atLeast
      · exact beq_iff_eq.mp same ▸ Char.le_refl _
    exact absurd (Char.le_trans above (of_decide_eq_true low)) (by decide)
  · have unmarked : Text.wideBlanks.any Strategy.isSuffixMark = false := by decide
    exact List.any_eq_false.mp unmarked c wide mark

/-- The strategies known by name answer an atomic name with an atomic name. -/
theorem Strategy.atomic_of_known {fresh : Strategy} (known : fresh = .digits ∨ fresh = .primes)
    (used : Names) (stale : String) (atomic : Atomic stale) : Atomic (fresh used stale) := by
  obtain ⟨inhabited, undelimited⟩ :=
    Strategy.plain_of_known known used stale (plain_of_atomic atomic)
  rw [atomic_iff] at atomic ⊢
  refine ⟨fun empty => inhabited (String.toList_eq_nil_iff.mp empty), undelimited, ?_⟩
  intro c member
  rcases Strategy.mem_answer_of_known known member with old | mark
  · exact atomic.2.2 c old
  · exact isBlank_of_isSuffixMark mark

/-! ## Well-formed results -/

theorem Binder.Binds.formable {binder : Binder} (binds : binder.Binds Atomic) :
    binder.Formable := by
  refine ⟨fun missing => ?_, binds.1⟩
  have body := binds.2
  rw [missing] at body
  exact body

/-- A well-formed node is formed from its own binders. -/
theorem Args.form_of_wellFormed (tag : String) {args : Args} (formed : args.WellFormed) :
    Term.form tag (args.toList.map .scoped) = .ok (.node tag args) := by
  have binds := Args.binds_iff_forall.mp (Args.wellFormed_iff_binds.mp formed)
  refine Term.form_eq_ok_iff.mpr ⟨fun argument member => ?_, ?_⟩
  · obtain ⟨binder, inArgs, rfl⟩ := List.mem_map.mp member
    exact (binds binder inArgs).formable
  · have same : Argument.binder ∘ Argument.scoped = id := rfl
    rw [List.map_map, same, List.map_id, Args.ofList_toList]

section Known

variable {fresh : Strategy} (known : fresh = .digits ∨ fresh = .primes) {used : Names}
include known

/-- **A substitution into a well-formed body is well-formed**, whatever the outer names are. -/
theorem subst_wellFormed {replacements : List Term} {binder : Binder} {result : Term}
    (body : binder.body.WellFormed) (given : ∀ value ∈ replacements, value.WellFormed)
    (ok : (subst fresh used replacements binder).outcome = .ok result) : result.WellFormed := by
  simp only [Term.wellFormed_iff_binds] at body given ⊢
  exact subst_binds (Strategy.atomic_of_known known) body given ok

/-- **The binders of an opened node** have atomic names and well-formed bodies. -/
theorem openNode_binds {tag : String} {args opened : Args} (formed : args.WellFormed)
    (ok : (openNode fresh used tag args).outcome = .ok opened) :
    ∀ binder ∈ opened.toList, binder.Binds Atomic :=
  Args.binds_iff_forall.mp <|
    openArgs_binds (Strategy.atomic_of_known known) (Args.wellFormed_iff_binds.mp formed)
      (openNode_eq_ok ok)

end Known

/-! ## Promises that are kept -/

/-- A fault which tells the caller that a variable is unbound or that the number of replacements
is wrong, whichever nodes it was met in. -/
def Fault.ToCaller (fault : Fault) : Prop :=
  (∃ operation name, fault.cause = .unbound operation name) ∨
    ∃ bound replacements, fault.cause = .arity bound replacements

theorem Fault.ToCaller.isBreach_eq_false {fault : Fault} (toCaller : fault.ToCaller) :
    fault.isBreach = false := by
  cases fault with
  | unbound | arity | opening => rfl
  | stillUsed | hole => simp [Fault.ToCaller, Fault.cause] at toCaller

/-- An operation whose faults are all answers to the caller broke no promise. -/
theorem Recorded.FailsOnly.unbroken {α : Type} {step : Recorded Fault α}
    (fails : step.FailsOnly Fault.ToCaller) : step.Unbroken :=
  fun fault failed => (fails fault failed).isBreach_eq_false

section Faults

variable {fresh : Strategy} (honest : fresh.Honest) (used : Names)
include honest

theorem subst_toCaller (replacements : List Term) {binder : Binder}
    (complete : binder.body.Complete) :
    (subst fresh used replacements binder).FailsOnly Fault.ToCaller := by
  by_cases lengths : replacements.length = binder.bound.length
  · refine (subst_failsOnly honest complete lengths).mono ?_
    rintro fault ⟨name, _, rfl⟩
    exact .inl ⟨.subst, name, rfl⟩
  · intro fault failed
    rw [subst, if_neg lengths] at failed
    cases failed
    exact .inr ⟨_, _, rfl⟩

theorem equal_toCaller {left : Term} (right : Term) (complete : left.Complete) :
    (equal fresh used left right).FailsOnly Fault.ToCaller := by
  refine (equal_failsOnly honest used right complete).mono ?_
  rintro fault ⟨name, _, rfl⟩
  exact .inl ⟨.equal, name, rfl⟩

theorem openNode_toCaller (tag : String) {args : Args} (complete : args.Complete) :
    (openNode fresh used tag args).FailsOnly Fault.ToCaller := by
  refine (openNode_failsOnly honest complete).mono ?_
  rintro fault ⟨name, _, _, rfl⟩
  exact .inl ⟨.subst, name, rfl⟩

theorem Term.print_toCaller {term : Term} (complete : term.Complete) :
    (term.print fresh used).FailsOnly Fault.ToCaller := by
  refine (Term.print_failsOnly honest complete).mono ?_
  rintro fault ⟨tag, name, _, rfl⟩
  exact .inl ⟨.subst, name, rfl⟩

theorem subst_unbroken (replacements : List Term) {binder : Binder}
    (complete : binder.body.Complete) : (subst fresh used replacements binder).Unbroken :=
  (subst_toCaller honest used replacements complete).unbroken

theorem equal_unbroken {left : Term} (right : Term) (complete : left.Complete) :
    (equal fresh used left right).Unbroken :=
  (equal_toCaller honest used right complete).unbroken

theorem openNode_unbroken (tag : String) {args : Args} (complete : args.Complete) :
    (openNode fresh used tag args).Unbroken :=
  (openNode_toCaller honest used tag complete).unbroken

theorem Term.print_unbroken {term : Term} (complete : term.Complete) :
    (term.print fresh used).Unbroken :=
  (Term.print_toCaller honest used complete).unbroken

end Faults

/-! ## Sessions -/

/-- What a caller has obtained: terms, and the binders of nodes that were opened. -/
structure Session where
  terms : List Term
  binders : List Binder

namespace Session

/-- Nothing has been obtained yet. -/
def start : Session := ⟨[], []⟩

/-- One more term. -/
def keep (session : Session) (term : Term) : Session :=
  ⟨term :: session.terms, session.binders⟩

/-- The binders of an opened node, and their bodies. -/
def keepOpened (session : Session) (opened : Args) : Session :=
  ⟨opened.toList.map Binder.body ++ session.terms, opened.toList ++ session.binders⟩

/-- One operation that succeeds on what a session has. -/
inductive Step : Session → Session → Prop
  | var (session : Session) (name : String) : Step session (session.keep (.var name))
  /-- Form a node.  The names are not restricted, and arguments without a body may be tried. -/
  | form {session : Session} {tag : String} {arguments : List Argument} {term : Term}
      (bodies : ∀ argument ∈ arguments,
        argument.binder.body = .hole ∨ argument.binder.body ∈ session.terms)
      (ok : Term.form tag arguments = .ok term) : Step session (session.keep term)
  /-- Substitute for the names of a binder, which are not restricted either. -/
  | subst {session : Session} {fresh : Strategy} {used : Names} {replacements : List Term}
      {binder : Binder} {result : Term} (known : fresh = .digits ∨ fresh = .primes)
      (body : binder.body ∈ session.terms) (given : ∀ value ∈ replacements, value ∈ session.terms)
      (ok : (subst fresh used replacements binder).outcome = .ok result) :
      Step session (session.keep result)
  /-- Open a node, and keep its binders and their bodies. -/
  | opening {session : Session} {fresh : Strategy} {used : Names} {tag : String}
      {args opened : Args} (known : fresh = .digits ∨ fresh = .primes)
      (held : .node tag args ∈ session.terms)
      (ok : (openNode fresh used tag args).outcome = .ok opened) :
      Step session (session.keepOpened opened)
  /-- Take the term of a name from a document. -/
  | unfold {session : Session} {doc : Scenario.Document} {name : String} {term : Term}
      (ok : doc.term name = .ok term) : Step session (session.keep term)

/-- The sessions reachable by any finite sequence of operations. -/
abbrev Reachable (session later : Session) : Prop :=
  Relation.ReflTransGen Step session later

/-! ## The invariant -/

/-- Every term is well-formed, and so is every opened binder with its names. -/
structure WellFormed (session : Session) : Prop where
  terms : ∀ term ∈ session.terms, term.WellFormed
  binders : ∀ binder ∈ session.binders, binder.Binds Atomic

namespace WellFormed

variable {session later : Session}

theorem start : Session.start.WellFormed where
  terms := by simp [Session.start]
  binders := by simp [Session.start]

theorem keep (formed : session.WellFormed) {term : Term} (termFormed : term.WellFormed) :
    (session.keep term).WellFormed where
  terms := List.forall_mem_cons.mpr ⟨termFormed, formed.terms⟩
  binders := formed.binders

theorem keepOpened (formed : session.WellFormed) {opened : Args}
    (binds : ∀ binder ∈ opened.toList, binder.Binds Atomic) :
    (session.keepOpened opened).WellFormed where
  terms := by
    refine List.forall_mem_append.mpr ⟨fun body member => ?_, formed.terms⟩
    obtain ⟨binder, returned, rfl⟩ := List.mem_map.mp member
    exact Term.wellFormed_iff_binds.mpr (binds binder returned).2
  binders := List.forall_mem_append.mpr ⟨binds, formed.binders⟩

/-- **Every operation keeps a session well-formed.** -/
theorem step (formed : session.WellFormed) (step : Step session later) : later.WellFormed := by
  cases step with
  | var name => exact formed.keep trivial
  | form bodies ok =>
      refine formed.keep (Term.wellFormed_of_form (fun argument member => ?_) ok)
      have formable := (Term.form_eq_ok_iff.mp ok).1 argument member
      exact formed.terms _ ((bodies argument member).resolve_left formable.1)
  | subst known body given ok =>
      exact formed.keep (subst_wellFormed known (formed.terms _ body)
        (fun value member => formed.terms value (given value member)) ok)
  | opening known held ok =>
      exact formed.keepOpened (openNode_binds known (formed.terms _ held) ok)
  | unfold ok => exact formed.keep (Scenario.Document.unfolds_of_term ok).wellFormed

/-- **Every sequence of operations does.** -/
theorem reachable (formed : session.WellFormed) (reachable : session.Reachable later) :
    later.WellFormed := by
  induction reachable with
  | refl => exact formed
  | tail _ step inductionHypothesis => exact inductionHypothesis.step step

end WellFormed

/-! ## Every well-formed term -/

theorem Step.terms_subset {session later : Session} (step : Step session later) :
    session.terms ⊆ later.terms := by
  cases step with
  | var name => exact List.subset_cons_self _ _
  | form bodies ok => exact List.subset_cons_self _ _
  | subst known body given ok => exact List.subset_cons_self _ _
  | opening known held ok => exact List.subset_append_right _ _
  | unfold ok => exact List.subset_cons_self _ _

/-- Nothing is lost on the way. -/
theorem Reachable.terms_subset {session later : Session} (reachable : session.Reachable later) :
    session.terms ⊆ later.terms := by
  induction reachable with
  | refl => exact List.Subset.refl _
  | tail _ step inductionHypothesis =>
      exact List.Subset.trans inductionHypothesis step.terms_subset

mutual
/-- **Any well-formed term can be obtained**, whatever has been obtained before. -/
theorem exists_holding : ∀ {term : Term} (session : Session), term.WellFormed →
    ∃ later, session.Reachable later ∧ term ∈ later.terms
  | .hole, _, formed => formed.elim
  | .var name, session, _ => ⟨_, .single (.var session name), List.mem_cons_self⟩
  | .node tag args, session, formed => by
      obtain ⟨later, reached, bodies⟩ := exists_holding_bodies session formed
      have step : Step later (later.keep (.node tag args)) := by
        refine .form (fun argument member => ?_) (Args.form_of_wellFormed tag formed)
        obtain ⟨binder, inArgs, rfl⟩ := List.mem_map.mp member
        exact .inr (bodies binder inArgs)
      exact ⟨_, reached.tail step, List.mem_cons_self⟩

theorem exists_holding_bodies : ∀ {args : Args} (session : Session), args.WellFormed →
    ∃ later, session.Reachable later ∧ ∀ binder ∈ args.toList, binder.body ∈ later.terms
  | .nil, session, _ => ⟨session, .refl, by simp [Args.toList]⟩
  | .cons bound body rest, session, ⟨_, bodyFormed, restFormed⟩ => by
      obtain ⟨middle, toMiddle, held⟩ := exists_holding session bodyFormed
      obtain ⟨later, toLater, others⟩ := exists_holding_bodies middle restFormed
      refine ⟨later, toMiddle.trans toLater, ?_⟩
      rw [Args.toList, List.forall_mem_cons]
      exact ⟨Reachable.terms_subset toLater held, others⟩
end

/-! ## Every session -/

/-- An argument made of what a session has: a term by itself, or an opened binder. -/
def Holds (session : Session) : Argument → Prop
  | .absent => False
  | .bare body => body ∈ session.terms
  | .scoped binder => binder ∈ session.binders

/-- **A node can be formed from what a well-formed session has.** -/
theorem WellFormed.exists_form {session : Session} (formed : session.WellFormed) (tag : String)
    {arguments : List Argument} (held : ∀ argument ∈ arguments, session.Holds argument) :
    ∃ term, Term.form tag arguments = .ok term := by
  refine ⟨_, Term.form_eq_ok_iff.mpr ⟨fun argument member => ?_, rfl⟩⟩
  match argument, held argument member with
  | .bare body, here =>
      have bodyBinds := Term.wellFormed_iff_binds.mp (formed.terms body here)
      exact Binder.Binds.formable ⟨by simp [Argument.binder], bodyBinds⟩
  | .scoped binder, here => exact (formed.binders binder here).formable

/-- **Well-formedness is an invariant of all operations.**  A node is formed exactly when every
argument is there, has a body and binds atomic names only, that is, names that are not empty and
hold neither a delimiter nor white space.  Whatever sequence of operations led to a session, all
of its terms are well-formed, and nothing else sets them apart.  So a node can be formed from its
terms and opened binders, and no substitution, comparison, opening or printing of its terms breaks
a promise. -/
theorem wellFormed_throughout :
    (∀ name, Atomic name ↔ name ≠ "" ∧
      ∀ c ∈ name.toList, c ∉ ['.', ',', '(', ')'] ∧ Text.isBlank c = false) ∧
    (∀ tag arguments, (∃ term, Term.form tag arguments = .ok term) ↔
      ∀ argument ∈ arguments, argument ≠ .absent ∧ argument.binder.body ≠ .hole ∧
        ∀ name ∈ argument.binder.bound, Atomic name) ∧
    ∀ session, start.Reachable session →
      (∀ term ∈ session.terms, term.WellFormed) ∧
      (∀ term : Term, term.WellFormed → ∃ later, session.Reachable later ∧
        session.terms ⊆ later.terms ∧ term ∈ later.terms) ∧
      (∀ tag arguments, (∀ argument ∈ arguments, session.Holds argument) →
        ∃ term, Term.form tag arguments = .ok term) ∧
      ∀ fresh : Strategy, fresh = .digits ∨ fresh = .primes → ∀ used : Names,
        (∀ replacements binder, binder.body ∈ session.terms →
          (BindingTrees.subst fresh used replacements binder).Unbroken) ∧
        (∀ left ∈ session.terms, ∀ right ∈ session.terms,
          (equal fresh used left right).Unbroken) ∧
        (∀ tag args, .node tag args ∈ session.terms →
          (openNode fresh used tag args).Unbroken) ∧
        ∀ term ∈ session.terms,
          (term.print fresh used).Unbroken ∧ ∃ text, term.display = .ok text := by
  refine ⟨fun name => atomic_iff_forall, fun tag arguments => ?_, fun session reachable => ?_⟩
  · simp only [Term.form_eq_ok_iff, exists_and_left, exists_eq, and_true, Binder.Formable]
    refine forall₂_congr fun argument _ => ⟨fun formable => ⟨?_, formable⟩, And.right⟩
    rintro rfl
    exact formable.1 rfl
  · have formed := WellFormed.start.reachable reachable
    refine ⟨formed.terms, fun term termFormed => ?_, fun tag arguments => formed.exists_form tag,
      fun fresh known used => ?_⟩
    · obtain ⟨later, reached, held⟩ := exists_holding session termFormed
      exact ⟨later, reached, Reachable.terms_subset reached, held⟩
    have honest := Strategy.honest_of_known known
    have complete : ∀ term ∈ session.terms, term.Complete := fun term held =>
      (formed.terms term held).complete
    refine ⟨fun replacements binder body => ?_, fun left held right _ => ?_,
      fun tag args held => ?_, fun term held => ?_⟩
    · exact subst_unbroken honest used replacements (complete _ body)
    · exact equal_unbroken honest used right (complete left held)
    · exact openNode_unbroken honest used tag (complete _ held)
    · obtain ⟨text, _, shown⟩ := (complete term held).exists_display
      exact ⟨Term.print_unbroken honest used (complete term held), text, shown⟩

/-- Nothing is left of the name `1` without its suffix, and `1` itself is in use: the binder is
opened with the name `2`, and a node can be formed from it again. -/
theorem wellFormed_throughout_numeral :
    ∃ session, start.Reachable session ∧ ⟨["2"], .var "2"⟩ ∈ session.binders ∧
      ∃ term, Term.form "fun" [.scoped ⟨["2"], .var "2"⟩] = .ok term := by
  let node := Term.node "fun" (.cons ["1"] (.var "1") .nil)
  have formed : Step (start.keep (.var "1")) ((start.keep (.var "1")).keep node) := by
    have bodies : ∀ argument ∈ [Argument.scoped ⟨["1"], .var "1"⟩],
        argument.binder.body = .hole ∨ argument.binder.body ∈ (start.keep (.var "1")).terms := by
      rintro argument (_ | ⟨_, ⟨⟩⟩)
      exact .inr List.mem_cons_self
    exact .form bodies rfl
  have opened : (openNode .digits (.ofList ["1"]) "fun" (.cons ["1"] (.var "1") .nil)).outcome =
      .ok (.cons ["2"] (.var "2") .nil) := by
    rw [Strategy.digits_eq]
    rfl
  have reachable := ((Relation.ReflTransGen.single (Step.var start "1")).tail formed).tail
    (.opening (.inl rfl) List.mem_cons_self opened)
  refine ⟨_, reachable, List.mem_cons_self, ?_⟩
  refine (wellFormed_throughout.2.2 _ reachable).2.2.1 "fun" _ ?_
  rintro argument (_ | ⟨_, ⟨⟩⟩)
  exact List.mem_cons_self

end Session

end BindingTrees
