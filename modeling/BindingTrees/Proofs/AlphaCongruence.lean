import BindingTrees.Proofs.JustifiedFaults
import BindingTrees.Proofs.SubstitutionLaws

/-!
# Results are the same up to bound names

Two binders are the same up to bound names when they bind equally many names over bodies of the
same nameless form (`Binder.AlphaEq`).  Filling in a binder depends on nothing else
(`Binder.AlphaEq.instantiate_eq`), and up to bound names a substitution fills in.  So two
substitutions with binders and replacements that are the same up to bound names have results that
are, although the two runs may follow different strategies under different names in use and share
no name that they pick.

Opening replaces a binder by one that is the same up to bound names, whether it was renamed or kept
(`Opened.alphaEq`).  So it makes no difference either whether one substitutes into a binder of a
node or into the binder that opening made of it (`subst_respects_alphaEq`).
-/

set_option autoImplicit false

namespace BindingTrees

/-! ## Binders up to bound names -/

/-- Two binders are the same up to bound names. -/
structure Binder.AlphaEq (left right : Binder) : Prop where
  length_eq : left.bound.length = right.bound.length
  form_eq : left.body.nameless [left.bound] = right.body.nameless [right.bound]

namespace Binder.AlphaEq

variable {left right : Binder}

theorem complete (alike : left.AlphaEq right) (complete : left.body.Complete) :
    right.body.Complete :=
  Term.complete_of_nameless alike.form_eq complete

/-- **Filling in is a matter of forms**: of the binder and of each replacement. -/
theorem instantiate_eq (alike : left.AlphaEq right) {replacements values : List Term}
    (same : List.Forall₂ Term.AlphaEq replacements values) :
    left.instantiate replacements = right.instantiate values := by
  have forms : replacements.map (·.nameless []) = values.map (·.nameless []) := by
    rw [← List.forall₂_eq_eq_eq, List.forall₂_map_left_iff, List.forall₂_map_right_iff]
    exact same
  rw [Binder.instantiate, Binder.instantiate, alike.form_eq, forms]

end Binder.AlphaEq

theorem Opened.alphaEq {used : Names} {binder opened : Binder} (made : Opened used binder opened) :
    binder.AlphaEq opened :=
  ⟨made.length_eq.symm, made.form_eq.symm⟩

/-- **Substituting into an opened binder** fills in the binder as it stood before. -/
theorem Opened.subst_of_declared {fresh : Strategy} (honest : fresh.Honest) {used : Names}
    {binder opened : Binder} (made : Opened used binder opened) (complete : binder.body.Complete)
    {replacements : List Term} (lengths : replacements.length = binder.bound.length)
    (contained : ∀ replacement ∈ replacements, ∀ name ∈ replacement.freeNames, name ∈ used) :
    ∃ result, (subst fresh used replacements opened).outcome = .ok result ∧
      result.nameless [] = binder.instantiate replacements := by
  have declared : ∀ name ∈ opened.body.freeNames, name ∈ used ∨ name ∈ opened.bound :=
    fun name free => made.declared name (Term.mem_freeVars.mpr free)
  have openedLengths := lengths.trans made.length_eq.symm
  obtain ⟨result, ok, form⟩ := BindingTrees.subst_of_declared honest used opened
    (made.alphaEq.complete complete) openedLengths declared contained
  refine ⟨result, ok, form.trans ?_⟩
  exact (made.alphaEq.instantiate_eq (List.forall₂_same.mpr fun _ _ => .refl _)).symm

/-! ## Binders of a node -/

/-- Arguments of the same form consist of binders that are the same up to bound names. -/
theorem Args.forall₂_alphaEq : ∀ {args others : Args}, args.nameless [] = others.nameless [] →
    List.Forall₂ Binder.AlphaEq args.toList others.toList
  | .nil, .nil, _ => .nil
  | .nil, .cons _ _ _, same => by cases same
  | .cons _ _ _, .nil, same => by cases same
  | .cons _ _ _, .cons _ _ _, same => by
      obtain ⟨lengths, bodies, rests⟩ := NamelessArgs.cons.inj same
      exact .cons ⟨lengths, bodies⟩ (Args.forall₂_alphaEq rests)

theorem Args.complete_of_mem {binder : Binder} : ∀ {args : Args}, args.Complete →
    binder ∈ args.toList → binder.body.Complete
  | .cons _ _ _, complete, member => by
      rcases List.mem_cons.mp member with rfl | later
      · exact complete.1
      · exact Args.complete_of_mem complete.2 later

/-- The free variables of the binders of a node are declared or bound if those of the node are
declared. -/
theorem Args.declared_of_mem {binder : Binder} {used : Names} : ∀ {args : Args},
    (∀ name ∈ args.freeNames, name ∈ used) → binder ∈ args.toList →
      ∀ name ∈ binder.body.freeNames, name ∈ used ∨ name ∈ binder.bound
  | .cons _ _ _, declared, member => by
      obtain ⟨inBody, inRest⟩ := Args.declared_cons declared
      rcases List.mem_cons.mp member with rfl | later
      · exact inBody
      · exact Args.declared_of_mem inRest later

/-- What is related to the member at a position stands at the same position. -/
theorem exists_getElem?_of_forall₂ {α : Type} {related : α → α → Prop} {left right : List α}
    (lists : List.Forall₂ related left right) {index : Nat} {member : α}
    (found : left[index]? = some member) :
    ∃ other, right[index]? = some other ∧ related member other := by
  obtain ⟨inside, rfl⟩ := List.getElem?_eq_some_iff.mp found
  have otherInside : index < right.length := lists.length_eq ▸ inside
  exact ⟨right[index], List.getElem?_eq_getElem otherInside, lists.get inside otherInside⟩

/-! ## Two runs -/

/-- **Substitution respects equality up to bound names.**  Let two strategies keep their promise,
and let two substitutions have binders that are the same up to bound names and replacements that
are so one by one, with all free variables declared to either run.  Then both have results, which
are the same up to bound names.  The same holds of the binders at one position of two nodes that
are the same up to bound names, after each node was opened in its own run; and substituting into
the binder as it stood before opening gives the same again. -/
theorem subst_respects_alphaEq (first second : Strategy) (firstHonest : first.Honest)
    (secondHonest : second.Honest) (used others : Names) :
    (∀ (left right : Binder) (replacements values : List Term), left.AlphaEq right →
      left.body.Complete → replacements.length = left.bound.length →
      List.Forall₂ Term.AlphaEq replacements values →
      (∀ name ∈ left.body.freeVars, name ∈ used ∨ name ∈ left.bound) →
      (∀ name ∈ right.body.freeVars, name ∈ others ∨ name ∈ right.bound) →
      (∀ replacement ∈ replacements, ∀ name ∈ replacement.freeVars, name ∈ used) →
      (∀ value ∈ values, ∀ name ∈ value.freeVars, name ∈ others) →
      ∃ result other, (subst first used replacements left).outcome = .ok result ∧
        (subst second others values right).outcome = .ok other ∧ result.AlphaEq other) ∧
    ∀ (tag otherTag : String) (args otherArgs : Args),
      (Term.node tag args).AlphaEq (.node otherTag otherArgs) → (Term.node tag args).Complete →
      (∀ name ∈ (Term.node tag args).freeVars, name ∈ used) →
      (∀ name ∈ (Term.node otherTag otherArgs).freeVars, name ∈ others) →
      ∃ opened otherOpened, (openNode first used tag args).outcome = .ok opened ∧
        (openNode second others otherTag otherArgs).outcome = .ok otherOpened ∧
        opened.toList.length = args.toList.length ∧
        otherOpened.toList.length = args.toList.length ∧
        ∀ (index : Nat) (binder : Binder) (replacements values : List Term),
          args.toList[index]? = some binder → replacements.length = binder.bound.length →
          List.Forall₂ Term.AlphaEq replacements values →
          (∀ replacement ∈ replacements, ∀ name ∈ replacement.freeVars, name ∈ used) →
          (∀ value ∈ values, ∀ name ∈ value.freeVars, name ∈ others) →
          ∃ openedBinder otherBinder result other direct,
            opened.toList[index]? = some openedBinder ∧
            otherOpened.toList[index]? = some otherBinder ∧
            (subst first used replacements openedBinder).outcome = .ok result ∧
            (subst second others values otherBinder).outcome = .ok other ∧
            (subst first used replacements binder).outcome = .ok direct ∧
            result.AlphaEq other ∧ result.AlphaEq direct := by
  refine ⟨?_, ?_⟩
  · intro left right replacements values alike complete lengths same leftDeclared rightDeclared
      contained otherContained
    simp only [Term.mem_freeVars] at leftDeclared rightDeclared contained otherContained
    have otherLengths : values.length = right.bound.length := by
      rw [← same.length_eq, lengths, alike.length_eq]
    obtain ⟨result, ok, form⟩ :=
      subst_of_declared firstHonest used left complete lengths leftDeclared contained
    obtain ⟨other, otherOk, otherForm⟩ := subst_of_declared secondHonest others right
      (alike.complete complete) otherLengths rightDeclared otherContained
    refine ⟨result, other, ok, otherOk, ?_⟩
    rw [Term.AlphaEq, form, otherForm, alike.instantiate_eq same]
  · intro tag otherTag args otherArgs alike complete declared otherDeclared
    simp only [Term.mem_freeVars, Term.mem_freeNames_node] at declared otherDeclared
    have binders := Args.forall₂_alphaEq (Nameless.node.inj alike).2
    obtain ⟨opened, openedOk, made⟩ := openNode_of_declared firstHonest tag complete declared
    obtain ⟨otherOpened, otherOpenedOk, otherMade⟩ := openNode_of_declared secondHonest otherTag
      (Term.complete_of_nameless alike complete) otherDeclared
    refine ⟨opened, otherOpened, openedOk, otherOpenedOk, made.length_eq.symm,
      otherMade.length_eq.symm.trans binders.length_eq.symm, ?_⟩
    intro index binder replacements values found lengths same contained otherContained
    simp only [Term.mem_freeVars] at contained otherContained
    have member := List.mem_of_getElem? found
    have binderComplete := Args.complete_of_mem complete member
    obtain ⟨written, writtenFound, alikeBinders⟩ := exists_getElem?_of_forall₂ binders found
    obtain ⟨openedBinder, openedFound, binderMade⟩ := exists_getElem?_of_forall₂ made found
    obtain ⟨otherBinder, otherFound, otherBinderMade⟩ :=
      exists_getElem?_of_forall₂ otherMade writtenFound
    have otherLengths : values.length = written.bound.length := by
      rw [← same.length_eq, lengths, alikeBinders.length_eq]
    obtain ⟨direct, directOk, directForm⟩ := subst_of_declared firstHonest used binder
      binderComplete lengths (Args.declared_of_mem declared member) contained
    obtain ⟨result, ok, form⟩ :=
      binderMade.subst_of_declared firstHonest binderComplete lengths contained
    obtain ⟨other, otherOk, otherForm⟩ := otherBinderMade.subst_of_declared secondHonest
      (alikeBinders.complete binderComplete) otherLengths otherContained
    refine ⟨openedBinder, otherBinder, result, other, direct, openedFound, otherFound, ok, otherOk,
      directOk, ?_, form.trans directForm.symm⟩
    rw [Term.AlphaEq, form, otherForm, alikeBinders.instantiate_eq same]

/-- One run counts with numerals and the other with prime marks.  They pick different names for a
binder below the one substituted into; and of two nodes the first run renames the binder, which
the second keeps. -/
theorem subst_respects_alphaEq_mixed :
    let lam := fun name body => Term.node "lam" (.cons [name] body .nil)
    let pair := fun left right => Term.node "pair" (.cons [] left (.cons [] right .nil))
    let left := lam "y1" (pair (.var "y") (.var "y1"))
    let right := lam "w'" (pair (.var "y") (.var "w'"))
    ((subst .digits (.ofList ["w", "y"]) [.var "y"]
        ⟨["x"], lam "y" (pair (.var "x") (.var "y"))⟩).outcome = .ok left ∧
      (subst .primes (.ofList ["w", "y"]) [.var "y"]
        ⟨["v"], lam "w" (pair (.var "v") (.var "w"))⟩).outcome = .ok right ∧
      left.AlphaEq right) ∧
    (openNode .digits (.ofList ["w", "y"]) "lam"
        (.cons ["w"] (pair (.var "w") (.var "y")) .nil)).outcome =
      .ok (.cons ["w1"] (pair (.var "w1") (.var "y")) .nil) ∧
    (openNode .primes (.ofList ["w", "y"]) "lam"
        (.cons ["z"] (pair (.var "z") (.var "y")) .nil)).outcome =
      .ok (.cons ["z"] (pair (.var "z") (.var "y")) .nil) ∧
    (subst .digits (.ofList ["w", "y"]) [left] ⟨["w1"], pair (.var "w1") (.var "y")⟩).outcome =
      .ok (pair left (.var "y")) ∧
    (subst .primes (.ofList ["w", "y"]) [right] ⟨["z"], pair (.var "z") (.var "y")⟩).outcome =
      .ok (pair right (.var "y")) ∧
    (pair left (.var "y")).AlphaEq (pair right (.var "y")) := by
  intro lam pair left right
  have law := subst_respects_alphaEq .digits .primes Strategy.digits_honest
    Strategy.primes_honest (.ofList ["w", "y"]) (.ofList ["w", "y"])
  have leftIs : (subst .digits (.ofList ["w", "y"]) [.var "y"]
      ⟨["x"], lam "y" (pair (.var "x") (.var "y"))⟩).outcome = .ok left := by
    rw [Strategy.digits_eq]
    rfl
  have rightIs : (subst .primes (.ofList ["w", "y"]) [.var "y"]
      ⟨["v"], lam "w" (pair (.var "v") (.var "w"))⟩).outcome = .ok right := by
    rw [Strategy.primes_eq]
    rfl
  have openedIs : (openNode .digits (.ofList ["w", "y"]) "lam"
      (.cons ["w"] (pair (.var "w") (.var "y")) .nil)).outcome =
      .ok (.cons ["w1"] (pair (.var "w1") (.var "y")) .nil) := by
    rw [Strategy.digits_eq]
    rfl
  have complete : (pair (.var "w") (.var "y")).Complete := ⟨trivial, trivial, trivial⟩
  obtain ⟨_, _, leftOk, rightOk, alike⟩ := law.1
    ⟨["x"], lam "y" (pair (.var "x") (.var "y"))⟩ ⟨["v"], lam "w" (pair (.var "v") (.var "w"))⟩
    [.var "y"] [.var "y"] ⟨rfl, rfl⟩ ⟨⟨trivial, trivial, trivial⟩, trivial⟩ rfl
    (.cons rfl .nil) (by decide) (by decide) (by decide) (by decide)
  cases leftIs.symm.trans leftOk
  cases rightIs.symm.trans rightOk
  obtain ⟨_, _, openedOk, otherOpenedOk, _, _, each⟩ := law.2 "lam" "lam"
    (.cons ["w"] (pair (.var "w") (.var "y")) .nil) (.cons ["z"] (pair (.var "z") (.var "y")) .nil)
    rfl ⟨complete, trivial⟩ (by decide) (by decide)
  cases openedIs.symm.trans openedOk
  cases otherOpenedOk
  obtain ⟨_, _, _, _, _, openedFound, otherFound, ok, otherOk, _, alikeResults, _⟩ :=
    each 0 _ [left] [right] rfl rfl (.cons alike .nil) (by decide) (by decide)
  cases openedFound
  cases otherFound
  cases ok
  cases otherOk
  exact ⟨⟨leftIs, rightIs, alike⟩, openedIs, rfl, rfl, rfl, alikeResults⟩

end BindingTrees
