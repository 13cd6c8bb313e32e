import BindingTrees.Proofs.SubstitutionLaws

/-!
# Which variables are free

**In a term.**  The walk that collects free variables gives the set that is built from the parts
of the term: a variable gives itself, and a node what is free in a body of it and not bound there.
The set can be read off the nameless form, so terms that are the same up to bound names have the
same free variables (`freeVars_laws`).

**In the result of a substitution.**  A pass replaces variables by what they stand for, so a free
variable of the result is free in what some free variable of the term stands for
(`Term.free_of_substWith`).  A name bound on the way stands for a picked name, and the new binder
binds that name: no invented name is left free.  Nothing is asked of the names in use here, and a
variable that they leave out may well be captured; capture takes free variables away and adds
none.

When all free variables are in use nothing is captured, and the free variables of the result are
exactly those of the body that are not bound and those of the replacements in force for bound
names which the body has (`subst_scope_safe`).
-/

set_option autoImplicit false

namespace BindingTrees

/-! ## Free variables of a term -/

/-- What is free in some arguments is free in one of their bodies and not bound there. -/
theorem Args.mem_freeNames {name : String} {args : Args} :
    name ∈ args.freeNames ↔
      ∃ binder ∈ args.toList, name ∈ binder.body.freeNames ∧ name ∉ binder.bound := by
  cases args with
  | nil => simp [Args.freeNames, Args.toList]
  | cons bound body rest =>
      rw [Args.mem_freeNames_cons, Args.mem_freeNames, Args.toList, List.exists_mem_cons_iff]

/-- The walk and the compositional reading give one set. -/
theorem Term.freeVars_eq_freeNames (term : Term) : term.freeVars = term.freeNames :=
  Names.ext fun _ => Term.mem_freeVars

/-- **Free variables are those of the parts, and bound names do not matter.**  The set collected in
one walk is the compositional one; so a variable gives itself alone, and a node the union over its
arguments of what is free in the body and not bound there.  Terms that are the same up to bound
names have the same set. -/
theorem freeVars_laws :
    (∀ term : Term, term.freeVars = term.freeNames) ∧
    (∀ name : String, (Term.var name).freeVars = .ofList [name]) ∧
    (∀ (tag : String) (args : Args) (name : String), name ∈ (Term.node tag args).freeVars ↔
      ∃ binder ∈ args.toList, name ∈ binder.body.freeVars ∧ name ∉ binder.bound) ∧
    ∀ left right : Term, left.AlphaEq right → left.freeVars = right.freeVars := by
  refine ⟨Term.freeVars_eq_freeNames, ?_, ?_, ?_⟩
  · intro name
    rw [Term.freeVars_eq_freeNames, Term.freeNames]
  · intro tag args name
    simp only [Term.mem_freeVars, Term.mem_freeNames_node, Args.mem_freeNames]
  · intro left right alike
    rw [Term.freeVars_eq_freeNames, Term.freeVars_eq_freeNames]
    exact Names.ext fun _ => alike.mem_freeNames_iff

/-- A name that one binder repeats and another one shadows, against three names of its own: the
terms are the same up to bound names, and only `y` is free in them. -/
theorem freeVars_laws_shadowed :
    let lam := fun names body => Term.node "lam" (.cons names body .nil)
    let pair := fun left right => Term.node "pair" (.cons [] left (.cons [] right .nil))
    let left := lam ["x", "x"] (pair (.var "x") (lam ["x"] (pair (.var "x") (.var "y"))))
    let right := lam ["a", "b"] (pair (.var "b") (lam ["c"] (pair (.var "c") (.var "y"))))
    left.AlphaEq right ∧ left.freeVars = right.freeVars ∧ left.freeVars = .ofList ["y"] := by
  intro lam pair left right
  have alike : left.AlphaEq right := by decide
  exact ⟨alike, freeVars_laws.2.2.2 left right alike, by decide⟩

/-! ## Free variables of what a pass returns -/

/-- If what stands for a name has a free variable other than the names given last, then the name
was given none of them, and stands for what it stood for before. -/
theorem Env.free_of_valueOf_bindAll {env : Env Term} {bound names : List String}
    (lengths : names.length = bound.length) {name other : String} (notGiven : name ∉ names)
    (free : name ∈ ((env.bindAll bound (names.map .var)).valueOf other).freeNames) :
    other ∉ bound ∧ name ∈ (env.valueOf other).freeNames := by
  have entries : (names.map Term.var).length = bound.length := by rw [List.length_map, lengths]
  rw [Env.valueOf, Env.find?_bindAll env entries] at free
  cases place : lastIndex? other bound with
  | some index =>
      have inside : index < names.length := lengths ▸ lastIndex?_lt_length place
      simp only [place, List.getElem?_map, List.getElem?_eq_getElem inside, Option.map_some,
        Option.getD_some, Term.mem_freeNames_var] at free
      exact absurd (free ▸ List.getElem_mem inside) notGiven
  | none =>
      simp only [place] at free
      exact ⟨lastIndex?_eq_none_iff.mp place, free⟩

mutual
/-- **No invented name is left free.**  A free variable of what a pass returns is free in what
some free variable of the term stands for. -/
theorem Term.free_of_substWith {fresh : Strategy} {name : String} :
    ∀ {term result : Term} {used : Names} {env : Env Term},
    (term.substWith fresh used env).outcome = .ok result → name ∈ result.freeNames →
      ∃ other ∈ term.freeNames, name ∈ (env.valueOf other).freeNames
  | .hole, _, _, _, ok, _ => by cases ok
  | .var other, result, used, env, ok, free => by
      refine ⟨other, Term.mem_freeNames_var.mpr rfl, ?_⟩
      rw [Env.valueOf]
      rcases Term.substWith_var_eq_ok ok with found | ⟨absent, _, rfl⟩
      · rw [found]
        exact free
      · rw [absent]
        exact free
  | .node tag args, result, used, env, ok, free => by
      obtain ⟨changed, inner, rfl⟩ := Term.substWith_node_eq_ok ok
      obtain ⟨other, otherFree, inValue⟩ :=
        Args.free_of_substWith inner (Term.mem_freeNames_node.mp free)
      exact ⟨other, Term.mem_freeNames_node.mpr otherFree, inValue⟩

theorem Args.free_of_substWith {fresh : Strategy} {name : String} :
    ∀ {args result : Args} {used : Names} {env : Env Term},
    (args.substWith fresh used env).outcome = .ok result → name ∈ result.freeNames →
      ∃ other ∈ args.freeNames, name ∈ (env.valueOf other).freeNames
  | .nil, _, _, _, ok, free => by
      cases ok
      exact absurd free Names.not_mem_empty
  | .cons bound body rest, result, used, env, ok, free => by
      obtain ⟨scope, names, newBody, newRest, pickedOk, bodyOk, restOk, rfl⟩ :=
        Args.substWith_cons_eq_ok ok
      rcases Args.mem_freeNames_cons.mp free with ⟨inBody, notPicked⟩ | inRest
      · obtain ⟨other, otherFree, inValue⟩ := Term.free_of_substWith bodyOk inBody
        -- A name bound here stands for a picked one, which the new binder binds.
        obtain ⟨notBound, earlier⟩ :=
          Env.free_of_valueOf_bindAll (pickAll_picked pickedOk).length_eq notPicked inValue
        exact ⟨other, Args.mem_freeNames_cons.mpr (.inl ⟨otherFree, notBound⟩), earlier⟩
      · obtain ⟨other, otherFree, inValue⟩ := Args.free_of_substWith restOk inRest
        exact ⟨other, Args.mem_freeNames_cons.mpr (.inr otherFree), inValue⟩
end

/-! ## What a binder and its replacements supply -/

/-- A name is free in the body of a binder and not bound, or it is free in the replacement in
force for a bound name that is free in the body. -/
def Binder.Supplies (binder : Binder) (replacements : List Term) (name : String) : Prop :=
  (name ∈ binder.body.freeNames ∧ name ∉ binder.bound) ∨
    ∃ other ∈ binder.body.freeNames, ∃ index replacement,
      lastIndex? other binder.bound = some index ∧ replacements[index]? = some replacement ∧
        name ∈ replacement.freeNames

/-- That is: it is free in what some free variable of the body stands for. -/
theorem Binder.supplies_iff {binder : Binder} {replacements : List Term} {name : String}
    (lengths : replacements.length = binder.bound.length) :
    binder.Supplies replacements name ↔ ∃ other ∈ binder.body.freeNames,
      name ∈ ((Env.bindAll [] binder.bound replacements).valueOf other).freeNames := by
  constructor
  · rintro (⟨free, notBound⟩ | ⟨other, free, index, replacement, place, given, inValue⟩)
    · refine ⟨name, free, ?_⟩
      rw [Env.valueOf, Env.find?_bindAll [] lengths, lastIndex?_eq_none_iff.mpr notBound]
      exact Term.mem_freeNames_var.mpr rfl
    · refine ⟨other, free, ?_⟩
      rw [Env.valueOf, Env.find?_bindAll [] lengths, place]
      simpa only [given, Option.getD_some] using inValue
  · rintro ⟨other, free, inValue⟩
    rw [Env.valueOf, Env.find?_bindAll [] lengths] at inValue
    cases place : lastIndex? other binder.bound with
    | some index =>
        have inside : index < replacements.length := lengths ▸ lastIndex?_lt_length place
        simp only [place, List.getElem?_eq_getElem inside, Option.getD_some] at inValue
        exact .inr ⟨other, free, index, _, place, List.getElem?_eq_getElem inside, inValue⟩
    | none =>
        simp only [place, Env.find?_nil, Option.getD_none, Term.mem_freeNames_var] at inValue
        subst inValue
        exact .inl ⟨free, lastIndex?_eq_none_iff.mp place⟩

/-- What is supplied by a replacement is free in one of them. -/
theorem Binder.Supplies.free {binder : Binder} {replacements : List Term} {name : String}
    (supplies : binder.Supplies replacements name) :
    (name ∈ binder.body.freeNames ∧ name ∉ binder.bound) ∨
      ∃ replacement ∈ replacements, name ∈ replacement.freeNames := by
  refine supplies.imp_right ?_
  rintro ⟨_, _, _, replacement, _, given, inValue⟩
  exact ⟨replacement, List.mem_of_getElem? given, inValue⟩

mutual
/-- A name that stands in the value of a free name stands in the grafted form. -/
theorem Nameless.mentions_graft_of {value : String → Nameless} {name other : String}
    (inValue : (value other).Mentions name) :
    ∀ {form : Nameless}, form.Mentions other → (form.graft value).Mentions name
  | .hole, mentioned => mentioned.elim
  | .free _, mentioned => by
      cases mentioned
      exact inValue
  | .bound _ _, mentioned => mentioned.elim
  | .node _ _, mentioned => NamelessArgs.mentions_graft_of inValue mentioned

theorem NamelessArgs.mentions_graft_of {value : String → Nameless} {name other : String}
    (inValue : (value other).Mentions name) :
    ∀ {form : NamelessArgs}, form.Mentions other → (form.graft value).Mentions name
  | .nil, mentioned => mentioned.elim
  | .cons _ _ _, .inl inBody => .inl (Nameless.mentions_graft_of inValue inBody)
  | .cons _ _ _, .inr inRest => .inr (NamelessArgs.mentions_graft_of inValue inRest)
end

/-! ## Free variables of the result of a substitution -/

section Result

variable {fresh : Strategy} {used : Names} {replacements : List Term} {binder : Binder}
  {result : Term} {name : String}

/-- A free variable of a result was supplied, whatever names are in use. -/
theorem supplies_of_subst (ok : (subst fresh used replacements binder).outcome = .ok result)
    (free : name ∈ result.freeNames) : binder.Supplies replacements name := by
  obtain ⟨lengths, scope, _, inner⟩ := subst_eq_ok ok
  exact (Binder.supplies_iff lengths).mpr (Term.free_of_substWith inner free)

/-- **Nothing that was supplied is lost**, when the free variables are in use. -/
theorem free_of_supplies (ok : (subst fresh used replacements binder).outcome = .ok result)
    (declared : ∀ name ∈ binder.body.freeNames, name ∉ binder.bound → name ∈ used)
    (contained : ∀ replacement ∈ replacements, ∀ name ∈ replacement.freeNames, name ∈ used)
    (supplies : binder.Supplies replacements name) : name ∈ result.freeNames := by
  obtain ⟨lengths, scope, reserved, _⟩ := subst_eq_ok ok
  have picked := reserve_picked reserved
  have inScope : ∀ name ∈ binder.body.freeNames, name ∈ scope := by
    intro name free
    by_cases bound : name ∈ binder.bound
    · exact picked.mem_scope bound
    · exact picked.mem_scope_of_used (declared name free bound)
  have form : result.nameless [] = binder.instantiate replacements :=
    nameless_subst reserved inScope (fun replacement member name free =>
      picked.mem_scope_of_used (contained replacement member name free)) ok
  obtain ⟨other, otherFree, inValue⟩ := (Binder.supplies_iff lengths).mp supplies
  have mentioned : (result.nameless []).Mentions name := by
    rw [form, Binder.instantiate_eq_graft lengths]
    exact Nameless.mentions_graft_of ((Term.mentions_nameless _ _).mpr ⟨inValue, rfl⟩)
      ((Term.mentions_nameless _ _).mpr ⟨otherFree, rfl⟩)
  exact ((Term.mentions_nameless _ _).mp mentioned).1

end Result

/-- **Substitution is scope safe.**  Whatever the strategy and the names in use are, a free
variable of the result is a free variable of the body that the binder does not bind, or one of a
replacement.  If all of these are in use, the free variables of the result are exactly those of
the body that are not bound, and those of the replacement in force, the last one, for each bound
name that is free in the body. -/
theorem subst_scope_safe (fresh : Strategy) (used : Names) (replacements : List Term)
    (binder : Binder) (result : Term)
    (ok : (subst fresh used replacements binder).outcome = .ok result) :
    (∀ name ∈ result.freeVars, (name ∈ binder.body.freeVars ∧ name ∉ binder.bound) ∨
      ∃ replacement ∈ replacements, name ∈ replacement.freeVars) ∧
    ((∀ name ∈ binder.body.freeVars, name ∉ binder.bound → name ∈ used) →
      (∀ replacement ∈ replacements, ∀ name ∈ replacement.freeVars, name ∈ used) →
      ∀ name, name ∈ result.freeVars ↔
        (name ∈ binder.body.freeVars ∧ name ∉ binder.bound) ∨
          ∃ other ∈ binder.body.freeVars, ∃ index replacement,
            lastIndex? other binder.bound = some index ∧
              replacements[index]? = some replacement ∧ name ∈ replacement.freeVars) := by
  simp only [Term.mem_freeVars]
  refine ⟨fun name free => (supplies_of_subst ok free).free, ?_⟩
  intro declared contained name
  exact ⟨supplies_of_subst ok, free_of_supplies ok declared contained⟩

/-- With only `x` in use, the undeclared `x1` is captured by the binder that is renamed to `x1`, and
the undeclared `u` of the replacement is all that is free in the result.  With everything in use,
the second replacement for `x` counts and its variable is not captured; the name `z` does not
occur, so nothing of its replacement is in the result. -/
theorem subst_scope_safe_captured :
    let pair := fun left right => Term.node "pair" (.cons [] left (.cons [] right .nil))
    let lam := fun name body => Term.node "lam" (.cons [name] body .nil)
    let captured := pair (lam "x" (.var "x1")) (.var "v")
    let capturing := pair (lam "x1" (.var "x1")) (.var "u")
    let body := lam "y" (pair (.var "x") (.var "y"))
    let result := lam "y1" (pair (.var "y") (.var "y1"))
    ((subst .digits (.ofList ["x"]) [.var "u"] ⟨["v"], captured⟩).outcome = .ok capturing ∧
      ("u" ∈ capturing.freeVars ∧ "x1" ∉ capturing.freeVars) ∧
      ∀ name ∈ capturing.freeVars, (name ∈ captured.freeVars ∧ name ∉ ["v"]) ∨
        ∃ replacement ∈ [Term.var "u"], name ∈ replacement.freeVars) ∧
    (subst .digits (.ofList ["a", "b", "y"]) [.var "a", .var "y", .var "b"]
      ⟨["x", "x", "z"], body⟩).outcome = .ok result ∧
    "y" ∈ result.freeVars ∧ "a" ∉ result.freeVars ∧ "b" ∉ result.freeVars := by
  intro pair lam captured capturing body result
  have first : (subst .digits (.ofList ["x"]) [.var "u"] ⟨["v"], captured⟩).outcome =
      .ok capturing := by
    rw [Strategy.digits_eq]
    rfl
  have second : (subst .digits (.ofList ["a", "b", "y"]) [.var "a", .var "y", .var "b"]
      ⟨["x", "x", "z"], body⟩).outcome = .ok result := by
    rw [Strategy.digits_eq]
    rfl
  have law := (subst_scope_safe _ _ _ _ _ second).2 (by decide) (by decide)
  -- The body has no free variable but `x`, which stands for `y`.
  have onlyY : ∀ name ∈ result.freeVars, name = "y" := by
    intro name free
    rcases (law name).mp free with ⟨inBody, notBound⟩ | ⟨other, inBody, _, _, place, given, here⟩
    · have isX : name = "x" := (by decide : ∀ name ∈ body.freeVars, name = "x") name inBody
      exact absurd (isX ▸ List.mem_cons_self) notBound
    · have isX : other = "x" := (by decide : ∀ name ∈ body.freeVars, name = "x") other inBody
      subst isX
      cases place
      cases given
      exact Term.mem_freeNames_var.mp (Term.mem_freeVars.mp here)
  refine ⟨⟨first, by decide, (subst_scope_safe _ _ _ _ _ first).1⟩, second, ?_, ?_, ?_⟩
  · exact (law "y").mpr (.inr ⟨"x", by decide, 1, .var "y", rfl, rfl, by decide⟩)
  · intro free
    exact absurd (onlyY "a" free) (by decide)
  · intro free
    exact absurd (onlyY "b" free) (by decide)

end BindingTrees
