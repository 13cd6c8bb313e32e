import BindingTrees.Proofs.BoundNames
import BindingTrees.Proofs.PrintedNames

/-!
# Laws of substitution

**Grafting.**  On nameless forms the values of free names can be put in place without renaming
anything (`Nameless.graft`): a value has no variable that points outside it.  Grafting every name
onto itself changes nothing (`Nameless.graft_free`), and grafting twice is grafting once with
grafted values (`Nameless.graft_graft`).  To fill in the names of a binder is to graft their
values onto the body, read without the binder (`Binder.instantiate_eq_graft`).

**Substitution.**  Under a strategy that keeps its promise, a substitution whose variables are
declared has a result, and its form is the grafted one (`subst_grafts`).  So equations between
substitutions up to bound names are equations between grafts, although the calls on either side
run under different names in use and rename binders differently: names replaced by themselves
change nothing, and two substitutions in a row may be exchanged (`subst_laws`).
-/

set_option autoImplicit false

namespace BindingTrees

/-! ## Grafting -/

mutual
/-- Puts values in the place of the free names of a form. -/
def Nameless.graft (value : String → Nameless) : Nameless → Nameless
  | .hole => .hole
  | .free name => value name
  | .bound depth index => .bound depth index
  | .node tag args => .node tag (args.graft value)

def NamelessArgs.graft (value : String → Nameless) : NamelessArgs → NamelessArgs
  | .nil => .nil
  | .cons count body rest => .cons count (body.graft value) (rest.graft value)
end

mutual
/-- Names that stand for themselves change nothing. -/
theorem Nameless.graft_free : ∀ form : Nameless, form.graft .free = form
  | .hole => rfl
  | .free _ => rfl
  | .bound _ _ => rfl
  | .node tag args => by rw [Nameless.graft, NamelessArgs.graft_free args]

theorem NamelessArgs.graft_free : ∀ form : NamelessArgs, form.graft .free = form
  | .nil => rfl
  | .cons count body rest => by
      rw [NamelessArgs.graft, Nameless.graft_free body, NamelessArgs.graft_free rest]
end

mutual
/-- **Grafting twice** is grafting once, with grafted values. -/
theorem Nameless.graft_graft (first second : String → Nameless) : ∀ form : Nameless,
    (form.graft first).graft second = form.graft fun name => (first name).graft second
  | .hole => rfl
  | .free _ => rfl
  | .bound _ _ => rfl
  | .node tag args => by
      rw [Nameless.graft, Nameless.graft, Nameless.graft, NamelessArgs.graft_graft]

theorem NamelessArgs.graft_graft (first second : String → Nameless) : ∀ form : NamelessArgs,
    (form.graft first).graft second = form.graft fun name => (first name).graft second
  | .nil => rfl
  | .cons count body rest => by
      rw [NamelessArgs.graft, NamelessArgs.graft, NamelessArgs.graft, Nameless.graft_graft,
        NamelessArgs.graft_graft]
end

mutual
/-- Only the values of the free names of a form count. -/
theorem Nameless.graft_congr {first second : String → Nameless} : ∀ {form : Nameless},
    (∀ name, form.Mentions name → first name = second name) → form.graft first = form.graft second
  | .hole, _ => rfl
  | .free name, agree => agree name rfl
  | .bound _ _, _ => rfl
  | .node tag args, agree => by
      rw [Nameless.graft, Nameless.graft, NamelessArgs.graft_congr agree]

theorem NamelessArgs.graft_congr {first second : String → Nameless} : ∀ {form : NamelessArgs},
    (∀ name, form.Mentions name → first name = second name) → form.graft first = form.graft second
  | .nil, _ => rfl
  | .cons count body rest, agree => by
      have inBody := Nameless.graft_congr fun name mentioned => agree name (.inl mentioned)
      have inRest := NamelessArgs.graft_congr fun name mentioned => agree name (.inr mentioned)
      rw [NamelessArgs.graft, NamelessArgs.graft, inBody, inRest]
end

mutual
/-- A free name of a grafted form is one of a value that was put in place. -/
theorem Nameless.mentions_graft {value : String → Nameless} {name : String} :
    ∀ {form : Nameless}, (form.graft value).Mentions name →
      ∃ other, form.Mentions other ∧ (value other).Mentions name
  | .hole, mentioned => mentioned.elim
  | .free other, mentioned => ⟨other, rfl, mentioned⟩
  | .bound _ _, mentioned => mentioned.elim
  | .node _ _, mentioned => NamelessArgs.mentions_graft mentioned

theorem NamelessArgs.mentions_graft {value : String → Nameless} {name : String} :
    ∀ {form : NamelessArgs}, (form.graft value).Mentions name →
      ∃ other, form.Mentions other ∧ (value other).Mentions name
  | .nil, mentioned => mentioned.elim
  | .cons _ _ _, .inl inBody => by
      obtain ⟨other, mentioned, inValue⟩ := Nameless.mentions_graft inBody
      exact ⟨other, .inl mentioned, inValue⟩
  | .cons _ _ _, .inr inRest => by
      obtain ⟨other, mentioned, inValue⟩ := NamelessArgs.mentions_graft inRest
      exact ⟨other, .inr mentioned, inValue⟩
end

/-- One name stands for a form, and every other name for itself. -/
def Nameless.only (name : String) (value : Nameless) (other : String) : Nameless :=
  if other = name then value else .free other

/-- **Two grafts of single names may be exchanged**, if the name grafted first does not stand in
the value of the second. -/
theorem Nameless.graft_only_comm {x y : String} (differ : x ≠ y) {inner outer : Nameless}
    (absent : ¬ outer.Mentions x) (form : Nameless) :
    (form.graft (only x inner)).graft (only y outer) =
      (form.graft (only y outer)).graft (only x (inner.graft (only y outer))) := by
  rw [Nameless.graft_graft, Nameless.graft_graft]
  refine Nameless.graft_congr fun name _ => ?_
  by_cases isX : name = x
  · subst isX
    have notY : only y outer name = .free name := if_neg differ
    rw [notY]
    simp only [only, Nameless.graft, if_true]
  · have first : only x inner name = .free name := if_neg isX
    rw [first, Nameless.graft]
    by_cases isY : name = y
    · subst isY
      have kept : outer.graft (only x (inner.graft (only name outer))) = outer.graft .free := by
        refine Nameless.graft_congr fun other mentioned => if_neg ?_
        rintro rfl
        exact absent mentioned
      simp only [only, if_true]
      exact (kept.trans outer.graft_free).symm
    · simp only [only, if_neg isY, Nameless.graft, if_neg isX]

/-! ## Filling in the names of a binder -/

mutual
/-- A form that is closed under names and filled in again has the values in the place of the
names. -/
theorem Nameless.instantiate_close {names : List String} {values : List Nameless}
    (lengths : values.length = names.length) : ∀ {form : Nameless} (counts : List Nat),
    form.Fits counts → (form.close names counts.length).instantiate values counts.length =
      form.graft fun name => ((Env.bindAll [] names values).find? name).getD (.free name)
  | .hole, _, _ => rfl
  | .free name, counts, _ => by
      rw [Nameless.close, Nameless.graft, Env.find?_bindAll [] lengths]
      cases place : lastIndex? name names with
      | some index =>
          have inside : index < values.length := lengths ▸ lastIndex?_lt_length place
          simp only [Nameless.instantiate, if_true, List.getElem?_eq_getElem inside,
            Option.getD_some]
      | none => rfl
  | .bound level index, counts, fits => by
      -- The variable points at a binder of the form, not at the one that is filled in.
      obtain ⟨count, found, _⟩ := fits
      have inside : level < counts.length := (List.getElem?_eq_some_iff.mp found).1
      rw [Nameless.close, Nameless.instantiate, if_neg (Nat.ne_of_lt inside), Nameless.graft]
  | .node tag args, counts, fits => by
      rw [Nameless.close, Nameless.instantiate, Nameless.graft,
        NamelessArgs.instantiate_close lengths counts fits]

theorem NamelessArgs.instantiate_close {names : List String} {values : List Nameless}
    (lengths : values.length = names.length) : ∀ {form : NamelessArgs} (counts : List Nat),
    form.Fits counts → (form.close names counts.length).instantiate values counts.length =
      form.graft fun name => ((Env.bindAll [] names values).find? name).getD (.free name)
  | .nil, _, _ => rfl
  | .cons count body rest, counts, fits => by
      have inBody := Nameless.instantiate_close lengths (count :: counts) fits.1
      have inRest := NamelessArgs.instantiate_close lengths counts fits.2
      rw [NamelessArgs.close, NamelessArgs.instantiate, NamelessArgs.graft, inRest]
      exact congrArg (NamelessArgs.cons count · _) inBody
end

/-- **To fill in the names of a binder is to graft their values onto the body.** -/
theorem Binder.instantiate_eq_graft {binder : Binder} {replacements : List Term}
    (lengths : replacements.length = binder.bound.length) :
    binder.instantiate replacements = (binder.body.nameless []).graft fun name =>
      ((Env.bindAll [] binder.bound replacements).valueOf name).nameless [] := by
  have values : (replacements.map (·.nameless [])).length = binder.bound.length := by
    rw [List.length_map, lengths]
  have closed : binder.body.nameless [binder.bound] =
      (binder.body.nameless []).close binder.bound 0 := binder.body.nameless_append []
  rw [Binder.instantiate, closed]
  refine (Nameless.instantiate_close values [] (binder.body.fits_nameless [])).trans ?_
  refine Nameless.graft_congr fun name _ => ?_
  rw [Env.valueOf, Env.find?_bindAll [] values, Env.find?_bindAll [] lengths]
  cases place : lastIndex? name binder.bound with
  | some index =>
      have inside : index < replacements.length := lengths ▸ lastIndex?_lt_length place
      simp only [List.getElem?_map, List.getElem?_eq_getElem inside, Option.map_some,
        Option.getD_some]
  | none => rfl

/-! ## Results of substitutions -/

section Results

variable {fresh : Strategy} (honest : fresh.Honest) (used : Names) {replacements : List Term}
  (binder : Binder)
include honest

/-- A substitution whose variables are all in use or set aside for the binder has a result, with
the replacements filled in. -/
theorem subst_of_honest (complete : binder.body.Complete)
    (lengths : replacements.length = binder.bound.length)
    (declared : ∀ name ∈ binder.body.freeNames, name ∈ fresh.scope used binder.bound)
    (contained : ∀ replacement ∈ replacements, ∀ name ∈ replacement.freeNames,
      name ∈ fresh.scope used binder.bound) :
    ∃ result, (subst fresh used replacements binder).outcome = .ok result ∧
      result.nameless [] = binder.instantiate replacements := by
  have reserved := reserve_outcome_of_honest honest used binder.bound
  have within : (Env.bindAll [] binder.bound replacements).Within
      (fresh.scope used binder.bound) :=
    Env.Within.nil.bindAll lengths (fun _ => fresh.mem_scope_of_used binder.bound)
      (fun _ => fresh.mem_scope_of_mem used)
  obtain ⟨result, inner⟩ := Term.substWith_of_declared honest complete within declared
  have ok : (subst fresh used replacements binder).outcome = .ok result := by
    rw [subst_of_reserved lengths reserved]
    exact inner
  exact ⟨result, ok, nameless_subst reserved declared contained ok⟩

/-- The same when the free variables of the body are declared or bound, and those of the
replacements are declared. -/
theorem subst_of_declared (complete : binder.body.Complete)
    (lengths : replacements.length = binder.bound.length)
    (declared : ∀ name ∈ binder.body.freeNames, name ∈ used ∨ name ∈ binder.bound)
    (contained : ∀ replacement ∈ replacements, ∀ name ∈ replacement.freeNames, name ∈ used) :
    ∃ result, (subst fresh used replacements binder).outcome = .ok result ∧
      result.nameless [] = binder.instantiate replacements := by
  refine subst_of_honest honest used binder complete lengths ?_ ?_
  · intro name free
    exact (declared name free).elim (fresh.mem_scope_of_used binder.bound)
      (fresh.mem_scope_of_mem used)
  · intro replacement member name free
    exact fresh.mem_scope_of_used binder.bound (contained replacement member name free)

end Results

/-- What a name stands for is one of the values given, or the name got none and stands for
itself. -/
theorem Env.valueOf_bindAll {names : List String} {values : List Term}
    (lengths : values.length = names.length) (name : String) :
    (Env.bindAll [] names values).valueOf name ∈ values ∨
      (name ∉ names ∧ (Env.bindAll [] names values).valueOf name = .var name) := by
  rw [Env.valueOf]
  cases found : (Env.bindAll [] names values).find? name with
  | some value =>
      rcases Env.find?_bindAll_eq_some lengths found with ⟨_, member⟩ | ⟨_, impossible⟩
      · exact .inl member
      · cases impossible
  | none =>
      refine .inr ⟨fun member => ?_, rfl⟩
      obtain ⟨index, place⟩ := exists_lastIndex? member
      have inside : index < values.length := lengths ▸ lastIndex?_lt_length place
      rw [Env.find?_bindAll [] lengths, place] at found
      simp only [List.getElem?_eq_getElem inside, reduceCtorEq] at found

/-- A free variable of a result is one of the body that is not bound, or one of a replacement. -/
theorem free_of_instantiate {binder : Binder} {replacements : List Term} {result : Term}
    (lengths : replacements.length = binder.bound.length)
    (form : result.nameless [] = binder.instantiate replacements) {name : String}
    (free : name ∈ result.freeNames) :
    (name ∈ binder.body.freeNames ∧ name ∉ binder.bound) ∨
      ∃ replacement ∈ replacements, name ∈ replacement.freeNames := by
  have mentioned : (result.nameless []).Mentions name :=
    (Term.mentions_nameless _ _).mpr ⟨free, rfl⟩
  rw [form, Binder.instantiate_eq_graft lengths] at mentioned
  obtain ⟨other, inBody, inValue⟩ := Nameless.mentions_graft mentioned
  obtain ⟨otherFree, _⟩ := (Term.mentions_nameless _ _).mp inBody
  obtain ⟨valueFree, _⟩ := (Term.mentions_nameless _ _).mp inValue
  rcases Env.valueOf_bindAll lengths other with member | ⟨outside, same⟩
  · exact .inr ⟨_, member, valueFree⟩
  · rw [same, Term.mem_freeNames_var] at valueFree
    subst valueFree
    exact .inl ⟨otherFree, outside⟩

/-- A result is declared, if the body is outside the names bound and the replacements are. -/
theorem declared_of_instantiate {binder : Binder} {replacements : List Term} {result : Term}
    {used : Names} (lengths : replacements.length = binder.bound.length)
    (form : result.nameless [] = binder.instantiate replacements)
    (declared : ∀ name ∈ binder.body.freeNames, name ∈ used ∨ name ∈ binder.bound)
    (contained : ∀ value ∈ replacements, ∀ name ∈ value.freeNames, name ∈ used) :
    ∀ name ∈ result.freeNames, name ∈ used := by
  intro name free
  rcases free_of_instantiate lengths form free with ⟨inBody, notBound⟩ | ⟨value, member, inValue⟩
  · exact (declared name inBody).resolve_right notBound
  · exact contained value member name inValue

/-! ## The laws -/

section Laws

variable {fresh : Strategy} (honest : fresh.Honest) (used : Names)
include honest

/-- **Names replaced by themselves** give the term back up to bound names. -/
theorem subst_self (names : List String) {term : Term} (complete : term.Complete)
    (declared : ∀ name ∈ term.freeNames, name ∈ used ∨ name ∈ names) :
    ∃ result, (subst fresh used (names.map .var) ⟨names, term⟩).outcome = .ok result ∧
      result.AlphaEq term := by
  have lengths : (names.map Term.var).length = names.length := List.length_map _
  have inScope : ∀ name ∈ term.freeNames, name ∈ fresh.scope used names := fun name free =>
    (declared name free).elim (fresh.mem_scope_of_used names) (fresh.mem_scope_of_mem used)
  -- The names are set aside for the binder, so the replacements need not be in use.
  have contained : ∀ replacement ∈ names.map Term.var, ∀ name ∈ replacement.freeNames,
      name ∈ fresh.scope used names := by
    intro replacement member name free
    obtain ⟨other, given, rfl⟩ := List.mem_map.mp member
    rw [Term.mem_freeNames_var.mp free]
    exact fresh.mem_scope_of_mem used given
  obtain ⟨result, ok, form⟩ :=
    subst_of_honest honest used ⟨names, term⟩ complete lengths inScope contained
  refine ⟨result, ok, ?_⟩
  calc
    result.nameless [] = (term.nameless []).graft fun name =>
        ((Env.bindAll [] names (names.map .var)).valueOf name).nameless [] := by
          rw [form, Binder.instantiate_eq_graft lengths]
    _ = (term.nameless []).graft .free :=
        Nameless.graft_congr fun name _ => by rw [Env.valueOf_bindAll_self]; rfl
    _ = term.nameless [] := Nameless.graft_free _

/-- **A substitution for one name grafts.**  Its result is a term to substitute in again: it has
no holes, and its free variables are declared. -/
theorem subst_grafts (x : String) {value body : Term} (complete : body.Complete)
    (valueComplete : value.Complete)
    (declared : ∀ name ∈ body.freeNames, name ∈ used ∨ name = x)
    (contained : ∀ name ∈ value.freeNames, name ∈ used) :
    ∃ result, (subst fresh used [value] ⟨[x], body⟩).outcome = .ok result ∧
      result.Complete ∧ (∀ name ∈ result.freeNames, name ∈ used) ∧
      result.nameless [] = (body.nameless []).graft (Nameless.only x (value.nameless [])) := by
  have lengths : [value].length = [x].length := rfl
  have bodyDeclared : ∀ name ∈ body.freeNames, name ∈ used ∨ name ∈ [x] :=
    fun name free => (declared name free).imp_right List.mem_singleton.mpr
  have given : ∀ replacement ∈ [value], ∀ name ∈ replacement.freeNames, name ∈ used :=
    List.forall_mem_singleton.mpr contained
  obtain ⟨result, ok, form⟩ :=
    subst_of_declared honest used ⟨[x], body⟩ complete lengths bodyDeclared given
  refine ⟨result, ok, ?_, declared_of_instantiate lengths form bodyDeclared given, ?_⟩
  · exact subst_complete complete (List.forall_mem_singleton.mpr valueComplete) ok
  · rw [form, Binder.instantiate_eq_graft lengths]
    refine Nameless.graft_congr fun name _ => ?_
    show (((Env.bind [] x value).find? name).getD (.var name)).nameless [] = _
    rw [Env.find?_bind, Nameless.only]
    split
    · rfl
    · rfl

/-- **Two substitutions in a row may be exchanged**, up to bound names. -/
theorem subst_comm {x y : String} (differ : x ≠ y) (xUnused : x ∉ used) {t r s : Term}
    (tComplete : t.Complete) (rComplete : r.Complete) (sComplete : s.Complete)
    (tDeclared : ∀ name ∈ t.freeNames, name ∈ used ∨ name = x ∨ name = y)
    (rDeclared : ∀ name ∈ r.freeNames, name ∈ used ∨ name = y)
    (sDeclared : ∀ name ∈ s.freeNames, name ∈ used) :
    ∃ inner left replacement body right,
      (subst fresh (used.insert y) [r] ⟨[x], t⟩).outcome = .ok inner ∧
      (subst fresh used [s] ⟨[y], inner⟩).outcome = .ok left ∧
      (subst fresh used [s] ⟨[y], r⟩).outcome = .ok replacement ∧
      (subst fresh (used.insert x) [s] ⟨[y], t⟩).outcome = .ok body ∧
      (subst fresh used [replacement] ⟨[x], body⟩).outcome = .ok right ∧
      left.AlphaEq right := by
  have inFirst : ∀ name ∈ t.freeNames, name ∈ used.insert y ∨ name = x := by
    intro name free
    rcases tDeclared name free with inUse | isX | isY
    · exact .inl (Names.mem_insert.mpr (.inr inUse))
    · exact .inr isX
    · exact .inl (Names.mem_insert.mpr (.inl isY))
  have inSecond : ∀ name ∈ t.freeNames, name ∈ used.insert x ∨ name = y := by
    intro name free
    rcases tDeclared name free with inUse | isX | isY
    · exact .inl (Names.mem_insert.mpr (.inr inUse))
    · exact .inl (Names.mem_insert.mpr (.inl isX))
    · exact .inr isY
  obtain ⟨inner, innerOk, innerComplete, innerDeclared, innerForm⟩ :=
    subst_grafts honest (used.insert y) x tComplete rComplete inFirst
      fun name free => Names.mem_insert.mpr (rDeclared name free).symm
  obtain ⟨left, leftOk, _, _, leftForm⟩ := subst_grafts honest used y innerComplete sComplete
    (fun name free => (Names.mem_insert.mp (innerDeclared name free)).symm) sDeclared
  obtain ⟨replacement, replacementOk, replacementComplete, replacementDeclared,
    replacementForm⟩ := subst_grafts honest used y rComplete sComplete rDeclared sDeclared
  obtain ⟨body, bodyOk, bodyComplete, bodyDeclared, bodyForm⟩ :=
    subst_grafts honest (used.insert x) y tComplete sComplete inSecond
      fun name free => Names.mem_insert.mpr (.inr (sDeclared name free))
  obtain ⟨right, rightOk, _, _, rightForm⟩ :=
    subst_grafts honest used x bodyComplete replacementComplete
      (fun name free => (Names.mem_insert.mp (bodyDeclared name free)).symm) replacementDeclared
  have absent : ¬ (s.nameless []).Mentions x := fun mentioned =>
    xUnused (sDeclared x ((Term.mentions_nameless _ _).mp mentioned).1)
  refine ⟨inner, left, replacement, body, right, innerOk, leftOk, replacementOk, bodyOk, rightOk,
    ?_⟩
  rw [Term.AlphaEq, leftForm, innerForm, rightForm, bodyForm, replacementForm]
  exact Nameless.graft_only_comm differ absent _

end Laws

/-- **Laws of substitution.**  Let the strategy keep its promise.  Names replaced by themselves
give a term back up to bound names, also if they repeat or are in use.  And substituting `r` for
`x` and then `s` for `y` gives, up to bound names, what is given by substituting `s` for `y` in
the term and in `r`, and then the one for `x` in the other; all five substitutions have results. -/
theorem subst_laws (fresh : Strategy) (honest : fresh.Honest) (used : Names) :
    (∀ (names : List String) (term : Term), term.Complete →
      (∀ name ∈ term.freeVars, name ∈ used ∨ name ∈ names) →
      ∃ result, (subst fresh used (names.map .var) ⟨names, term⟩).outcome = .ok result ∧
        result.AlphaEq term) ∧
    ∀ (x y : String) (t r s : Term), x ≠ y → x ∉ used → y ∉ used →
      t.Complete → r.Complete → s.Complete →
      (∀ name ∈ t.freeVars, name ∈ used ∨ name = x ∨ name = y) →
      (∀ name ∈ r.freeVars, name ∈ used ∨ name = y) → (∀ name ∈ s.freeVars, name ∈ used) →
      ∃ inner left replacement body right,
        (subst fresh (used.insert y) [r] ⟨[x], t⟩).outcome = .ok inner ∧
        (subst fresh used [s] ⟨[y], inner⟩).outcome = .ok left ∧
        (subst fresh used [s] ⟨[y], r⟩).outcome = .ok replacement ∧
        (subst fresh (used.insert x) [s] ⟨[y], t⟩).outcome = .ok body ∧
        (subst fresh used [replacement] ⟨[x], body⟩).outcome = .ok right ∧
        left.AlphaEq right := by
  simp only [Term.mem_freeVars]
  refine ⟨fun names term complete declared => subst_self honest used names complete declared, ?_⟩
  intro x y t r s differ xUnused _ tComplete rComplete sComplete tDeclared rDeclared sDeclared
  exact subst_comm honest used differ xUnused tComplete rComplete sComplete tDeclared rDeclared
    sDeclared

/-- A name that repeats is replaced by itself below a binder that is renamed.  And the binder of
`r` comes to stand below the one of `t`: one side renames it and the other does not, so that the
two results are the same up to bound names only. -/
theorem subst_laws_renamed :
    let own := Term.node "lam" (.cons ["w"] (.var "z") .nil)
    let ownResult := Term.node "lam" (.cons ["w1"] (.var "z") .nil)
    let t := Term.node "lam" (.cons ["z"] (.var "x") .nil)
    let r := Term.node "lam" (.cons ["z"] (.node "ap"
      (.cons [] (.var "y") (.cons [] (.var "z") .nil))) .nil)
    let left := Term.node "lam" (.cons ["z"] (.node "lam" (.cons ["z1"] (.node "ap"
      (.cons [] (.var "w") (.cons [] (.var "z1") .nil))) .nil)) .nil)
    let replacement := Term.node "lam" (.cons ["z"] (.node "ap"
      (.cons [] (.var "w") (.cons [] (.var "z") .nil))) .nil)
    let right := Term.node "lam" (.cons ["z"] replacement .nil)
    ((subst .digits (.ofList ["w"]) [.var "z", .var "z"] ⟨["z", "z"], own⟩).outcome =
      .ok ownResult ∧ ownResult.AlphaEq own) ∧
    ((subst .digits (.ofList ["w"]) [.var "w"]
        ⟨["y"], .node "lam" (.cons ["z"] r .nil)⟩).outcome = .ok left ∧
      (subst .digits (.ofList ["w"]) [replacement] ⟨["x"], t⟩).outcome = .ok right ∧
      left.AlphaEq right) := by
  intro own ownResult t r left replacement right
  have law := subst_laws .digits Strategy.digits_honest (.ofList ["w"])
  obtain ⟨_, ownOk, ownAlike⟩ := law.1 ["z", "z"] own ⟨trivial, trivial⟩ (by decide)
  have ownIs : (subst .digits (.ofList ["w"]) [.var "z", .var "z"] ⟨["z", "z"], own⟩).outcome =
      .ok ownResult := by
    rw [Strategy.digits_eq]
    rfl
  cases ownIs.symm.trans ownOk
  obtain ⟨_, _, _, _, _, innerOk, leftOk, replacementOk, bodyOk, rightOk, alike⟩ :=
    law.2 "x" "y" t r (.var "w") (by decide) (by decide) (by decide) ⟨trivial, trivial⟩
      ⟨⟨trivial, trivial, trivial⟩, trivial⟩ trivial (by decide) (by decide) (by decide)
  -- The first substitutions of either side meet no name in use.
  cases innerOk
  cases replacementOk
  cases bodyOk
  cases rightOk
  have leftIs : (subst .digits (.ofList ["w"]) [.var "w"]
      ⟨["y"], .node "lam" (.cons ["z"] r .nil)⟩).outcome = .ok left := by
    rw [Strategy.digits_eq]
    rfl
  cases leftIs.symm.trans leftOk
  exact ⟨⟨ownIs, ownAlike⟩, leftIs, rfl, alike⟩

end BindingTrees
