import BindingTrees.Proofs.FreeVariables
import BindingTrees.Proofs.Positions

/-!
# Laws of nameless forms

The nameless form of a term depends on the scopes around it only through the
positions of its free variables (`Term.nameless_congr`).  Its free names are the free
variables that no scope has (`Term.mentions_nameless`), and its bound variables point
at places that exist (`Term.fits_nameless`).

An outermost scope can be added to a form afterwards: every free name of the scope is
made to point at its last place (`Nameless.close`, `Term.nameless_append`).  Filling in
the names of a binder by other names and closing under those gives the form back,
provided that the names are distinct and new to it (`Nameless.close_instantiate`).
-/

set_option autoImplicit false

namespace BindingTrees

/-! ## Variables -/

theorem Term.nameless_var_of_some {name : String} {scopes : List (List String)}
    {position : Nat × Nat} (found : locate? name scopes = some position) :
    (Term.var name).nameless scopes = .bound position.1 position.2 := by
  rw [Term.nameless, found]

theorem Term.nameless_var_of_none {name : String} {scopes : List (List String)}
    (absent : locate? name scopes = none) : (Term.var name).nameless scopes = .free name := by
  rw [Term.nameless, absent]

/-- The form of a variable is neither a hole nor a node. -/
theorem Term.nameless_var_cases (name : String) (scopes : List (List String)) :
    (Term.var name).nameless scopes = .free name ∨
      ∃ depth index, (Term.var name).nameless scopes = .bound depth index := by
  cases found : locate? name scopes with
  | some position => exact .inr ⟨_, _, Term.nameless_var_of_some found⟩
  | none => exact .inl (Term.nameless_var_of_none found)

/-! ## Free names of a form -/

mutual
/-- A name stands free in a form. -/
def Nameless.Mentions (name : String) : Nameless → Prop
  | .hole => False
  | .free other => name = other
  | .bound _ _ => False
  | .node _ args => args.Mentions name

def NamelessArgs.Mentions (name : String) : NamelessArgs → Prop
  | .nil => False
  | .cons _ body rest => body.Mentions name ∨ rest.Mentions name
end

mutual
/-- **The free names of a form** are the free variables that no scope has. -/
theorem Term.mentions_nameless {name : String} : ∀ (term : Term) (scopes : List (List String)),
    (term.nameless scopes).Mentions name ↔ name ∈ term.freeNames ∧ locate? name scopes = none
  | .hole, _ => by simp [Term.nameless, Nameless.Mentions, Term.freeNames]
  | .var other, scopes => by
      rw [Term.nameless, Term.mem_freeNames_var]
      split
      · next depth index found =>
          simp only [Nameless.Mentions, false_iff, not_and]
          rintro rfl
          simp [found]
      · next absent =>
          simp only [Nameless.Mentions]
          exact ⟨fun same => ⟨same, same ▸ absent⟩, And.left⟩
  | .node _ args, scopes => by
      rw [Term.nameless, Nameless.Mentions, Term.mem_freeNames_node]
      exact Args.mentions_nameless args scopes

theorem Args.mentions_nameless {name : String} : ∀ (args : Args) (scopes : List (List String)),
    (args.nameless scopes).Mentions name ↔ name ∈ args.freeNames ∧ locate? name scopes = none
  | .nil, _ => by simp [Args.nameless, NamelessArgs.Mentions, Args.freeNames]
  | .cons bound body rest, scopes => by
      rw [Args.nameless, NamelessArgs.Mentions, Term.mentions_nameless body,
        Args.mentions_nameless rest, Args.mem_freeNames_cons, locate?_cons_eq_none_iff,
        or_and_right, and_assoc]
end

/-- What is known of the free variables that no scope has is known inside an argument,
where its own names are one more scope, and in the arguments after it. -/
theorem Args.free_outside_cons {bound : List String} {body : Term} {rest : Args}
    {scopes : List (List String)} {known : Names}
    (outside : ∀ name ∈ (Args.cons bound body rest).freeNames,
      locate? name scopes = none → name ∈ known) :
    (∀ name ∈ body.freeNames, locate? name (bound :: scopes) = none → name ∈ known) ∧
      ∀ name ∈ rest.freeNames, locate? name scopes = none → name ∈ known := by
  constructor
  · intro name free absent
    obtain ⟨notHere, notFurther⟩ := locate?_cons_eq_none_iff.mp absent
    exact outside name (Args.mem_freeNames_cons.mpr (.inl ⟨free, notHere⟩)) notFurther
  · intro name free
    exact outside name (Args.mem_freeNames_cons.mpr (.inr free))

/-! ## Bound variables of a form -/

mutual
/-- Every bound variable points at a place of a binder, where the binders around the
form have so many names, the innermost first. -/
def Nameless.Fits (counts : List Nat) : Nameless → Prop
  | .hole => True
  | .free _ => True
  | .bound depth index => ∃ count, counts[depth]? = some count ∧ index < count
  | .node _ args => args.Fits counts

def NamelessArgs.Fits (counts : List Nat) : NamelessArgs → Prop
  | .nil => True
  | .cons count body rest => body.Fits (count :: counts) ∧ rest.Fits counts
end

mutual
theorem Term.fits_nameless : ∀ (term : Term) (scopes : List (List String)),
    (term.nameless scopes).Fits (scopes.map List.length)
  | .hole, _ => by
      rw [Term.nameless, Nameless.Fits]
      trivial
  | .var name, scopes => by
      rw [Term.nameless]
      split
      · next depth index found =>
          obtain ⟨scope, member, place⟩ := locate?_getElem? found
          refine ⟨scope.length, ?_, lastIndex?_lt_length place⟩
          rw [List.getElem?_map, member]
          rfl
      · trivial
  | .node _ args, scopes => by
      rw [Term.nameless, Nameless.Fits]
      exact Args.fits_nameless args scopes

theorem Args.fits_nameless : ∀ (args : Args) (scopes : List (List String)),
    (args.nameless scopes).Fits (scopes.map List.length)
  | .nil, _ => by
      rw [Args.nameless, NamelessArgs.Fits]
      trivial
  | .cons bound body rest, scopes => by
      rw [Args.nameless, NamelessArgs.Fits]
      exact ⟨Term.fits_nameless body (bound :: scopes), Args.fits_nameless rest scopes⟩
end

/-! ## Only positions count -/

/-- One more scope keeps the agreement of two lists of scopes on a name. -/
theorem locate?_cons_congr {name : String} {scope : List String}
    {scopes others : List (List String)}
    (agree : name ∉ scope → locate? name scopes = locate? name others) :
    locate? name (scope :: scopes) = locate? name (scope :: others) := by
  cases found : lastIndex? name scope with
  | some index => rw [locate?_cons_of_lastIndex? found, locate?_cons_of_lastIndex? found]
  | none =>
      have absent := lastIndex?_eq_none_iff.mp found
      rw [locate?_cons_of_not_mem absent, locate?_cons_of_not_mem absent, agree absent]

mutual
/-- The form of a term depends on the positions of its free variables alone. -/
theorem Term.nameless_congr : ∀ {term : Term} {scopes others : List (List String)},
    (∀ name ∈ term.freeNames, locate? name scopes = locate? name others) →
      term.nameless scopes = term.nameless others
  | .hole, _, _, _ => rfl
  | .var name, scopes, others, agree => by
      rw [Term.nameless, Term.nameless, agree name (Term.mem_freeNames_var.mpr rfl)]
  | .node tag args, scopes, others, agree => by
      rw [Term.nameless, Term.nameless, Args.nameless_congr agree]

theorem Args.nameless_congr : ∀ {args : Args} {scopes others : List (List String)},
    (∀ name ∈ args.freeNames, locate? name scopes = locate? name others) →
      args.nameless scopes = args.nameless others
  | .nil, _, _, _ => rfl
  | .cons bound body rest, scopes, others, agree => by
      have inBody : ∀ name ∈ body.freeNames,
          locate? name (bound :: scopes) = locate? name (bound :: others) := by
        intro name member
        refine locate?_cons_congr fun absent => ?_
        exact agree name (Args.mem_freeNames_cons.mpr (.inl ⟨member, absent⟩))
      have inRest : ∀ name ∈ rest.freeNames, locate? name scopes = locate? name others :=
        fun name member => agree name (Args.mem_freeNames_cons.mpr (.inr member))
      rw [Args.nameless, Args.nameless, Term.nameless_congr inBody, Args.nameless_congr inRest]
end

/-- Scopes that have none of the free variables make no difference. -/
theorem Term.nameless_of_absent {term : Term} {scopes : List (List String)}
    (absent : ∀ name ∈ term.freeNames, locate? name scopes = none) :
    term.nameless scopes = term.nameless [] :=
  Term.nameless_congr absent

/-! ## Terms with the same form -/

mutual
/-- A term with the form of a term without holes has none either. -/
theorem Term.complete_of_nameless : ∀ {term other : Term} {scopes others : List (List String)},
    term.nameless scopes = other.nameless others → term.Complete → other.Complete
  | .hole, _, _, _, _, complete => complete.elim
  | .var name, .hole, scopes, _, same, _ => by
      rcases Term.nameless_var_cases name scopes with free | ⟨_, _, bound⟩
      · cases free.symm.trans same
      · cases bound.symm.trans same
  | .node _ _, .hole, _, _, same, _ => by cases same
  | .var _, .var _, _, _, _, _ => trivial
  | .node _ _, .var _, _, _, _, _ => trivial
  | .var name, .node _ _, scopes, _, same, _ => by
      rcases Term.nameless_var_cases name scopes with free | ⟨_, _, bound⟩
      · cases free.symm.trans same
      · cases bound.symm.trans same
  | .node _ _, .node _ _, _, _, same, complete =>
      Args.complete_of_nameless (Nameless.node.inj same).2 complete

theorem Args.complete_of_nameless : ∀ {args other : Args} {scopes others : List (List String)},
    args.nameless scopes = other.nameless others → args.Complete → other.Complete
  | _, .nil, _, _, _, _ => trivial
  | .nil, .cons _ _ _, _, _, same, _ => by cases same
  | .cons _ _ _, .cons _ _ _, _, _, same, complete => by
      obtain ⟨_, bodies, rests⟩ := NamelessArgs.cons.inj same
      exact ⟨Term.complete_of_nameless bodies complete.1,
        Args.complete_of_nameless rests complete.2⟩
end

/-- Terms that are the same up to bound names have the same free variables. -/
theorem Term.AlphaEq.mem_freeNames_iff {left right : Term} (alike : left.AlphaEq right)
    {name : String} : name ∈ left.freeNames ↔ name ∈ right.freeNames := by
  have onLeft : (left.nameless []).Mentions name ↔ _ := Term.mentions_nameless left []
  have onRight : (right.nameless []).Mentions name ↔ _ := Term.mentions_nameless right []
  rw [← show left.nameless [] = right.nameless [] from alike, onLeft] at onRight
  simpa [locate?] using onRight

/-! ## Filling in nothing -/

mutual
theorem Nameless.instantiate_nil (depth : Nat) : ∀ form : Nameless, form.instantiate [] depth = form
  | .hole => rfl
  | .free _ => rfl
  | .bound level index => by
      rw [Nameless.instantiate]
      split
      · rfl
      · rfl
  | .node tag args => by rw [Nameless.instantiate, NamelessArgs.instantiate_nil depth args]

theorem NamelessArgs.instantiate_nil (depth : Nat) :
    ∀ form : NamelessArgs, form.instantiate [] depth = form
  | .nil => rfl
  | .cons count body rest => by
      rw [NamelessArgs.instantiate, Nameless.instantiate_nil (depth + 1) body,
        NamelessArgs.instantiate_nil depth rest]
end

/-- Nothing filled in for no names is the form of the term. -/
theorem Binder.instantiate_nothing (term : Term) :
    Binder.instantiate ⟨[], term⟩ [] = term.nameless [] := by
  rw [Binder.instantiate, List.map_nil, Nameless.instantiate_nil]
  exact Term.nameless_of_absent fun name _ => rfl

/-! ## Closing -/

mutual
/-- Makes the free names of a list point at a binder of that list, `depth` levels out. -/
def Nameless.close (names : List String) (depth : Nat) : Nameless → Nameless
  | .hole => .hole
  | .free name =>
      match lastIndex? name names with
      | some index => .bound depth index
      | none => .free name
  | .bound level index => .bound level index
  | .node tag args => .node tag (args.close names depth)

def NamelessArgs.close (names : List String) (depth : Nat) : NamelessArgs → NamelessArgs
  | .nil => .nil
  | .cons count body rest => .cons count (body.close names (depth + 1)) (rest.close names depth)
end

mutual
/-- An outermost scope may be added afterwards. -/
theorem Term.nameless_append {names : List String} :
    ∀ (term : Term) (scopes : List (List String)),
      term.nameless (scopes ++ [names]) = (term.nameless scopes).close names scopes.length
  | .hole, _ => rfl
  | .var name, scopes => by
      rw [Term.nameless, Term.nameless]
      cases found : locate? name scopes with
      | some position =>
          rw [locate?_append_of_some found]
          rfl
      | none =>
          rw [locate?_append_of_none found, locate?, locate?]
          simp only [Nameless.close]
          cases lastIndex? name names with
          | some index => rfl
          | none => rfl
  | .node tag args, scopes => by
      rw [Term.nameless, Term.nameless, Nameless.close, Args.nameless_append args scopes]

theorem Args.nameless_append {names : List String} :
    ∀ (args : Args) (scopes : List (List String)),
      args.nameless (scopes ++ [names]) = (args.nameless scopes).close names scopes.length
  | .nil, _ => rfl
  | .cons bound body rest, scopes => by
      rw [Args.nameless, Args.nameless, NamelessArgs.close, Args.nameless_append rest scopes]
      exact congrArg (NamelessArgs.cons _ · _) (Term.nameless_append body (bound :: scopes))
end

mutual
/-- **Filling in names and closing under them changes nothing**, when the names are
distinct and the form has none of them. -/
theorem Nameless.close_instantiate {names : List String} (distinct : names.Nodup) :
    ∀ {form : Nameless} (counts : List Nat), form.Fits (counts ++ [names.length]) →
      (∀ name ∈ names, ¬ form.Mentions name) →
      (form.instantiate (names.map .free) counts.length).close names counts.length = form
  | .hole, _, _, _ => rfl
  | .free name, counts, _, absent => by
      have notMember : name ∉ names := fun member => absent name member rfl
      rw [Nameless.instantiate, Nameless.close, lastIndex?_eq_none_iff.mpr notMember]
  | .bound level index, counts, fits, _ => by
      rw [Nameless.instantiate]
      split
      · next same =>
          -- The variable points at the binder: its place is that of the name put there.
          subst same
          obtain ⟨count, found, inside⟩ := fits
          rw [List.getElem?_concat_length] at found
          cases found
          have place : names[index]? = some names[index] := List.getElem?_eq_getElem inside
          rw [List.getElem?_map, place]
          simp only [Option.map_some, Option.getD_some, Nameless.close]
          rw [lastIndex?_of_nodup distinct place]
      · rfl
  | .node tag args, counts, fits, absent => by
      rw [Nameless.instantiate, Nameless.close,
        NamelessArgs.close_instantiate distinct counts fits absent]

theorem NamelessArgs.close_instantiate {names : List String} (distinct : names.Nodup) :
    ∀ {form : NamelessArgs} (counts : List Nat), form.Fits (counts ++ [names.length]) →
      (∀ name ∈ names, ¬ form.Mentions name) →
      (form.instantiate (names.map .free) counts.length).close names counts.length = form
  | .nil, _, _, _ => rfl
  | .cons count body rest, counts, fits, absent => by
      have inBody := Nameless.close_instantiate distinct (count :: counts) fits.1
        fun name member mentioned => absent name member (.inl mentioned)
      have inRest := NamelessArgs.close_instantiate distinct counts fits.2
        fun name member mentioned => absent name member (.inr mentioned)
      rw [NamelessArgs.instantiate, NamelessArgs.close, inRest]
      exact congrArg (NamelessArgs.cons count · rest) inBody
end

end BindingTrees
