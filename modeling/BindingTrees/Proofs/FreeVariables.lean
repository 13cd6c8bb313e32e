import BindingTrees.Term.FreeVars

/-!
# One walk finds the free variables

The walk that collects free variables threads one growing set through all the
arguments of a node and one set of enclosing binders down each of them.  What it
adds is exactly what is free by the compositional reading and not in the set of
enclosing binders (`Term.mem_collectFree`): nothing of what one argument binds
reaches the next.  So both readings have the same members (`Term.mem_freeVars`),
and the compositional one, which follows the term, carries the inductions.
-/

set_option autoImplicit false

namespace BindingTrees

/-! ## Members of the compositional reading -/

@[simp]
theorem Term.mem_freeNames_var {name other : String} :
    name ∈ (Term.var other).freeNames ↔ name = other := by
  rw [Term.freeNames, Names.mem_ofList, List.mem_singleton]

@[simp]
theorem Term.mem_freeNames_node {name tag : String} {args : Args} :
    name ∈ (Term.node tag args).freeNames ↔ name ∈ args.freeNames := by
  rw [Term.freeNames]

@[simp]
theorem Args.mem_freeNames_cons {name : String} {bound : List String} {body : Term}
    {rest : Args} :
    name ∈ (Args.cons bound body rest).freeNames ↔
      (name ∈ body.freeNames ∧ name ∉ bound) ∨ name ∈ rest.freeNames := by
  rw [Args.freeNames, Names.mem_union, Names.mem_eraseAll]

/-- When the free variables of some arguments are declared, those of the first body are
declared or bound there, and those of the other arguments are declared. -/
theorem Args.declared_cons {bound : List String} {body : Term} {rest : Args} {used : Names}
    (declared : ∀ name ∈ (Args.cons bound body rest).freeNames, name ∈ used) :
    (∀ name ∈ body.freeNames, name ∈ used ∨ name ∈ bound) ∧
      ∀ name ∈ rest.freeNames, name ∈ used := by
  constructor
  · intro name free
    by_cases here : name ∈ bound
    · exact .inr here
    · exact .inl (declared name (Args.mem_freeNames_cons.mpr (.inl ⟨free, here⟩)))
  · intro name free
    exact declared name (Args.mem_freeNames_cons.mpr (.inr free))

/-! ## The walk -/

mutual
/-- The walk adds what is free and not bound outside. -/
theorem Term.mem_collectFree {name : String} : ∀ (term : Term) (found bound : Names),
    name ∈ term.collectFree found bound ↔
      name ∈ found ∨ (name ∈ term.freeNames ∧ name ∉ bound)
  | .hole, found, bound => by simp [Term.collectFree, Term.freeNames]
  | .var other, found, bound => by
      rw [Term.collectFree, Term.mem_freeNames_var]
      split
      · next inside =>
          constructor
          · exact .inl
          · rintro (earlier | ⟨same, outside⟩)
            · exact earlier
            · exact absurd (same ▸ inside) outside
      · next outside =>
          rw [Names.mem_insert]
          constructor
          · rintro (same | earlier)
            · exact .inr ⟨same, same ▸ outside⟩
            · exact .inl earlier
          · rintro (earlier | ⟨same, _⟩)
            · exact .inr earlier
            · exact .inl same
  | .node tag args, found, bound => by
      rw [Term.collectFree, Term.mem_freeNames_node]
      exact Args.mem_collectFree args found bound

theorem Args.mem_collectFree {name : String} : ∀ (args : Args) (found bound : Names),
    name ∈ args.collectFree found bound ↔
      name ∈ found ∨ (name ∈ args.freeNames ∧ name ∉ bound)
  | .nil, found, bound => by simp [Args.collectFree, Args.freeNames]
  | .cons names body rest, found, bound => by
      rw [Args.collectFree, Args.mem_collectFree rest, Term.mem_collectFree body,
        Args.mem_freeNames_cons, Names.mem_insertAll]
      constructor
      · rintro ((earlier | ⟨free, outside⟩) | ⟨free, outside⟩)
        · exact .inl earlier
        · exact .inr ⟨.inl ⟨free, fun inner => outside (.inl inner)⟩,
            fun outer => outside (.inr outer)⟩
        · exact .inr ⟨.inr free, outside⟩
      · rintro (earlier | ⟨⟨free, notHere⟩ | free, outside⟩)
        · exact .inl (.inl earlier)
        · exact .inl (.inr ⟨free, fun inside => inside.elim notHere outside⟩)
        · exact .inr ⟨free, outside⟩
end

/-- **The walk and the compositional reading agree.** -/
theorem Term.mem_freeVars {name : String} {term : Term} :
    name ∈ term.freeVars ↔ name ∈ term.freeNames := by
  rw [Term.freeVars, Term.mem_collectFree]
  simp

end BindingTrees
