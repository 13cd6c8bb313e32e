import BindingTrees.Term.Formation

/-!
# When a node can be formed

A name is atomic when it is not empty and holds neither a delimiter nor white space
(`atomic_iff`).  A node is formed exactly from arguments that all have a body and bind
atomic names only, and it then has these arguments and no others (`Term.form_eq_ok_iff`).
So a node formed over well-formed bodies is well-formed (`Term.wellFormed_of_form`).
-/

set_option autoImplicit false

namespace BindingTrees

/-! ## Names -/

theorem atomic_iff {name : String} :
    Atomic name ↔ name.toList ≠ [] ∧ (∀ c ∈ name.toList, isDelimiter c = false) ∧
      ∀ c ∈ name.toList, Text.isBlank c = false := by
  rw [Atomic, nameDefect?]
  split
  · next empty => simp [List.isEmpty_iff.mp empty]
  · split
    · next delimited =>
        obtain ⟨c, member, holds⟩ := List.any_eq_true.mp delimited
        simp only [reduceCtorEq, false_iff]
        rintro ⟨_, undelimited, _⟩
        exact absurd (undelimited c member) (by simp [holds])
    · split
      · next blank =>
          obtain ⟨c, member, holds⟩ := List.any_eq_true.mp blank
          simp only [reduceCtorEq, false_iff]
          rintro ⟨_, _, unblank⟩
          exact absurd (unblank c member) (by simp [holds])
      · next inhabited undelimited unblank => simp_all

theorem firstDefect?_eq_none_iff : ∀ {names : List String},
    firstDefect? names = none ↔ ∀ name ∈ names, Atomic name
  | [] => by simp [firstDefect?]
  | name :: rest => by
      rw [firstDefect?, List.forall_mem_cons]
      cases defect : nameDefect? name with
      | some found => simp [Atomic, defect]
      | none => simp [Atomic, defect, firstDefect?_eq_none_iff]

/-! ## Arguments -/

/-- A binder that a node may have as an argument. -/
def Binder.Formable (binder : Binder) : Prop :=
  binder.body ≠ .hole ∧ ∀ name ∈ binder.bound, Atomic name

theorem Binder.defect?_eq_none_iff {binder : Binder} :
    binder.defect? = none ↔ binder.Formable := by
  obtain ⟨bound, body⟩ := binder
  rw [Binder.defect?, Binder.Formable]
  cases body with
  | hole => simp
  | var name => simp [firstDefect?_eq_none_iff]
  | node tag args => simp [firstDefect?_eq_none_iff]

/-- Two steps succeed exactly when the second one does on what the first one gives. -/
theorem bind_eq_ok_iff {ε α β : Type} {step : Except ε α} {next : α → Except ε β} {value : β} :
    step >>= next = .ok value ↔ ∃ result, step = .ok result ∧ next result = .ok value := by
  cases step with
  | error fault => simp [bind, Except.bind]
  | ok result => simp [bind, Except.bind]

/-- A value made from a result is one exactly when there is a result to make it from. -/
theorem bind_pure_eq_ok_iff {ε α β : Type} {step : Except ε α} {former : α → β} {value : β} :
    (step >>= fun result => pure (former result)) = .ok value ↔
      ∃ result, step = .ok result ∧ value = former result := by
  simp only [bind_eq_ok_iff, pure, Except.pure, Except.ok.injEq, eq_comm (b := value)]

/-- **Arguments are formed exactly when each of them can be one**, and as they are given. -/
theorem Args.form_eq_ok_iff {tag : String} : ∀ {arguments : List Argument} {position : Nat}
    {args : Args}, Args.form tag position arguments = .ok args ↔
      (∀ argument ∈ arguments, argument.binder.Formable) ∧
        args = Args.ofList (arguments.map Argument.binder)
  | [], position, args => by
      rw [Args.form, Except.ok.injEq]
      simp [Args.ofList, eq_comm]
  | argument :: rest, position, args => by
      rw [Args.form, List.forall_mem_cons, List.map_cons, Args.ofList]
      cases defect : argument.binder.defect? with
      | some found =>
          have refused : ¬ argument.binder.Formable := by
            rw [← Binder.defect?_eq_none_iff, defect]
            simp
          simp [refused]
      | none =>
          have accepted := Binder.defect?_eq_none_iff.mp defect
          simp only [bind_pure_eq_ok_iff, Args.form_eq_ok_iff, accepted, true_and, and_assoc,
            exists_and_left, exists_eq_left]

/-! ## Nodes -/

/-- **A node is formed exactly from arguments that have a body and bind atomic names.** -/
theorem Term.form_eq_ok_iff {tag : String} {arguments : List Argument} {term : Term} :
    Term.form tag arguments = .ok term ↔
      (∀ argument ∈ arguments, argument.binder.Formable) ∧
        term = .node tag (Args.ofList (arguments.map Argument.binder)) := by
  rw [Term.form]
  simp only [bind_pure_eq_ok_iff, Args.form_eq_ok_iff, and_assoc, exists_and_left, exists_eq_left]

/-! ## Well-formed terms -/

theorem Args.wellFormed_ofList : ∀ {binders : List Binder},
    (∀ binder ∈ binders, (∀ name ∈ binder.bound, Atomic name) ∧ binder.body.WellFormed) →
      (Args.ofList binders).WellFormed
  | [], _ => trivial
  | binder :: rest, formed => by
      obtain ⟨⟨atomic, body⟩, others⟩ := List.forall_mem_cons.mp formed
      exact ⟨atomic, body, Args.wellFormed_ofList others⟩

/-- A node formed over well-formed bodies is well-formed. -/
theorem Term.wellFormed_of_form {tag : String} {arguments : List Argument} {term : Term}
    (bodies : ∀ argument ∈ arguments, argument.binder.body.WellFormed)
    (ok : Term.form tag arguments = .ok term) : term.WellFormed := by
  obtain ⟨formable, rfl⟩ := Term.form_eq_ok_iff.mp ok
  refine Args.wellFormed_ofList fun binder member => ?_
  obtain ⟨argument, given, rfl⟩ := List.mem_map.mp member
  exact ⟨(formable argument given).2, bodies argument given⟩

mutual
/-- A well-formed term has no holes. -/
theorem Term.WellFormed.complete : ∀ {term : Term}, term.WellFormed → term.Complete
  | .hole, formed => formed
  | .var _, _ => trivial
  | .node _ _, formed => Args.WellFormed.complete formed

theorem Args.WellFormed.complete : ∀ {args : Args}, args.WellFormed → args.Complete
  | .nil, _ => trivial
  | .cons _ _ _, ⟨_, body, rest⟩ =>
      ⟨Term.WellFormed.complete body, Args.WellFormed.complete rest⟩
end

end BindingTrees
