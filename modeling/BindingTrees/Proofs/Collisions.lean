import BindingTrees.Engine.Subst
import BindingTrees.Proofs.FreshNames
import BindingTrees.Proofs.Picking

/-!
# Two tests for a collision

Whether a binder has to be renamed is found out in two ways.  `collides` looks at the names as they
stand: one of them is in use, or repeats an earlier one.  `pickEach` looks at the names it picks,
each against a scope that grows by the names picked before it, and tells whether any of them is not
the one it was picked for.  A name that was just picked may be the very name that comes next in the
list, so the two do not look at the same sets on their way.

They agree (`collision_tests_agree`).  Picked names are distinct and were not in use, so a list that
is kept as it is does not collide; and a list that does not collide is kept.  The names set aside by
a substitution into the binder are those that were picked for it, so both go on in one scope.
-/

set_option autoImplicit false

namespace BindingTrees

section PickEach

variable {fresh : Strategy}

/-- Picking tells that a name had to change exactly if it returns another list. -/
theorem pickEach_changed_iff : ∀ {stales : List String} {used scope : Names} {names : List String}
    {changed : Bool}, (pickEach fresh used stales).outcome = .ok (scope, names, changed) →
      (changed = true ↔ names ≠ stales)
  | [], _, _, _, _, ok => by
      cases ok
      simp
  | stale :: rest, used, _, _, _, ok => by
      rw [pickEach, Recorded.outcome_bind_eq_ok] at ok
      obtain ⟨name, _, ok⟩ := ok
      rw [Recorded.outcome_bind_eq_ok] at ok
      obtain ⟨⟨scope, names, changed⟩, restOk, last⟩ := ok
      cases last
      have inRest : changed = true ↔ names ≠ rest := pickEach_changed_iff restOk
      rw [Bool.or_eq_true, bne_iff_ne, inRest, ne_eq, ne_eq, ne_eq, List.cons.injEq, not_and_or]

theorem pickAll_of_pickEach {used scope : Names} {stales names : List String} {changed : Bool}
    (ok : (pickEach fresh used stales).outcome = .ok (scope, names, changed)) :
    (pickAll fresh used stales).outcome = .ok (scope, names) := by
  rw [pickAll, Recorded.outcome_bind_eq_ok]
  exact ⟨_, ok, rfl⟩

end PickEach

/-- **The two tests for a collision agree, and one scope serves both.**  Let the strategy be any at
all, and let names be picked for a list without a promise being broken.

The list collides exactly if picking tells that a name had to change, which is so exactly if the
name picked at some place is not the one that stands there; then the list of picked names is another
one, and else it is the same.  The names picked are distinct and were not in use.  A substitution
into a binder with these names sets aside the scope that picking returns, and passes over the body
in it.  The scope consists of the names in use and the names picked, and holds the names they were
picked for. -/
theorem collision_tests_agree (fresh : Strategy) (used : Names) (stales : List String)
    (scope : Names) (names : List String) (changed : Bool)
    (ok : (pickEach fresh used stales).outcome = .ok (scope, names, changed)) :
    ((collides used stales = true ↔ changed = true) ∧
      (changed = true ↔ ∃ index : Nat, names[index]? ≠ stales[index]?) ∧
      (changed = true → names ≠ stales) ∧ (changed = false → names = stales)) ∧
    (names.length = stales.length ∧ names.Nodup ∧ ∀ name ∈ names, name ∉ used) ∧
    ((reserve fresh used stales).outcome = .ok scope ∧
      ∀ (replacements : List Term) (body : Term), replacements.length = stales.length →
        (subst fresh used replacements ⟨stales, body⟩).outcome =
          (body.substWith fresh scope (Env.bindAll [] stales replacements)).outcome) ∧
    (∀ name, name ∈ scope ↔ name ∈ used ∨ name ∈ names) ∧ ∀ name ∈ stales, name ∈ scope := by
  have allOk : (pickAll fresh used stales).outcome = .ok (scope, names) := pickAll_of_pickEach ok
  have picked : Picked fresh used stales scope names := pickAll_picked allOk
  have told : changed = true ↔ names ≠ stales := pickEach_changed_iff ok
  have reserved : (reserve fresh used stales).outcome = .ok scope := by
    rw [reserve_outcome, allOk]
    rfl
  refine ⟨⟨?_, ?_, told.mp, ?_⟩, ⟨picked.length_eq, picked.distinct, picked.unused⟩,
    ⟨reserved, fun replacements body lengths => subst_of_reserved lengths reserved⟩, ?_,
    fun name => picked.mem_scope⟩
  · rw [picked.collides_iff, told]
  · rw [told, ne_eq, List.ext_getElem?_iff, not_forall]
  · intro unchanged
    by_contra differs
    rw [told.mpr differs] at unchanged
    cases unchanged
  · intro name
    rw [picked.gained, Names.mem_insertAll, or_comm]

/-- With `x` in use, the name picked for `x` is the one that comes next in the list, and the one
picked for that is passed when `x` comes again.  A substitution into the binder goes on in the same
scope, in which a free `x2` counts as in use. -/
theorem collision_tests_agree_chained :
    let used := Names.ofList ["x"]
    let stales := ["x", "x1", "x"]
    let scope := Names.ofList ["x", "x1", "x2", "x3"]
    (pickEach .digits used stales).outcome = .ok (scope, ["x1", "x2", "x3"], true) ∧
      collides used stales = true ∧ ["x1", "x2", "x3"] ≠ stales ∧
      (reserve .digits used stales).outcome = .ok scope ∧
      (subst .digits used [.var "a", .var "b", .var "c"] ⟨stales, .var "x2"⟩).outcome =
        ((Term.var "x2").substWith .digits scope
          (Env.bindAll [] stales [.var "a", .var "b", .var "c"])).outcome := by
  intro used stales scope
  have ok : (pickEach .digits used stales).outcome = .ok (scope, ["x1", "x2", "x3"], true) := by
    rw [Strategy.digits_eq]
    decide
  obtain ⟨⟨test, _, differs, _⟩, _, ⟨reserved, passes⟩, _⟩ :=
    collision_tests_agree .digits used stales scope ["x1", "x2", "x3"] true ok
  exact ⟨ok, test.mpr rfl, differs rfl, reserved, passes _ _ rfl⟩

end BindingTrees
