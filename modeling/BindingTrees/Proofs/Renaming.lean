import BindingTrees.Proofs.Picking
import BindingTrees.Proofs.Positions

/-!
# Environments that follow the scopes

On the way into a term, every binder passed is given picked names, and an environment
sends each bound name to the one picked for it.  The picked names form a table with
the shape of the scopes passed.  The environment follows the scopes when it sends a
name to the entry of the table at the position of the name, when it treats a name of
no scope as it did at the start, and when no name of the table was in use at the start
(`Follows`).

Entering one more binder keeps this (`Follows.enter`): the new entries are distinct, so
each stands at the position of its name, and they are not in use, so they hide none of
the entries before them.  The names in use are those at the start and the entries.
-/

set_option autoImplicit false

namespace BindingTrees

/-- The environment sends the names of the scopes to the entries of the table. -/
structure Follows {α : Type} (value : String → α) (start env : Env α) (base : Names)
    (table scopes : List (List String)) : Prop where
  bound : ∀ {name : String} {position : Nat × Nat}, locate? name scopes = some position →
    ∃ entry, env.find? name = some (value entry) ∧ locate? entry table = some position
  free : ∀ {name : String}, locate? name scopes = none → env.find? name = start.find? name
  apart : ∀ {name : String}, name ∈ base → locate? name table = none

namespace Follows

variable {α : Type} {value : String → α} {start env : Env α} {base : Names}
  {table scopes : List (List String)}

theorem refl (value : String → α) (start : Env α) (base : Names) :
    Follows value start start base [] [] where
  bound found := by cases found
  free _ := rfl
  apart _ := rfl

/-- **Entering a binder** whose names were picked outside the names in use. -/
theorem enter (follows : Follows value start env base table scopes) {fresh : Strategy}
    {stales names bound : List String} {scope : Names}
    (picked : Picked fresh (base.insertScopes table) stales scope names)
    (lengths : names.length = bound.length) :
    Follows value start (env.bindAll bound (names.map value)) base (names :: table)
      (bound :: scopes) := by
  have entries : (names.map value).length = bound.length := by rw [List.length_map, lengths]
  refine ⟨?_, ?_, ?_⟩
  · intro name position found
    rcases locate?_cons_eq_some found with ⟨index, here, rfl⟩ | ⟨absent, _, _, further, rfl⟩
    · have inside : index < names.length := lengths ▸ lastIndex?_lt_length here
      have place : names[index]? = some names[index] := List.getElem?_eq_getElem inside
      refine ⟨names[index], ?_, ?_⟩
      · rw [Env.find?_bindAll env entries, here]
        simp only [List.getElem?_map, place, Option.map_some]
      · exact locate?_cons_of_lastIndex? (lastIndex?_of_nodup picked.distinct place)
    · obtain ⟨entry, value, position⟩ := follows.bound further
      -- An older entry is in use, so it is not among the new ones.
      have older : entry ∉ names := fun member =>
        picked.unused entry member (Names.mem_insertScopes_of_locate? position)
      refine ⟨entry, ?_, ?_⟩
      · rw [Env.find?_bindAll env entries, lastIndex?_eq_none_iff.mpr absent]
        exact value
      · rw [locate?_cons_of_not_mem older, position]
        rfl
  · intro name absent
    obtain ⟨notHere, notFurther⟩ := locate?_cons_eq_none_iff.mp absent
    rw [Env.find?_bindAll env entries, lastIndex?_eq_none_iff.mpr notHere]
    exact follows.free notFurther
  · intro name member
    refine locate?_cons_eq_none_iff.mpr ⟨fun picked' => ?_, follows.apart member⟩
    exact picked.unused name picked' (Names.mem_insertScopes.mpr (.inl member))

end Follows

end BindingTrees
