import BindingTrees.Engine.Record
import BindingTrees.Freshening

/-!
# Picking names

A name that is not in use is kept.  For one that is, the strategy is asked, and an
answer that is in use itself breaks the strategy's promise.  A list of names is
picked from left to right, each avoiding the names in use and those picked before
it, and picking tells whether any name had to change (`pickEach`).  Opening and
substitution need only the names and the set that results (`pickAll`), and for the
binder substituted into only the set (`reserve`).

A list collides when one of its names is in use or repeats an earlier one
(`collides`): these are the lists in which picking changes something.
-/

set_option autoImplicit false

namespace BindingTrees

/-- A name to use for `stale`: itself unless it is in use. -/
def pick (fresh : Strategy) (used : Names) (stale : String) : Recorded Fault String :=
  if stale ∈ used then do
    let answer := fresh used stale
    Recorded.note (.asked used stale answer)
    if answer ∈ used then Recorded.fail (.stillUsed answer stale) else pure answer
  else pure stale

/-- The names in use after names for a list were picked, those names, and whether any of
them had to change. -/
def pickEach (fresh : Strategy) (used : Names) :
    List String → Recorded Fault (Names × List String × Bool)
  | [] => pure (used, [], false)
  | stale :: rest => do
      let name ← pick fresh used stale
      let (scope, names, changed) ← pickEach fresh (used.insert name) rest
      pure (scope, name :: names, name != stale || changed)

/-- Names to use for a list of names, and the names in use after that. -/
def pickAll (fresh : Strategy) (used : Names) (stales : List String) :
    Recorded Fault (Names × List String) := do
  let (scope, names, _) ← pickEach fresh used stales
  pure (scope, names)

theorem pickAll_cons (fresh : Strategy) (used : Names) (stale : String) (rest : List String) :
    pickAll fresh used (stale :: rest) = (do
      let name ← pick fresh used stale
      let (scope, names) ← pickAll fresh (used.insert name) rest
      pure (scope, name :: names)) := by
  simp only [pickAll, pickEach, bind_assoc, pure_bind]

/-- As many names are picked as there are names to pick for. -/
theorem length_of_pickAll {fresh : Strategy} : ∀ {stales : List String} {used scope : Names}
    {names : List String}, (pickAll fresh used stales).outcome = .ok (scope, names) →
      names.length = stales.length
  | [], _, _, _, ok => by
      cases ok
      rfl
  | stale :: rest, used, _, _, ok => by
      rw [pickAll_cons, Recorded.outcome_bind_eq_ok] at ok
      obtain ⟨name, _, ok⟩ := ok
      rw [Recorded.outcome_bind_eq_ok] at ok
      obtain ⟨⟨scope, names⟩, restOk, last⟩ := ok
      cases last
      rw [List.length_cons, List.length_cons, length_of_pickAll restOk]

/-- The names in use after names for a whole list were set aside. -/
def reserve (fresh : Strategy) (used : Names) : List String → Recorded Fault Names
  | [] => pure used
  | stale :: rest => do
      let name ← pick fresh used stale
      reserve fresh (used.insert name) rest

/-- Whether a name of the list is in use or in `earlier`, or repeats one before it. -/
def collidesAfter (used : Names) (earlier : List String) : List String → Bool
  | [] => false
  | name :: rest =>
      name ∈ used || earlier.contains name || collidesAfter used (name :: earlier) rest

/-- Whether some name of the list is in use or repeats an earlier one. -/
def collides (used : Names) (names : List String) : Bool := collidesAfter used [] names

end BindingTrees
