import BindingTrees.Names
import BindingTrees.Text.Quoted
import Std.Data.HashSet

/-!
# Freshening strategies

A strategy answers, for a set of names in use and a stale name in it, with a name
to use instead.  It is a function of the set's members and the stale name, and it
keeps its promise when the answer is not in use (`Strategy.Honest`).

Two strategies are known by name.  Both try a numbered family of candidates from
the first on and take the least one that is not in use: one of the first
`used.size + 1` candidates always is, because they are distinct.

**Digits.** The trailing digits and prime marks of the stale name are dropped and
the numeral of 1, 2, 3, ... is put in their place.

**Primes.** One, two, three, ... prime marks are appended to the stale name.
-/

set_option autoImplicit false

namespace BindingTrees

/-- A choice of a name to use instead of one that is in use. -/
abbrev Strategy := Names → String → String

namespace Strategy

/-- The answer for a name in use is never in use itself. -/
def Honest (fresh : Strategy) : Prop :=
  ∀ (used : Names) (stale : String), stale ∈ used → fresh used stale ∉ used

/-- The least number from 1 on whose candidate is not in use.  The search ends
after `used.size + 1` candidates.  They are looked up in a table of the names in use,
which finds each of them at once (`leastFree_eq`). -/
def leastFree (used : Names) (candidate : Nat → String) : Nat :=
  let table := Std.HashSet.ofList used.toList
  ((List.range' 1 (used.size + 1)).find? fun index => !table.contains (candidate index)).getD 0

theorem leastFree_eq (used : Names) (candidate : Nat → String) :
    leastFree used candidate =
      ((List.range' 1 (used.size + 1)).find? fun index => candidate index ∉ used).getD 0 := by
  have same : (fun index => !(Std.HashSet.ofList used.toList).contains (candidate index)) =
      fun index => decide (candidate index ∉ used) := by
    funext index
    rw [Std.HashSet.contains_ofList, Bool.eq_iff_iff]
    simp [Names.mem_toList]
  rw [leastFree, same]

/-- Digits and the prime mark. -/
def isSuffixMark (c : Char) : Bool :=
  c.isDigit || c == Text.apostrophe

/-- A name without its trailing digits and prime marks. -/
def root (name : String) : String :=
  String.ofList (name.toList.reverse.dropWhile isSuffixMark).reverse

/-- The root of a name followed by a numeral. -/
def numbered (name : String) (index : Nat) : String :=
  root name ++ toString index

/-- A name followed by prime marks. -/
def primed (name : String) (count : Nat) : String :=
  name ++ String.ofList (List.replicate count Text.apostrophe)

/-- The least numeral after the root of the stale name that is not in use. -/
def digits : Strategy := fun used stale =>
  numbered stale (leastFree used (numbered stale))

/-- The fewest prime marks after the stale name that are not in use. -/
def primes : Strategy := fun used stale =>
  primed stale (leastFree used (primed stale))

/-- The strategies known by name; no name at all means `digits`. -/
def ofName? : String → Option Strategy
  | "" => some digits
  | "digits" => some digits
  | "primes" => some primes
  | _ => none

end Strategy

/-- A strategy that was asked for by a name that none has. -/
structure UnknownStrategy where
  name : String
deriving DecidableEq, Repr

def UnknownStrategy.message (error : UnknownStrategy) : String :=
  "unknown freshening strategy " ++ Text.quote error.name

/-- The strategy of a name. -/
def Strategy.named (name : String) : Except UnknownStrategy Strategy :=
  match Strategy.ofName? name with
  | some fresh => .ok fresh
  | none => .error ⟨name⟩

/-- What the names of strategies stand for; no name at all stands for `digits`. -/
inductive Strategy.Named : String → Strategy → Prop
  | unnamed : Named "" digits
  | digits : Named "digits" digits
  | primes : Named "primes" primes

theorem Strategy.ofName?_eq_some_iff {name : String} {fresh : Strategy} :
    Strategy.ofName? name = some fresh ↔ Strategy.Named name fresh := by
  constructor
  · intro found
    unfold Strategy.ofName? at found
    split at found <;> cases found
    · exact .unnamed
    · exact .digits
    · exact .primes
  · intro called
    cases called <;> rfl

theorem Strategy.named_eq_ok_iff {name : String} {fresh : Strategy} :
    Strategy.named name = .ok fresh ↔ Strategy.Named name fresh := by
  rw [← Strategy.ofName?_eq_some_iff, Strategy.named]
  cases Strategy.ofName? name with
  | none => simp
  | some found => simp

/-- A name is unknown when it is that of no strategy, and the error tells it. -/
theorem Strategy.named_eq_error_iff {name : String} {unknown : UnknownStrategy} :
    Strategy.named name = .error unknown ↔
      (∀ fresh, ¬ Strategy.Named name fresh) ∧ unknown = ⟨name⟩ := by
  simp only [← Strategy.ofName?_eq_some_iff, Strategy.named]
  cases Strategy.ofName? name with
  | none => simp [eq_comm]
  | some found => simp

end BindingTrees
