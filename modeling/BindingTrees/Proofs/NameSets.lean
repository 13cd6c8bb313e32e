import BindingTrees.Proofs.FreeVariables
import Mathlib.Data.Finset.Card
import Mathlib.Data.List.Sort

/-!
# Sets of names are finite sets

A set of names may come about in many ways: from a list, by adding or taking away the names of a
list, as a union, or as the free variables of a term.  `Names.Construction` is the tree of such
steps.  It is carried out by the operations on sets of names (`Construction.build`), and read as a
finite set (`Construction.members`), where a step adds, takes away or unites.

**Each step is what it is read as**, so the members of what was built are those of the finite set
(`Construction.mem_build`).  A union that leaves out the work because one side is empty makes no
difference.

**How a set was built leaves no trace.**  The list of members is strictly ascending, so it has no
repetitions and its length is the number of members (`size_eq_card`), and sorting the members gives
it, whatever order they come in (`mergeSort_eq_toList`).  The test for equality compares the numbers
of members and looks for those of one side in the other.  As neither side has repetitions this is
enough: an inclusion between sets of one size leaves nothing out (`sameAs_iff`).
-/

set_option autoImplicit false

namespace BindingTrees

/-! ## Free variables as a finite set -/

mutual
/-- The free variables of a term, as a finite set. -/
def Term.freeSet : Term → Finset String
  | .hole => ∅
  | .var name => {name}
  | .node _ args => args.freeSet

def Args.freeSet : Args → Finset String
  | .nil => ∅
  | .cons bound body rest => (body.freeSet \ bound.toFinset) ∪ rest.freeSet
end

mutual
theorem Term.mem_freeSet {name : String} : ∀ term : Term,
    name ∈ term.freeSet ↔ name ∈ term.freeNames
  | .hole => by simp [Term.freeSet, Term.freeNames]
  | .var other => by rw [Term.freeSet, Finset.mem_singleton, Term.mem_freeNames_var]
  | .node tag args => by rw [Term.freeSet, Term.mem_freeNames_node, Args.mem_freeSet args]

theorem Args.mem_freeSet {name : String} : ∀ args : Args,
    name ∈ args.freeSet ↔ name ∈ args.freeNames
  | .nil => by simp [Args.freeSet, Args.freeNames]
  | .cons bound body rest => by
      rw [Args.freeSet, Finset.mem_union, Finset.mem_sdiff, List.mem_toFinset,
        Term.mem_freeSet body, Args.mem_freeSet rest, Args.mem_freeNames_cons]
end

namespace Names

/-! ## Size, order and equality -/

theorem nodup (names : Names) : names.toList.Nodup := by
  refine names.ascending.imp fun {before after} less => ?_
  rintro rfl
  exact String.lt_irrefl before less

/-- The size of a set is the number of its members. -/
theorem size_eq_card {names : Names} {members : Finset String}
    (same : ∀ name, name ∈ names ↔ name ∈ members) : names.size = members.card := by
  have listed : names.toList.toFinset = members := by
    ext name
    rw [List.mem_toFinset, mem_toList, same]
  rw [← listed, List.toFinset_card_of_nodup names.nodup, size]

/-- The code points of a name. -/
def codePoints (name : String) : List Nat := name.toList.map Char.toNat

/-- Names are ordered by their code points, at the first place where these differ. -/
theorem codePoints_lt {before after : String} (less : before < after) :
    codePoints before < codePoints after :=
  List.map_lt (fun _ _ below => UInt32.lt_iff_toNat_lt.mp below) (String.lt_iff.mp less)

/-- **Sorting the members**, in whatever order they come, gives the list of a set. -/
theorem mergeSort_eq_toList {names : Names} {listing : List String} (distinct : listing.Nodup)
    (same : ∀ name, name ∈ listing ↔ name ∈ names) :
    listing.mergeSort (fun before after => decide (before ≤ after)) = names.toList := by
  have members : listing.Perm names.toList :=
    (List.perm_ext_iff_of_nodup distinct names.nodup).mpr same
  have sorted : (listing.mergeSort fun before after => decide (before ≤ after)).Pairwise
      fun before after => before ≤ after := by
    refine (List.pairwise_mergeSort ?_ ?_ listing).imp of_decide_eq_true
    · intro first second third
      simpa using String.le_trans
    · intro first second
      simpa using String.le_total first second
  have ascending : names.toList.Pairwise fun before after => before ≤ after :=
    names.ascending.imp fun less => String.not_lt.mp (String.lt_asymm less)
  exact List.Perm.eq_of_pairwise (fun _ _ _ _ => String.le_antisymm) sorted ascending
    ((List.mergeSort_perm listing _).trans members)

/-- **Equally many members and one inclusion** make two sets equal. -/
theorem sameAs_iff {left right : Names} : left.sameAs right = true ↔ left = right := by
  constructor
  · intro passes
    rw [sameAs, Bool.and_eq_true, beq_iff_eq, List.all_eq_true] at passes
    obtain ⟨sizes, included⟩ := passes
    have inclusion : left.toList ⊆ right.toList := fun name member =>
      of_decide_eq_true (included name member)
    have members : left.toList.Perm right.toList :=
      (List.subperm_of_subset left.nodup inclusion).perm_of_length_le (Nat.le_of_eq sizes.symm)
    exact Names.ext fun name => members.mem_iff
  · rintro rfl
    rw [sameAs, Bool.and_eq_true, beq_iff_eq, List.all_eq_true]
    exact ⟨rfl, fun name member => decide_eq_true member⟩

/-! ## Constructions -/

/-- A way to come by a set of names. -/
inductive Construction where
  | zero
  | ofList (names : List String)
  | insertAll (earlier : Construction) (more : List String)
  | eraseAll (earlier : Construction) (fewer : List String)
  | union (left right : Construction)
  | freeVars (term : Term)

namespace Construction

/-- Carries a construction out. -/
def build : Construction → Names
  | .zero => ∅
  | .ofList names => Names.ofList names
  | .insertAll earlier more => earlier.build.insertAll more
  | .eraseAll earlier fewer => earlier.build.eraseAll fewer
  | .union left right => left.build.union right.build
  | .freeVars term => term.freeVars

/-- The finite set that a construction stands for. -/
def members : Construction → Finset String
  | .zero => ∅
  | .ofList names => names.toFinset
  | .insertAll earlier more => earlier.members ∪ more.toFinset
  | .eraseAll earlier fewer => earlier.members \ fewer.toFinset
  | .union left right => left.members ∪ right.members
  | .freeVars term => term.freeSet

/-- What was built has the members of the finite set. -/
theorem mem_build {name : String} (construction : Construction) :
    name ∈ construction.build ↔ name ∈ construction.members := by
  induction construction with
  | zero => simp [build, members]
  | ofList names => rw [build, members, Names.mem_ofList, List.mem_toFinset]
  | insertAll earlier more ih =>
      rw [build, members, Names.mem_insertAll, ih, Finset.mem_union, List.mem_toFinset, or_comm]
  | eraseAll earlier fewer ih =>
      rw [build, members, Names.mem_eraseAll, ih, Finset.mem_sdiff, List.mem_toFinset]
  | union left right ihLeft ihRight =>
      rw [build, members, Names.mem_union, ihLeft, ihRight, Finset.mem_union]
  | freeVars term => rw [build, members, Term.mem_freeVars, Term.mem_freeSet]

/-- Constructions of one finite set build one value. -/
theorem build_eq_iff {left right : Construction} :
    left.build = right.build ↔ left.members = right.members := by
  constructor
  · intro same
    ext name
    rw [← mem_build, ← mem_build, same]
  · intro same
    ext name
    rw [mem_build, mem_build, same]

/-- **A set of names represents a finite set faithfully**, however it was built: from nothing, from
lists with or without repetitions, by adding and taking away names, by unions, and from the free
variables of terms.

A name is in it exactly if it is in the finite set that the construction stands for.  To add no
names or to unite it with an empty set, on either side, gives the same set again.  Its size is the
number of members.  Its list ascends strictly by code points and holds exactly the members, and
sorting the members gives this list, whatever order they come in.  Two sets of names pass the test
for equality exactly if they have the same members, and exactly if their lists are the same. -/
theorem build_represents_members (construction : Construction) :
    (∀ name, name ∈ construction.build ↔ name ∈ construction.members) ∧
    ((insertAll construction []).build = construction.build ∧
      ∀ other : Construction, other.members = ∅ →
        (union construction other).build = construction.build ∧
          (union other construction).build = construction.build) ∧
    construction.build.size = construction.members.card ∧
    (construction.build.toList.Pairwise
        (fun before after => codePoints before < codePoints after) ∧
      (∀ name, name ∈ construction.build.toList ↔ name ∈ construction.members) ∧
      ∀ listing : List String, listing.Nodup →
        (∀ name, name ∈ listing ↔ name ∈ construction.members) →
        listing.mergeSort (fun before after => decide (before ≤ after)) =
          construction.build.toList) ∧
    ∀ other : Construction,
      (construction.build.sameAs other.build = true ↔ construction.members = other.members) ∧
      (construction.build.sameAs other.build = true ↔
        construction.build.toList = other.build.toList) := by
  refine ⟨fun name => mem_build construction, ⟨rfl, ?_⟩,
    size_eq_card fun name => mem_build construction,
    ⟨construction.build.ascending.imp codePoints_lt, fun name => mem_build construction, ?_⟩, ?_⟩
  · intro other empty
    constructor
    · rw [build_eq_iff, members, empty, Finset.union_empty]
    · rw [build_eq_iff, members, empty, Finset.empty_union]
  · intro listing distinct same
    exact mergeSort_eq_toList distinct fun name => (same name).trans (mem_build construction).symm
  · intro other
    rw [sameAs_iff]
    exact ⟨build_eq_iff, congrArg Names.toList, fun lists => Names.ext fun name => by
      rw [← mem_toList, lists, mem_toList]⟩

/-- Two names are left of a list with a repetition, after a union with an empty set and after one
name was taken away; the same two are free in a term. -/
theorem build_represents_members_twice :
    let left := Construction.eraseAll (.union (.insertAll .zero ["b", "c", "b", "a"]) (.ofList []))
      ["b"]
    let right := Construction.freeVars (.node "lam" (.cons ["x"] (.node "ap" (.cons [] (.var "c")
      (.cons [] (.var "x") (.cons [] (.var "a") .nil)))) .nil))
    left.members = right.members ∧ left.build.sameAs right.build = true ∧
      left.build.toList = right.build.toList ∧ left.build.size = 2 ∧
      ["c", "a"].mergeSort (fun before after => decide (before ≤ after)) = left.build.toList := by
  intro left right
  have same : left.members = right.members := by decide
  obtain ⟨_, _, size, ⟨_, _, sorting⟩, comparing⟩ := build_represents_members left
  have equal : left.build.sameAs right.build = true := (comparing right).1.mpr same
  refine ⟨same, equal, (comparing right).2.mp equal, size.trans (by decide), ?_⟩
  refine sorting ["c", "a"] (by decide) fun name => ?_
  have listed : left.members = ["c", "a"].toFinset := by decide
  rw [listed, List.mem_toFinset]

end Construction
end Names
end BindingTrees
