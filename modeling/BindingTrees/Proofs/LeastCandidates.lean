import BindingTrees.Proofs.FreshNames
import BindingTrees.Proofs.Picking
import Mathlib.Data.List.DropRight

/-!
# Least candidates

A strategy that is known by name tries candidates one after the other until one is not in use.
Nothing in such a search says when it ends.  `Search` describes it by its steps: the candidate of a
state is the answer, unless it is in use and the search goes on from the next state.

**The search ends.**  The least candidate that is not in use is one of the first `used.size + 1`
(`IsLeastFree`).  The search takes one step for each candidate below it and stops there
(`search_of_isLeastFree`), and there the bounded search of the strategies stops as well.

**The root of a name** is the name without the digits and prime marks at its end.  They are taken
off as far as they go (`exists_run`, `not_isSuffixMark_of_getLast?_root`), so that a numeral put in
their place can be taken off again (`root_numbered`): a fresh name is freshened within the family
of candidates that it is from.
-/

set_option autoImplicit false

namespace BindingTrees
namespace Strategy

/-! ## Searching -/

/-- A search from a state, with the candidates tested, in order, and the answer. -/
inductive Search {σ : Type} (used : Names) (candidate : σ → String) (advance : σ → σ) :
    σ → List String → String → Prop
  | found {state : σ} : candidate state ∉ used →
      Search used candidate advance state [candidate state] (candidate state)
  | next {state : σ} {tested : List String} {answer : String} : candidate state ∈ used →
      Search used candidate advance (advance state) tested answer →
      Search used candidate advance state (candidate state :: tested) answer

section Search

variable {σ : Type} {used : Names} {candidate : σ → String} {advance : σ → σ} (state : Nat → σ)

/-- A search passes the states whose candidates are in use, and tests each of them once. -/
theorem search_of_used (steps : ∀ index, advance (state index) = state (index + 1)) (count : Nat) :
    ∀ start, (∀ index, start ≤ index → index < start + count → candidate (state index) ∈ used) →
      candidate (state (start + count)) ∉ used →
      ∃ tested, Search used candidate advance (state start) tested
          (candidate (state (start + count))) ∧ tested.length = count + 1 := by
  induction count with
  | zero =>
      intro start _ unused
      exact ⟨_, .found unused, rfl⟩
  | succ count ih =>
      intro start passed unused
      have here : candidate (state start) ∈ used := passed start (Nat.le_refl start) (by omega)
      have further : ∀ index, start + 1 ≤ index → index < start + 1 + count →
          candidate (state index) ∈ used := fun index above below =>
        passed index (by omega) (by omega)
      rw [← Nat.succ_add_eq_add_succ] at unused ⊢
      obtain ⟨tested, rest, length⟩ := ih (start + 1) further unused
      rw [← steps] at rest
      exact ⟨_, .next here rest, by rw [List.length_cons, length]⟩

/-- **A search stops at the least candidate that is not in use**, having tested it and all
candidates below it. -/
theorem search_of_isLeastFree (steps : ∀ index, advance (state index) = state (index + 1))
    {index : Nat} (least : IsLeastFree used (fun index => candidate (state index)) index) :
    ∃ tested, Search used candidate advance (state 1) tested (candidate (state index)) ∧
      tested.length = index := by
  have reached : 1 + (index - 1) = index := Nat.add_sub_cancel' least.positive
  have passed : ∀ other, 1 ≤ other → other < 1 + (index - 1) → candidate (state other) ∈ used :=
    fun other positive less => least.below other positive (reached ▸ less)
  obtain ⟨tested, search, length⟩ :=
    search_of_used state steps (index - 1) 1 passed (reached.symm ▸ least.unused)
  rw [reached] at search
  exact ⟨tested, search, by omega⟩

end Search

/-! ## Roots -/

/-- The marks at the end of a name that do not belong to its root. -/
theorem isSuffixMark_iff {c : Char} : isSuffixMark c = true ↔ c ∈ "0123456789'".toList := by
  constructor
  · intro mark
    rw [isSuffixMark, Bool.or_eq_true, Char.isDigit_iff_toNat, beq_iff_eq] at mark
    rcases mark with ⟨low, high⟩ | rfl
    · have within : c.toNat < 48 + 10 := Nat.lt_succ_of_le high
      have digits : ∀ code ∈ List.range' 48 10, Char.ofNat code ∈ "0123456789'".toList := by
        decide
      rw [← Char.ofNat_toNat c]
      exact digits c.toNat (List.mem_range'_1.mpr ⟨low, within⟩)
    · decide
  · have marks : "0123456789'".toList.all isSuffixMark = true := by decide
    exact List.all_eq_true.mp marks c

theorem toList_root (name : String) : (root name).toList = name.toList.rdropWhile isSuffixMark := by
  rw [root, String.toList_ofList]
  rfl

/-- What is taken off a name consists of marks. -/
theorem exists_run (name : String) :
    ∃ run, name = root name ++ run ∧ ∀ c ∈ run.toList, isSuffixMark c = true := by
  refine ⟨String.ofList (name.toList.rtakeWhile isSuffixMark), ?_, fun c member => ?_⟩
  · rw [← String.toList_inj, String.toList_append, toList_root, String.toList_ofList,
      List.rdropWhile_append_rtakeWhile]
  · rw [String.toList_ofList] at member
    exact List.mem_rtakeWhile_imp member

/-- No mark is left at the end. -/
theorem not_isSuffixMark_of_getLast?_root {name : String} {c : Char}
    (last : (root name).toList.getLast? = some c) : isSuffixMark c = false := by
  rw [toList_root] at last
  have inhabited : name.toList.rdropWhile isSuffixMark ≠ [] := by
    intro empty
    simp [empty] at last
  rw [List.getLast?_eq_some_getLast inhabited] at last
  rw [← Option.some.inj last]
  exact Bool.eq_false_iff.mpr (List.rdropWhile_last_not _ _ inhabited)

theorem root_root (name : String) : root (root name) = root name := by
  rw [← String.toList_inj, toList_root, toList_root, List.rdropWhile_idempotent]

theorem root_append {stem suffix : String} (marks : ∀ c ∈ suffix.toList, isSuffixMark c = true) :
    root (stem ++ suffix) = root stem := by
  have reversed : ∀ c ∈ suffix.toList.reverse, isSuffixMark c = true := fun c member =>
    marks c (List.mem_reverse.mp member)
  rw [root, root, String.toList_append, List.reverse_append, List.dropWhile_append_of_pos reversed]

/-- A numbered name has the root that the numeral was put after. -/
theorem root_numbered (name : String) (index : Nat) : root (numbered name index) = root name := by
  rw [numbered, root_append fun c => isSuffixMark_of_mem_toString, root_root]

/-! ## The two strategies -/

theorem primed_succ (name : String) (count : Nat) :
    primed name (count + 1) = primed name count ++ "'" := by
  rw [primed, primed, String.append_assoc, List.replicate_succ', String.ofList_append]
  rfl

/-- **The strategies known by name take the least candidate.**  Let any names be in use, and let
the stale name be in use or not.

For `digits` the candidates are the root of the stale name followed by the numerals of 1, 2, 3 and
so on, where the root is the name without the longest run of digits and prime marks at its end.
The search ends after at most one candidate more than there are names in use.  Its answer is not in
use, every candidate before it is, and it has the same root again.  For `primes` the candidates are
the stale name with one, two, three and more prime marks, and the search ends in the same way.

With more names in use neither the numeral nor the number of marks gets smaller, and picking a name
never breaks the promise of either strategy. -/
theorem takes_least_candidate :
    (∀ (used : Names) (stale : String),
      (∃ run, stale = root stale ++ run ∧ (∀ c ∈ run.toList, c ∈ "0123456789'".toList) ∧
        ∀ c, (root stale).toList.getLast? = some c → c ∉ "0123456789'".toList) ∧
      (∃ index, 1 ≤ index ∧ digits used stale = root stale ++ toString index ∧
        digits used stale ∉ used ∧
        (∀ other, 1 ≤ other → other < index → root stale ++ toString other ∈ used) ∧
        root (digits used stale) = root stale ∧
        ∃ tested, Search used (fun index => root stale ++ toString index) (· + 1) 1 tested
          (digits used stale) ∧ tested.length ≤ used.size + 1) ∧
      ∃ count, 1 ≤ count ∧ primes used stale = primed stale count ∧ primes used stale ∉ used ∧
        (∀ other, 1 ≤ other → other < count → primed stale other ∈ used) ∧
        ∃ tested, Search used id (· ++ "'") (stale ++ "'") tested (primes used stale) ∧
          tested.length ≤ used.size + 1) ∧
    (∀ (used more : Names) (stale : String), (∀ name ∈ used, name ∈ more) →
      (∀ index later : Nat, digits used stale = root stale ++ toString index →
        digits more stale = root stale ++ toString later → index ≤ later) ∧
      ∀ count later, primes used stale = primed stale count →
        primes more stale = primed stale later → count ≤ later) ∧
    ∀ fresh : Strategy, fresh = digits ∨ fresh = primes → ∀ (used : Names) (stale : String),
      ∃ name, (pick fresh used stale).outcome = .ok name ∧ name ∉ used := by
  have numbers := fun used stale => leastFree_isLeastFree used (numbered_injective stale)
  have marks := fun used stale => leastFree_isLeastFree used (primed_injective stale)
  refine ⟨fun used stale => ⟨?_, ?_, ?_⟩, fun used more stale grows => ⟨?_, ?_⟩, ?_⟩
  · obtain ⟨run, split, all⟩ := exists_run stale
    refine ⟨run, split, fun c member => isSuffixMark_iff.mp (all c member), fun c last => ?_⟩
    rw [← isSuffixMark_iff, not_isSuffixMark_of_getLast?_root last]
    exact Bool.false_ne_true
  · have least := numbers used stale
    obtain ⟨tested, search, length⟩ : ∃ tested, Search used (numbered stale) (· + 1) 1 tested
        (digits used stale) ∧ tested.length = _ :=
      search_of_isLeastFree id (fun _ => rfl) least
    exact ⟨_, least.positive, rfl, least.unused, least.below, root_numbered stale _, tested,
      search, length ▸ least.bounded⟩
  · have least := marks used stale
    obtain ⟨tested, search, length⟩ : ∃ tested, Search used id (· ++ "'") (primed stale 1) tested
        (primes used stale) ∧ tested.length = _ :=
      search_of_isLeastFree (primed stale) (fun count => (primed_succ stale count).symm) least
    exact ⟨_, least.positive, rfl, least.unused, least.below, tested, search,
      length ▸ least.bounded⟩
  · intro index later isIndex isLater
    rw [← numbered_injective stale isIndex, ← numbered_injective stale isLater]
    exact (numbers used stale).mono (numbers more stale) grows
  · intro count later isCount isLater
    rw [← primed_injective stale isCount, ← primed_injective stale isLater]
    exact (marks used stale).mono (marks more stale) grows
  · intro fresh known used stale
    have picked : (pick fresh used stale).outcome = .ok (fresh.choice used stale) :=
      pick_of_honest (honest_of_known known) stale
    exact ⟨_, picked, (pick_eq_ok picked).2⟩

/-- Of `x1'2` all digits and marks at the end are taken off, and then `x1` is passed.  With `x2` in
use as well, one more candidate is passed. -/
theorem takes_least_candidate_mixed :
    let used := Names.ofList ["x", "x1", "x1'2"]
    let more := Names.ofList ["x", "x1", "x1'2", "x2"]
    (∀ name ∈ used, name ∈ more) ∧ digits used "x1'2" = "x2" ∧ root "x2" = root "x1'2" ∧
      (∃ index later : Nat, digits used "x1'2" = root "x1'2" ++ toString index ∧
        digits more "x1'2" = root "x1'2" ++ toString later ∧ index ≤ later) ∧
      ∃ name, (pick primes used "x").outcome = .ok name ∧ name ∉ used := by
  intro used more
  have grows : ∀ name ∈ used, name ∈ more := by decide
  have before : digits used "x1'2" = "x2" := by
    rw [digits_eq]
    decide
  have after : digits more "x1'2" = "x3" := by
    rw [digits_eq]
    decide
  obtain ⟨each, monotone, picks⟩ := takes_least_candidate
  obtain ⟨_, ⟨_, _, _, _, _, sameRoot, _⟩, _⟩ := each used "x1'2"
  rw [before] at sameRoot
  exact ⟨grows, before, sameRoot,
    ⟨2, 3, before, after, (monotone used more "x1'2" grows).1 2 3 before after⟩,
    picks primes (.inr rfl) used "x"⟩

end Strategy
end BindingTrees
