import BindingTrees.Freshening
import Mathlib.Data.List.Nodup

/-!
# The strategies keep their promise

Both strategies search a family of candidates for the first that is not in use.  A
family without repetitions has more candidates among its first `used.size + 1`
members than there are names in use, so the search ends at a candidate that is free,
and at the least of these (`leastFree_isLeastFree`).  Different numerals give different
candidates after one root (`numbered_injective`), and so do different numbers of prime
marks after one name (`primed_injective`).
-/

set_option autoImplicit false

namespace BindingTrees
namespace Strategy

/-! ## The search -/

/-- Not all of the first `used.size + 1` candidates are in use. -/
theorem exists_candidate_not_mem (used : Names) {candidate : Nat → String}
    (injective : Function.Injective candidate) :
    ∃ index ∈ List.range' 1 (used.size + 1), candidate index ∉ used := by
  by_contra allUsed
  have subset : (List.range' 1 (used.size + 1)).map candidate ⊆ used.toList := by
    intro name member
    obtain ⟨index, inRange, rfl⟩ := List.mem_map.mp member
    by_contra notUsed
    exact allUsed ⟨index, inRange, notUsed⟩
  have distinct : ((List.range' 1 (used.size + 1)).map candidate).Nodup :=
    List.Nodup.map injective List.nodup_range'
  have atMost := distinct.length_le_of_subset subset
  rw [List.length_map, List.length_range'] at atMost
  exact absurd atMost (Nat.not_succ_le_self _)

/-- An index from 1 on is the least whose candidate is not in use, and it is not far away. -/
structure IsLeastFree (used : Names) (candidate : Nat → String) (index : Nat) : Prop where
  positive : 1 ≤ index
  bounded : index ≤ used.size + 1
  unused : candidate index ∉ used
  below : ∀ other, 1 ≤ other → other < index → candidate other ∈ used

/-- **The search ends at the least candidate that is not in use.** -/
theorem leastFree_isLeastFree (used : Names) {candidate : Nat → String}
    (injective : Function.Injective candidate) :
    IsLeastFree used candidate (leastFree used candidate) := by
  rw [leastFree_eq]
  cases found : (List.range' 1 (used.size + 1)).find? fun index => candidate index ∉ used with
  | none =>
      obtain ⟨index, inRange, notUsed⟩ := exists_candidate_not_mem used injective
      have failed := List.find?_eq_none.mp found index inRange
      exact absurd (decide_eq_true notUsed) failed
  | some index =>
      obtain ⟨unused, inRange, before⟩ := List.find?_range'_eq_some.mp found
      obtain ⟨positive, within⟩ := List.mem_range'_1.mp inRange
      refine ⟨positive, ?_, of_decide_eq_true unused, ?_⟩
      · rw [Option.getD_some]
        omega
      · intro other atLeast less
        simpa using before other atLeast less

/-- With more names in use the least candidate does not come earlier. -/
theorem IsLeastFree.mono {used more : Names} {candidate : Nat → String} {first second : Nat}
    (least : IsLeastFree used candidate first) (later : IsLeastFree more candidate second)
    (grows : ∀ name ∈ used, name ∈ more) : first ≤ second := by
  by_contra earlier
  have inUse : candidate second ∈ used :=
    least.below second later.positive (Nat.lt_of_not_le earlier)
  exact later.unused (grows _ inUse)

/-! ## The two families -/

/-- The search of `digits` without its table. -/
theorem digits_eq : digits = fun used stale => numbered stale
    (((List.range' 1 (used.size + 1)).find? fun index => numbered stale index ∉ used).getD 0) := by
  funext used stale
  rw [digits, leastFree_eq]

/-- The search of `primes` without its table. -/
theorem primes_eq : primes = fun used stale => primed stale
    (((List.range' 1 (used.size + 1)).find? fun index => primed stale index ∉ used).getD 0) := by
  funext used stale
  rw [primes, leastFree_eq]

theorem numbered_injective (name : String) : Function.Injective (numbered name) := by
  intro first second same
  have numerals : toString first = toString second := (String.append_right_inj _).mp same
  rw [Nat.toString_eq_ofList_toDigits, Nat.toString_eq_ofList_toDigits, String.ofList_inj]
    at numerals
  -- Reading a numeral gives its number back.
  have values := congrArg (Nat.ofDigitChars 10 · 0) numerals
  simpa only [Nat.ofDigitChars_ten_toDigits] using values

theorem primed_injective (name : String) : Function.Injective (primed name) := by
  intro first second same
  have marks := String.ofList_inj.mp ((String.append_right_inj _).mp same)
  have lengths := congrArg List.length marks
  rwa [List.length_replicate, List.length_replicate] at lengths

theorem digits_honest : digits.Honest := fun used stale _ =>
  (leastFree_isLeastFree used (numbered_injective stale)).unused

theorem primes_honest : primes.Honest := fun used stale _ =>
  (leastFree_isLeastFree used (primed_injective stale)).unused

/-- The strategies known by name keep their promise. -/
theorem honest_of_known {fresh : Strategy} (known : fresh = digits ∨ fresh = primes) :
    fresh.Honest := by
  rcases known with rfl | rfl
  · exact digits_honest
  · exact primes_honest

/-! ## The characters of an answer -/

theorem mem_root {name : String} {c : Char} (member : c ∈ (root name).toList) :
    c ∈ name.toList := by
  rw [root, String.toList_ofList, List.mem_reverse] at member
  exact List.mem_reverse.mp (List.dropWhile_subset isSuffixMark member)

theorem isSuffixMark_of_mem_toString {index : Nat} {c : Char}
    (member : c ∈ (toString index).toList) : isSuffixMark c = true := by
  rw [Nat.toString_eq_ofList_toDigits, String.toList_ofList] at member
  have digit := Nat.isDigit_of_mem_toDigits (by decide) (by decide) member
  rw [isSuffixMark, digit, Bool.true_or]

theorem toString_ne_empty {index : Nat} : toString index ≠ "" := by
  intro empty
  rw [Nat.toString_eq_ofList_toDigits, String.ofList_eq_empty_iff] at empty
  exact Nat.toDigits_ne_nil empty

/-- An answer is made of the characters of the stale name, digits and prime marks. -/
theorem mem_answer_of_known {fresh : Strategy} (known : fresh = digits ∨ fresh = primes)
    {used : Names} {stale : String} {c : Char} (member : c ∈ (fresh used stale).toList) :
    c ∈ stale.toList ∨ isSuffixMark c = true := by
  rcases known with rfl | rfl
  · rw [digits, numbered, String.toList_append, List.mem_append] at member
    exact member.imp mem_root isSuffixMark_of_mem_toString
  · rw [primes, primed, String.toList_append, List.mem_append, String.toList_ofList] at member
    refine member.imp_right fun mark => ?_
    rw [List.eq_of_mem_replicate mark]
    rfl

/-- An answer for a name that is not empty is not empty. -/
theorem answer_ne_empty_of_known {fresh : Strategy} (known : fresh = digits ∨ fresh = primes)
    (used : Names) {stale : String} (inhabited : stale ≠ "") : fresh used stale ≠ "" := by
  rcases known with rfl | rfl
  · intro empty
    rw [digits, numbered, String.append_eq_empty_iff] at empty
    exact toString_ne_empty empty.2
  · intro empty
    rw [primes, primed, String.append_eq_empty_iff] at empty
    exact inhabited empty.1

/-- A name ends in a digit or a prime mark. -/
def EndsInMark (name : String) : Prop :=
  ∃ c, name.toList.getLast? = some c ∧ isSuffixMark c = true

instance (name : String) : Decidable (EndsInMark name) :=
  match last : name.toList.getLast? with
  | none => isFalse fun ⟨c, found, _⟩ => by simp [last] at found
  | some c => decidable_of_iff (isSuffixMark c = true) (by simp [EndsInMark, last])

theorem endsInMark_append (stem : String) {suffix : String} (inhabited : suffix ≠ "")
    (marks : ∀ c ∈ suffix.toList, isSuffixMark c = true) : EndsInMark (stem ++ suffix) := by
  have characters : suffix.toList ≠ [] := fun empty =>
    inhabited (String.toList_eq_nil_iff.mp empty)
  refine ⟨suffix.toList.getLast characters, ?_, marks _ (List.getLast_mem characters)⟩
  rw [String.toList_append, List.getLast?_append, List.getLast?_eq_some_getLast characters,
    Option.some_or]

/-- An answer for a name in use ends in a digit or a prime mark. -/
theorem endsInMark_of_known {fresh : Strategy} (known : fresh = digits ∨ fresh = primes)
    {used : Names} {stale : String} (inUse : stale ∈ used) : EndsInMark (fresh used stale) := by
  have unused := honest_of_known known used stale inUse
  rcases known with rfl | rfl
  · exact endsInMark_append _ toString_ne_empty fun c => isSuffixMark_of_mem_toString
  · refine endsInMark_append _ (fun empty => ?_) fun c mark => ?_
    · -- Without a mark the answer would be the name in use.
      rw [primes, primed, empty, String.append_empty] at unused
      exact unused inUse
    · rw [String.toList_ofList] at mark
      rw [List.eq_of_mem_replicate mark]
      rfl
end Strategy
end BindingTrees
