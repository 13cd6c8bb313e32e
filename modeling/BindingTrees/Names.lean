/-!
# Finite sets of names

A set of names is kept as the strictly ascending list of its members, in the
order of code points.  The list is canonical: two sets with the same members are
the same value (`Names.ext`), however they were built, so any function of a set
is a function of its members alone.

Membership after each operation is membership in the corresponding mathematical
set (`mem_insert`, `mem_erase`, `mem_ofList`, `mem_insertAll`, `mem_eraseAll`,
`mem_union`).
-/

set_option autoImplicit false

namespace BindingTrees

/-! ## Strictly ascending lists of strings -/

namespace Ascending

/-- Puts a name in its place, unless it is there already. -/
def insert (name : String) : List String → List String
  | [] => [name]
  | head :: tail =>
      if name < head then name :: head :: tail
      else if name = head then head :: tail
      else head :: insert name tail

theorem mem_insert {other name : String} {list : List String} :
    other ∈ insert name list ↔ other = name ∨ other ∈ list := by
  induction list with
  | nil => simp [insert]
  | cons head tail ih =>
      rw [insert]
      split
      · simp
      · split
        · next same => subst same; simp
        · simp only [List.mem_cons, ih]
          constructor
          · rintro (h | h | h)
            · exact .inr (.inl h)
            · exact .inl h
            · exact .inr (.inr h)
          · rintro (h | h | h)
            · exact .inr (.inl h)
            · exact .inl h
            · exact .inr (.inr h)

theorem insert_ascending (name : String) {list : List String}
    (ascending : list.Pairwise (· < ·)) : (insert name list).Pairwise (· < ·) := by
  induction list with
  | nil => simp [insert]
  | cons head tail ih =>
      obtain ⟨below, rest⟩ := List.pairwise_cons.mp ascending
      rw [insert]
      split
      · next less =>
          refine List.pairwise_cons.mpr ⟨fun other member => ?_, ascending⟩
          rcases List.mem_cons.mp member with same | later
          · exact same ▸ less
          · exact String.lt_trans less (below other later)
      · split
        · exact ascending
        · next notLess differs =>
            refine List.pairwise_cons.mpr ⟨fun other member => ?_, ih rest⟩
            rcases mem_insert.mp member with same | later
            · subst same
              refine String.not_le.mp fun atMost => differs ?_
              exact String.le_antisymm atMost (String.not_lt.mp notLess)
            · exact below other later

/-- Two strictly ascending lists with the same members are equal. -/
theorem eq_of_mem_iff : ∀ {left right : List String}, left.Pairwise (· < ·) →
    right.Pairwise (· < ·) → (∀ name, name ∈ left ↔ name ∈ right) → left = right
  | [], [], _, _, _ => rfl
  | [], name :: _, _, _, same => absurd ((same name).mpr List.mem_cons_self) (by simp)
  | name :: _, [], _, _, same => absurd ((same name).mp List.mem_cons_self) (by simp)
  | first :: left, second :: right, leftAscending, rightAscending, same => by
      obtain ⟨firstBelow, leftRest⟩ := List.pairwise_cons.mp leftAscending
      obtain ⟨secondBelow, rightRest⟩ := List.pairwise_cons.mp rightAscending
      have heads : first = second := by
        rcases List.mem_cons.mp ((same first).mp List.mem_cons_self) with h | inRight
        · exact h
        · rcases List.mem_cons.mp ((same second).mpr List.mem_cons_self) with h | inLeft
          · exact h.symm
          · exact absurd (secondBelow first inRight) (String.lt_asymm (firstBelow second inLeft))
      subst heads
      have tails : ∀ name, name ∈ left ↔ name ∈ right := by
        intro name
        constructor
        · intro member
          rcases List.mem_cons.mp ((same name).mp (List.mem_cons_of_mem _ member)) with h | h
          · exact absurd (h ▸ firstBelow name member) (String.lt_irrefl _)
          · exact h
        · intro member
          rcases List.mem_cons.mp ((same name).mpr (List.mem_cons_of_mem _ member)) with h | h
          · exact absurd (h ▸ secondBelow name member) (String.lt_irrefl _)
          · exact h
      rw [eq_of_mem_iff leftRest rightRest tails]

end Ascending

/-! ## Sets -/

/-- A finite set of names, as the strictly ascending list of its members. -/
structure Names where
  toList : List String
  ascending : toList.Pairwise (· < ·)
deriving DecidableEq

namespace Names

instance : Membership String Names where
  mem names name := name ∈ names.toList

theorem mem_toList {name : String} {names : Names} : name ∈ names.toList ↔ name ∈ names :=
  Iff.rfl

instance (name : String) (names : Names) : Decidable (name ∈ names) :=
  inferInstanceAs (Decidable (name ∈ names.toList))

/-- Sets with the same members are equal. -/
@[ext]
theorem ext {left right : Names} (same : ∀ name, name ∈ left ↔ name ∈ right) : left = right := by
  obtain ⟨leftList, leftAscending⟩ := left
  obtain ⟨rightList, rightAscending⟩ := right
  have lists : leftList = rightList := Ascending.eq_of_mem_iff leftAscending rightAscending same
  subst lists
  rfl

/-- The set without members. -/
def empty : Names := ⟨[], .nil⟩

instance : EmptyCollection Names := ⟨empty⟩

instance : Inhabited Names := ⟨empty⟩

@[simp]
theorem not_mem_empty {name : String} : name ∉ (∅ : Names) := fun member =>
  absurd (mem_toList.mpr member) List.not_mem_nil

/-- The set with one name more. -/
def insert (names : Names) (name : String) : Names :=
  ⟨Ascending.insert name names.toList, Ascending.insert_ascending name names.ascending⟩

@[simp]
theorem mem_insert {names : Names} {name other : String} :
    other ∈ names.insert name ↔ other = name ∨ other ∈ names :=
  Ascending.mem_insert

/-- The set without one name. -/
def erase (names : Names) (name : String) : Names :=
  ⟨names.toList.filter (· ≠ name), names.ascending.filter _⟩

@[simp]
theorem mem_erase {names : Names} {name other : String} :
    other ∈ names.erase name ↔ other ∈ names ∧ other ≠ name := by
  show other ∈ names.toList.filter (· ≠ name) ↔ _
  simp [mem_toList]

/-- The set extended by every name of a list; without any, it is the set as it is. -/
def insertAll (names : Names) (more : List String) : Names :=
  more.foldl insert names

@[simp]
theorem mem_insertAll {names : Names} {more : List String} {other : String} :
    other ∈ names.insertAll more ↔ other ∈ more ∨ other ∈ names := by
  induction more generalizing names with
  | nil => simp [insertAll]
  | cons head tail ih =>
      show other ∈ (names.insert head).insertAll tail ↔ _
      rw [ih, mem_insert, List.mem_cons]
      constructor
      · rintro (h | h | h)
        · exact .inl (.inr h)
        · exact .inl (.inl h)
        · exact .inr h
      · rintro ((h | h) | h)
        · exact .inr (.inl h)
        · exact .inl h
        · exact .inr (.inr h)

/-- The set without any name of a list. -/
def eraseAll (names : Names) (fewer : List String) : Names :=
  fewer.foldl erase names

@[simp]
theorem mem_eraseAll {names : Names} {fewer : List String} {other : String} :
    other ∈ names.eraseAll fewer ↔ other ∈ names ∧ other ∉ fewer := by
  induction fewer generalizing names with
  | nil => simp [eraseAll]
  | cons head tail ih =>
      show other ∈ (names.erase head).eraseAll tail ↔ _
      rw [ih, mem_erase, List.mem_cons, not_or, and_assoc]

/-- The set of the names in a list, which may repeat. -/
def ofList (names : List String) : Names :=
  empty.insertAll names

@[simp]
theorem mem_ofList {names : List String} {other : String} :
    other ∈ ofList names ↔ other ∈ names := by
  rw [ofList, mem_insertAll]
  exact ⟨fun h => h.resolve_right not_mem_empty, .inl⟩

/-- The number of members. -/
def size (names : Names) : Nat := names.toList.length

theorem eq_empty_of_size_eq_zero {names : Names} (none : names.size = 0) : names = ∅ := by
  obtain ⟨list, ascending⟩ := names
  cases List.eq_nil_of_length_eq_zero none
  rfl

/-- The names in either set.  If one of them is empty, the other is the answer as it is. -/
def union (left right : Names) : Names :=
  if right.size = 0 then left
  else if left.size = 0 then right
  else left.insertAll right.toList

@[simp]
theorem mem_union {left right : Names} {other : String} :
    other ∈ left.union right ↔ other ∈ left ∨ other ∈ right := by
  rw [union]
  split
  · next none => simp [eq_empty_of_size_eq_zero none]
  · split
    · next none => simp [eq_empty_of_size_eq_zero none]
    · rw [mem_insertAll, mem_toList, or_comm]

/-- Equally many members, and each of the one is in the other. -/
def sameAs (left right : Names) : Bool :=
  left.size == right.size && left.toList.all fun name => name ∈ right

/-- The members in ascending order, between braces. -/
def text (names : Names) : String :=
  "\x7b" ++ ", ".intercalate names.toList ++ "\x7d"

end Names

end BindingTrees
