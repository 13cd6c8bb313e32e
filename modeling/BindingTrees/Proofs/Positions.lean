import BindingTrees.Engine.Environment
import BindingTrees.Names
import BindingTrees.Term.Nameless

/-!
# Positions of names in scopes

A bound variable is a position: a scope, counted from the innermost, and a place in
its list of names.  A position belongs to one name only (`locate?_inj`), and in a
list without repetitions every place is the position of the name that stands there
(`lastIndex?_of_nodup`).  Scopes further out are reached only by names that the inner
ones do not have (`locate?_append_of_some`, `locate?_append_of_none`).

Giving values to a list of names follows the same rule: a name of the list gets the
value at its last place, and any other name keeps what it had (`Env.find?_bindAll`).
-/

set_option autoImplicit false

namespace BindingTrees

/-! ## The last place of a name -/

theorem getElem?_of_lastIndex? {name : String} : ∀ {names : List String} {index : Nat},
    lastIndex? name names = some index → names[index]? = some name
  | [], _, found => by cases found
  | first :: rest, index, found => by
      rw [lastIndex?] at found
      split at found
      · next inner innerFound =>
          cases found
          rw [List.getElem?_cons_succ]
          exact getElem?_of_lastIndex? innerFound
      · split at found
        · next same =>
            cases found
            exact congrArg some same
        · cases found

theorem exists_lastIndex? {name : String} {names : List String} (member : name ∈ names) :
    ∃ index, lastIndex? name names = some index := by
  cases found : lastIndex? name names with
  | none => exact absurd member (lastIndex?_eq_none_iff.mp found)
  | some index => exact ⟨index, rfl⟩

theorem mem_of_lastIndex? {name : String} {names : List String} {index : Nat}
    (found : lastIndex? name names = some index) : name ∈ names :=
  List.mem_of_getElem? (getElem?_of_lastIndex? found)

/-- Without repetitions, every place is the last place of its name. -/
theorem lastIndex?_of_nodup {name : String} {names : List String} {index : Nat}
    (distinct : names.Nodup) (found : names[index]? = some name) :
    lastIndex? name names = some index := by
  obtain ⟨last, lastFound⟩ := exists_lastIndex? (List.mem_of_getElem? found)
  have same : names[last]? = names[index]? := (getElem?_of_lastIndex? lastFound).trans found.symm
  rw [lastFound, (List.getElem?_inj (lastIndex?_lt_length lastFound) distinct).mp same]

/-! ## Positions -/

section Locate

variable {name other : String} {scope : List String} {scopes inner outer : List (List String)}

theorem locate?_cons_of_lastIndex? {index : Nat} (found : lastIndex? name scope = some index) :
    locate? name (scope :: scopes) = some (0, index) := by
  rw [locate?, found]

theorem locate?_cons_of_not_mem (absent : name ∉ scope) :
    locate? name (scope :: scopes) =
      (locate? name scopes).map fun (depth, index) => (depth + 1, index) := by
  rw [locate?, lastIndex?_eq_none_iff.mpr absent]

theorem locate?_cons_eq_none_iff :
    locate? name (scope :: scopes) = none ↔ name ∉ scope ∧ locate? name scopes = none := by
  rw [locate?]
  split
  · next index found => simp [mem_of_lastIndex? found]
  · next absent => simp [lastIndex?_eq_none_iff.mp absent]

/-- A position further out is one of a name that the innermost scope does not have. -/
theorem locate?_cons_eq_some {position : Nat × Nat}
    (found : locate? name (scope :: scopes) = some position) :
    (∃ index, lastIndex? name scope = some index ∧ position = (0, index)) ∨
      (name ∉ scope ∧ ∃ depth index, locate? name scopes = some (depth, index) ∧
        position = (depth + 1, index)) := by
  rw [locate?] at found
  split at found
  · next index here =>
      cases found
      exact .inl ⟨index, here, rfl⟩
  · next absent =>
      obtain ⟨⟨depth, index⟩, further, rfl⟩ := Option.map_eq_some_iff.mp found
      exact .inr ⟨lastIndex?_eq_none_iff.mp absent, depth, index, further, rfl⟩

/-- **A position belongs to one name only.** -/
theorem locate?_inj {position : Nat × Nat} :
    ∀ {scopes : List (List String)}, locate? name scopes = some position →
      locate? other scopes = some position → name = other := by
  intro scopes
  induction scopes generalizing position with
  | nil => intro found; cases found
  | cons scope scopes ih =>
      intro found otherFound
      rcases locate?_cons_eq_some found with ⟨index, here, rfl⟩ | ⟨_, depth, index, further, rfl⟩
      · rcases locate?_cons_eq_some otherFound with ⟨_, otherHere, same⟩ | ⟨_, _, _, _, same⟩
        · cases same
          have places := (getElem?_of_lastIndex? here).symm.trans (getElem?_of_lastIndex? otherHere)
          exact Option.some.inj places
        · cases same
      · rcases locate?_cons_eq_some otherFound with ⟨_, _, same⟩ | ⟨_, _, _, otherFurther, same⟩
        · cases same
        · cases same
          exact ih further otherFurther

/-- A position points into one of the scopes. -/
theorem locate?_getElem? : ∀ {scopes : List (List String)} {depth index : Nat},
    locate? name scopes = some (depth, index) →
      ∃ scope, scopes[depth]? = some scope ∧ lastIndex? name scope = some index := by
  intro scopes
  induction scopes with
  | nil => intro depth index found; cases found
  | cons scope scopes ih =>
      intro depth index found
      rcases locate?_cons_eq_some found with ⟨_, here, same⟩ | ⟨_, _, _, further, same⟩
      · cases same
        exact ⟨scope, rfl, here⟩
      · cases same
        exact ih further

theorem locate?_depth_lt {depth index : Nat} (found : locate? name scopes = some (depth, index)) :
    depth < scopes.length := by
  obtain ⟨scope, member, _⟩ := locate?_getElem? found
  exact (List.getElem?_eq_some_iff.mp member).1

theorem locate?_append_of_some {position : Nat × Nat} (found : locate? name inner = some position) :
    locate? name (inner ++ outer) = some position := by
  induction inner generalizing position with
  | nil => cases found
  | cons scope inner ih =>
      rcases locate?_cons_eq_some found with ⟨index, here, rfl⟩ | ⟨absent, _, _, further, rfl⟩
      · exact locate?_cons_of_lastIndex? here
      · rw [List.cons_append, locate?_cons_of_not_mem absent, ih further]
        rfl

theorem locate?_append_of_none (absent : locate? name inner = none) :
    locate? name (inner ++ outer) =
      (locate? name outer).map fun (depth, index) => (inner.length + depth, index) := by
  induction inner with
  | nil => simp
  | cons scope inner ih =>
      obtain ⟨notHere, notFurther⟩ := locate?_cons_eq_none_iff.mp absent
      rw [List.cons_append, locate?_cons_of_not_mem notHere, ih notFurther, Option.map_map]
      congr 1
      funext ⟨depth, index⟩
      simp only [Function.comp_apply, List.length_cons, Prod.mk.injEq, and_true]
      omega

end Locate

/-! ## Values of a list of names -/

/-- **The last of equal names wins**, and other names keep their values. -/
theorem Env.find?_bindAll {α : Type} {name : String} : ∀ {names : List String} {values : List α}
    (env : Env α), values.length = names.length →
    (env.bindAll names values).find? name =
      match lastIndex? name names with
      | some index => values[index]?
      | none => env.find? name
  | [], [], _, _ => rfl
  | first :: rest, value :: values, env, lengths => by
      rw [Env.bindAll, Env.find?_bindAll (env.bind first value) (Nat.succ.inj lengths), lastIndex?]
      cases lastIndex? name rest with
      | some index => rfl
      | none =>
          rw [Env.find?_bind]
          by_cases same : first = name
          · simp [same]
          · simp [same, Ne.symm same]

/-- A value found is one of those given last, or it was there before. -/
theorem Env.find?_bindAll_eq_some {α : Type} {name : String} {names : List String}
    {values : List α} {env : Env α} {value : α} (lengths : values.length = names.length)
    (found : (env.bindAll names values).find? name = some value) :
    (name ∈ names ∧ value ∈ values) ∨ (name ∉ names ∧ env.find? name = some value) := by
  rw [Env.find?_bindAll env lengths] at found
  cases place : lastIndex? name names with
  | some index =>
      rw [place] at found
      exact .inl ⟨List.mem_of_getElem? (getElem?_of_lastIndex? place), List.mem_of_getElem? found⟩
  | none =>
      rw [place] at found
      exact .inr ⟨lastIndex?_eq_none_iff.mp place, found⟩

/-! ## Sets with the names of scopes -/

/-- The set with the names of all scopes, from the outermost on. -/
def Names.insertScopes (base : Names) : List (List String) → Names
  | [] => base
  | scope :: scopes => (base.insertScopes scopes).insertAll scope

theorem Names.mem_insertScopes {base : Names} {name : String} :
    ∀ {scopes : List (List String)},
      name ∈ base.insertScopes scopes ↔ name ∈ base ∨ locate? name scopes ≠ none
  | [] => by simp [Names.insertScopes, locate?]
  | scope :: scopes => by
      rw [Names.insertScopes, Names.mem_insertAll, Names.mem_insertScopes, ne_eq, ne_eq,
        locate?_cons_eq_none_iff, Decidable.not_and_iff_not_or_not, Decidable.not_not]
      exact or_left_comm

theorem Names.mem_insertScopes_of_locate? {base : Names} {name : String}
    {scopes : List (List String)} {position : Nat × Nat}
    (found : locate? name scopes = some position) : name ∈ base.insertScopes scopes :=
  Names.mem_insertScopes.mpr (.inr (by simp [found]))

end BindingTrees
