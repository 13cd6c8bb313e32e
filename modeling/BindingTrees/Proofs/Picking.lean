import BindingTrees.Engine.Picking

/-!
# What picking gives

A name is picked when the strategy keeps its promise, and picking fails in no other
way than by a broken promise (`pick_eq_ok`, `pick_eq_error`).  Which names a list is
given is settled by the strategy and the names in use alone (`Strategy.choices`); the
names picked are distinct, none of them was in use, and they are what the scope gains
(`pickAll_picked`).  Setting names aside for a binder gains the same names as picking
them (`reserve_outcome`).

A list that does not collide has distinct names that are not in use
(`collides_eq_false_iff`), and picking changes just the lists that collide
(`Picked.collides_iff`).
-/

set_option autoImplicit false

namespace BindingTrees

/-! ## Outcomes -/

namespace Recorded

variable {ε α β : Type}

/-- A sequence fails where the first of its parts to fail does. -/
theorem outcome_bind_eq_error {step : Recorded ε α} {next : α → Recorded ε β} {error : ε} :
    (step >>= next).outcome = .error error ↔
      step.outcome = .error error ∨
        ∃ first, step.outcome = .ok first ∧ (next first).outcome = .error error := by
  rw [outcome_bind]
  cases step.outcome with
  | error other => simp [Except.bind]
  | ok first => simp [Except.bind]

/-- No promise was broken: there is a value, or an answer to the caller. -/
def Unbroken (step : Recorded Fault α) : Prop :=
  ∀ fault, step.outcome = .error fault → fault.isBreach = false

theorem unbroken_of_ok {step : Recorded Fault α} {value : α} (ok : step.outcome = .ok value) :
    step.Unbroken := by
  intro fault failed
  rw [ok] at failed
  cases failed

end Recorded

/-! ## The names that a strategy gives -/

namespace Strategy

/-- The name that a strategy gives for a name: itself unless it is in use. -/
def choice (fresh : Strategy) (used : Names) (stale : String) : String :=
  if stale ∈ used then fresh used stale else stale

/-- The names for a list, each in use for the ones after it. -/
def choices (fresh : Strategy) (used : Names) : List String → List String
  | [] => []
  | stale :: rest =>
      fresh.choice used stale :: fresh.choices (used.insert (fresh.choice used stale)) rest

/-- The names in use after names for a list were chosen. -/
def scope (fresh : Strategy) (used : Names) (stales : List String) : Names :=
  used.insertAll (fresh.choices used stales)

/-- Appends a mark once, even if the result is in use: a strategy that may break its
promise. -/
def appending (mark : String) : Strategy := fun _ stale => stale ++ mark

theorem length_choices (fresh : Strategy) : ∀ (used : Names) (stales : List String),
    (fresh.choices used stales).length = stales.length
  | _, [] => rfl
  | used, stale :: rest => by
      rw [choices, List.length_cons, List.length_cons, length_choices]

/-- As many values as names. -/
theorem length_map_choices {α : Type} (fresh : Strategy) (used : Names) (stales : List String)
    (value : String → α) : ((fresh.choices used stales).map value).length = stales.length := by
  rw [List.length_map, fresh.length_choices]

/-- Distinct names that are not in use are kept. -/
theorem choices_of_unused (fresh : Strategy) : ∀ {used : Names} {names : List String},
    names.Nodup → (∀ name ∈ names, name ∉ used) → fresh.choices used names = names
  | _, [], _, _ => rfl
  | used, name :: rest, distinct, unused => by
      obtain ⟨notLater, restDistinct⟩ := List.nodup_cons.mp distinct
      have kept : fresh.choice used name = name := if_neg (unused name List.mem_cons_self)
      have restUnused : ∀ other ∈ rest, other ∉ used.insert name := by
        intro other later inUse
        rcases Names.mem_insert.mp inUse with same | before
        · exact notLater (same ▸ later)
        · exact unused other (List.mem_cons_of_mem name later) before
      rw [choices, kept, choices_of_unused fresh restDistinct restUnused]

/-- What the strategy keeps of a name holds of all the names for a list. -/
theorem forall_mem_choices {fresh : Strategy} {holds : String → Prop}
    (keeps : ∀ used stale, holds stale → holds (fresh used stale)) :
    ∀ {used : Names} {stales : List String}, (∀ stale ∈ stales, holds stale) →
      ∀ name ∈ fresh.choices used stales, holds name
  | _, [], _, _, member => absurd member List.not_mem_nil
  | used, stale :: rest, all, name, member => by
      obtain ⟨here, further⟩ := List.forall_mem_cons.mp all
      rcases List.mem_cons.mp member with rfl | later
      · rw [choice]
        split
        · exact keeps used stale here
        · exact here
      · exact forall_mem_choices keeps further name later

/-- A name in need of a choice is in use afterwards, whether it was kept or not. -/
theorem mem_insert_choice (fresh : Strategy) (used : Names) (stale : String) :
    stale ∈ used.insert (fresh.choice used stale) := by
  rw [Names.mem_insert, choice]
  split
  · next member => exact .inr member
  · exact .inl rfl

theorem mem_insertAll_choices (fresh : Strategy) {name : String} :
    ∀ (used : Names) (stales : List String), name ∈ stales →
      name ∈ used.insertAll (fresh.choices used stales)
  | _, [], member => absurd member List.not_mem_nil
  | used, stale :: rest, member => by
      show name ∈ (used.insert (fresh.choice used stale)).insertAll _
      rcases List.mem_cons.mp member with rfl | later
      · exact Names.mem_insertAll.mpr (.inr (fresh.mem_insert_choice used name))
      · exact fresh.mem_insertAll_choices _ rest later

theorem mem_scope_of_used (fresh : Strategy) {used : Names} (stales : List String) {name : String}
    (inUse : name ∈ used) : name ∈ fresh.scope used stales :=
  Names.mem_insertAll.mpr (.inr inUse)

theorem mem_scope_of_mem (fresh : Strategy) (used : Names) {stales : List String} {name : String}
    (member : name ∈ stales) : name ∈ fresh.scope used stales :=
  fresh.mem_insertAll_choices used stales member

theorem mem_scope_of_chosen (fresh : Strategy) {used : Names} {stales : List String}
    {name : String} (chosen : name ∈ fresh.choices used stales) : name ∈ fresh.scope used stales :=
  Names.mem_insertAll.mpr (.inl chosen)

end Strategy

/-! ## Picking -/

section Pick

variable {fresh : Strategy} {used : Names}

/-- Picking a name succeeds exactly when the choice is not in use. -/
theorem pick_outcome (stale : String) :
    (pick fresh used stale).outcome =
      if fresh.choice used stale ∈ used then .error (.stillUsed (fresh.choice used stale) stale)
      else .ok (fresh.choice used stale) := by
  rw [pick, Strategy.choice]
  split
  · show (if fresh used stale ∈ used then Recorded.fail _ else pure _ : Recorded _ _).outcome = _
    split
    · rfl
    · rfl
  · rfl

theorem pick_eq_ok {stale name : String} (ok : (pick fresh used stale).outcome = .ok name) :
    name = fresh.choice used stale ∧ name ∉ used := by
  rw [pick_outcome] at ok
  split at ok
  · cases ok
  · next notInUse =>
      cases ok
      exact ⟨rfl, notInUse⟩

theorem pick_eq_error {stale : String} {fault : Fault}
    (failed : (pick fresh used stale).outcome = .error fault) :
    ∃ answer, fault = .stillUsed answer stale := by
  rw [pick_outcome] at failed
  split at failed
  · cases failed
    exact ⟨_, rfl⟩
  · cases failed

theorem pick_of_honest (honest : fresh.Honest) (stale : String) :
    (pick fresh used stale).outcome = .ok (fresh.choice used stale) := by
  rw [pick_outcome, if_neg]
  rw [Strategy.choice]
  split
  · next inUse => exact honest used stale inUse
  · next notInUse => exact notInUse

end Pick

/-- What is known of names that were picked for a list. -/
structure Picked (fresh : Strategy) (used : Names) (stales : List String) (scope : Names)
    (names : List String) : Prop where
  chosen : names = fresh.choices used stales
  gained : scope = used.insertAll names
  distinct : names.Nodup
  unused : ∀ name ∈ names, name ∉ used

namespace Picked

variable {fresh : Strategy} {used scope : Names} {stales names : List String}

theorem length_eq (picked : Picked fresh used stales scope names) :
    names.length = stales.length := by
  rw [picked.chosen, fresh.length_choices]

/-- The names picked for are in use afterwards. -/
theorem mem_scope (picked : Picked fresh used stales scope names) {name : String}
    (member : name ∈ stales) : name ∈ scope := by
  rw [picked.gained, picked.chosen]
  exact fresh.mem_insertAll_choices used stales member

theorem mem_scope_of_used (picked : Picked fresh used stales scope names) {name : String}
    (member : name ∈ used) : name ∈ scope := by
  rw [picked.gained]
  exact Names.mem_insertAll.mpr (.inr member)

end Picked

section PickAll

variable {fresh : Strategy}

/-- **Picked names are distinct and were not in use.** -/
theorem pickAll_picked : ∀ {stales : List String} {used scope : Names} {names : List String},
    (pickAll fresh used stales).outcome = .ok (scope, names) →
      Picked fresh used stales scope names
  | [], used, _, _, ok => by
      cases ok
      exact ⟨rfl, rfl, .nil, by simp⟩
  | stale :: rest, used, _, _, ok => by
      rw [pickAll_cons, Recorded.outcome_bind_eq_ok] at ok
      obtain ⟨name, nameOk, ok⟩ := ok
      obtain ⟨chosen, notInUse⟩ := pick_eq_ok nameOk
      rw [Recorded.outcome_bind_eq_ok] at ok
      obtain ⟨⟨scope, names⟩, restOk, last⟩ := ok
      cases last
      have picked := pickAll_picked restOk
      refine ⟨?_, picked.gained, ?_, ?_⟩
      · rw [Strategy.choices, ← chosen, ← picked.chosen]
      · refine List.nodup_cons.mpr ⟨fun repeated => ?_, picked.distinct⟩
        exact picked.unused name repeated (Names.mem_insert.mpr (.inl rfl))
      · intro other member inUse
        rcases List.mem_cons.mp member with rfl | later
        · exact notInUse inUse
        · exact picked.unused other later (Names.mem_insert.mpr (.inr inUse))

/-- Picking fails only by a broken promise. -/
theorem pickAll_eq_error : ∀ {stales : List String} {used : Names} {fault : Fault},
    (pickAll fresh used stales).outcome = .error fault →
      ∃ answer stale, fault = .stillUsed answer stale
  | [], _, _, failed => by cases failed
  | stale :: rest, used, fault, failed => by
      rw [pickAll_cons, Recorded.outcome_bind_eq_error] at failed
      rcases failed with nameFailed | ⟨name, _, failed⟩
      · obtain ⟨answer, same⟩ := pick_eq_error nameFailed
        exact ⟨answer, stale, same⟩
      · rw [Recorded.outcome_bind_eq_error] at failed
        rcases failed with restFailed | ⟨_, _, impossible⟩
        · exact pickAll_eq_error restFailed
        · cases impossible

/-- A strategy that keeps its promise gives every list names. -/
theorem pickAll_of_honest (honest : fresh.Honest) : ∀ (used : Names) (stales : List String),
    ∃ scope, (pickAll fresh used stales).outcome = .ok (scope, fresh.choices used stales)
  | used, [] => ⟨used, rfl⟩
  | used, stale :: rest => by
      obtain ⟨scope, restOk⟩ :=
        pickAll_of_honest honest (used.insert (fresh.choice used stale)) rest
      refine ⟨scope, ?_⟩
      rw [pickAll_cons, Recorded.outcome_bind_eq_ok]
      refine ⟨_, pick_of_honest honest stale, ?_⟩
      rw [Recorded.outcome_bind_eq_ok]
      exact ⟨_, restOk, rfl⟩

/-- What such a strategy picks, and the names in use after that. -/
theorem pickAll_outcome_of_honest (honest : fresh.Honest) (used : Names) (stales : List String) :
    (pickAll fresh used stales).outcome =
      .ok (fresh.scope used stales, fresh.choices used stales) := by
  obtain ⟨scope, ok⟩ := pickAll_of_honest honest used stales
  rw [ok, (pickAll_picked ok).gained, Strategy.scope]

/-- Setting names aside gains the names that picking gains. -/
theorem reserve_outcome : ∀ (stales : List String) (used : Names),
    (reserve fresh used stales).outcome = (pickAll fresh used stales).outcome.map Prod.fst
  | [], _ => rfl
  | stale :: rest, used => by
      rw [reserve, pickAll_cons, Recorded.outcome_bind, Recorded.outcome_bind]
      cases (pick fresh used stale).outcome with
      | error fault => rfl
      | ok name =>
          show (reserve fresh (used.insert name) rest).outcome =
            ((pickAll fresh (used.insert name) rest >>= _).outcome).map Prod.fst
          rw [reserve_outcome rest, Recorded.outcome_bind]
          cases (pickAll fresh (used.insert name) rest).outcome with
          | error fault => rfl
          | ok value => rfl

theorem reserve_picked {stales : List String} {used scope : Names}
    (ok : (reserve fresh used stales).outcome = .ok scope) :
    Picked fresh used stales scope (fresh.choices used stales) := by
  rw [reserve_outcome] at ok
  cases inner : (pickAll fresh used stales).outcome with
  | error fault =>
      rw [inner] at ok
      cases ok
  | ok value =>
      rw [inner] at ok
      cases ok
      have picked := pickAll_picked inner
      rw [← picked.chosen]
      exact picked

theorem reserve_outcome_of_honest (honest : fresh.Honest) (used : Names) (stales : List String) :
    (reserve fresh used stales).outcome = .ok (fresh.scope used stales) := by
  rw [reserve_outcome, pickAll_outcome_of_honest honest]
  rfl

theorem reserve_eq_error {stales : List String} {used : Names} {fault : Fault}
    (failed : (reserve fresh used stales).outcome = .error fault) :
    ∃ answer stale, fault = .stillUsed answer stale := by
  rw [reserve_outcome] at failed
  cases inner : (pickAll fresh used stales).outcome with
  | error other =>
      rw [inner] at failed
      cases failed
      exact pickAll_eq_error inner
  | ok value =>
      rw [inner] at failed
      cases failed

end PickAll

/-! ## Colliding -/

theorem collidesAfter_eq_false_iff {used : Names} : ∀ {names earlier : List String},
    collidesAfter used earlier names = false ↔
      names.Nodup ∧ (∀ name ∈ names, name ∉ used) ∧ ∀ name ∈ names, name ∉ earlier
  | [], _ => by simp [collidesAfter]
  | name :: rest, earlier => by
      rw [collidesAfter, Bool.or_eq_false_iff, Bool.or_eq_false_iff, decide_eq_false_iff_not,
        collidesAfter_eq_false_iff]
      simp only [List.contains_eq_mem, decide_eq_false_iff_not, List.nodup_cons, List.mem_cons,
        forall_eq_or_imp, not_or]
      grind

/-- **A list that does not collide** has distinct names that are not in use. -/
theorem collides_eq_false_iff {used : Names} {names : List String} :
    collides used names = false ↔ names.Nodup ∧ ∀ name ∈ names, name ∉ used := by
  rw [collides, collidesAfter_eq_false_iff]
  simp

/-- **A list collides exactly if picking changes it**: names that are picked are distinct and not
in use, so a list that is kept does not collide. -/
theorem Picked.collides_iff {fresh : Strategy} {used scope : Names} {stales names : List String}
    (picked : Picked fresh used stales scope names) :
    collides used stales = true ↔ names ≠ stales := by
  constructor
  · intro collision kept
    have apart : collides used names = false :=
      collides_eq_false_iff.mpr ⟨picked.distinct, picked.unused⟩
    rw [kept, collision] at apart
    cases apart
  · intro changed
    cases test : collides used stales with
    | true => rfl
    | false =>
        obtain ⟨distinct, unused⟩ := collides_eq_false_iff.mp test
        exact absurd (picked.chosen.trans (fresh.choices_of_unused distinct unused)) changed

/-- A list that collides is given other names. -/
theorem Strategy.choices_ne_of_collides {fresh : Strategy} (honest : fresh.Honest) {used : Names}
    {names : List String} (collision : collides used names = true) :
    fresh.choices used names ≠ names :=
  (pickAll_picked (pickAll_outcome_of_honest honest used names)).collides_iff.mp collision

end BindingTrees
