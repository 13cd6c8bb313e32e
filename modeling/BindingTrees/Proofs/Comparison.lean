import BindingTrees.Engine.Alpha
import BindingTrees.Proofs.FreshNames
import BindingTrees.Proofs.NamelessForm
import BindingTrees.Proofs.Renaming

/-!
# What a comparison decides

A comparison reads both terms in the same way and says whether it read the same.  A
variable of an enclosing scope is read as bound at its position, and a declared one as
free.  Any other variable should be a fault, but the names shared by the two sides are in
use like the declared ones: an undeclared variable with the name shared at a position is
read as bound there (`Term.reading`).  The comparison answers yes when both terms have
the same reading, no when they differ, and fails when a variable has none
(`Term.equalUnder_judges`).

**Declared variables.** When all free variables are declared the reading is the nameless
form, so the comparison decides equality up to bound names (`equal_decides_alphaEq`).

**Undeclared variables.** Otherwise a positive answer may be wrong, and it is wrong
exactly when the two terms are read alike and some free variable is undeclared
(`equal_true_sound_iff`): `lam(x.x)` and `lam(y.x)` are found equal in the empty context
(`equal_true_of_shared_name`).
-/

set_option autoImplicit false

namespace BindingTrees

/-! ## Shared names -/

/-- The names shared by the bound names of two binders, inside a table of earlier ones. -/
def sharedNames (fresh : Strategy) (declared : Names) (table : List (List String))
    (count : Nat) : List String :=
  fresh.choices (declared.insertScopes table) (List.replicate count sharedRoot)

/-- Shared names are picked as for a list of equal names, and bound on both sides. -/
theorem shareAll_outcome {fresh : Strategy} : ∀ {bound other : List String} (used : Names)
    (left right : Env String), bound.length = other.length →
    (shareAll fresh used left right bound other).outcome =
      (pickAll fresh used (List.replicate bound.length sharedRoot)).outcome.map
        fun (scope, names) => (scope, left.bindAll bound names, right.bindAll other names)
  | [], [], _, _, _, _ => rfl
  | first :: firsts, second :: seconds, used, left, right, lengths => by
      rw [shareAll, List.length_cons, List.replicate_succ, pickAll_cons, Recorded.outcome_bind,
        Recorded.outcome_bind]
      cases (pick fresh used sharedRoot).outcome with
      | error fault => rfl
      | ok name =>
          simp only [Except.bind]
          rw [shareAll_outcome _ _ _ (Nat.succ.inj lengths), Recorded.outcome_bind]
          cases (pickAll fresh (used.insert name)
              (List.replicate firsts.length sharedRoot)).outcome with
          | error fault => rfl
          | ok value => rfl

/-! ## Readings -/

/-- What a variable is read as: bound at its position, free if it is declared, and else
bound at the position where its name is the shared one. -/
def readName (declared : Names) (table scopes : List (List String)) (name : String) :
    Option Nameless :=
  match locate? name scopes with
  | some (depth, index) => some (.bound depth index)
  | none =>
      if name ∈ declared then some (.free name)
      else (locate? name table).map fun (depth, index) => .bound depth index

/-- One more argument in front, if both parts could be read. -/
def NamelessArgs.cons? (count : Nat) : Option Nameless → Option NamelessArgs → Option NamelessArgs
  | some body, some rest => some (.cons count body rest)
  | _, _ => none

mutual
/-- What a comparison reads a term as, inside scopes and the table of their shared
names.  There is no reading if some variable has none. -/
def Term.reading (fresh : Strategy) (declared : Names) (table scopes : List (List String)) :
    Term → Option Nameless
  | .hole => none
  | .var name => readName declared table scopes name
  | .node tag args => (args.reading fresh declared table scopes).map (.node tag)

def Args.reading (fresh : Strategy) (declared : Names) (table scopes : List (List String)) :
    Args → Option NamelessArgs
  | .nil => some .nil
  | .cons bound body rest =>
      NamelessArgs.cons? bound.length
        (body.reading fresh declared (sharedNames fresh declared table bound.length :: table)
          (bound :: scopes))
        (rest.reading fresh declared table scopes)
end

theorem NamelessArgs.cons?_eq_some {count : Nat} {body : Option Nameless}
    {rest : Option NamelessArgs} {form : NamelessArgs} (read : cons? count body rest = some form) :
    ∃ bodyForm restForm, body = some bodyForm ∧ rest = some restForm ∧
      form = .cons count bodyForm restForm := by
  cases body with
  | none => cases read
  | some bodyForm =>
      cases rest with
      | none => cases read
      | some restForm =>
          cases read
          exact ⟨bodyForm, restForm, rfl, rfl, rfl⟩

theorem NamelessArgs.cons?_eq_none {count : Nat} {body : Option Nameless}
    {rest : Option NamelessArgs} (missing : body = none ∨ rest = none) :
    cons? count body rest = none := by
  rcases missing with rfl | rfl
  · rfl
  · cases body with
    | none => rfl
    | some _ => rfl

/-- A variable is not read as a node. -/
theorem readName_ne_node {declared : Names} {table scopes : List (List String)}
    {name tag : String} {args : NamelessArgs} :
    readName declared table scopes name ≠ some (.node tag args) := by
  rw [readName]
  split
  · simp
  · split
    · simp
    · simp

/-- The number of names of each argument of a form. -/
def NamelessArgs.arity : NamelessArgs → List Nat
  | .nil => []
  | .cons count _ rest => count :: rest.arity

/-- A reading keeps the number of names of each argument. -/
theorem Args.arity_of_reading {fresh : Strategy} {declared : Names}
    {table scopes : List (List String)} : ∀ {args : Args} {form : NamelessArgs},
    args.reading fresh declared table scopes = some form → form.arity = args.arity
  | .nil, _, read => by
      cases read
      rfl
  | .cons bound body rest, _, read => by
      obtain ⟨_, restForm, _, restRead, rfl⟩ := NamelessArgs.cons?_eq_some read
      rw [NamelessArgs.arity, Args.arity, Args.arity_of_reading restRead]

mutual
/-- **With all its free variables declared**, a term is read as its nameless form. -/
theorem Term.reading_of_declared {fresh : Strategy} {declared : Names} :
    ∀ {term : Term} {table scopes : List (List String)}, term.Complete →
    (∀ name ∈ term.freeNames, locate? name scopes = none → name ∈ declared) →
      term.reading fresh declared table scopes = some (term.nameless scopes)
  | .hole, _, _, complete, _ => complete.elim
  | .var name, table, scopes, _, inside => by
      rw [Term.reading, readName]
      cases found : locate? name scopes with
      | some position => rw [Term.nameless_var_of_some found]
      | none =>
          have member := inside name (Term.mem_freeNames_var.mpr rfl) found
          rw [Term.nameless_var_of_none found]
          exact if_pos member
  | .node tag args, table, scopes, complete, inside => by
      rw [Term.reading, Args.reading_of_declared complete inside, Term.nameless]
      rfl

theorem Args.reading_of_declared {fresh : Strategy} {declared : Names} :
    ∀ {args : Args} {table scopes : List (List String)}, args.Complete →
    (∀ name ∈ args.freeNames, locate? name scopes = none → name ∈ declared) →
      args.reading fresh declared table scopes = some (args.nameless scopes)
  | .nil, _, _, _, _ => rfl
  | .cons bound body rest, table, scopes, complete, inside => by
      obtain ⟨inBody, inRest⟩ := Args.free_outside_cons inside
      rw [Args.reading, Term.reading_of_declared complete.1 inBody,
        Args.reading_of_declared complete.2 inRest]
      rfl
end

/-! ## Variables -/

/-- Under one table, different names have different forms. -/
theorem Term.nameless_var_inj {name other : String} {table : List (List String)}
    (same : (Term.var name).nameless table = (Term.var other).nameless table) : name = other := by
  cases found : locate? name table with
  | some position =>
      rw [Term.nameless_var_of_some found] at same
      cases otherFound : locate? other table with
      | some otherPosition =>
          rw [Term.nameless_var_of_some otherFound, Nameless.bound.injEq] at same
          have positions : position = otherPosition := Prod.ext same.1 same.2
          exact locate?_inj found (positions ▸ otherFound)
      | none =>
          rw [Term.nameless_var_of_none otherFound] at same
          cases same
  | none =>
      rw [Term.nameless_var_of_none found] at same
      cases otherFound : locate? other table with
      | some otherPosition =>
          rw [Term.nameless_var_of_some otherFound] at same
          cases same
      | none =>
          rw [Term.nameless_var_of_none otherFound] at same
          exact Nameless.free.inj same

section Resolve

variable {declared : Names} {env : Env String} {table scopes : List (List String)} {name : String}

/-- What a variable stands for is read in the table as the variable is in its scopes. -/
theorem resolve_eq_ok (follows : Follows id [] env declared table scopes) {target : String}
    (ok : (resolve (declared.insertScopes table) env name).outcome = .ok target) :
    readName declared table scopes name = some ((Term.var target).nameless table) := by
  rw [resolve] at ok
  rw [readName]
  cases found : locate? name scopes with
  | some position =>
      obtain ⟨entry, value, place⟩ := follows.bound found
      have inUse : entry ∈ declared.insertScopes table := Names.mem_insertScopes_of_locate? place
      simp only [value, id_eq, Option.getD_some, if_pos inUse] at ok
      cases ok
      rw [Term.nameless_var_of_some place]
  | none =>
      simp only [follows.free found, Env.find?_nil, Option.getD_none] at ok
      split at ok
      · next inUse =>
          cases ok
          by_cases member : name ∈ declared
          · rw [Term.nameless_var_of_none (follows.apart member)]
            exact if_pos member
          · obtain ⟨position, place⟩ := Option.ne_none_iff_exists'.mp
              ((Names.mem_insertScopes.mp inUse).resolve_left member)
            rw [Term.nameless_var_of_some place]
            simp only [if_neg member, place, Option.map_some]
      · cases ok

/-- A variable that stands for nothing in use has no reading. -/
theorem resolve_eq_error (follows : Follows id [] env declared table scopes) {fault : Fault}
    (failed : (resolve (declared.insertScopes table) env name).outcome = .error fault) :
    fault = .unbound .equal name ∧ readName declared table scopes name = none := by
  rw [resolve] at failed
  cases found : locate? name scopes with
  | some position =>
      obtain ⟨entry, value, place⟩ := follows.bound found
      have inUse : entry ∈ declared.insertScopes table := Names.mem_insertScopes_of_locate? place
      simp only [value, id_eq, Option.getD_some, if_pos inUse] at failed
      cases failed
  | none =>
      simp only [follows.free found, Env.find?_nil, Option.getD_none] at failed
      split at failed
      · cases failed
      · next notInUse =>
          cases failed
          rw [Names.mem_insertScopes, not_or] at notInUse
          obtain ⟨notDeclared, notShared⟩ := notInUse
          rw [readName, found]
          simp only [if_neg notDeclared, Decidable.not_not.mp notShared, Option.map_none, and_self]

end Resolve

/-! ## Judgements -/

/-- What the outcome of a comparison says of the readings of its two sides. -/
inductive Judges (fresh : Strategy) {α : Type} :
    Except Fault Bool → Option α → Option α → Prop where
  | same (form : α) : Judges fresh (.ok true) (some form) (some form)
  | different {first second : Option α}
      (distinct : ∀ form, first = some form → second ≠ some form) :
      Judges fresh (.ok false) first second
  | unread {first second : Option α} (name : String) (missing : first = none ∨ second = none) :
      Judges fresh (.error (.unbound .equal name)) first second
  | broken {first second : Option α} (answer stale : String) (dishonest : ¬ fresh.Honest) :
      Judges fresh (.error (.stillUsed answer stale)) first second

namespace Judges

variable {fresh : Strategy} {α β : Type} {outcome : Except Fault Bool} {first second : Option α}

/-- A former that keeps different forms different keeps the judgement. -/
theorem map {former : α → β} (injective : Function.Injective former)
    (judges : Judges fresh outcome first second) :
    Judges fresh outcome (first.map former) (second.map former) := by
  cases judges with
  | same form => exact .same (former form)
  | different distinct =>
      refine .different fun form firstRead secondRead => ?_
      obtain ⟨firstForm, firstSome, rfl⟩ := Option.map_eq_some_iff.mp firstRead
      obtain ⟨secondForm, secondSome, equal⟩ := Option.map_eq_some_iff.mp secondRead
      exact distinct firstForm firstSome (injective equal ▸ secondSome)
  | unread name missing =>
      refine .unread name (missing.imp ?_ ?_)
      · rintro rfl
        rfl
      · rintro rfl
        rfl
  | broken answer stale dishonest => exact .broken answer stale dishonest

/-- A positive answer means that the two sides were read alike. -/
theorem exists_form (judges : Judges fresh (.ok true) first second) :
    ∃ form, first = some form ∧ second = some form := by
  cases judges with
  | same form => exact ⟨form, rfl, rfl⟩

/-- Sides that are read alike get a positive answer from an honest strategy. -/
theorem eq_ok_true (judges : Judges fresh outcome first second) (honest : fresh.Honest) {form : α}
    (firstRead : first = some form) (secondRead : second = some form) : outcome = .ok true := by
  cases judges with
  | same _ => rfl
  | different distinct => exact absurd secondRead (distinct form firstRead)
  | unread name missing =>
      rcases missing with rfl | rfl
      · cases firstRead
      · cases secondRead
  | broken answer stale dishonest => exact absurd honest dishonest

/-- Without a broken promise, sides that can be read are compared by their forms. -/
theorem eq_ok_decide [DecidableEq α] {form other : α}
    (judges : Judges fresh outcome (some form) (some other))
    (unbroken : ∀ fault, outcome = .error fault → fault.isBreach = false) :
    outcome = .ok (decide (form = other)) := by
  cases judges with
  | same _ => rw [decide_eq_true rfl]
  | different distinct =>
      have differ : form ≠ other := fun equal => distinct form rfl (congrArg some equal.symm)
      rw [decide_eq_false differ]
  | unread name missing =>
      rcases missing with impossible | impossible
      · cases impossible
      · cases impossible
  | broken answer stale _ => cases unbroken _ rfl

/-- Arguments are judged by the first of their bodies that is not judged alike. -/
theorem cons {bodyOutcome restOutcome : Except Fault Bool} {body otherBody : Option Nameless}
    {rest otherRest : Option NamelessArgs} (count : Nat)
    (bodyJudges : Judges fresh bodyOutcome body otherBody)
    (restJudges : Judges fresh restOutcome rest otherRest) :
    Judges fresh (bodyOutcome.bind fun same => if same then restOutcome else .ok false)
      (NamelessArgs.cons? count body rest) (NamelessArgs.cons? count otherBody otherRest) := by
  cases bodyJudges with
  | same bodyForm =>
      show Judges fresh restOutcome _ _
      cases restJudges with
      | same restForm => exact .same _
      | different distinct =>
          refine .different fun form firstRead secondRead => ?_
          obtain ⟨_, restForm, _, restRead, rfl⟩ := NamelessArgs.cons?_eq_some firstRead
          obtain ⟨_, _, _, otherRead, equal⟩ := NamelessArgs.cons?_eq_some secondRead
          cases equal
          exact distinct restForm restRead otherRead
      | unread name missing =>
          exact .unread name (missing.imp (fun none => NamelessArgs.cons?_eq_none (.inr none))
            fun none => NamelessArgs.cons?_eq_none (.inr none))
      | broken answer stale dishonest => exact .broken answer stale dishonest
  | different distinct =>
      refine .different fun form firstRead secondRead => ?_
      obtain ⟨bodyForm, _, bodyRead, _, rfl⟩ := NamelessArgs.cons?_eq_some firstRead
      obtain ⟨_, _, otherRead, _, equal⟩ := NamelessArgs.cons?_eq_some secondRead
      cases equal
      exact distinct bodyForm bodyRead otherRead
  | unread name missing =>
      exact .unread name (missing.imp (fun none => NamelessArgs.cons?_eq_none (.inl none))
        fun none => NamelessArgs.cons?_eq_none (.inl none))
  | broken answer stale dishonest => exact .broken answer stale dishonest

end Judges

/-! ## The comparison -/

mutual
/-- **A comparison judges two readings**, under environments that follow the scopes of
the two sides into one table. -/
theorem Term.equalUnder_judges {fresh : Strategy} {declared : Names} :
    ∀ {first second : Term} {left right : Env String}
      {table leftScopes rightScopes : List (List String)}, first.Complete →
    Follows id [] left declared table leftScopes →
    Follows id [] right declared table rightScopes →
      Judges fresh
        (first.equalUnder fresh (declared.insertScopes table) left right second).outcome
        (first.reading fresh declared table leftScopes)
        (second.reading fresh declared table rightScopes)
  | .hole, _, _, _, _, _, _, complete, _, _ => complete.elim
  | .var first, .var second, left, right, table, leftScopes, rightScopes, _, onLeft, onRight => by
      rw [Term.equalUnder, Recorded.outcome_bind, Term.reading, Term.reading]
      cases firstOutcome : (resolve (declared.insertScopes table) left first).outcome with
      | error fault =>
          obtain ⟨rfl, missing⟩ := resolve_eq_error onLeft firstOutcome
          exact .unread first (.inl missing)
      | ok target =>
          simp only [Except.bind]
          rw [Recorded.outcome_bind]
          cases secondOutcome : (resolve (declared.insertScopes table) right second).outcome with
          | error fault =>
              obtain ⟨rfl, missing⟩ := resolve_eq_error onRight secondOutcome
              exact .unread second (.inr missing)
          | ok other =>
              rw [resolve_eq_ok onLeft firstOutcome, resolve_eq_ok onRight secondOutcome]
              show Judges fresh (.ok (target == other)) _ _
              by_cases same : target = other
              · subst same
                rw [beq_self_eq_true]
                exact .same _
              · rw [beq_eq_false_iff_ne.mpr same]
                refine .different fun form firstRead secondRead => same ?_
                cases firstRead
                exact Term.nameless_var_inj (Option.some.inj secondRead).symm
  | .var first, .node tag args, _, _, _, _, _, _, _, _ => by
      rw [Term.reading, Term.reading]
      refine .different fun form firstRead secondRead => ?_
      obtain ⟨_, _, rfl⟩ := Option.map_eq_some_iff.mp secondRead
      exact readName_ne_node firstRead
  | .var _, .hole, _, _, _, _, _, _, _, _ => .different fun _ _ impossible => nomatch impossible
  | .node tag args, .node otherTag otherArgs, left, right, table, leftScopes, rightScopes,
      complete, onLeft, onRight => by
      rw [Term.equalUnder, Term.reading, Term.reading]
      split
      · next alike =>
          obtain ⟨rfl, arities⟩ := alike
          refine Judges.map (fun form other equal => ?_)
            (Args.equalUnder_judges complete arities onLeft onRight)
          exact (Nameless.node.inj equal).2
      · next unlike =>
          refine .different fun form firstRead secondRead => unlike ?_
          obtain ⟨argsForm, argsRead, rfl⟩ := Option.map_eq_some_iff.mp firstRead
          obtain ⟨otherForm, otherRead, equal⟩ := Option.map_eq_some_iff.mp secondRead
          obtain ⟨tags, rfl⟩ := Nameless.node.inj equal
          exact ⟨tags.symm, (Args.arity_of_reading argsRead).symm.trans
            (Args.arity_of_reading otherRead)⟩
  | .node tag args, .var second, _, _, _, _, _, _, _, _ => by
      rw [Term.reading, Term.reading]
      refine .different fun form firstRead secondRead => ?_
      obtain ⟨_, _, rfl⟩ := Option.map_eq_some_iff.mp firstRead
      exact readName_ne_node secondRead
  | .node _ _, .hole, _, _, _, _, _, _, _, _ =>
      .different fun _ _ impossible => nomatch impossible

theorem Args.equalUnder_judges {fresh : Strategy} {declared : Names} :
    ∀ {args others : Args} {left right : Env String}
      {table leftScopes rightScopes : List (List String)}, args.Complete →
    args.arity = others.arity →
    Follows id [] left declared table leftScopes →
    Follows id [] right declared table rightScopes →
      Judges fresh
        (args.equalUnder fresh (declared.insertScopes table) left right others).outcome
        (args.reading fresh declared table leftScopes)
        (others.reading fresh declared table rightScopes)
  | .nil, .nil, _, _, _, _, _, _, _, _, _ => by
      rw [Args.equalUnder]
      exact .same _
  | .nil, .cons _ _ _, _, _, _, _, _, _, arities, _, _ => by cases arities
  | .cons _ _ _, .nil, _, _, _, _, _, _, arities, _, _ => by cases arities
  | .cons bound body rest, .cons otherBound otherBody otherRest, left, right, table, leftScopes,
      rightScopes, complete, arities, onLeft, onRight => by
      obtain ⟨lengths, restArities⟩ := List.cons.inj arities
      rw [Args.equalUnder, Recorded.outcome_bind, shareAll_outcome _ _ _ lengths]
      cases picking : (pickAll fresh (declared.insertScopes table)
          (List.replicate bound.length sharedRoot)).outcome with
      | error fault =>
          obtain ⟨answer, stale, rfl⟩ := pickAll_eq_error picking
          refine .broken answer stale fun honest => ?_
          obtain ⟨_, ok⟩ := pickAll_of_honest honest (declared.insertScopes table)
            (List.replicate bound.length sharedRoot)
          rw [ok] at picking
          cases picking
      | ok value =>
          obtain ⟨scope, names⟩ := value
          have picked := pickAll_picked picking
          have count : names.length = bound.length := by
            rw [picked.length_eq, List.length_replicate]
          have leftEnters := onLeft.enter picked count
          have rightEnters := onRight.enter picked (count.trans lengths)
          rw [List.map_id] at leftEnters rightEnters
          have inBody : Judges fresh _ _ (otherBody.reading fresh declared _ _) :=
            Term.equalUnder_judges complete.1 leftEnters rightEnters
          have inRest : Judges fresh _ _ (otherRest.reading fresh declared _ _) :=
            Args.equalUnder_judges complete.2 restArities onLeft onRight
          rw [Args.reading, Args.reading, ← lengths, sharedNames, ← picked.chosen]
          simp only [Except.map, Except.bind]
          rw [picked.gained, Recorded.outcome_bind]
          have branches : ∀ same : Bool,
              (if same then rest.equalUnder fresh (declared.insertScopes table) left right otherRest
                else pure false : Recorded Fault Bool).outcome =
              if same then (rest.equalUnder fresh (declared.insertScopes table) left right
                otherRest).outcome else .ok false := by
            intro same
            cases same <;> rfl
          simp only [branches]
          exact inBody.cons bound.length inRest
end

/-- The readings of two whole terms are judged by their comparison. -/
theorem equal_judges (fresh : Strategy) (used : Names) {left : Term} (right : Term)
    (complete : left.Complete) :
    Judges fresh (equal fresh used left right).outcome (left.reading fresh used [] [])
      (right.reading fresh used [] []) :=
  Term.equalUnder_judges complete (.refl id [] used) (.refl id [] used)

/-! ## Declared variables -/

section Declared

variable {fresh : Strategy} {used : Names} {left right : Term}

theorem Term.reading_whole {term : Term} (complete : term.Complete)
    (declared : ∀ name ∈ term.freeVars, name ∈ used) :
    term.reading fresh used [] [] = some (term.nameless []) :=
  Term.reading_of_declared complete fun name free _ => declared name (Term.mem_freeVars.mpr free)

/-- Declared terms are compared by their nameless forms. -/
theorem equal_of_declared (leftComplete : left.Complete) (rightComplete : right.Complete)
    (leftDeclared : ∀ name ∈ left.freeVars, name ∈ used)
    (rightDeclared : ∀ name ∈ right.freeVars, name ∈ used)
    (unbroken : (equal fresh used left right).Unbroken) :
    (equal fresh used left right).outcome = .ok (decide (left.AlphaEq right)) := by
  have judges := equal_judges fresh used right leftComplete
  rw [Term.reading_whole leftComplete leftDeclared,
    Term.reading_whole rightComplete rightDeclared] at judges
  exact judges.eq_ok_decide unbroken

end Declared

/-- **Comparison decides equality up to bound names.**  When all free variables of two
terms are declared and the strategy keeps its promise, there is an answer, and it is yes
exactly for terms with the same nameless form.  So it is the same answer for every other
strategy and every other context that declares them. -/
theorem equal_decides_alphaEq (fresh : Strategy) (used : Names) (left right : Term)
    (leftComplete : left.Complete) (rightComplete : right.Complete)
    (leftDeclared : ∀ name ∈ left.freeVars, name ∈ used)
    (rightDeclared : ∀ name ∈ right.freeVars, name ∈ used)
    (unbroken : (equal fresh used left right).Unbroken) :
    (∃ answer, (equal fresh used left right).outcome = .ok answer ∧
      (answer = true ↔ left.AlphaEq right)) ∧
    ∀ (otherFresh : Strategy) (otherUsed : Names),
      (∀ name ∈ left.freeVars, name ∈ otherUsed) → (∀ name ∈ right.freeVars, name ∈ otherUsed) →
      (equal otherFresh otherUsed left right).Unbroken →
        (equal otherFresh otherUsed left right).outcome =
          (equal fresh used left right).outcome := by
  have decided := equal_of_declared leftComplete rightComplete leftDeclared rightDeclared unbroken
  refine ⟨⟨_, decided, decide_eq_true_iff⟩, ?_⟩
  intro otherFresh otherUsed leftInside rightInside otherUnbroken
  rw [decided]
  exact equal_of_declared leftComplete rightComplete leftInside rightInside otherUnbroken

/-- The name `x` of the shared names is declared, and stands free beside bound ones: it
is told apart from them. -/
theorem equal_decides_alphaEq_free_root :
    let left := Term.node "lam" (.cons ["a"] (.node "ap"
      (.cons [] (.var "a") (.cons [] (.var "x") .nil))) .nil)
    let right := Term.node "lam" (.cons ["x"] (.node "ap"
      (.cons [] (.var "x") (.cons [] (.var "x") .nil))) .nil)
    (equal (.appending "'") (.ofList ["x"]) left right).outcome = .ok false ∧
      ¬ left.AlphaEq right := by
  intro left right
  have ok : (equal (.appending "'") (.ofList ["x"]) left right).outcome = .ok false := rfl
  have law := equal_decides_alphaEq (.appending "'") (.ofList ["x"]) left right
    ⟨⟨trivial, trivial, trivial⟩, trivial⟩ ⟨⟨trivial, trivial, trivial⟩, trivial⟩
    (by decide) (by decide) (Recorded.unbroken_of_ok ok)
  obtain ⟨⟨answer, found, meaning⟩, _⟩ := law
  cases ok.symm.trans found
  exact ⟨ok, fun alike => Bool.false_ne_true (meaning.mpr alike)⟩

/-! ## Undeclared variables -/

/-- A comparison reads two terms, and reads them alike. -/
def ReadAlike (fresh : Strategy) (used : Names) (left right : Term) : Prop :=
  ∃ form, left.reading fresh used [] [] = some form ∧ right.reading fresh used [] [] = some form

/-- **When a positive answer is right.**  It is, for the strategies known by name, exactly
when all free variables of the two terms are declared or the two are not read alike.  In
the remaining case an undeclared variable is taken for a bound one: the answer is yes
although the variable should have been a fault. -/
theorem equal_true_sound_iff (fresh : Strategy) (known : fresh = .digits ∨ fresh = .primes)
    (used : Names) (left right : Term) (leftComplete : left.Complete)
    (rightComplete : right.Complete) :
    ((equal fresh used left right).outcome = .ok true →
      (∀ name ∈ left.freeVars, name ∈ used) ∧ (∀ name ∈ right.freeVars, name ∈ used) ∧
        left.AlphaEq right) ↔
    ((∀ name ∈ left.freeVars, name ∈ used) ∧ ∀ name ∈ right.freeVars, name ∈ used) ∨
      ¬ ReadAlike fresh used left right := by
  have honest := Strategy.honest_of_known known
  have judges := equal_judges fresh used right leftComplete
  constructor
  · intro sound
    by_cases alike : ReadAlike fresh used left right
    · obtain ⟨form, leftRead, rightRead⟩ := alike
      obtain ⟨leftDeclared, rightDeclared, _⟩ :=
        sound (judges.eq_ok_true honest leftRead rightRead)
      exact .inl ⟨leftDeclared, rightDeclared⟩
    · exact .inr alike
  · rintro (⟨leftDeclared, rightDeclared⟩ | unlike) answered
    · have decided := equal_of_declared leftComplete rightComplete leftDeclared rightDeclared
        (Recorded.unbroken_of_ok answered)
      rw [answered] at decided
      exact ⟨leftDeclared, rightDeclared, of_decide_eq_true (Except.ok.inj decided).symm⟩
    · rw [answered] at judges
      exact absurd judges.exists_form unlike

/-- With its free variable declared, a positive answer is right. -/
theorem equal_true_sound_declared :
    let left := Term.node "lam" (.cons ["x"] (.node "ap"
      (.cons [] (.var "x") (.cons [] (.var "y") .nil))) .nil)
    let right := Term.node "lam" (.cons ["z"] (.node "ap"
      (.cons [] (.var "z") (.cons [] (.var "y") .nil))) .nil)
    (equal .digits (.ofList ["y"]) left right).outcome = .ok true ∧ left.AlphaEq right := by
  intro left right
  have ok : (equal .digits (.ofList ["y"]) left right).outcome = .ok true := rfl
  have law := equal_true_sound_iff .digits (.inl rfl) (.ofList ["y"]) left right
    ⟨⟨trivial, trivial, trivial⟩, trivial⟩ ⟨⟨trivial, trivial, trivial⟩, trivial⟩
  obtain ⟨_, _, alike⟩ := law.mpr (.inl ⟨by decide, by decide⟩) ok
  exact ⟨ok, alike⟩

/-- **A wrong positive answer.**  In the empty context `lam(x.x)` and `lam(y.x)` are found
equal: the free `x` is the name shared by the bound `x` and `y`. -/
theorem equal_true_of_shared_name :
    let left := Term.node "lam" (.cons ["x"] (.var "x") .nil)
    let right := Term.node "lam" (.cons ["y"] (.var "x") .nil)
    left.Complete ∧ right.Complete ∧ (equal .digits ∅ left right).outcome = .ok true ∧
      (equal .primes ∅ left right).outcome = .ok true ∧ "x" ∈ right.freeVars ∧
      "x" ∉ (∅ : Names) ∧ ¬ left.AlphaEq right :=
  ⟨⟨trivial, trivial⟩, ⟨trivial, trivial⟩, rfl, rfl, by decide, by decide, by decide⟩

end BindingTrees
