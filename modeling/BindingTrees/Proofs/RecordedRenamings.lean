import BindingTrees.Proofs.JustifiedFaults

/-!
# Which renamings are recorded

Opening a node records a renaming for each of its binders that collide.  Printing opens nodes that
an earlier renaming has rewritten, and it could record their binders again.  It does not: what is
printed is recorded once for each outermost binder that collides, in the order in which the binders
are met (`print_records_outermost_collisions`).

**Collisions in place.**  `Term.binders` lists the binders of a term with the names of those around
them, as they stand in the term.  A binder collides in its place when one of its names is in use, is
bound around it, or stands in it twice (`PlacedBinder.Collides`).  Nothing is said of new names
here, although printing goes on with new names inside a binder that was renamed.

**Silence.**  Picking names and substituting record nothing but questions to the strategy
(`Recorded.Silent`).  So the record of an opened binder is one renaming or none, and a binder that
was renamed is settled, whence printing its body records nothing at all.
-/

set_option autoImplicit false

namespace BindingTrees

/-! ## Records -/

/-- The old and the new names of a renaming. -/
def Event.renaming? : Event → Option (List String × List String)
  | .renamed old new => some (old, new)
  | .asked _ _ _ => none

/-- The renamings among events, in order. -/
def renamings (events : List Event) : List (List String × List String) :=
  events.filterMap Event.renaming?

@[simp]
theorem renamings_append (first second : List Event) :
    renamings (first ++ second) = renamings first ++ renamings second :=
  List.filterMap_append

namespace Recorded

variable {ε α β : Type}

theorem renamings_bind {step : Recorded ε α} {next : α → Recorded ε β} {value : α}
    (ok : step.outcome = .ok value) : renamings (step >>= next).events =
      renamings step.events ++ renamings (next value).events := by
  rw [events_bind_ok ok, renamings_append]

theorem renamings_pure (value : α) : renamings (pure value : Recorded ε α).events = [] := rfl

/-- No renaming is recorded. -/
def Silent (step : Recorded ε α) : Prop := renamings step.events = []

namespace Silent

theorem renamings_eq {step : Recorded ε α} (silent : step.Silent) : renamings step.events = [] :=
  silent

theorem of_pure (value : α) : (pure value : Recorded ε α).Silent := rfl

theorem of_fail (error : ε) : (fail error : Recorded ε α).Silent := rfl

theorem of_asked (used : Names) (stale answer : String) :
    (note (.asked used stale answer) : Recorded ε Unit).Silent := rfl

theorem bind {step : Recorded ε α} {next : α → Recorded ε β} (first : step.Silent)
    (second : ∀ value, (next value).Silent) : (step >>= next).Silent := by
  cases outcome : step.outcome with
  | error error =>
      rw [Silent, events_bind_error outcome]
      exact first
  | ok value =>
      rw [Silent, renamings_bind outcome, first.renamings_eq, (second value).renamings_eq,
        List.append_nil]

end Silent

end Recorded

/-! ## What records nothing -/

section Silence

variable {fresh : Strategy}

theorem pick_silent (used : Names) (stale : String) : (pick fresh used stale).Silent := by
  rw [pick]
  split
  · refine .bind (.of_asked used stale _) fun _ => ?_
    split
    · exact .of_fail _
    · exact .of_pure _
  · exact .of_pure stale

theorem pickAll_silent : ∀ (used : Names) (stales : List String),
    (pickAll fresh used stales).Silent
  | used, [] => .of_pure _
  | used, stale :: rest => by
      rw [pickAll_cons]
      exact .bind (pick_silent used stale) fun name =>
        .bind (pickAll_silent (used.insert name) rest) fun _ => .of_pure _

theorem reserve_silent : ∀ (used : Names) (stales : List String),
    (reserve fresh used stales).Silent
  | used, [] => .of_pure _
  | used, stale :: rest => by
      rw [reserve]
      exact .bind (pick_silent used stale) fun name => reserve_silent (used.insert name) rest

mutual
/-- A pass records no renaming, although it renames every binder on its way. -/
theorem Term.substWith_silent : ∀ (term : Term) (used : Names) (env : Env Term),
    (term.substWith fresh used env).Silent
  | .hole, _, _ => by
      rw [Term.substWith]
      exact .of_fail _
  | .var name, used, env => by
      rw [Term.substWith]
      split
      · exact .of_pure _
      · split
        · exact .of_pure _
        · exact .of_fail _
  | .node tag args, used, env => by
      rw [Term.substWith]
      exact .bind (Args.substWith_silent args used env) fun _ => .of_pure _

theorem Args.substWith_silent : ∀ (args : Args) (used : Names) (env : Env Term),
    (args.substWith fresh used env).Silent
  | .nil, _, _ => by
      rw [Args.substWith]
      exact .of_pure _
  | .cons bound body rest, used, env => by
      rw [Args.substWith]
      exact .bind (pickAll_silent used bound) fun _ =>
        .bind (Term.substWith_silent body _ _) fun _ =>
          .bind (Args.substWith_silent rest used env) fun _ => .of_pure _
end

theorem subst_silent (used : Names) (replacements : List Term) (binder : Binder) :
    (subst fresh used replacements binder).Silent := by
  rw [subst]
  split
  · exact .bind (reserve_silent used binder.bound) fun scope =>
      Term.substWith_silent binder.body scope _
  · exact .of_fail _

end Silence

/-! ## Opening -/

section Opening

variable {fresh : Strategy} {used : Names}

/-- **An opened binder** is recorded if it collides, with the names that it is given. -/
theorem renamings_openBinder {binder opened : Binder}
    (ok : (openBinder fresh used binder).outcome = .ok opened) :
    renamings (openBinder fresh used binder).events =
      if collides used binder.bound then [(binder.bound, fresh.choices used binder.bound)]
      else [] := by
  rcases openBinder_eq_ok ok with ⟨apart, _⟩ | ⟨collision, scope, names, body, pickedOk, _, _⟩
  · rw [openBinder, apart]
    rfl
  · have noted : (Recorded.note (.renamed binder.bound names) : Recorded Fault Unit).outcome =
        .ok () := rfl
    have rest : (subst fresh used (names.map .var) binder >>= fun body =>
        (pure ⟨names, body⟩ : Recorded Fault Binder)).Silent :=
      .bind (subst_silent used _ binder) fun _ => .of_pure _
    rw [openBinder, if_pos collision, if_pos collision, Recorded.renamings_bind pickedOk,
      (pickAll_silent used binder.bound).renamings_eq, List.nil_append,
      Recorded.renamings_bind noted, rest.renamings_eq, ← (pickAll_picked pickedOk).chosen]
    rfl

end Opening

/-! ## Binders in place -/

/-- A binder of a term: its names, and the names of the binders around it, the nearest first. -/
structure PlacedBinder where
  around : List (List String)
  bound : List String
deriving DecidableEq

mutual
/-- The binders of a term under binders that were passed already.  Those of a node come first, and
then those inside each of its arguments. -/
def Term.binders (around : List (List String)) : Term → List PlacedBinder
  | .hole => []
  | .var _ => []
  | .node _ args =>
      args.toList.map (fun binder => ⟨around, binder.bound⟩) ++ args.bindersInside around

def Args.bindersInside (around : List (List String)) : Args → List PlacedBinder
  | .nil => []
  | .cons bound body rest => body.binders (bound :: around) ++ rest.bindersInside around
end

namespace PlacedBinder

/-- A name stands in the binder twice, or it is in use or bound around the binder. -/
def Collides (used : Names) (binder : PlacedBinder) : Prop :=
  ¬ binder.bound.Nodup ∨
    ∃ name ∈ binder.bound, name ∈ used ∨ ∃ names ∈ binder.around, name ∈ names

instance (used : Names) (binder : PlacedBinder) : Decidable (binder.Collides used) :=
  inferInstanceAs (Decidable (_ ∨ _))

/-- Binders one inside the other, each in its place. -/
def nested : List (List String) → List PlacedBinder
  | [] => []
  | bound :: around => ⟨around, bound⟩ :: nested around

/-- The binder collides, and none of the binders around it does. -/
def IsOutermostCollision (used : Names) (binder : PlacedBinder) : Prop :=
  binder.Collides used ∧ ∀ outer ∈ nested binder.around, ¬ outer.Collides used

instance (used : Names) (binder : PlacedBinder) : Decidable (binder.IsOutermostCollision used) :=
  inferInstanceAs (Decidable (_ ∧ _))

end PlacedBinder

theorem Names.mem_insertScopes_iff_exists {base : Names} {name : String} :
    ∀ {scopes : List (List String)},
      name ∈ base.insertScopes scopes ↔ name ∈ base ∨ ∃ scope ∈ scopes, name ∈ scope
  | [] => by simp [Names.insertScopes]
  | scope :: scopes => by
      rw [Names.insertScopes, Names.mem_insertAll, Names.mem_insertScopes_iff_exists,
        List.exists_mem_cons_iff]
      exact or_left_comm

/-- A binder collides in its place when its names collide with those in use there. -/
theorem PlacedBinder.collides_iff {used : Names} {binder : PlacedBinder} :
    binder.Collides used ↔ collides (used.insertScopes binder.around) binder.bound = true := by
  rw [← Bool.not_eq_false, collides_eq_false_iff]
  simp only [Collides, Names.mem_insertScopes_iff_exists]
  grind

/-! ## Binders inside others -/

mutual
/-- What is around a term is around all of its binders. -/
theorem Term.nested_of_mem_binders {outer inner : PlacedBinder} :
    ∀ {term : Term} {around : List (List String)}, inner ∈ term.binders around →
      outer ∈ PlacedBinder.nested around → outer ∈ PlacedBinder.nested inner.around
  | .hole, _, member, _ => absurd member List.not_mem_nil
  | .var _, _, member, _ => absurd member List.not_mem_nil
  | .node _ args, around, member, outside => by
      rcases List.mem_append.mp member with here | inside
      · obtain ⟨binder, _, rfl⟩ := List.mem_map.mp here
        exact outside
      · exact Args.nested_of_mem_bindersInside inside outside

theorem Args.nested_of_mem_bindersInside {outer inner : PlacedBinder} :
    ∀ {args : Args} {around : List (List String)}, inner ∈ args.bindersInside around →
      outer ∈ PlacedBinder.nested around → outer ∈ PlacedBinder.nested inner.around
  | .nil, _, member, _ => absurd member List.not_mem_nil
  | .cons bound body rest, around, member, outside => by
      rcases List.mem_append.mp member with inBody | inRest
      · exact Term.nested_of_mem_binders inBody (List.mem_cons_of_mem _ outside)
      · exact Args.nested_of_mem_bindersInside inRest outside
end

/-- Inside a binder that collides there are no outermost collisions. -/
theorem Term.filter_binders_of_collides {used : Names} {bound : List String}
    {around : List (List String)} (collision : PlacedBinder.Collides used ⟨around, bound⟩)
    (term : Term) :
    (term.binders (bound :: around)).filter (fun binder => binder.IsOutermostCollision used) =
      [] := by
  rw [List.filter_eq_nil_iff]
  intro inner member outermost
  have clear := (of_decide_eq_true outermost).2
  exact clear _ (Term.nested_of_mem_binders member List.mem_cons_self) collision

/-! ## Printing -/

/-- The record of a binder that is renamed in its place. -/
def PlacedBinder.record (fresh : Strategy) (used : Names) (binder : PlacedBinder) :
    List String × List String :=
  (binder.bound, fresh.choices (used.insertScopes binder.around) binder.bound)

section Printing

variable {fresh : Strategy} {used : Names}

/-- The binders of a node are recorded if they collide, when none around the node does. -/
theorem renamings_openArgs {around : List (List String)}
    (clear : ∀ outer ∈ PlacedBinder.nested around, ¬ outer.Collides used) :
    ∀ {args opened : Args}, (openArgs fresh (used.insertScopes around) args).outcome = .ok opened →
      renamings (openArgs fresh (used.insertScopes around) args).events =
        ((args.toList.map fun binder => PlacedBinder.mk around binder.bound).filter
          (fun binder => binder.IsOutermostCollision used)).map (PlacedBinder.record fresh used)
  | .nil, _, _ => rfl
  | .cons bound body rest, _, ok => by
      obtain ⟨binder, others, binderOk, restOk, _⟩ := openArgs_cons_eq_ok ok
      have here : PlacedBinder.IsOutermostCollision used ⟨around, bound⟩ ↔
          collides (used.insertScopes around) bound = true := by
        rw [PlacedBinder.IsOutermostCollision, PlacedBinder.collides_iff]
        exact and_iff_left clear
      rw [openArgs, Recorded.renamings_bind binderOk, Recorded.renamings_bind restOk,
        Recorded.renamings_pure, renamings_openBinder binderOk, renamings_openArgs clear restOk,
        List.append_nil, Args.toList, List.map_cons, List.filter_cons]
      simp only [here, decide_eq_true_eq]
      split
      · rfl
      · rfl

mutual
/-- **Printing records the outermost collisions**, when no binder around the term collides. -/
theorem Term.renamings_print : ∀ {term : Term} {around : List (List String)} {text : String},
    (∀ outer ∈ PlacedBinder.nested around, ¬ outer.Collides used) →
    (term.print fresh (used.insertScopes around)).outcome = .ok text →
      renamings (term.print fresh (used.insertScopes around)).events =
        ((term.binders around).filter (fun binder => binder.IsOutermostCollision used)).map
          (PlacedBinder.record fresh used)
  | .hole, _, _, _, ok => by
      rw [Term.print] at ok
      cases ok
  | .var name, _, _, _, _ => by
      rw [Term.print]
      rfl
  | .node tag args, around, text, clear, ok => by
      rw [Term.print_node, Recorded.outcome_bind_eq_ok] at ok
      obtain ⟨opened, openedOk, ok⟩ := ok
      obtain ⟨texts, textsOk, _⟩ := Recorded.outcome_bind_eq_ok.mp ok
      have argsOk := openNode_eq_ok openedOk
      rw [Term.print_node, Recorded.renamings_bind openedOk, Recorded.renamings_bind textsOk,
        Recorded.renamings_pure, List.append_nil, openNode, Recorded.events_mapError,
        renamings_openArgs clear argsOk, Args.renamings_printEach clear argsOk textsOk,
        Term.binders, List.filter_append, List.map_append]

theorem Args.renamings_printEach : ∀ {args opened : Args} {around : List (List String)}
    {texts : List String}, (∀ outer ∈ PlacedBinder.nested around, ¬ outer.Collides used) →
    (openArgs fresh (used.insertScopes around) args).outcome = .ok opened →
    (opened.printEach fresh (used.insertScopes around)).outcome = .ok texts →
      renamings (opened.printEach fresh (used.insertScopes around)).events =
        ((args.bindersInside around).filter (fun binder => binder.IsOutermostCollision used)).map
          (PlacedBinder.record fresh used)
  | .nil, _, _, _, _, openedOk, _ => by
      cases openedOk
      rw [Args.printEach]
      rfl
  | .cons bound body rest, _, around, texts, clear, openedOk, ok => by
      obtain ⟨binder, others, binderOk, restOk, rfl⟩ := openArgs_cons_eq_ok openedOk
      rw [Args.printEach, Recorded.outcome_bind_eq_ok] at ok
      obtain ⟨text, textOk, ok⟩ := ok
      obtain ⟨otherTexts, othersOk, _⟩ := Recorded.outcome_bind_eq_ok.mp ok
      have inBody : renamings
          (binder.body.print fresh ((used.insertScopes around).insertAll binder.bound)).events =
            ((body.binders (bound :: around)).filter
              (fun binder => binder.IsOutermostCollision used)).map
                (PlacedBinder.record fresh used) := by
        by_cases collision : collides (used.insertScopes around) bound = true
        · -- The body was rewritten, and what is left of it to rename is nothing.
          have settled := openBinder_settled_of_collides collision binderOk
          have inPlace : PlacedBinder.Collides used ⟨around, bound⟩ :=
            PlacedBinder.collides_iff.mpr collision
          rw [Term.print_of_settled settled, Term.filter_binders_of_collides inPlace]
          rfl
        · obtain ⟨_, rfl⟩ | ⟨impossible, _⟩ := openBinder_eq_ok binderOk
          · have stillClear : ∀ outer ∈ PlacedBinder.nested (bound :: around),
                ¬ outer.Collides used :=
              List.forall_mem_cons.mpr ⟨fun here => collision (PlacedBinder.collides_iff.mp here),
                clear⟩
            exact Term.renamings_print stillClear textOk
          · exact absurd impossible collision
      rw [Args.printEach, Recorded.renamings_bind textOk, Recorded.renamings_bind othersOk,
        Recorded.renamings_pure, List.append_nil, inBody,
        Args.renamings_printEach clear restOk othersOk, Args.bindersInside, List.filter_append,
        List.map_append]
end

end Printing

/-- **Every outermost collision is recorded once, and nothing else is.**  Let the strategy keep its
promise, and let a term be printed, whether its free variables are in use or not.  The renamings on
record are those of the binders which collide in their place and have no binder around them that
does: those of a node in order, and then those inside each of its arguments.  A record has the
names of the binder as they stand in the term, and as many names to replace them, which are not
the same. -/
theorem print_records_outermost_collisions (fresh : Strategy) (honest : fresh.Honest)
    (used : Names) (term : Term) (text : String)
    (ok : (term.print fresh used).outcome = .ok text) :
    let records := renamings (term.print fresh used).events
    records.map Prod.fst =
        ((term.binders []).filter fun binder => binder.IsOutermostCollision used).map
          PlacedBinder.bound ∧
      ∀ record ∈ records, record.2.length = record.1.length ∧ record.2 ≠ record.1 := by
  intro records
  have clear : ∀ outer ∈ PlacedBinder.nested [], ¬ outer.Collides used := fun _ around =>
    absurd around List.not_mem_nil
  have exactly : records =
      ((term.binders []).filter fun binder => binder.IsOutermostCollision used).map
        (PlacedBinder.record fresh used) :=
    Term.renamings_print clear ok
  refine ⟨?_, ?_⟩
  · rw [exactly, List.map_map]
    rfl
  · intro record member
    rw [exactly] at member
    obtain ⟨binder, among, rfl⟩ := List.mem_map.mp member
    have outermost := of_decide_eq_true (List.mem_filter.mp among).2
    exact ⟨fresh.length_choices _ _,
      Strategy.choices_ne_of_collides honest (PlacedBinder.collides_iff.mp outermost.1)⟩

/-- The binder of `x` and `w` collides, and so does the one of `x` inside that of `y`.  The second
`x` inside this one is renamed without a record, and the undeclared `z` does no harm. -/
theorem print_records_outermost_collisions_inside :
    let lam := fun names body => Args.cons names (.node "lam" (.cons names body .nil)) .nil
    let term := Term.node "top" (.cons [] (.var "z")
      (.cons ["y"] (.node "app" (lam ["x"] (.var "x"))) (.cons ["x", "w"] (.var "w") .nil)))
    let records := renamings (term.print .digits (.ofList ["x"])).events
    (term.print .digits (.ofList ["x"])).outcome = .ok "top(z,y.app(x1.lam(x2.x2)),x1.w.w)" ∧
      records.map Prod.fst = [["x", "w"], ["x"]] ∧
      ∀ record ∈ records, record.2.length = record.1.length ∧ record.2 ≠ record.1 := by
  intro lam term records
  have printed : (term.print .digits (.ofList ["x"])).outcome =
      .ok "top(z,y.app(x1.lam(x2.x2)),x1.w.w)" := by
    rw [Strategy.digits_eq]
    decide +kernel
  obtain ⟨listed, changed⟩ := print_records_outermost_collisions .digits Strategy.digits_honest
    (.ofList ["x"]) term _ printed
  exact ⟨printed, listed.trans (by decide), changed⟩

end BindingTrees
