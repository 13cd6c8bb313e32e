import BindingTrees.Engine.Printing
import BindingTrees.Proofs.FreshNames
import Mathlib.Data.List.Forall2

/-!
# Renaming keeps shapes

The shape of a term is what is left of it when all names are struck out: the tags, the numbers of
arguments, the numbers of names bound, and where the variables are.  Opening a node keeps the shape
of its arguments (`openNode_shape`), whether the free variables are in use or not: one that is not
may make opening fail, and one that is captured stays where it is.  So the arguments are alike one
by one (`Args.shape_eq_iff`), with bodies of one size and one depth.

**Printing ends.**  Printing goes on into the bodies that opening returned, which are no parts of
the term.  `Term.printWithin` is this recursion with nothing said about why it ends: it may go only
so deep, and reports when it would go deeper.  A body of an opened node is as deep as the body it
comes from, so for a limit above the depth of the term it never does, and the text is the one
printed (`Term.printWithin_eq`).

**What is printed** is the plain text of a term of the same shape (`Term.printWithin_renders`).
-/

set_option autoImplicit false

namespace BindingTrees

/-! ## Depth -/

mutual
/-- The number of arguments around the innermost variable, hole or node without arguments. -/
def Term.depth : Term → Nat
  | .hole => 0
  | .var _ => 0
  | .node _ args => args.depth

def Args.depth : Args → Nat
  | .nil => 0
  | .cons _ body rest => max (body.depth + 1) rest.depth
end

mutual
/-- The depth of a term is a matter of its shape. -/
theorem Term.depth_shape : ∀ term : Term, term.shape.depth = term.depth
  | .hole => rfl
  | .var _ => rfl
  | .node _ args => by rw [Term.shape, Term.depth, Term.depth, Args.depth_shape args]

theorem Args.depth_shape : ∀ args : Args, args.shape.depth = args.depth
  | .nil => rfl
  | .cons _ body rest => by
      rw [Args.shape, Args.depth, Args.depth, Term.depth_shape body, Args.depth_shape rest]
end

/-! ## Terms of one shape -/

/-- A binder with as many names as another one, over a body of the same shape. -/
structure Binder.Alike (old new : Binder) : Prop where
  names : new.bound.length = old.bound.length
  shape : new.body.shape = old.body.shape

namespace Binder.Alike

variable {old new : Binder}

theorem size (alike : Binder.Alike old new) : new.body.size = old.body.size := by
  rw [← Term.size_shape, alike.shape, Term.size_shape]

theorem depth (alike : Binder.Alike old new) : new.body.depth = old.body.depth := by
  rw [← Term.depth_shape, alike.shape, Term.depth_shape]

end Binder.Alike

/-- Arguments have one shape exactly if they are alike one by one. -/
theorem Args.shape_eq_iff : ∀ {args others : Args},
    others.shape = args.shape ↔ List.Forall₂ Binder.Alike args.toList others.toList
  | .nil, .nil => by simp [Args.toList]
  | .nil, .cons _ _ _ => by simp [Args.shape, Args.toList]
  | .cons _ _ _, .nil => by simp [Args.shape, Args.toList]
  | .cons bound body rest, .cons names other others => by
      rw [Args.shape, Args.shape, Args.toList, Args.toList, List.forall₂_cons, Args.cons.injEq,
        Args.shape_eq_iff, List.map_const', List.map_const', List.replicate_left_inj]
      constructor
      · rintro ⟨lengths, shapes, further⟩
        exact ⟨⟨lengths, shapes⟩, further⟩
      · rintro ⟨⟨lengths, shapes⟩, further⟩
        exact ⟨lengths, shapes, further⟩

/-! ## Printing to a limited depth -/

/-- The text of each argument, with its names in front, where `write` gives the texts of bodies. -/
def Args.writeEach {ε : Type} (write : Names → Term → Recorded ε String) (used : Names) :
    Args → Recorded ε (List String)
  | .nil => pure []
  | .cons bound body rest => do
      let text ← write (used.insertAll bound) body
      let texts ← rest.writeEach write used
      pure ((dotted bound ++ text) :: texts)

/-- The text of a term, written with no more than `limit` calls inside each other.  The error
`none` says that one more call was needed. -/
def Term.printWithin (fresh : Strategy) : Nat → Names → Term → Recorded (Option Fault) String
  | 0, _, _ => Recorded.fail none
  | _ + 1, _, .hole => Recorded.fail (some .hole)
  | _ + 1, _, .var name => pure name
  | limit + 1, used, .node tag args => do
      let opened ← (openNode fresh used tag args).mapError some
      let texts ← opened.writeEach (Term.printWithin fresh limit) used
      pure (applied tag texts)

section Limit

variable {fresh : Strategy}

/-- Writing arguments is printing them, if it is for the bodies and these are not too deep. -/
theorem Args.writeEach_eq {write : Names → Term → Recorded (Option Fault) String} {limit : Nat}
    (each : ∀ (used : Names) (term : Term), term.depth < limit →
      write used term = (term.print fresh used).mapError some) {used : Names} :
    ∀ {args : Args}, args.depth ≤ limit →
      args.writeEach write used = (args.printEach fresh used).mapError some
  | .nil, _ => by
      rw [Args.writeEach, Args.printEach]
      rfl
  | .cons bound body rest, enough => by
      rw [Args.depth, Nat.max_le] at enough
      rw [Args.writeEach, Args.printEach, each _ body enough.1]
      refine Recorded.mapError_bind some fun text _ => ?_
      rw [Args.writeEach_eq each enough.2]
      exact Recorded.mapError_bind some fun texts _ => rfl

/-- **Printing goes no deeper than the term.**  With a limit above the depth of a term the limit is
never met, and the result is that of printing. -/
theorem Term.printWithin_eq (limit : Nat) : ∀ (used : Names) (term : Term), term.depth < limit →
    term.printWithin fresh limit used = (term.print fresh used).mapError some := by
  induction limit with
  | zero =>
      intro used term enough
      cases enough
  | succ limit ih =>
      intro used term enough
      cases term with
      | hole =>
          rw [Term.printWithin, Term.print]
          rfl
      | var name =>
          rw [Term.printWithin, Term.print]
          rfl
      | node tag args =>
          rw [Term.printWithin, Term.print_node]
          refine Recorded.mapError_bind some fun opened openedOk => ?_
          -- The bodies are not those of the term, but they are just as deep.
          have depths : opened.depth = args.depth := by
            rw [← Args.depth_shape, openNode_shape openedOk, Args.depth_shape]
          have within : opened.depth ≤ limit := depths ▸ Nat.le_of_lt_succ enough
          rw [Args.writeEach_eq ih within]
          exact Recorded.mapError_bind some fun texts _ => rfl

/-- The texts of arguments are plain texts of arguments of the same shape, if this is so for the
bodies. -/
theorem Args.writeEach_renders {ε : Type} {write : Names → Term → Recorded ε String}
    (each : ∀ (used : Names) (term : Term) (text : String), (write used term).outcome = .ok text →
      ∃ renamed : Term, renamed.shape = term.shape ∧ text = renamed.render) {used : Names} :
    ∀ {args : Args} {texts : List String}, (args.writeEach write used).outcome = .ok texts →
      ∃ renamed : Args, renamed.shape = args.shape ∧ texts = renamed.renderEach
  | .nil, _, ok => by
      cases ok
      exact ⟨.nil, rfl, rfl⟩
  | .cons bound body rest, _, ok => by
      rw [Args.writeEach, Recorded.outcome_bind_eq_ok] at ok
      obtain ⟨text, textOk, ok⟩ := ok
      rw [Recorded.outcome_bind_eq_ok] at ok
      obtain ⟨texts, textsOk, last⟩ := ok
      cases last
      obtain ⟨newBody, bodyShape, rfl⟩ := each _ body text textOk
      obtain ⟨newRest, restShape, rfl⟩ := Args.writeEach_renders each textsOk
      exact ⟨.cons bound newBody newRest, by rw [Args.shape, Args.shape, bodyShape, restShape], rfl⟩

/-- **A text that is printed is the plain text of a term of the same shape**, at any depth that
the recursion may go to. -/
theorem Term.printWithin_renders (limit : Nat) : ∀ (used : Names) (term : Term) (text : String),
    (term.printWithin fresh limit used).outcome = .ok text →
      ∃ renamed : Term, renamed.shape = term.shape ∧ text = renamed.render := by
  induction limit with
  | zero =>
      intro used term text ok
      cases ok
  | succ limit ih =>
      intro used term text ok
      cases term with
      | hole => cases ok
      | var name =>
          rw [Term.printWithin] at ok
          cases ok
          exact ⟨.var _, rfl, rfl⟩
      | node tag args =>
          rw [Term.printWithin, Recorded.outcome_bind_eq_ok] at ok
          obtain ⟨opened, openedOk, ok⟩ := ok
          rw [Recorded.outcome_bind_eq_ok] at ok
          obtain ⟨texts, textsOk, last⟩ := ok
          cases last
          obtain ⟨renamed, shape, rfl⟩ := Args.writeEach_renders ih textsOk
          have kept : opened.shape = args.shape :=
            openNode_shape (Recorded.outcome_mapError_eq_ok.mp openedOk)
          exact ⟨.node tag renamed, by rw [Term.shape, Term.shape, shape, kept], rfl⟩

end Limit

/-- **Renaming keeps shapes, so printing ends.**  Let the strategy be any at all, and let any names
be in use, whether the free variables are among them or not.

If a node can be opened, its arguments are returned one by one with as many names as before, and
with bodies of the same shape, hence of the same size and depth.  So the recursion of printing,
which goes on into these bodies, goes no deeper than the term: the limit of any number of calls
inside each other above the depth of the term is never met, and the outcome and the record are those
of printing.  If a text is printed, it is the plain text of a term of the same shape. -/
theorem renaming_keeps_shape (fresh : Strategy) (used : Names) :
    (∀ (tag : String) (args opened : Args), (openNode fresh used tag args).outcome = .ok opened →
      List.Forall₂ (fun old new => Binder.Alike old new ∧ new.body.size = old.body.size ∧
        new.body.depth = old.body.depth) args.toList opened.toList) ∧
    (∀ (term : Term) (limit : Nat), term.depth < limit →
      term.printWithin fresh limit used = (term.print fresh used).mapError some) ∧
    ∀ (term : Term) (text : String), (term.print fresh used).outcome = .ok text →
      ∃ renamed : Term, renamed.shape = term.shape ∧ text = renamed.render := by
  refine ⟨?_, fun term limit => Term.printWithin_eq limit used term, ?_⟩
  · intro tag args opened ok
    refine (Args.shape_eq_iff.mp (openNode_shape ok)).imp fun old new alike => ?_
    exact ⟨alike, alike.size, alike.depth⟩
  · intro term text ok
    have limited : (term.printWithin fresh (term.depth + 1) used).outcome = .ok text := by
      rw [Term.printWithin_eq _ used term (Nat.lt_succ_self _)]
      exact Recorded.outcome_mapError_eq_ok.mpr ok
    exact Term.printWithin_renders _ used term text limited

/-- The binder is renamed to `x1`, the one inside it then to `x2`, and the variable `x2`, which was
free and is not in use, is captured by it.  It stays where it was. -/
theorem renaming_keeps_shape_captured :
    let pair := fun left right => Term.node "ap" (.cons [] left (.cons [] right .nil))
    let args := Args.cons ["x"] (pair (.var "x") (.node "lam" (.cons ["x1"] (.var "x2") .nil))) .nil
    let opened :=
      Args.cons ["x1"] (pair (.var "x1") (.node "lam" (.cons ["x2"] (.var "x2") .nil))) .nil
    let term := Term.node "lam" args
    (openNode .digits (.ofList ["x"]) "lam" args).outcome = .ok opened ∧
      List.Forall₂ (fun old new => Binder.Alike old new ∧ new.body.size = old.body.size ∧
        new.body.depth = old.body.depth) args.toList opened.toList ∧
      term.depth < 4 ∧ term.printWithin .digits 4 (.ofList ["x"]) =
        (term.print .digits (.ofList ["x"])).mapError some ∧
      (term.print .digits (.ofList ["x"])).outcome = .ok "lam(x1.ap(x1,lam(x2.x2)))" ∧
      ∃ renamed : Term, renamed.shape = term.shape ∧
        "lam(x1.ap(x1,lam(x2.x2)))" = renamed.render := by
  intro pair args opened term
  have openedOk : (openNode .digits (.ofList ["x"]) "lam" args).outcome = .ok opened := by
    rw [Strategy.digits_eq]
    rfl
  have limited : (term.printWithin .digits 4 (.ofList ["x"])).outcome =
      .ok "lam(x1.ap(x1,lam(x2.x2)))" := by
    rw [Strategy.digits_eq]
    rfl
  obtain ⟨opens, ends, renders⟩ := renaming_keeps_shape .digits (.ofList ["x"])
  have shallow : term.depth < 4 := by decide
  have printed : (term.print .digits (.ofList ["x"])).outcome = .ok "lam(x1.ap(x1,lam(x2.x2)))" :=
    Recorded.outcome_mapError_eq_ok.mp (ends term 4 shallow ▸ limited)
  exact ⟨openedOk, opens "lam" args opened openedOk, shallow, ends term 4 shallow, printed,
    renders term _ printed⟩

end BindingTrees
