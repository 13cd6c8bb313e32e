import BindingTrees.Proofs.NodeFormation
import BindingTrees.Proofs.PrintedNames

/-!
# What the text of a term tells

The plain text of a term can be read in one way only, provided that neither its tags nor its
names hold a delimiter and no variable is empty (`Term.render_injective`).  Reading from the
left, a run of characters without delimiters is a bound name if a point follows, a tag if a
parenthesis opens, and a variable otherwise; after the last argument a parenthesis closes.

Picked names hold no delimiters if the names they are picked for do not, whether by numerals
or by prime marks (`Strategy.plain_of_known`), so the term whose plain text is printed can be
read back, and it is the term printed up to bound names (`Term.print_legible`).  So equal texts
come from terms that are the same up to bound names, whatever strategy and names in use either
of them was printed with (`alphaEq_of_print_eq`).
-/

set_option autoImplicit false

namespace BindingTrees

/-! ## Runs without delimiters -/

/-- No character is a delimiter. -/
def Undelimited (text : String) : Prop :=
  ∀ c ∈ text.toList, isDelimiter c = false

instance (text : String) : Decidable (Undelimited text) :=
  List.decidableBAll (fun c => isDelimiter c = false) text.toList

/-- Nothing, or something that starts with a delimiter. -/
def Delimited (rest : List Char) : Prop :=
  ∀ c, rest.head? = some c → isDelimiter c = true

theorem delimited_cons {c : Char} {rest : List Char} (delimiter : isDelimiter c = true) :
    Delimited (c :: rest) := by
  intro first here
  cases here
  exact delimiter

/-- A run is what stands before the first delimiter. -/
theorem takeWhile_run {run : String} {rest : List Char} (free : Undelimited run)
    (stops : Delimited rest) :
    (run.toList ++ rest).takeWhile (fun c => !isDelimiter c) = run.toList := by
  have inRun : ∀ c ∈ run.toList, (!isDelimiter c) = true := fun c member => by
    rw [free c member]
    rfl
  rw [List.takeWhile_append_of_pos inRun]
  cases rest with
  | nil => simp
  | cons c rest => simp [stops c rfl]

/-- **A run ends in one place only.** -/
theorem Undelimited.append_inj {left right : String} {first second : List Char}
    (leftFree : Undelimited left) (rightFree : Undelimited right) (firstStops : Delimited first)
    (secondStops : Delimited second) (same : left.toList ++ first = right.toList ++ second) :
    left = right ∧ first = second := by
  have runs : left.toList = right.toList := by
    rw [← takeWhile_run leftFree firstStops, same, takeWhile_run rightFree secondStops]
  rw [runs] at same
  exact ⟨String.toList_inj.mp runs, List.append_cancel_left same⟩

/-! ## Texts as characters -/

theorem toList_dotted_cons (name : String) (names : List String) :
    (dotted (name :: names)).toList = name.toList ++ '.' :: (dotted names).toList := by
  rw [dotted, List.map_cons, String.join_cons, String.toList_append, String.toList_append,
    List.append_assoc]
  rfl

/-- Texts with a comma in front of each. -/
def following (texts : List String) : List Char :=
  texts.flatMap fun text => ',' :: text.toList

theorem toList_intercalate_cons (text : String) (texts : List String) :
    (",".intercalate (text :: texts)).toList = text.toList ++ following texts := by
  induction texts generalizing text with
  | nil => simp [following]
  | cons next texts ih =>
      rw [String.intercalate_cons_cons, String.toList_append, String.toList_append, ih next]
      simp [following]

theorem toList_applied (tag : String) (texts : List String) :
    (applied tag texts).toList =
      tag.toList ++ '(' :: ((",".intercalate texts).toList ++ [')']) := by
  simp [applied]

/-! ## Legible terms -/

/-- A name that can be read back: it is not empty and holds no delimiter. -/
def Plain (name : String) : Prop := name ≠ "" ∧ Undelimited name

instance (name : String) : Decidable (Plain name) :=
  inferInstanceAs (Decidable (_ ∧ _))

mutual
/-- No tag holds a delimiter, and all names are plain. -/
def Term.Legible : Term → Prop
  | .hole => False
  | .var name => Plain name
  | .node tag args => Undelimited tag ∧ args.Legible

def Args.Legible : Args → Prop
  | .nil => True
  | .cons bound body rest => (∀ name ∈ bound, Plain name) ∧ body.Legible ∧ rest.Legible
end

/-- What may follow an argument: nothing, a comma or a closing parenthesis. -/
def EndsArgument (rest : List Char) : Prop :=
  ∀ c, rest.head? = some c → c = ',' ∨ c = ')'

theorem EndsArgument.nil : EndsArgument [] := by
  intro c impossible
  cases impossible

theorem EndsArgument.delimited {rest : List Char} (ends : EndsArgument rest) : Delimited rest := by
  intro c here
  rcases ends c here with rfl | rfl
  · rfl
  · rfl

/-- What follows an argument inside a node ends it. -/
theorem EndsArgument.following (texts : List String) (rest : List Char) :
    EndsArgument (following texts ++ ')' :: rest) := by
  intro c here
  cases texts with
  | nil => exact .inr (Option.some.inj here).symm
  | cons text texts => exact .inl (Option.some.inj here).symm

/-- The text of a term is not the start of a bound name. -/
theorem Term.render_append_ne_point {body : Term} (legible : body.Legible) {name : String}
    (free : Undelimited name) {first second : List Char} (ends : EndsArgument first) :
    body.render.toList ++ first ≠ name.toList ++ '.' :: second := by
  intro same
  have point : Delimited ('.' :: second) := delimited_cons rfl
  cases body with
  | hole => exact legible
  | var other =>
      obtain ⟨_, rests⟩ := legible.2.append_inj free ends.delimited point same
      rcases ends '.' (by rw [rests]; rfl) with impossible | impossible
      · cases impossible
      · cases impossible
  | node tag args =>
      rw [Term.render, toList_applied, List.append_assoc] at same
      obtain ⟨_, rests⟩ := legible.1.append_inj free (delimited_cons rfl) point same
      cases rests

/-- A run before a delimiter other than a closing parenthesis does not start with one. -/
theorem Undelimited.append_ne_close {run : String} (free : Undelimited run) {c : Char}
    (delimiter : isDelimiter c = true) (other : c ≠ ')') {first second : List Char} :
    run.toList ++ c :: first ≠ ')' :: second := by
  intro same
  have empty : Undelimited "" := fun c member => absurd member List.not_mem_nil
  have close : Delimited (')' :: second) := delimited_cons rfl
  obtain ⟨_, rests⟩ := free.append_inj empty (delimited_cons delimiter) close same
  exact other (List.cons.inj rests).1

/-- The text of an argument does not start with a closing parenthesis. -/
theorem argument_append_ne_close {bound : List String} {body : Term}
    (plain : ∀ name ∈ bound, Plain name) (legible : body.Legible) {first second : List Char} :
    (dotted bound ++ body.render).toList ++ first ≠ ')' :: second := by
  rw [String.toList_append]
  cases bound with
  | cons name names =>
      rw [toList_dotted_cons, List.append_assoc, List.append_assoc]
      exact (plain name List.mem_cons_self).2.append_ne_close rfl (by decide)
  | nil =>
      cases body with
      | hole => exact legible.elim
      | node tag args =>
          rw [Term.render, toList_applied]
          show tag.toList ++ _ ++ first ≠ _
          rw [List.append_assoc]
          exact legible.1.append_ne_close rfl (by decide)
      | var name =>
          intro same
          obtain ⟨inhabited, free⟩ := legible
          cases characters : name.toList with
          | nil => exact inhabited (String.toList_inj.mp characters)
          | cons c rest =>
              rw [Term.render] at same
              have start : c = ')' := by
                have start : name.toList ++ first = ')' :: second := same
                rw [characters] at start
                exact (List.cons.inj start).1
              have delimiter := free c (by rw [characters]; exact List.mem_cons_self)
              rw [start] at delimiter
              cases delimiter

/-- An argument is read in one way if its body is. -/
theorem argument_append_inj {body : Term} (legible : body.Legible)
    (unique : ∀ {right : Term} {first second : List Char}, right.Legible → EndsArgument first →
      EndsArgument second → body.render.toList ++ first = right.render.toList ++ second →
        body = right ∧ first = second) :
    ∀ {bound others : List String} {right : Term} {first second : List Char},
    (∀ name ∈ bound, Plain name) → (∀ name ∈ others, Plain name) → right.Legible →
    EndsArgument first → EndsArgument second →
    (dotted bound ++ body.render).toList ++ first =
      (dotted others ++ right.render).toList ++ second →
        bound = others ∧ body = right ∧ first = second
  | [], [], _, _, _, _, _, rightLegible, firstEnds, secondEnds, same => by
      obtain ⟨bodies, rests⟩ := unique rightLegible firstEnds secondEnds same
      exact ⟨rfl, bodies, rests⟩
  | [], name :: names, right, first, second, _, plain, _, firstEnds, _, same => by
      rw [String.toList_append (s := dotted (name :: names)), toList_dotted_cons,
        List.append_assoc, List.append_assoc] at same
      have free := (plain name List.mem_cons_self).2
      exact absurd same (Term.render_append_ne_point legible free firstEnds)
  | name :: names, [], right, first, second, plain, _, rightLegible, _, secondEnds, same => by
      rw [String.toList_append (s := dotted (name :: names)), toList_dotted_cons,
        List.append_assoc, List.append_assoc] at same
      have free := (plain name List.mem_cons_self).2
      exact absurd same.symm (Term.render_append_ne_point rightLegible free secondEnds)
  | name :: names, other :: others, right, first, second, plain, otherPlain, rightLegible,
      firstEnds, secondEnds, same => by
      rw [String.toList_append, String.toList_append, toList_dotted_cons, toList_dotted_cons,
        List.append_assoc, List.append_assoc, List.append_assoc, List.append_assoc] at same
      obtain ⟨nameFree, restPlain⟩ := List.forall_mem_cons.mp plain
      obtain ⟨otherFree, otherRestPlain⟩ := List.forall_mem_cons.mp otherPlain
      obtain ⟨rfl, rests⟩ := nameFree.2.append_inj otherFree.2 (delimited_cons rfl)
        (delimited_cons rfl) same
      have tails : (dotted names ++ body.render).toList ++ first =
          (dotted others ++ right.render).toList ++ second := by
        rw [String.toList_append, String.toList_append, List.append_assoc, List.append_assoc]
        exact (List.cons.inj rests).2
      obtain ⟨rfl, bodies, ends⟩ := argument_append_inj legible unique restPlain otherRestPlain
        rightLegible firstEnds secondEnds tails
      exact ⟨rfl, bodies, ends⟩

/-! ## Reading a text -/

/-- Texts with commas between them are told apart like texts with a comma in front of each:
only an argument that is not there could be taken for another. -/
theorem Args.following_of_intercalate : ∀ {args others : Args} {first second : List Char},
    args.Legible → others.Legible →
    (",".intercalate args.renderEach).toList ++ ')' :: first =
      (",".intercalate others.renderEach).toList ++ ')' :: second →
    following args.renderEach ++ ')' :: first = following others.renderEach ++ ')' :: second
  | .nil, .nil, _, _, _, _, same => same
  | .nil, .cons bound body rest, first, second, _, legible, same => by
      rw [Args.renderEach, Args.renderEach, toList_intercalate_cons, List.append_assoc] at same
      exact absurd same.symm (argument_append_ne_close legible.1 legible.2.1)
  | .cons bound body rest, .nil, first, second, legible, _, same => by
      rw [Args.renderEach, Args.renderEach, toList_intercalate_cons, List.append_assoc] at same
      exact absurd same (argument_append_ne_close legible.1 legible.2.1)
  | .cons _ _ _, .cons _ _ _, _, _, _, _, same => by
      rw [Args.renderEach, Args.renderEach, toList_intercalate_cons,
        toList_intercalate_cons] at same
      exact congrArg (',' :: ·) same

mutual
/-- **The text of a legible term is read in one way**, up to where the term ends. -/
theorem Term.render_append_inj : ∀ {left right : Term} {first second : List Char}, left.Legible →
    right.Legible → EndsArgument first → EndsArgument second →
    left.render.toList ++ first = right.render.toList ++ second → left = right ∧ first = second
  | .hole, _, _, _, legible, _, _, _, _ => legible.elim
  | _, .hole, _, _, _, legible, _, _, _ => legible.elim
  | .var name, .var other, _, _, leftLegible, rightLegible, firstEnds, secondEnds, same => by
      obtain ⟨rfl, rests⟩ := leftLegible.2.append_inj rightLegible.2 firstEnds.delimited
        secondEnds.delimited same
      exact ⟨rfl, rests⟩
  | .var name, .node tag args, first, second, leftLegible, rightLegible, firstEnds, _, same => by
      rw [Term.render, Term.render, toList_applied, List.append_assoc] at same
      obtain ⟨_, rests⟩ := leftLegible.2.append_inj rightLegible.1 firstEnds.delimited
        (delimited_cons rfl) same
      rcases firstEnds '(' (by rw [rests]; rfl) with impossible | impossible
      · cases impossible
      · cases impossible
  | .node tag args, .var name, first, second, leftLegible, rightLegible, _, secondEnds, same => by
      rw [Term.render, Term.render, toList_applied, List.append_assoc] at same
      obtain ⟨_, rests⟩ := leftLegible.1.append_inj rightLegible.2 (delimited_cons rfl)
        secondEnds.delimited same
      rcases secondEnds '(' (by rw [← rests]; rfl) with impossible | impossible
      · cases impossible
      · cases impossible
  | .node tag args, .node otherTag others, first, second, leftLegible, rightLegible, _, _,
      same => by
      rw [Term.render, Term.render, toList_applied, toList_applied, List.append_assoc,
        List.append_assoc] at same
      obtain ⟨rfl, rests⟩ := leftLegible.1.append_inj rightLegible.1 (delimited_cons rfl)
        (delimited_cons rfl) same
      have inside : (",".intercalate args.renderEach).toList ++ ')' :: first =
          (",".intercalate others.renderEach).toList ++ ')' :: second := by
        simpa using (List.cons.inj rests).2
      obtain ⟨rfl, ends⟩ := Args.following_append_inj leftLegible.2 rightLegible.2
        (Args.following_of_intercalate leftLegible.2 rightLegible.2 inside)
      exact ⟨rfl, ends⟩

/-- Arguments with a comma in front of each are read in one way. -/
theorem Args.following_append_inj : ∀ {args others : Args} {first second : List Char},
    args.Legible → others.Legible →
    following args.renderEach ++ ')' :: first = following others.renderEach ++ ')' :: second →
      args = others ∧ first = second
  | .nil, .nil, _, _, _, _, same => ⟨rfl, (List.cons.inj same).2⟩
  | .nil, .cons _ _ _, _, _, _, _, same => by cases (List.cons.inj same).1
  | .cons _ _ _, .nil, _, _, _, _, same => by cases (List.cons.inj same).1
  | .cons bound body rest, .cons otherBound otherBody otherRest, first, second, legible,
      otherLegible, same => by
      have tails : (dotted bound ++ body.render).toList ++
            (following rest.renderEach ++ ')' :: first) =
          (dotted otherBound ++ otherBody.render).toList ++
            (following otherRest.renderEach ++ ')' :: second) := by
        simpa [Args.renderEach, following] using same
      obtain ⟨rfl, rfl, rests⟩ := argument_append_inj legible.2.1
        (fun rightLegible firstEnds secondEnds =>
          Term.render_append_inj legible.2.1 rightLegible firstEnds secondEnds)
        legible.1 otherLegible.1 otherLegible.2.1 (.following _ _) (.following _ _) tails
      obtain ⟨rfl, ends⟩ := Args.following_append_inj legible.2.2 otherLegible.2.2 rests
      exact ⟨rfl, ends⟩
end

/-- **The text of a legible term determines it.** -/
theorem Term.render_injective {left right : Term} (leftLegible : left.Legible)
    (rightLegible : right.Legible) (same : left.render = right.render) : left = right :=
  (Term.render_append_inj leftLegible rightLegible .nil .nil (by rw [same])).1

/-! ## Picked names -/

theorem isDelimiter_of_isSuffixMark {c : Char} (mark : Strategy.isSuffixMark c = true) :
    isDelimiter c = false := by
  rw [Bool.eq_false_iff]
  intro delimiter
  simp only [isDelimiter, Bool.or_eq_true, beq_iff_eq] at delimiter
  rcases delimiter with ((rfl | rfl) | rfl) | rfl
  all_goals exact absurd mark (by decide)

/-- The strategies known by name answer a plain name with a plain name. -/
theorem Strategy.plain_of_known {fresh : Strategy} (known : fresh = .digits ∨ fresh = .primes)
    (used : Names) (stale : String) (plain : Plain stale) : Plain (fresh used stale) := by
  refine ⟨Strategy.answer_ne_empty_of_known known used plain.1, fun c member => ?_⟩
  rcases Strategy.mem_answer_of_known known member with old | mark
  · exact plain.2 c old
  · exact isDelimiter_of_isSuffixMark mark

mutual
/-- A pass over a legible term gives a legible term, if the values put in place are legible. -/
theorem Term.legible_substWith {fresh : Strategy}
    (keeps : ∀ used stale, Plain stale → Plain (fresh used stale)) :
    ∀ {term result : Term} {used : Names} {env : Env Term}, term.Legible →
    (∀ name value, env.find? name = some value → value.Legible) →
    (term.substWith fresh used env).outcome = .ok result → result.Legible
  | .hole, _, _, _, legible, _, _ => legible.elim
  | .var name, result, used, env, legible, values, ok => by
      rcases Term.substWith_var_eq_ok ok with found | ⟨_, _, rfl⟩
      · exact values name _ found
      · exact legible
  | .node tag args, result, used, env, legible, values, ok => by
      obtain ⟨changed, inner, rfl⟩ := Term.substWith_node_eq_ok ok
      exact ⟨legible.1, Args.legible_substWith keeps legible.2 values inner⟩

theorem Args.legible_substWith {fresh : Strategy}
    (keeps : ∀ used stale, Plain stale → Plain (fresh used stale)) :
    ∀ {args result : Args} {used : Names} {env : Env Term}, args.Legible →
    (∀ name value, env.find? name = some value → value.Legible) →
    (args.substWith fresh used env).outcome = .ok result → result.Legible
  | .nil, _, _, _, _, _, ok => by
      cases ok
      trivial
  | .cons bound body rest, result, used, env, legible, values, ok => by
      obtain ⟨scope, names, newBody, newRest, pickedOk, bodyOk, restOk, rfl⟩ :=
        Args.substWith_cons_eq_ok ok
      have picked := pickAll_picked pickedOk
      have plain : ∀ name ∈ names, Plain name := by
        rw [picked.chosen]
        exact Strategy.forall_mem_choices keeps legible.1
      have entries : (names.map Term.var).length = bound.length := by
        rw [List.length_map, picked.length_eq]
      have inner : ∀ name value,
          (env.bindAll bound (names.map .var)).find? name = some value → value.Legible := by
        intro name value found
        rcases Env.find?_bindAll_eq_some entries found with ⟨_, member⟩ | ⟨_, earlier⟩
        · obtain ⟨other, chosen, rfl⟩ := List.mem_map.mp member
          exact plain other chosen
        · exact values name value earlier
      exact ⟨plain, Term.legible_substWith keeps legible.2.1 inner bodyOk,
        Args.legible_substWith keeps legible.2.2 values restOk⟩
end

/-! ## Readable terms -/

mutual
/-- The tags of a term, from the root on. -/
def Term.tags : Term → List String
  | .hole => []
  | .var _ => []
  | .node tag args => tag :: args.tags

def Args.tags : Args → List String
  | .nil => []
  | .cons _ body rest => body.tags ++ rest.tags
end

/-- A well-formed term whose tags hold no delimiter and whose free variables are plain. -/
structure Term.Readable (term : Term) : Prop where
  formed : term.WellFormed
  tags : ∀ tag ∈ term.tags, Undelimited tag
  free : ∀ name ∈ term.freeVars, Plain name

theorem plain_of_atomic {name : String} (atomic : Atomic name) : Plain name := by
  obtain ⟨inhabited, undelimited, _⟩ := atomic_iff.mp atomic
  exact ⟨fun empty => inhabited (String.toList_eq_nil_iff.mpr empty), undelimited⟩

mutual
/-- A bound variable has a bound name, so it is plain like the free ones. -/
theorem Term.legible_of_wellFormed : ∀ {term : Term}, term.WellFormed →
    (∀ tag ∈ term.tags, Undelimited tag) → (∀ name ∈ term.freeNames, Plain name) → term.Legible
  | .hole, formed, _, _ => formed
  | .var name, _, _, free => free name (Term.mem_freeNames_var.mpr rfl)
  | .node _ _, formed, tags, free => by
      obtain ⟨here, inside⟩ := List.forall_mem_cons.mp tags
      exact ⟨here, Args.legible_of_wellFormed formed inside fun name member =>
        free name (Term.mem_freeNames_node.mpr member)⟩

theorem Args.legible_of_wellFormed : ∀ {args : Args}, args.WellFormed →
    (∀ tag ∈ args.tags, Undelimited tag) → (∀ name ∈ args.freeNames, Plain name) → args.Legible
  | .nil, _, _, _ => trivial
  | .cons bound body rest, ⟨atomic, bodyFormed, restFormed⟩, tags, free => by
      obtain ⟨bodyTags, restTags⟩ := List.forall_mem_append.mp tags
      have plain : ∀ name ∈ bound, Plain name := fun name member =>
        plain_of_atomic (atomic name member)
      have bodyFree : ∀ name ∈ body.freeNames, Plain name := by
        intro name member
        by_cases here : name ∈ bound
        · exact plain name here
        · exact free name (Args.mem_freeNames_cons.mpr (.inl ⟨member, here⟩))
      have restFree : ∀ name ∈ rest.freeNames, Plain name := fun name member =>
        free name (Args.mem_freeNames_cons.mpr (.inr member))
      exact ⟨plain, Term.legible_of_wellFormed bodyFormed bodyTags bodyFree,
        Args.legible_of_wellFormed restFormed restTags restFree⟩
end

/-- **What is printed is the plain text of a legible term** that is the term up to bound
names. -/
theorem Term.Readable.print_legible {term : Term} (readable : term.Readable) {fresh : Strategy}
    (known : fresh = .digits ∨ fresh = .primes) {used : Names}
    (declared : ∀ name ∈ term.freeVars, name ∈ used) :
    ∃ renamed : Term, (term.print fresh used).outcome = .ok renamed.render ∧ renamed.Legible ∧
      renamed.AlphaEq term := by
  have inUse : ∀ name ∈ term.freeNames, name ∈ used := fun name free =>
    declared name (Term.mem_freeVars.mpr free)
  have legible : term.Legible := Term.legible_of_wellFormed readable.formed readable.tags
    fun name free => readable.free name (Term.mem_freeVars.mpr free)
  obtain ⟨renamed, ok, printed⟩ := Term.print_eq_render_substWith
    (Strategy.honest_of_known known) readable.formed.complete inUse
  refine ⟨renamed, printed, ?_, Term.alphaEq_of_substWith inUse ok⟩
  exact Term.legible_substWith (Strategy.plain_of_known known) legible
    (fun name value found => by cases found) ok

/-- Two readable terms have texts, and these are the same only if the terms are the same up to
bound names. -/
theorem Term.Readable.exists_texts {left right : Term} (leftReadable : left.Readable)
    (rightReadable : right.Readable) {first second : Strategy}
    (firstKnown : first = .digits ∨ first = .primes)
    (secondKnown : second = .digits ∨ second = .primes) {used others : Names}
    (leftDeclared : ∀ name ∈ left.freeVars, name ∈ used)
    (rightDeclared : ∀ name ∈ right.freeVars, name ∈ others) :
    ∃ leftText rightText, (left.print first used).outcome = .ok leftText ∧
      (right.print second others).outcome = .ok rightText ∧
      (leftText = rightText → left.AlphaEq right) := by
  obtain ⟨leftTerm, leftPrinted, leftLegible, leftAlike⟩ :=
    leftReadable.print_legible firstKnown leftDeclared
  obtain ⟨rightTerm, rightPrinted, rightLegible, rightAlike⟩ :=
    rightReadable.print_legible secondKnown rightDeclared
  refine ⟨_, _, leftPrinted, rightPrinted, fun same => ?_⟩
  cases Term.render_injective leftLegible rightLegible same
  exact leftAlike.symm.trans rightAlike

/-- A term that can be printed under its own free variables is shown as printed. -/
theorem Term.display_of_print {term : Term} {text : String}
    (printed : (term.print .digits term.freeVars).outcome = .ok text) :
    term.display = .ok text := by
  simp only [Term.display, printed]

/-- **The printed text determines the term up to bound names.**  Let two well-formed terms
have tags without delimiters and free variables that are not empty and hold none.  Printed
under names in use that include their free variables, each with either of the strategies known
by name, both have a text, and if the texts are the same then so are the terms up to bound
names.  In particular this holds of the texts that the terms have by themselves. -/
theorem alphaEq_of_print_eq (first second : Strategy)
    (firstKnown : first = .digits ∨ first = .primes)
    (secondKnown : second = .digits ∨ second = .primes) (used others : Names) (left right : Term)
    (leftReadable : left.Readable) (rightReadable : right.Readable)
    (leftDeclared : ∀ name ∈ left.freeVars, name ∈ used)
    (rightDeclared : ∀ name ∈ right.freeVars, name ∈ others) :
    (∃ leftText rightText, (left.print first used).outcome = .ok leftText ∧
      (right.print second others).outcome = .ok rightText ∧
      (leftText = rightText → left.AlphaEq right)) ∧
    ∃ leftText rightText, left.display = .ok leftText ∧ right.display = .ok rightText ∧
      (leftText = rightText → left.AlphaEq right) := by
  refine ⟨leftReadable.exists_texts rightReadable firstKnown secondKnown leftDeclared
    rightDeclared, ?_⟩
  obtain ⟨leftText, rightText, leftPrinted, rightPrinted, told⟩ :=
    leftReadable.exists_texts rightReadable (.inl rfl) (.inl rfl) (fun _ free => free)
      (fun _ free => free)
  exact ⟨leftText, rightText, Term.display_of_print leftPrinted,
    Term.display_of_print rightPrinted, told⟩

/-- One binder is renamed by a numeral and the other keeps a name that looks like it: the
texts are the same, and so are the terms up to bound names. -/
theorem alphaEq_of_print_eq_renamed :
    let left := Term.node "lam" (.cons ["x"] (.node ""
      (.cons [] (.var "x") (.cons [] (.var "y") .nil))) .nil)
    let right := Term.node "lam" (.cons ["x1"] (.node ""
      (.cons [] (.var "x1") (.cons [] (.var "y") .nil))) .nil)
    (left.print .digits (.ofList ["x", "y"])).outcome = .ok "lam(x1.(x1,y))" ∧
      (right.print .primes (.ofList ["y"])).outcome = .ok "lam(x1.(x1,y))" ∧
      left.AlphaEq right := by
  intro left right
  have leftOk : (left.substWith .digits (.ofList ["x", "y"]) []).outcome = .ok right := by
    rw [Strategy.digits_eq]
    rfl
  have rightOk : (right.substWith .primes (.ofList ["y"]) []).outcome = .ok right := by
    rw [Strategy.primes_eq]
    rfl
  have leftPrinted : (left.print .digits (.ofList ["x", "y"])).outcome = .ok right.render :=
    Term.print_of_substWith Strategy.digits_honest ⟨⟨trivial, trivial, trivial⟩, trivial⟩
      (by decide) leftOk
  have rightPrinted : (right.print .primes (.ofList ["y"])).outcome = .ok right.render :=
    Term.print_of_substWith Strategy.primes_honest ⟨⟨trivial, trivial, trivial⟩, trivial⟩
      (by decide) rightOk
  have leftReadable : left.Readable :=
    ⟨⟨by decide, ⟨by decide, trivial, by decide, trivial, trivial⟩, trivial⟩, by decide, by decide⟩
  have rightReadable : right.Readable :=
    ⟨⟨by decide, ⟨by decide, trivial, by decide, trivial, trivial⟩, trivial⟩, by decide, by decide⟩
  have law := alphaEq_of_print_eq .digits .primes (.inl rfl) (.inr rfl) (.ofList ["x", "y"])
    (.ofList ["y"]) left right leftReadable rightReadable (by decide) (by decide)
  obtain ⟨⟨_, _, leftFound, rightFound, told⟩, _⟩ := law
  cases leftPrinted.symm.trans leftFound
  cases rightPrinted.symm.trans rightFound
  exact ⟨leftPrinted, rightPrinted, told rfl⟩

end BindingTrees
