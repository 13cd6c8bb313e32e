import BindingTrees.Proofs.CheckVerdicts

/-!
# Checks on free variables

A check on free variables compares texts: the text of the set found with the text of the set of
the names listed.  In the text of a set the names stand in order, with a comma and a blank between
them.  So the text tells no more than the parts that the names fall into when they are cut at
every comma with a blank after it (`Names.text_eq_iff`), and a set without names has the text of
the set of the empty name.

The check passes for sets with the same parts, and its verdict is wrong exactly if these are two
different sets (`Document.freeVars_verdict_right_iff`): a variable `a, b` passes for the names `a`
and `b`, and no variable at all passes for the empty name (`Document.freeVars_verdict_wrong`).
Where no name has a separator in it, the empty name is all that can be mistaken, and no variable of
a document has that name (`Document.Unfolds.ne_empty_of_free`).
-/

set_option autoImplicit false

namespace BindingTrees

/-! ## Parts of a text -/

namespace Text

/-- What stands between the names of a set in its text. -/
def separator : List Char := [',', ' ']

/-- The parts of a text between the separators in it. -/
def parts : List Char → List (List Char)
  | [] => [[]]
  | ',' :: ' ' :: rest => [] :: parts rest
  | c :: rest => (parts rest).modifyHead (c :: ·)

/-- There is always a first part. -/
theorem exists_parts_eq_cons (text : List Char) : ∃ first others, parts text = first :: others := by
  fun_induction parts text with
  | case1 => exact ⟨[], [], rfl⟩
  | case2 rest _ => exact ⟨[], parts rest, rfl⟩
  | case3 c rest _ ih =>
      obtain ⟨first, others, split⟩ := ih
      exact ⟨c :: first, others, by rw [split, List.modifyHead_cons]⟩

/-- A character that begins no separator belongs to the first part. -/
theorem parts_cons {c : Char} {rest : List Char} (inside : ¬ separator <+: c :: rest) :
    parts (c :: rest) = (parts rest).modifyHead (c :: ·) := by
  rw [parts]
  rintro after rfl rfl
  exact inside ⟨after, rfl⟩

/-- **A text is its parts with separators in between.** -/
theorem intercalate_parts (text : List Char) : separator.intercalate (parts text) = text := by
  fun_induction parts text with
  | case1 => rfl
  | case2 rest ih =>
      obtain ⟨first, others, split⟩ := exists_parts_eq_cons rest
      rw [split] at ih ⊢
      rw [List.intercalate_cons_cons, ih]
      rfl
  | case3 c rest _ ih =>
      obtain ⟨first, others, split⟩ := exists_parts_eq_cons rest
      rw [split] at ih ⊢
      cases others with
      | nil => simpa using ih
      | cons second others => simpa using ih

theorem parts_injective : Function.Injective parts := by
  intro left right same
  rw [← intercalate_parts left, same, intercalate_parts]

/-- A separator ends a part wherever it stands, as none begins with the blank of another. -/
theorem parts_append (front back : List Char) :
    parts (front ++ separator ++ back) = parts front ++ parts back := by
  fun_induction parts front with
  | case1 => rfl
  | case2 rest ih =>
      show parts (',' :: ' ' :: (rest ++ separator ++ back)) = _
      rw [parts, ih]
      rfl
  | case3 c rest inside ih =>
      have stillInside : ¬ separator <+: c :: (rest ++ separator ++ back) := by
        rintro ⟨after, same⟩
        cases rest with
        | nil => simp [separator] at same
        | cons next rest =>
            simp only [separator, List.cons_append, List.cons.injEq] at same
            exact inside rest same.1.symm (same.2.1 ▸ rfl)
      obtain ⟨first, others, split⟩ := exists_parts_eq_cons rest
      show parts (c :: (rest ++ separator ++ back)) = _
      rw [parts_cons stillInside, ih, split]
      rfl

/-- **Joined texts fall into the parts of each.** -/
theorem parts_intercalate {texts : List (List Char)} (inhabited : texts ≠ []) :
    parts (separator.intercalate texts) = texts.flatMap parts := by
  induction texts with
  | nil => exact absurd rfl inhabited
  | cons text texts ih =>
      cases texts with
      | nil => rw [List.intercalate_singleton, List.flatMap_singleton]
      | cons next texts =>
          rw [List.intercalate_cons_cons, parts_append, List.flatMap_cons,
            ih (List.cons_ne_nil next texts)]

/-- A text without a separator is one part. -/
theorem parts_of_not_infix {text : List Char} (undivided : ¬ separator <:+: text) :
    parts text = [text] := by
  induction text with
  | nil => rfl
  | cons c rest ih =>
      rw [List.infix_cons_iff, not_or] at undivided
      rw [parts_cons undivided.1, ih undivided.2]
      rfl

end Text

/-! ## Texts of sets -/

namespace Names

/-- The parts of the names of a set, in order.  No name counts as an empty one. -/
def pieces (names : Names) : List (List Char) :=
  if names = ∅ then [[]] else names.toList.flatMap fun name => Text.parts name.toList

theorem toList_eq_nil_iff {names : Names} : names.toList = [] ↔ names = ∅ := by
  constructor
  · intro none
    refine Names.ext fun name => ?_
    rw [← Names.mem_toList, none]
    simp
  · rintro rfl
    rfl

/-- What stands between the braces falls into the pieces of the set. -/
theorem parts_joined (names : Names) :
    Text.parts (", ".intercalate names.toList).toList = names.pieces := by
  rw [String.toList_intercalate, pieces]
  split
  · next empty =>
      subst empty
      rfl
  · next inhabited =>
      have some : names.toList.map String.toList ≠ [] := by
        rwa [ne_eq, List.map_eq_nil_iff, toList_eq_nil_iff]
      show Text.parts (Text.separator.intercalate _) = _
      rw [Text.parts_intercalate some, List.flatMap_map]

/-- **Sets have one text exactly when they have the same pieces.** -/
theorem text_eq_iff {left right : Names} : left.text = right.text ↔ left.pieces = right.pieces := by
  rw [text, text, String.append_left_inj, String.append_right_inj, ← String.toList_inj,
    ← parts_joined, ← parts_joined, Text.parts_injective.eq_iff]

/-- No name of a set has a separator in it. -/
def Undivided (names : Names) : Prop :=
  ∀ name ∈ names, Text.occursIn ", " name = false

instance (names : Names) : Decidable names.Undivided :=
  List.decidableBAll (fun name => Text.occursIn ", " name = false) names.toList

/-- The pieces of undivided names are the names. -/
theorem Undivided.pieces_eq {names : Names} (undivided : names.Undivided) :
    names.pieces = if names = ∅ then [[]] else names.toList.map String.toList := by
  rw [pieces]
  split
  · rfl
  · rw [← List.flatMap_pure_eq_map]
    refine List.flatMap_congr fun name member => Text.parts_of_not_infix fun divided => ?_
    have found : Text.occursIn ", " name = true := Text.occursIn_iff.mpr divided
    exact Bool.false_ne_true ((undivided name member).symm.trans found)

theorem toList_injective : Function.Injective toList := by
  intro left right same
  exact Names.ext fun name => by rw [← mem_toList, same, mem_toList]

/-- One empty piece is what the empty name gives, if a name gives it at all. -/
theorem map_toList_eq_iff {names : Names} :
    names.toList.map String.toList = [[]] ↔ names = .ofList [""] := by
  constructor
  · intro one
    obtain ⟨name, only, empty⟩ := List.map_eq_singleton_iff.mp one
    rw [String.toList_eq_nil_iff] at empty
    subst empty
    exact toList_injective only
  · rintro rfl
    rfl

/-- Undivided sets, the first without the empty name, have one text if they are equal, or if the
first has no name and the second has only the empty one. -/
theorem Undivided.text_eq_iff {left right : Names} (undivided : left.Undivided)
    (otherUndivided : right.Undivided) (noEmpty : "" ∉ left) :
    left.text = right.text ↔ left = right ∨ (left = ∅ ∧ right = .ofList [""]) := by
  rw [Names.text_eq_iff, undivided.pieces_eq, otherUndivided.pieces_eq]
  by_cases none : left = ∅
  · by_cases otherNone : right = ∅
    · simp [none, otherNone]
    · rw [if_pos none, if_neg otherNone, eq_comm, map_toList_eq_iff]
      simp [none, Ne.symm otherNone]
  · by_cases otherNone : right = ∅
    · rw [if_neg none, if_pos otherNone, map_toList_eq_iff]
      constructor
      · rintro rfl
        exact absurd (Names.mem_ofList.mpr List.mem_cons_self) noEmpty
      · rintro (same | ⟨impossible, _⟩)
        · exact absurd (same.trans otherNone) none
        · exact absurd impossible none
    · rw [if_neg none, if_neg otherNone, List.map_inj_right fun _ _ => String.toList_inj.mp,
        toList_injective.eq_iff]
      simp [none]

end Names

namespace Scenario

/-! ## Variables of a document -/

mutual
/-- No variable of a document has the empty name. -/
theorem Document.Unfolds.ne_empty_of_free {doc : Document} {free : String} :
    ∀ {name : String} {term : Term}, doc.Unfolds name term → free ∈ term.freeNames → free ≠ ""
  | _, _, .name _ inner => Sketch.Unfolds.ne_empty_of_free inner

theorem Sketch.Unfolds.ne_empty_of_free {doc : Document} {free : String} :
    ∀ {sketch : Sketch} {term : Term}, Sketch.Unfolds doc sketch term → free ∈ term.freeNames →
      free ≠ ""
  | _, _, .var given _, member => Term.mem_freeNames_var.mp member ▸ given
  | _, _, .ref _ _ inner, member => Document.Unfolds.ne_empty_of_free inner member
  | _, _, .tag _ slots, member =>
      SlotsUnfold.ne_empty_of_free slots (Term.mem_freeNames_node.mp member)

theorem SlotsUnfold.ne_empty_of_free {doc : Document} {free : String} :
    ∀ {slots : List (Slot Sketch)} {parts : Args}, SlotsUnfold doc slots parts →
      free ∈ parts.freeNames → free ≠ ""
  | _, _, .nil, member => absurd member Names.not_mem_empty
  | _, _, .cons _ body rest, member => by
      rcases Args.mem_freeNames_cons.mp member with ⟨inBody, _⟩ | inRest
      · exact Sketch.Unfolds.ne_empty_of_free body inBody
      · exact SlotsUnfold.ne_empty_of_free rest inRest
end

/-! ## Verdicts -/

section Verdicts

variable {doc : Document} {check : Check} {left : Term}

/-- The result of a check on free variables. -/
theorem Document.runCheck_freeVars (fresh : Strategy) (kind : check.kind = .freeVars)
    (built : doc.term check.left = .ok left) :
    (doc.runCheck fresh check).1 =
      ⟨check, left.freeVars.text == (Names.ofList (check.names.getD [])).text, left.freeVars.text,
        none⟩ := by
  have leftIs : (doc.recall check.left).outcome = .ok left :=
    Document.recall_eq_ok_iff.mpr built
  have answer : (doc.evaluate fresh .freeVars check).outcome = .ok left.freeVars.text := by
    rw [Document.evaluate, Recorded.outcome_bind_eq_ok]
    exact ⟨left, leftIs, rfl⟩
  rw [Document.runCheck_of_ne doc fresh (by simp [kind]), kind, answer, Check.resultOf,
    Check.accepts, kind]
  rfl

end Verdicts

/-- **When the verdict on free variables is right.**  Let the left term of the check be built.
There is no error, and the answer is the text of its free variables.  That the check passes exactly
if these are the names listed is true exactly when they are, or when the two sets do not fall into
the same pieces.  If no variable and no name listed has a separator in it, the check passes when
the sets are the same, and otherwise only when there is no free variable and the empty name is the
one name listed. -/
theorem Document.freeVars_verdict_right_iff (doc : Document) (fresh : Strategy) (check : Check)
    (kind : check.kind = .freeVars) (left : Term) (built : doc.term check.left = .ok left) :
    let found := left.freeVars
    let listed := Names.ofList (check.names.getD [])
    let result := (doc.runCheck fresh check).1
    (result.err = none ∧ result.got = found.text) ∧
    ((result.passed = true ↔ found = listed) ↔ found = listed ∨ found.pieces ≠ listed.pieces) ∧
    (found.Undivided → listed.Undivided →
      (result.passed = true ↔ found = listed ∨ (found = ∅ ∧ listed = .ofList [""]))) := by
  intro found listed result
  have verdict : result = ⟨check, found.text == listed.text, found.text, none⟩ :=
    Document.runCheck_freeVars fresh kind built
  have passes : result.passed = true ↔ found.text = listed.text := by
    rw [verdict]
    exact beq_iff_eq
  refine ⟨?_, ?_, ?_⟩
  · rw [verdict]
    exact ⟨rfl, rfl⟩
  · rw [passes, Names.text_eq_iff]
    by_cases same : found = listed
    · simp [same]
    · simp [same]
  · intro undivided otherUndivided
    have noEmpty : "" ∉ found := fun member =>
      (Document.unfolds_of_term built).ne_empty_of_free (Term.mem_freeVars.mp member) rfl
    rw [passes]
    exact undivided.text_eq_iff otherUndivided noEmpty

/-- A variable with a separator in its name, a function with a free variable in its body, and a
constant. -/
def dividedName : Document where
  terms :=
    [("odd", .mk "a, b" "" "" none),
      ("open", .mk "" "" "lam" (some [⟨some ["x"], .mk "" "" "ap"
        (some [⟨none, .mk "x" "" "" none⟩, ⟨none, .mk "y" "" "" none⟩])⟩])),
      ("closed", .mk "" "" "unit" none)]

/-- The bound `x` of the function is not expected among its free variables, and `y` may be listed
twice. -/
theorem Document.freeVars_verdict_right_open :
    let right : Check := { kind := .freeVars, left := "open", names := some ["y", "y"] }
    let wrong : Check := { kind := .freeVars, left := "open", names := some ["x", "y"] }
    (dividedName.runCheck .primes right).1.passed = true ∧
      (dividedName.runCheck .primes right).1.got = "\x7by\x7d" ∧
      (dividedName.runCheck .primes wrong).1.passed = false := by
  intro right wrong
  have built : dividedName.term "open" = .ok (.node "lam" (.cons ["x"] (.node "ap"
      (.cons [] (.var "x") (.cons [] (.var "y") .nil))) .nil)) :=
    Document.term_of_unfolds (.name rfl (.tag (by decide) (.cons (by decide)
      (.tag (by decide) (.cons (by decide) (.var (by decide) rfl)
        (.cons (by decide) (.var (by decide) rfl) .nil))) .nil)))
  obtain ⟨⟨_, got⟩, exactly, _⟩ :=
    Document.freeVars_verdict_right_iff dividedName .primes right rfl _ built
  obtain ⟨_, _, undivided⟩ :=
    Document.freeVars_verdict_right_iff dividedName .primes wrong rfl _ built
  refine ⟨(exactly.mpr (.inl (by decide))).mpr (by decide), got.trans (by decide), ?_⟩
  refine Bool.eq_false_iff.mpr fun passed => ?_
  rcases (undivided (by decide) (by decide)).mp passed with same | ⟨none, _⟩
  · exact absurd same (by decide)
  · exact absurd none (by decide)

/-- **Wrong verdicts.**  The variable `a, b` passes for the two names `a` and `b`, and a term
without free variables passes for the empty name. -/
theorem Document.freeVars_verdict_wrong :
    let divided : Check := { kind := .freeVars, left := "odd", names := some ["a", "b"] }
    let empty : Check := { kind := .freeVars, left := "closed", names := some [""] }
    (dividedName.term "odd" = .ok (.var "a, b") ∧
      (Term.var "a, b").freeVars ≠ .ofList ["a", "b"] ∧
      (dividedName.runCheck .digits divided).1.passed = true) ∧
    dividedName.term "closed" = .ok (.node "unit" .nil) ∧
      (Term.node "unit" .nil).freeVars ≠ .ofList [""] ∧
      (dividedName.runCheck .digits empty).1.passed = true := by
  intro divided empty
  have odd : dividedName.term "odd" = .ok (.var "a, b") :=
    Document.term_of_unfolds (.name rfl (.var (by decide) rfl))
  have closed : dividedName.term "closed" = .ok (.node "unit" .nil) :=
    Document.term_of_unfolds (.name rfl (.tag (by decide) .nil))
  refine ⟨⟨odd, by decide, ?_⟩, closed, by decide, ?_⟩
  · rw [Document.runCheck_freeVars .digits rfl odd]
    decide
  · rw [Document.runCheck_freeVars .digits rfl closed]
    decide

end Scenario
end BindingTrees
