import BindingTrees.Text.Cluster.Classes

/-!
# Perceived characters

What a reader takes for one character of a line may be several characters that join.
`clusterRest` cuts the first perceived character off a line: it goes on as long as
the next character joins what was read so far.

Whether it joins depends on the last character (`JoinClass.joins`) and, for three
rules, on more: regional indicators join in pairs, a pictograph joins an earlier one
by a joiner with only extending characters between them, and a consonant joins an
earlier one if there is a linker among the extending characters between them.
-/

set_option autoImplicit false

namespace BindingTrees.Text

/-! ## Neighbours -/

/-- Whether two neighbours join whatever was before them. -/
def JoinClass.joins : JoinClass → JoinClass → Bool
  | .control, _ => false
  | _, .control => false
  | _, .extending => true
  | _, .joiner => true
  | _, .spacing => true
  | .prepended, _ => true
  | .leading, .leading => true
  | .leading, .vowel => true
  | .leading, .openSyllable => true
  | .leading, .closedSyllable => true
  | .openSyllable, .vowel => true
  | .openSyllable, .trailing => true
  | .vowel, .vowel => true
  | .vowel, .trailing => true
  | .closedSyllable, .trailing => true
  | .trailing, .trailing => true
  | _, _ => false

/-! ## What was read so far -/

/-- A consonant followed by extending characters only, and whether one of them is a
linker. -/
inductive Conjunct where
  | absent
  | unlinked
  | linked
deriving DecidableEq, Repr

/-- What counts of the characters read so far: the class of the last one, whether it
is the first of a pair of regional indicators, whether a pictograph was followed by
extending characters only, or by those and then a joiner, and the last consonant. -/
structure Trail where
  last : JoinClass
  halfPair : Bool := false
  picture : Bool := false
  pictureJoined : Bool := false
  conjunct : Conjunct := .absent
deriving DecidableEq, Repr

/-- The last consonant after one more character. -/
def Conjunct.next (conjunct : Conjunct) (c : Char) : Conjunct :=
  if inRuns consonantRuns c then .unlinked
  else if conjunct = .absent || c == zeroWidthNonJoiner then .absent
  else if inRuns linkerRuns c then .linked
  else if isExtending c || c == zeroWidthJoiner then conjunct
  else .absent

/-- What counts after one more character. -/
def Trail.next (trail : Trail) (c : Char) : Trail :=
  let cls := JoinClass.of c
  { last := cls
    halfPair := cls = .regional && !trail.halfPair
    picture := cls = .pictograph || (trail.picture && cls = .extending)
    pictureJoined := trail.picture && cls = .joiner
    conjunct := trail.conjunct.next c }

/-- What counts after the first character. -/
def Trail.start (c : Char) : Trail := Trail.next { last := .control } c

/-- Whether a character joins what was read so far. -/
def Trail.joins (trail : Trail) (c : Char) : Bool :=
  let cls := JoinClass.of c
  trail.last.joins cls ||
    (trail.halfPair && cls = .regional) ||
    (trail.pictureJoined && cls = .pictograph) ||
    (trail.conjunct = .linked && inRuns consonantRuns c)

/-! ## Cutting -/

/-- What is left of a line once all that joins what was read is cut off. -/
def Trail.rest (trail : Trail) : List Char → List Char
  | [] => []
  | c :: line => if trail.joins c then (trail.next c).rest line else c :: line

/-- What is left of a line after a perceived character that begins with `first`. -/
def clusterRest (first : Char) (line : List Char) : List Char := (Trail.start first).rest line

theorem Trail.length_rest_le : ∀ (line : List Char) (trail : Trail),
    (trail.rest line).length ≤ line.length
  | [], _ => Nat.le_refl _
  | c :: line, trail => by
      rw [Trail.rest]
      split
      · exact Nat.le_trans (length_rest_le line (trail.next c)) (Nat.le_succ _)
      · exact Nat.le_refl _

theorem length_clusterRest_le (first : Char) (line : List Char) :
    (clusterRest first line).length ≤ line.length :=
  Trail.length_rest_le line (Trail.start first)

end BindingTrees.Text
