import BindingTrees.Text.LowerCase

/-!
# Suggestions for a misspelled word

A known word is suggested for an unknown one when few letters have to be inserted,
removed or changed to get from one to the other, or when the unknown word begins
it.  Letters are compared without regard to case and counted in bytes of UTF-8.
-/

set_option autoImplicit false

namespace BindingTrees.Console

variable {α : Type} [DecidableEq α]

/-- The distances from a word that ends in `letter` to the beginnings of another
word, from those of the word without it. -/
def nextDistances (letter : α) (left diagonal : Nat) : List α → List Nat → List Nat
  | other :: others, up :: ups =>
      let here := if letter = other then diagonal else 1 + min diagonal (min up left)
      here :: nextDistances letter here up others ups
  | _, _ => []

/-- The number of insertions, removals and changes between two words. -/
def editDistance (source target : List α) : Nat :=
  let rows := source.foldl
    (fun (row : List Nat) letter =>
      match row with
      | first :: rest => (first + 1) :: nextDistances letter (first + 1) first target rest
      | [] => [])
    (List.range (target.length + 1))
  rows.getLastD 0

/-- The bytes of a word in lower case. -/
def foldedBytes (word : String) : List UInt8 :=
  (String.ofList (word.toList.map Text.lowerCase)).toUTF8.data.toList

/-- The known words to suggest for an unknown one. -/
def suggestions (known : List String) (word : String) : List String :=
  known.filter fun candidate =>
    editDistance (foldedBytes word) (foldedBytes candidate) ≤ 2 ||
      (foldedBytes word).isPrefixOf (foldedBytes candidate)

end BindingTrees.Console
