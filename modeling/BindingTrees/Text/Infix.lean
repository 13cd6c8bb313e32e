/-!
# Occurrence of one text in another

`occursIn` looks for a text as a contiguous part of another, and finds exactly
those parts (`occursIn_iff`).
-/

set_option autoImplicit false

namespace BindingTrees.Text

/-- Whether `part` is a contiguous part of a list of characters. -/
def isPart (part : List Char) : List Char → Bool
  | [] => part.isEmpty
  | c :: rest => part.isPrefixOf (c :: rest) || isPart part rest

theorem isPart_iff {part : List Char} : ∀ {whole : List Char},
    isPart part whole ↔ part <:+: whole
  | [] => by simp [isPart, List.isEmpty_iff]
  | c :: rest => by
      rw [isPart, Bool.or_eq_true, List.isPrefixOf_iff_prefix, isPart_iff, List.infix_cons_iff]

/-- Whether `part` is a contiguous part of `whole`. -/
def occursIn (part whole : String) : Bool := isPart part.toList whole.toList

theorem occursIn_iff {part whole : String} :
    occursIn part whole ↔ part.toList <:+: whole.toList := isPart_iff

end BindingTrees.Text
