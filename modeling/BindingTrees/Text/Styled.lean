import BindingTrees.Text.ControlSequence

/-!
# Text styled for a terminal

A style is a selection of graphic attributes.  It is put around each line of a
text by itself, and the shorter lines are then padded with plain spaces to the
width of the longest.  Tabs are laid out as four spaces.
-/

set_option autoImplicit false

namespace BindingTrees.Text

/-- Graphic attributes, as the numbers that select them. -/
structure Style where
  attributes : String

/-- One line in a style. -/
def Style.line (style : Style) (text : List Char) : String :=
  "\x1b[" ++ style.attributes ++ "m" ++ String.ofList text ++ "\x1b[m"

/-- A text with its tabs and line ends in their simplest form. -/
def plainLayout : List Char → List Char
  | [] => []
  | '\t' :: rest => ' ' :: ' ' :: ' ' :: ' ' :: plainLayout rest
  | '\r' :: '\n' :: rest => '\n' :: plainLayout rest
  | c :: rest => c :: plainLayout rest

/-- The lines of a text, at least one. -/
def splitLines : List Char → List (List Char)
  | [] => [[]]
  | '\n' :: rest => [] :: splitLines rest
  | c :: rest =>
      match splitLines rest with
      | first :: others => (c :: first) :: others
      | [] => [[c]]

/-- A text in a style. -/
def Style.apply (style : Style) (text : String) : String :=
  let lines := (splitLines (plainLayout text.toList)).map style.line
  let widest := (lines.map lineColumns).foldl max 0
  "\n".intercalate (lines.map fun line =>
    line ++ String.ofList (List.replicate (widest - lineColumns line) ' '))

end BindingTrees.Text
