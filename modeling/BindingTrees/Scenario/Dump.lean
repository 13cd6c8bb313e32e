import BindingTrees.Scenario.Document
import BindingTrees.Text.Quoted

/-!
# Checks in full

A check is shown field by field, one to a line and the values aligned.  A list that
was not given is shown as `nil`.  A check in which nothing is given at all is shown
on one line.
-/

set_option autoImplicit false

namespace BindingTrees.Scenario

/-- A list of texts, each quoted, between braces. -/
def showTexts : Option (List String) → String
  | none => "nil"
  | some texts => "\x7b" ++ ", ".intercalate (texts.map Text.quote) ++ "\x7d"

/-- Whether nothing of a check is given. -/
def Check.isBlank (check : Check) : Bool :=
  check.name.isEmpty && check.kind.word.isEmpty && check.used.isNone && check.left.isEmpty &&
    check.right.isEmpty && check.replacements.isNone && check.want.isEmpty &&
    check.names.isNone && check.op.word.isEmpty

/-- The fields of a check, each with its label and value. -/
def Check.shownFields (check : Check) : List (String × String) :=
  [("Name:  ", Text.quote check.name),
    ("Kind:  ", Text.quote check.kind.word),
    ("Used:  ", showTexts check.used),
    ("Left:  ", Text.quote check.left),
    ("Right: ", Text.quote check.right),
    ("With:  ", showTexts check.replacements),
    ("Want:  ", Text.quote check.want),
    ("Names: ", showTexts check.names),
    ("Op:    ", Text.quote check.op.word)]

/-- A check in full. -/
def Check.dump (check : Check) : String :=
  if check.isBlank then "scenario.Check\x7b\x7d"
  else
    "scenario.Check\x7b\n" ++
      String.join (check.shownFields.map fun (label, value) =>
        "    " ++ label ++ value ++ ",\n") ++
      "\x7d"

end BindingTrees.Scenario
