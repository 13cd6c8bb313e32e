/-!
# Values of a TOML document

`Written` is a value as the text has it: an inline table still lists its entries
in order, under keys of one or more parts.  `Value` is a value of the document
that the statements amount to, where each key of a table stands once.

Only text, lists and tables are ever looked into.  Numbers, truth values, dates
and times are checked for their form and kept by their spelling.
-/

set_option autoImplicit false

namespace BindingTrees.Toml

/-- The parts of a dotted key, from the outermost table inwards. -/
abbrev Path := List String

/-- A value as it is written. -/
inductive Written where
  | text (content : String)
  | literal (spelling : String)
  | list (items : List Written)
  | inline (entries : List (Path × Written))

/-- Whether a value is written as a list. -/
def Written.isList : Written → Bool
  | .list _ => true
  | _ => false

/-- A line of a document: the header of a table, the header of one more table of a
series, or an entry of the table whose header came last. -/
inductive Statement where
  | table (path : Path)
  | element (path : Path)
  | entry (path : Path) (value : Written)

/-- A value of a document.  A `series` is a list of tables that further headers may
still extend. -/
inductive Value where
  | text (content : String)
  | literal (spelling : String)
  | list (items : List Value)
  | series (tables : List Value)
  | table (fields : List (String × Value))

/-- The entries of a table, in the order in which their keys first appeared. -/
abbrev Table := List (String × Value)

end BindingTrees.Toml
