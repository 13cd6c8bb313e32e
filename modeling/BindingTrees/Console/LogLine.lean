import BindingTrees.Text.Blank
import BindingTrees.Text.Quoted

/-!
# Log lines

A log line is a sequence of keys and values.  A value is quoted when it could not be
told apart otherwise: when it is empty, or holds a space, an equals sign, a double
quote, or a character that is not printable.
-/

set_option autoImplicit false

namespace BindingTrees.Console

/-- Whether a character makes a value need quotes.  The delete character does not. -/
def needsQuotes (c : Char) : Bool :=
  if c.toNat < 0x80 then c == ' ' || c == '=' || c == '"' || c < ' '
  else c == '\ufffd' || Text.isBlank c || !Text.isPrintable c

/-- A value as a log line has it. -/
def logValue (value : String) : String :=
  if value.isEmpty || value.toList.any needsQuotes then Text.quote value else value

/-- A list of texts as one value. -/
def logList (texts : List String) : String := "[" ++ " ".intercalate texts ++ "]"

/-- A debugging message with its attributes. -/
def logLine (message : String) (attributes : List (String × String)) : String :=
  let fields := ("level", "DEBUG") :: ("msg", message) :: attributes
  " ".intercalate (fields.map fun (key, value) => key ++ "=" ++ logValue value) ++ "\n"

end BindingTrees.Console
