import BindingTrees.Toml.Character

/-!
# Texts of a TOML document

A text stands between quotes, on one line or, between three quotes, on several.
Between double quotes a backslash begins an escape.  In a text of several lines
the first line end is dropped, and a backslash at the end of a line drops the line
end and all blank space after it.

One or two quotes may stand inside a text of several lines, also right before the
three that close it; a longer run of quotes is an error.
-/

set_option autoImplicit false

namespace BindingTrees.Toml

/-- The characters that a single letter after a backslash stands for. -/
def letterEscape : Char → Option Char
  | 'b' => some '\x08'
  | 't' => some '\t'
  | 'n' => some '\n'
  | 'f' => some '\x0c'
  | 'r' => some '\r'
  | 'e' => some '\x1b'
  | '"' => some '"'
  | '\\' => some '\\'
  | _ => none

/-- The character that hexadecimal digits number, if they do. -/
def hexEscape (digits : List Char) : Option Char :=
  let point := numeral 16 digits
  if digits.all isHexDigit && point.isValidChar then some (Char.ofNat point) else none

/-- An escape, after its backslash, and the text that follows it. -/
def readEscape : List Char → Option (Char × List Char)
  | 'x' :: rest => do return (← byDigits 2 rest, rest.drop 2)
  | 'u' :: rest => do return (← byDigits 4 rest, rest.drop 4)
  | 'U' :: rest => do return (← byDigits 8 rest, rest.drop 8)
  | c :: rest => do return (← letterEscape c, rest)
  | [] => none
where
  byDigits (count : Nat) (rest : List Char) : Option Char :=
    let digits := rest.take count
    if digits.length = count then hexEscape digits else none

/-- A text on one line between double quotes, after the first of them.  The fuel
bounds the number of characters read. -/
def readEscaped : Nat → List Char → Option (List Char × List Char)
  | 0, _ => none
  | _ + 1, [] => none
  | fuel + 1, c :: rest =>
      if c == '"' then some ([], rest)
      else if isLineEnd c then none
      else do
        let (c, rest) ← if c == '\\' then readEscape rest else some (c, rest)
        let (content, rest) ← readEscaped fuel rest
        return (c :: content, rest)

/-- A text on one line between plain quotes, after the first of them. -/
def readPlain (input : List Char) : Option (List Char × List Char) :=
  let content := input.takeWhile fun c => c != plainQuote && !isLineEnd c
  match input.drop content.length with
  | c :: rest => if c == plainQuote then some (content, rest) else none
  | [] => none

/-- How many quotes may stand in a row in a text of several lines, the closing ones
included: five, or six right after an escaped backslash. -/
def longestRun (afterBackslash : Bool) : Nat := if afterBackslash then 6 else 5

/-- A text of several lines, after its three quotes and the line end that may
follow them. -/
def readLong (quote : Char) (escapes : Bool) :
    (fuel : Nat) → (afterBackslash : Bool) → List Char → Option (List Char × List Char)
  | 0, _, _ => none
  | _ + 1, _, [] => none
  | fuel + 1, afterBackslash, c :: rest =>
      if c == quote then
        let run := c :: rest.takeWhile (· == quote)
        let after := rest.dropWhile (· == quote)
        if longestRun afterBackslash < run.length then none
        else if 3 ≤ run.length then some (run.drop 3, after)
        else do
          let (content, rest) ← readLong quote escapes fuel false after
          return (run ++ content, rest)
      else if escapes && c == '\\' then
        let blank := rest.takeWhile fun c => isSpacing c || isLineEnd c
        if blank.contains '\n' then
          readLong quote escapes fuel false (rest.drop blank.length)
        else do
          let (c, after) ← readEscape rest
          let (content, after) ← readLong quote escapes fuel (rest.head? == some '\\') after
          return (c :: content, after)
      else do
        let (content, rest) ← readLong quote escapes fuel false rest
        return (c :: content, rest)

/-- The text without a line end at its start. -/
def dropFirstLineEnd : List Char → List Char
  | '\n' :: rest => rest
  | '\r' :: '\n' :: rest => rest
  | input => input

/-- A text on one line, quotes included. -/
def readShortText (fuel : Nat) : List Char → Option (String × List Char)
  | [] => none
  | c :: rest =>
      let found :=
        if c == '"' then readEscaped fuel rest
        else if c == plainQuote then readPlain rest
        else none
      found.map fun (content, rest) => (String.ofList content, rest)

/-- A text on one line or several, quotes included. -/
def readText (fuel : Nat) (input : List Char) : Option (String × List Char) :=
  match input with
  | first :: second :: third :: rest =>
      if first == second && second == third && (first == '"' || first == plainQuote) then
        (readLong first (first == '"') fuel false (dropFirstLineEnd rest)).map
          fun (content, rest) => (String.ofList content, rest)
      else readShortText fuel input
  | _ => readShortText fuel input

end BindingTrees.Toml
