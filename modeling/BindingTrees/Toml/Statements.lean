import BindingTrees.Toml.Literal
import BindingTrees.Toml.Quotation
import BindingTrees.Toml.Value

/-!
# Statements of a TOML text

A text is read as a sequence of statements: table headers and entries, one to a
line, with comments and blank lines between them.  A value begins on the line of
its key; lists and inline tables may continue over lines, hold comments and end in
a comma.

Every reader takes the text that is left and returns what it read with the rest.
Nesting and repetition are bounded by a fuel that the length of the text supplies:
each step consumes at least one character for every two units of it.
-/

set_option autoImplicit false

namespace BindingTrees.Toml

/-- One part of a key. -/
def readKeyPart (fuel : Nat) (input : List Char) : Option (String × List Char) :=
  match input with
  | [] => none
  | c :: _ =>
      if c == '"' || c == plainQuote then readShortText fuel input
      else
        let part := input.takeWhile isBareKey
        if part.isEmpty then none
        else some (String.ofList part, input.drop part.length)

/-- A dotted key, and the text after it and after the spacing that follows. -/
def readPath : Nat → List Char → Option (Path × List Char)
  | 0, _ => none
  | fuel + 1, input => do
      let (part, rest) ← readKeyPart fuel (skipSpacing input)
      match skipSpacing rest with
      | '.' :: rest =>
          let (parts, rest) ← readPath fuel rest
          return (part :: parts, rest)
      | rest => return ([part], rest)

mutual
/-- A value, which may follow spacing. -/
def readValue : Nat → List Char → Option (Written × List Char)
  | 0, _ => none
  | fuel + 1, input =>
      match skipSpacing input with
      | '[' :: rest => do
          let (items, rest) ← readItems fuel rest
          return (.list items, rest)
      | '\x7b' :: rest => do
          let (entries, rest) ← readEntries fuel rest
          return (.inline entries, rest)
      | input =>
          if input.head? == some '"' || input.head? == some plainQuote then do
            let (content, rest) ← readText fuel input
            return (.text content, rest)
          else do
            let (spelling, rest) ← readLiteral input
            return (.literal spelling, rest)

/-- The items of a list up to its closing bracket. -/
def readItems : Nat → List Char → Option (List Written × List Char)
  | 0, _ => none
  | fuel + 1, input =>
      match skipBetween false input with
      | ']' :: rest => some ([], rest)
      | input => do
          let (item, rest) ← readValue fuel input
          match skipBetween false rest with
          | ',' :: rest =>
              let (items, rest) ← readItems fuel rest
              return (item :: items, rest)
          | ']' :: rest => return ([item], rest)
          | _ => none

/-- The entries of an inline table up to its closing brace. -/
def readEntries : Nat → List Char → Option (List (Path × Written) × List Char)
  | 0, _ => none
  | fuel + 1, input =>
      match skipBetween false input with
      | '\x7d' :: rest => some ([], rest)
      | input => do
          let (path, rest) ← readPath fuel input
          let '=' :: rest := rest | none
          let (value, rest) ← readValue fuel rest
          match skipBetween false rest with
          | ',' :: rest =>
              let (entries, rest) ← readEntries fuel rest
              return ((path, value) :: entries, rest)
          | '\x7d' :: rest => return ([(path, value)], rest)
          | _ => none
end

/-- One statement at the front of a text that is not empty. -/
def readStatement (fuel : Nat) : List Char → Option (Statement × List Char)
  | '[' :: '[' :: rest => do
      let (path, rest) ← readPath fuel rest
      let ']' :: ']' :: rest := rest | none
      return (.element path, rest)
  | '[' :: rest => do
      let (path, rest) ← readPath fuel rest
      let ']' :: rest := rest | none
      return (.table path, rest)
  | input => do
      let (path, rest) ← readPath fuel input
      let '=' :: rest := rest | none
      let (value, rest) ← readValue fuel rest
      return (.entry path value, rest)

/-- Whether nothing but spacing and a comment is left on the line. -/
def atLineEnd (input : List Char) : Bool :=
  match skipSpacing input with
  | [] => true
  | c :: _ => isLineEnd c || c == '#'

/-- All statements of a text. -/
def readStatements : Nat → List Char → Option (List Statement)
  | 0, _ => none
  | fuel + 1, input =>
      match skipBetween false input with
      | [] => some []
      | input => do
          let (statement, rest) ← readStatement fuel input
          if atLineEnd rest then
            let statements ← readStatements fuel rest
            return statement :: statements
          else none

/-- The statements of a text, which may begin with a byte order mark. -/
def parse? (text : String) : Option (List Statement) :=
  let input := match text.toList with
    | '\ufeff' :: rest => rest
    | input => input
  if isLegible input then readStatements (2 * input.length + 2) input else none

end BindingTrees.Toml
