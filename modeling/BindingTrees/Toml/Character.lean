import BindingTrees.Text.Quoted

/-!
# Characters of a TOML text

Which characters may stand in a text at all, which separate, and which form keys
and digits.
-/

set_option autoImplicit false

namespace BindingTrees.Toml

/-- Space and tab, which separate within a line. -/
def isSpacing (c : Char) : Bool := c == ' ' || c == '\t'

/-- The characters of a line end, LF or CR LF. -/
def isLineEnd (c : Char) : Bool := c == '\n' || c == '\r'

/-- Letters, digits, underscore and hyphen, which make up an unquoted key. -/
def isBareKey (c : Char) : Bool := c.isAlphanum || c == '_' || c == '-'

/-- The quote of a text in which a backslash is an ordinary character. -/
def plainQuote : Char := Text.apostrophe

def isHexDigit (c : Char) : Bool :=
  c.isDigit || ('a' ≤ c && c ≤ 'f') || ('A' ≤ c && c ≤ 'F')

/-- The value of a hexadecimal digit. -/
def digitValue (c : Char) : Nat :=
  if c.isDigit then c.toNat - '0'.toNat
  else if 'a' ≤ c then c.toNat - 'a'.toNat + 10
  else c.toNat - 'A'.toNat + 10

/-- The number that digits spell in a base. -/
def numeral (base : Nat) (digits : List Char) : Nat :=
  digits.foldl (fun total digit => total * base + digitValue digit) 0

/-- Whether a text has no control character but tabs and line ends, and no CR
without its LF. -/
def isLegible : List Char → Bool
  | [] => true
  | '\r' :: '\n' :: rest => isLegible rest
  | c :: rest => (c == '\t' || c == '\n' || (' ' ≤ c && c != '\x7f')) && isLegible rest

/-- The text after spaces and tabs. -/
def skipSpacing (input : List Char) : List Char := input.dropWhile isSpacing

/-- The text after blank space, line ends and comments; `comment` says that a
comment has begun. -/
def skipBetween (comment : Bool) : List Char → List Char
  | [] => []
  | c :: rest =>
      if isLineEnd c then skipBetween false rest
      else if comment then skipBetween true rest
      else if isSpacing c then skipBetween false rest
      else if c == '#' then skipBetween true rest
      else c :: rest

end BindingTrees.Toml
