import BindingTrees.Text.Printable

/-!
# Quoted text

A text is quoted between double quotes.  The quote and the backslash are escaped
by a backslash; seven layout characters have a letter of their own; any other
character that is not printable is written by its code point, in two hexadecimal
digits below U+0080, in four up to U+FFFF and in eight above.
-/

set_option autoImplicit false

namespace BindingTrees.Text

/-- A number in lower-case hexadecimal, with leading zeros up to a width. -/
def hex (width : Nat) (number : Nat) : String :=
  let digits := Nat.toDigits 16 number
  String.ofList (List.replicate (width - digits.length) '0' ++ digits)

/-- The letter that stands for a layout character in an escape. -/
def layoutLetter : Char → Option Char
  | '\x07' => some 'a'
  | '\x08' => some 'b'
  | '\x0c' => some 'f'
  | '\n' => some 'n'
  | '\r' => some 'r'
  | '\t' => some 't'
  | '\x0b' => some 'v'
  | _ => none

/-- How a character is written between two copies of the quote `mark`. -/
def quoteChar (mark : Char) (c : Char) : String :=
  if c == mark || c == '\\' then String.ofList ['\\', c]
  else match layoutLetter c with
    | some letter => String.ofList ['\\', letter]
    | none =>
        if isPrintable c then String.singleton c
        else if c.toNat < 0x80 then "\\x" ++ hex 2 c.toNat
        else if c.toNat < 0x10000 then "\\u" ++ hex 4 c.toNat
        else "\\U" ++ hex 8 c.toNat

/-- A text between double quotes. -/
def quote (text : String) : String :=
  "\"" ++ String.join (text.toList.map (quoteChar '"')) ++ "\""

/-- The mark around a single quoted character. -/
def apostrophe : Char := '\x27'

/-- A single character between apostrophes. -/
def quoteSingle (c : Char) : String :=
  String.singleton apostrophe ++ quoteChar apostrophe c ++ String.singleton apostrophe

end BindingTrees.Text
