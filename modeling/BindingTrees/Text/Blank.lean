/-!
# White space

The characters that separate words in any script: the ASCII layout characters,
the two Latin-1 ones, and the space and line separators of the other blocks.
-/

set_option autoImplicit false

namespace BindingTrees.Text

/-- The white space characters above U+007F. -/
def wideBlanks : List Char :=
  ['\u0085', '\u00a0', '\u1680', '\u2000', '\u2001', '\u2002', '\u2003', '\u2004', '\u2005',
    '\u2006', '\u2007', '\u2008', '\u2009', '\u200a', '\u2028', '\u2029', '\u202f', '\u205f',
    '\u3000']

/-- Whether a character is white space. -/
def isBlank (c : Char) : Bool :=
  c == ' ' || ('\t' ≤ c && c ≤ '\r') || wideBlanks.contains c

end BindingTrees.Text
