import BindingTrees.Toml.Character

/-!
# Numbers, truth values, dates and times of a TOML document

Each kind of literal is recognised by its spelling; none of them is evaluated
beyond what its limits require.

**Integers** have 64 bits.  An underscore may stand between two digits.  A decimal
integer has no leading zeros; one in base 16, 8 or 2 has no sign.

**Floats** must not be too large for double precision.  Of the digits of an exponent
those count that are needed to take it past 9999; the rest is passed over.

**Dates and times** follow the calendar; the seconds of a time may be left out.
-/

set_option autoImplicit false

namespace BindingTrees.Toml

/-! ## Digits -/

/-- Digits, with single underscores between them at most. -/
def isDigitRun (isDigit : Char → Bool) : List Char → Bool
  | [] => false
  | [c] => isDigit c
  | c :: '_' :: rest => isDigit c && isDigitRun isDigit rest
  | c :: rest => isDigit c && isDigitRun isDigit rest

/-- The number that a run of digits and underscores spells. -/
def runValue (base : Nat) (run : List Char) : Nat :=
  numeral base (run.filter (· != '_'))

/-- Decimal digits without a leading zero, unless zero is all there is. -/
def isWholeRun (run : List Char) : Bool :=
  isDigitRun Char.isDigit run && (run.length == 1 || run.head? != some '0')

/-! ## Numbers -/

/-- A decimal integer of 64 bits, after its sign. -/
def isDecimalInteger (negative : Bool) (run : List Char) : Bool :=
  isWholeRun run && runValue 10 run < Nat.pow 2 63 + (if negative then 1 else 0)

/-- An integer of 63 bits in another base, after its mark. -/
def isBasedInteger (base : Nat) (isDigit : Char → Bool) (run : List Char) : Bool :=
  isDigitRun isDigit run && runValue base run < Nat.pow 2 63

/-- Whether `mantissa · 10 ^ exponent` rounds to a finite double, that is, lies below
the middle between the largest one and the next power of two. -/
def isFinite (mantissa : Nat) (exponent : Int) : Bool :=
  let limit := Nat.pow 2 1024 - Nat.pow 2 970
  let digits := (toString mantissa).length
  mantissa == 0 || digits + exponent ≤ 308 ||
    (digits + exponent ≤ 310 &&
      (if 0 ≤ exponent then mantissa * Nat.pow 10 exponent.toNat < limit
        else mantissa < limit * Nat.pow 10 (-exponent).toNat))

/-- The exponent that digits spell, up to the one that takes it past 9999. -/
def exponentValue (digits : List Char) : Nat :=
  (digits.filter (· != '_')).foldl
    (fun exponent digit =>
      if exponent < 10000 then numeral 10 [digit] + 10 * exponent else exponent) 0

/-- A list cut at the first element that satisfies a test, which is dropped. -/
def cutAt {α : Type} (test : α → Bool) (list : List α) : List α × Option (List α) :=
  let before := list.takeWhile (!test ·)
  match list.drop before.length with
  | [] => (before, none)
  | _ :: after => (before, some after)

/-- A float, after its sign: whole digits, a fraction, an exponent, the last two not
both missing. -/
def isFloat (spelling : List Char) : Bool :=
  let (coefficient, exponent) := cutAt (fun c => c == 'e' || c == 'E') spelling
  let (whole, fraction) := cutAt (· == '.') coefficient
  let (negative, scale) := match exponent with
    | some ('-' :: digits) => (true, some digits)
    | some ('+' :: digits) => (false, some digits)
    | other => (false, other)
  let places := (fraction.getD []).filter (· != '_')
  let power : Int := exponentValue (scale.getD [])
  isWholeRun whole && (fraction.isSome || exponent.isSome) &&
    fraction.all (isDigitRun Char.isDigit) && scale.all (isDigitRun Char.isDigit) &&
    isFinite (runValue 10 (whole ++ places)) ((if negative then -power else power) - places.length)

/-! ## Dates and times -/

/-- The number of two digits at the front of a text, and the rest. -/
def twoDigits : List Char → Option (Nat × List Char)
  | tens :: ones :: rest =>
      if tens.isDigit && ones.isDigit then some (numeral 10 [tens, ones], rest) else none
  | _ => none

def isLeapYear (year : Nat) : Bool :=
  year % 4 == 0 && (year % 100 != 0 || year % 400 == 0)

/-- The number of days in a month. -/
def daysIn (year month : Nat) : Nat :=
  if month == 2 then (if isLeapYear year then 29 else 28)
  else if month == 4 || month == 6 || month == 9 || month == 11 then 30
  else 31

/-- What follows a date, if one stands at the front of a text. -/
def afterDate? (input : List Char) : Option (List Char) := do
  let (century, rest) ← twoDigits input
  let (yearInCentury, rest) ← twoDigits rest
  let year := century * 100 + yearInCentury
  let '-' :: rest := rest | none
  let (month, rest) ← twoDigits rest
  let '-' :: rest := rest | none
  let (day, rest) ← twoDigits rest
  if 1 ≤ month && month ≤ 12 && 1 ≤ day && day ≤ daysIn year month then some rest else none

/-- What follows the seconds of a time and their fraction, which may be left out. -/
def afterSeconds? : List Char → Option (List Char)
  | ':' :: rest => do
      let (second, rest) ← twoDigits rest
      if 60 ≤ second then none
      else match rest with
        | '.' :: digits =>
            if digits.head?.any Char.isDigit then some (digits.dropWhile Char.isDigit) else none
        | _ => some rest
  | rest => some rest

/-- What follows a time of day, if one stands at the front of a text. -/
def afterTime? (input : List Char) : Option (List Char) := do
  let (hour, rest) ← twoDigits input
  let ':' :: rest := rest | none
  let (minute, rest) ← twoDigits rest
  if hour < 24 && minute < 60 then afterSeconds? rest else none

/-- Whether a text is empty or an offset from universal time. -/
def isOffset : List Char → Bool
  | [] => true
  | ['Z'] => true
  | sign :: rest =>
      (sign == '+' || sign == '-') &&
        match twoDigits rest with
        | some (hours, ':' :: minutes) =>
            match twoDigits minutes with
            | some (minutes, []) => hours ≤ 24 && minutes ≤ 60
            | _ => false
        | _ => false

/-- The characters of dates and times, a space between the two included. -/
def isMomentChar (c : Char) : Bool :=
  c.isDigit || "-:Tt .Zz+".toList.contains c

/-- One spelling for the letters of a date and time, and for the space between them. -/
def momentChar (c : Char) : Char :=
  if c == 'z' then 'Z' else if c == 't' || c == ' ' then 'T' else c

/-- A date, a time of day, or a date and time with an offset or without. -/
def isMoment (spelling : List Char) : Bool :=
  match afterDate? spelling with
  | some [] => true
  | some ('T' :: time) => (afterTime? time).any isOffset
  | some _ => false
  | none => afterTime? spelling == some []

/-! ## Reading a literal -/

/-- The words that are literals. -/
def words : List (List Char) :=
  ["true", "false", "inf", "nan", "+inf", "+nan", "-inf", "-nan"].map String.toList

/-- A word at the front of a text, and the rest. -/
def readWord (input : List Char) : Option (List Char × List Char) :=
  (words.find? (·.isPrefixOf input)).map fun word => (word, input.drop word.length)

/-- An integer in another base at the front of a text, and the rest. -/
def readBased (base : Nat) (isDigit : Char → Bool) (input : List Char) :
    Option (List Char × List Char) :=
  let mark := input.take 2
  let run := (input.drop 2).takeWhile fun c => isDigit c || c == '_'
  if isBasedInteger base isDigit run then some (mark ++ run, input.drop (2 + run.length)) else none

/-- A decimal number, date or time at the front of a text after its sign, and the
rest. -/
def readDecimal (sign : List Char) (input : List Char) : Option (List Char × List Char) :=
  let whole := input.takeWhile fun c => c.isDigit || c == '_'
  let take (test : Char → Bool) : List Char :=
    whole ++ (input.drop whole.length).takeWhile test
  let after := input.drop whole.length
  match after with
  | c :: _ =>
      if c == '.' || c == 'e' || c == 'E' then
        let spelling := take fun c => c.isDigit || "_.-+eE".toList.contains c
        if isFloat spelling then some (sign ++ spelling, input.drop spelling.length) else none
      else if (c == '-' || c == ':') && sign.isEmpty && !whole.contains '_' then
        let spelling := take isMomentChar
        let trimmed := (spelling.reverse.dropWhile (· == ' ')).reverse
        if isMoment (trimmed.map momentChar) then some (trimmed, input.drop spelling.length)
        else none
      else integer whole after
  | [] => integer whole after
where
  integer (whole after : List Char) : Option (List Char × List Char) :=
    if isDecimalInteger (sign == ['-']) whole then some (sign ++ whole, after) else none

/-- A literal at the front of a text, by its spelling, and the rest. -/
def readLiteral (input : List Char) : Option (String × List Char) :=
  let found := match readWord input with
    | some found => some found
    | none =>
        match input with
        | '0' :: 'x' :: _ => readBased 16 isHexDigit input
        | '0' :: 'o' :: _ => readBased 8 (fun c => '0' ≤ c && c ≤ '7') input
        | '0' :: 'b' :: _ => readBased 2 (fun c => c == '0' || c == '1') input
        | '+' :: rest => readDecimal ['+'] rest
        | '-' :: rest => readDecimal ['-'] rest
        | _ => readDecimal [] input
  found.map fun (spelling, rest) => (String.ofList spelling, rest)

end BindingTrees.Toml
