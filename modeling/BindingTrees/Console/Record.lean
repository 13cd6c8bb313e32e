/-!
# Comma-separated records

A text is read as one record: the fields of its first line that is not blank,
separated by commas.  A field that begins with a double quote ends at the next one
that is not doubled, and may run over lines; any other field has no double quote
in it.  Columns are counted in bytes of UTF-8, from 1.
-/

set_option autoImplicit false

namespace BindingTrees.Console

/-- A place in a text. -/
structure Place where
  line : Nat
  column : Nat
deriving DecidableEq, Repr

/-- The place after one more character of the same line. -/
def Place.after (place : Place) (c : Char) : Place :=
  { place with column := place.column + c.utf8Size }

/-- Why a text is no record: it has only blank lines, a double quote stands in a plain
field, or one is missing or out of place in a quoted field.  `first` is the line on
which the record begins. -/
inductive RecordError where
  | blank
  | bareQuote (first : Nat) (place : Place)
  | stray (first : Nat) (place : Place)
deriving DecidableEq, Repr

def RecordError.message : RecordError → String
  | .blank => "EOF"
  | .bareQuote first place => located first place ++ "bare \" in non-quoted-field"
  | .stray first place => located first place ++ "extraneous or missing \" in quoted-field"
where
  located (first : Nat) (place : Place) : String :=
    (if first = place.line then "" else "record on line " ++ toString first ++ "; ") ++
      "parse error on line " ++ toString place.line ++ ", column " ++ toString place.column ++ ": "

/-- A text whose lines end in LF alone, and whose last line has no CR at its end. -/
def plainLineEnds : List Char → List Char
  | [] => []
  | '\r' :: '\n' :: rest => '\n' :: plainLineEnds rest
  | ['\r'] => []
  | c :: rest => c :: plainLineEnds rest

/-- Where in a field the reader is: at its start, inside a plain or a quoted one, or
after a double quote that may end a quoted one. -/
inductive FieldState where
  | start
  | plain
  | quoted
  | closing

/-- Reads the fields of a record, given the characters of the current field and the
fields before it, both in reverse. -/
def readFields (first : Nat) (place : Place) (state : FieldState) (field : List Char)
    (fields : List String) : List Char → Except RecordError (List String)
  | [] =>
      match state with
      | .quoted => .error (.stray first place)
      | _ => .ok (String.ofList field.reverse :: fields).reverse
  | c :: rest =>
      let finish := String.ofList field.reverse :: fields
      match state with
      | .quoted =>
          if c == '"' then readFields first (place.after c) .closing field fields rest
          else if c == '\n' && !rest.isEmpty then
            readFields first ⟨place.line + 1, 1⟩ .quoted (c :: field) fields rest
          else readFields first (place.after c) .quoted (c :: field) fields rest
      | .closing =>
          if c == '"' then readFields first (place.after c) .quoted (c :: field) fields rest
          else if c == ',' then readFields first (place.after c) .start [] finish rest
          else if c == '\n' then .ok finish.reverse
          else .error (.stray first { place with column := place.column - 1 })
      | .start =>
          if c == '"' then readFields first (place.after c) .quoted [] fields rest
          else if c == ',' then readFields first (place.after c) .start [] finish rest
          else if c == '\n' then .ok finish.reverse
          else readFields first (place.after c) .plain (c :: field) fields rest
      | .plain =>
          if c == '"' then .error (.bareQuote first place)
          else if c == ',' then readFields first (place.after c) .start [] finish rest
          else if c == '\n' then .ok finish.reverse
          else readFields first (place.after c) .plain (c :: field) fields rest

/-- Reads the record on the first line that is not blank. -/
def readFirstRecord (line : Nat) : List Char → Except RecordError (List String)
  | [] => .error .blank
  | '\n' :: rest => readFirstRecord (line + 1) rest
  | input => readFields line ⟨line, 1⟩ .start [] [] input

/-- The fields of the record in a text; an empty text has none. -/
def fieldsOf (text : String) : Except RecordError (List String) :=
  if text.isEmpty then .ok [] else readFirstRecord 1 (plainLineEnds text.toList)

end BindingTrees.Console
