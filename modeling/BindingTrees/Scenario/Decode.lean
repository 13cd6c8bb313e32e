import BindingTrees.Scenario.Document
import BindingTrees.Text.Quoted
import BindingTrees.Toml.Assembly
import BindingTrees.Toml.Statements

/-!
# Documents from TOML

The fields of a document are found by name, without regard to case, and unknown
ones are passed over.  A field of the wrong type is an error, with one exception:
a `terms` entry that is no table at all counts as no terms.  An empty list is a
list of anything.

A field may be given more than once, under keys that differ in case.  The last one
counts, but a list of tables is read on top of the tables given before, if there were
at least as many: what a table leaves out stays as it was.
-/

set_option autoImplicit false

namespace BindingTrees.Scenario

open Toml (Value Table)

/-! ## Field names -/

/-- Lower case for the letters of field names, and for the two letters outside ASCII
that differ from one of those in case alone. -/
def foldCase (c : Char) : Char :=
  if c == '\u017f' then 's'
  else if c == '\u212a' then 'k'
  else c.toLower

/-- Whether a key is the name of a field, which is in lower case. -/
def isField (name key : String) : Bool :=
  key.toList.map foldCase == name.toList

/-! ## Simple values -/

def textOf? : Value → Option String
  | .text content => some content
  | _ => none

/-- The items of a list or series. -/
def itemsOf? : Value → Option (List Value)
  | .list items => some items
  | .series tables => some tables
  | _ => none

def textsOf? (value : Value) : Option (List String) := do
  (← itemsOf? value).mapM textOf?

def fieldsOf? : Value → Option Table
  | .table fields => some fields
  | _ => none

/-- What a list of tables is read on top of: the first ones known already, unless
they are too few. -/
def ground {α : Type} (known : List α) (items : List Value) : List α :=
  if known.length < items.length then [] else known

/-! ## Sketches -/

mutual
/-- The sketch in a table, on top of what is known already.  Names are bound only by
the sketch of an argument. -/
def sketchOf? (argument : Bool) (slot : Slot Sketch) : List (String × Value) → Option (Slot Sketch)
  | [] => some slot
  | (key, value) :: rest => do
      let ⟨bind, .mk var ref tag args⟩ := slot
      if isField "var" key then
        let var ← textOf? value
        sketchOf? argument ⟨bind, .mk var ref tag args⟩ rest
      else if isField "ref" key then
        let ref ← textOf? value
        sketchOf? argument ⟨bind, .mk var ref tag args⟩ rest
      else if isField "tag" key then
        let tag ← textOf? value
        sketchOf? argument ⟨bind, .mk var ref tag args⟩ rest
      else if isField "args" key then
        match value with
        | .list items =>
            let slots ← slotsOf? (ground (args.getD []) items) items
            sketchOf? argument ⟨bind, .mk var ref tag (some slots)⟩ rest
        | .series tables =>
            let slots ← slotsOf? (ground (args.getD []) tables) tables
            sketchOf? argument ⟨bind, .mk var ref tag (some slots)⟩ rest
        | _ => none
      else if argument && isField "bind" key then
        let names ← textsOf? value
        sketchOf? argument ⟨some names, .mk var ref tag args⟩ rest
      else sketchOf? argument slot rest

/-- The sketches in the tables of a list, each on top of the one known in its place. -/
def slotsOf? (known : List (Slot Sketch)) : List Value → Option (List (Slot Sketch))
  | [] => some []
  | .table fields :: rest => do
      let slot ← sketchOf? true (known.headD ⟨none, .blank⟩) fields
      let slots ← slotsOf? known.tail rest
      return slot :: slots
  | _ :: _ => none
end

/-- The named sketches of a table, after those known already; a name known already
is given anew. -/
def termsOf? (known : List (String × Sketch)) : Table → Option (List (String × Sketch))
  | [] => some known
  | (name, value) :: rest => do
      let fields ← fieldsOf? value
      let slot ← sketchOf? false ⟨none, .blank⟩ fields
      termsOf? (known.filter (·.1 != name) ++ [(name, slot.body)]) rest

/-! ## Checks and documents -/

/-- A check with one more field. -/
def Check.setField? (check : Check) (key : String) (value : Value) : Option Check :=
  if isField "name" key then do return { check with name := ← textOf? value }
  else if isField "kind" key then do return { check with kind := .ofWord (← textOf? value) }
  else if isField "used" key then do return { check with used := some (← textsOf? value) }
  else if isField "left" key then do return { check with left := ← textOf? value }
  else if isField "right" key then do return { check with right := ← textOf? value }
  else if isField "with" key then do
    return { check with replacements := some (← textsOf? value) }
  else if isField "want" key then do return { check with want := ← textOf? value }
  else if isField "names" key then do return { check with names := some (← textsOf? value) }
  else if isField "op" key then do return { check with op := .ofWord (← textOf? value) }
  else some check

/-- The checks in the tables of a list, each on top of the one known in its place. -/
def checksOf? (known : List Check) : List Value → Option (List Check)
  | [] => some []
  | value :: rest => do
      let check ← (← fieldsOf? value).foldlM
        (fun check (key, value) => check.setField? key value) (known.headD {})
      let checks ← checksOf? known.tail rest
      return check :: checks

/-- A document with one more field. -/
def Document.setField? (doc : Document) (key : String) (value : Value) : Option Document :=
  if isField "freshen" key then do return { doc with freshen := ← textOf? value }
  else if isField "used" key then do return { doc with used := some (← textsOf? value) }
  else if isField "terms" key then do
    return { doc with terms := ← termsOf? doc.terms ((fieldsOf? value).getD []) }
  else if isField "check" key then do
    let items ← itemsOf? value
    return { doc with checks := ← checksOf? (ground doc.checks items) items }
  else some doc

/-- Why a text holds no document. -/
inductive DecodeError where
  | syntactic
  | clashing
  | mistyped (key : String)
deriving DecidableEq

def DecodeError.message : DecodeError → String
  | .syntactic => "malformed document"
  | .clashing => "keys clash"
  | .mistyped key => "wrong type for " ++ Text.quote key

/-- The document in a text, not validated yet. -/
def Document.ofToml (text : String) : Except DecodeError Document := do
  let some statements := Toml.parse? text | throw .syntactic
  let some table := Toml.assemble? statements | throw .clashing
  table.foldlM (fun doc (key, value) => (doc.setField? key value).getDM (throw (.mistyped key))) {}

end BindingTrees.Scenario
