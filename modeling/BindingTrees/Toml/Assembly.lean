import BindingTrees.Toml.Register
import Std.Data.HashSet

/-!
# Assembling a TOML document

The statements of a text are carried out one after the other on a draft of the
document.  Each table and each value is put in place as it is met, under the
rules on what may be defined again:

* A table that was only implied, as the parent of a longer key, may still be
  defined once by a header or an entry of its own.  Where its key counts as a list,
  the new value takes its place; otherwise it stays as it is.
* A key that has a value otherwise may not be given another.
* A header in double brackets adds a table to the series at its key, which must be
  a series from its beginning.
* The way to a key leads through tables, and through the newest table of a series.

An inline table is put in place entry by entry while it is read, and its entries are
collected in a second table besides.  The collected table is the value: a list has it
as an item, and a table collected around it has it for an entry, always the newest
one.  If it also takes the place of the table in the document, it stands in both
places, and a change to it is found in both.

The tables of a written list are put in place as a series while the list is read,
and the list itself takes the place of the series at its end.
-/

set_option autoImplicit false

namespace BindingTrees.Toml

/-- A document in the making: its tables, the paths of those that are only implied so
far, and the keys that count as lists. -/
structure Draft where
  register : Register := {}
  implied : Std.HashSet Path := ∅
  listed : Std.HashSet Path := ∅

namespace Draft

/-- Marks a table as implied. -/
def imply (draft : Draft) (path : Path) : Draft :=
  { draft with implied := draft.implied.insert path }

/-- Marks a table as defined by itself. -/
def unimply (draft : Draft) (path : Path) : Draft :=
  { draft with implied := draft.implied.erase path }

/-- Makes a key count as a list, or not.  An empty key stands for the table it is in. -/
def noteList (draft : Draft) (context : Path) (key : String) (isList : Bool) : Draft :=
  let path := if key.isEmpty then (if context.isEmpty then [""] else context) else context ++ [key]
  { draft with listed := if isList then draft.listed.insert path else draft.listed.erase path }

/-- The draft with an entry for a key of the table at `context`. -/
def write (draft : Draft) (context : Path) (key : String) (entry : Entry) : Option Draft := do
  let here ← draft.register.at? context
  return { draft with register := draft.register.set here key entry }

/-- The draft with one more table, which stands nowhere yet, and its number. -/
def fresh (draft : Draft) : Draft × Nat :=
  let (register, number) := draft.register.fresh
  ({ draft with register }, number)

/-- Gives a key of the table at `context` an entry, if it may have one. -/
def assign (draft : Draft) (context : Path) (key : String) (entry : Entry) : Option Draft := do
  let here ← draft.register.at? context
  match draft.register.get? here key with
  | none => draft.write context key entry
  | some _ =>
      let path := context ++ [key]
      if draft.implied.contains path then
        let draft := draft.unimply path
        if draft.listed.contains path then draft.write context key entry else some draft
      else none

/-- Implies the tables on the way along a path. -/
def enterParents (draft : Draft) (path : Path) : Option Draft := do
  let (last, missing) ← draft.register.follow? 0 path
  let draft := { draft with register := draft.register.nest last missing }
  return (List.range' (path.length - missing.length + 1) missing.length).foldl
    (fun draft length => draft.imply (path.take length)) draft

/-- Enters the table at a path, as a new table of a series or by itself. -/
def enter (draft : Draft) (path : Path) (element : Bool) : Option Draft := do
  let parents := path.dropLast
  let key := path.getLastD ""
  let (draft, number) := (← draft.enterParents parents).fresh
  if element then
    match draft.register.get? (← draft.register.at? parents) key with
    | none => draft.write parents key (.series [number])
    | some (.series tables) => draft.write parents key (.series (number :: tables))
    | some _ => none
  else draft.assign parents key (.table number)

/-- Enters the parents of a dotted key one by one, implying each, and returns the
context of its last part. -/
def enterDotted (draft : Draft) (context : Path) : Path → Option (Draft × Path)
  | [] => some (draft, context)
  | part :: parts => do
      let context := context ++ [part]
      let draft ← (draft.imply context).enter context false
      draft.enterDotted context parts

end Draft

mutual
/-- Carries out a written value for a key of the table at `context` and returns what
it amounts to; `inList` says that it is an item of a list. -/
def Draft.place (draft : Draft) (context : Path) (key : String) (inList : Bool) :
    Written → Option (Draft × Entry)
  | .text content => some (draft, .text content)
  | .literal spelling => some (draft, .literal spelling)
  | .list items => do
      let (draft, entries) ← (draft.noteList context key true).placeItems context key items
      return (draft, .list entries)
  | .inline entries => do
      let here := context ++ [key]
      let (draft, collected) := (← (draft.imply here).enter here inList).fresh
      let draft ← draft.placeEntries here collected entries
      return (draft, .table collected)

def Draft.placeItems (draft : Draft) (context : Path) (key : String) :
    List Written → Option (Draft × List Entry)
  | [] => some (draft, [])
  | item :: items => do
      let (draft, entry) ← draft.place context key true item
      let (draft, entries) ← draft.placeItems context key items
      return (draft, entry :: entries)

/-- Carries out the entries of the inline table at `here` and collects them in the
table of number `collected`. -/
def Draft.placeEntries (draft : Draft) (here : Path) (collected : Nat) :
    List (Path × Written) → Option Draft
  | [] => some draft
  | (path, value) :: entries => do
      let key := path.getLastD ""
      let (draft, context) ← draft.enterDotted here path.dropLast
      let (draft, entry) ← draft.place context key false value
      let draft ← draft.assign context key entry
      let register ← draft.register.setAt? collected entry path
      let draft := { draft with register }
      (draft.noteList context key value.isList).placeEntries here collected entries
end

/-- Carries out the statements that follow a header. -/
def Draft.run (draft : Draft) (context : Path) : List Statement → Option Draft
  | [] => some draft
  | .table path :: statements => do
      let draft ← draft.enter path false
      (draft.noteList path "" false).run path statements
  | .element path :: statements => do
      let draft ← draft.enter path true
      (draft.noteList path "" false).run path statements
  | .entry path value :: statements => do
      let key := path.getLastD ""
      let (inner, place) ← draft.enterDotted context path.dropLast
      let (inner, entry) ← inner.place place key false value
      let inner ← inner.assign place key entry
      (inner.noteList place key value.isList).run context statements

/-- The document that statements amount to. -/
def assemble? (statements : List Statement) : Option Table := do
  return (← Draft.run {} [] statements).register.document

end BindingTrees.Toml
