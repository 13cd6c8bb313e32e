import BindingTrees.Toml.Value

/-!
# Tables by number

While a document is put together, its tables are kept in a register, each under a
number of its own, and the entries of a table refer to other tables by number.  So
one table can stand in two places at once, and a change made through one of them is
found in the other.  Table `0` is the root of the document.

A table is only ever put into a table that is further out, so none comes to stand
inside itself, and `Register.document` reads the whole document off the register.
-/

set_option autoImplicit false

namespace BindingTrees.Toml

/-- What stands at a key of a table in the register.  A series has its newest table
first. -/
inductive Entry where
  | text (content : String)
  | literal (spelling : String)
  | list (items : List Entry)
  | series (tables : List Nat)
  | table (number : Nat)

/-- The table that a way through an entry leads to, which for a series is its newest. -/
def Entry.way? : Entry → Option Nat
  | .table number => some number
  | .series tables => tables.head?
  | _ => none

/-- Entries with one for a key, in the key's place if it has one. -/
def setEntry (key : String) (entry : Entry) : List (String × Entry) → List (String × Entry)
  | [] => [(key, entry)]
  | (other, old) :: rest =>
      if other = key then (key, entry) :: rest else (other, old) :: setEntry key entry rest

/-- The tables of a document in the making, by number. -/
structure Register where
  tables : Array (List (String × Entry)) := #[[]]

namespace Register

/-! ## Single tables -/

/-- What a table has for a key. -/
def get? (register : Register) (number : Nat) (key : String) : Option Entry :=
  (register.tables.getD number []).lookup key

/-- The register with an entry for a key of a table. -/
def set (register : Register) (number : Nat) (key : String) (entry : Entry) : Register :=
  { tables := register.tables.modify number (setEntry key entry) }

/-- The register with one more table, which is empty, and the number of that table. -/
def fresh (register : Register) : Register × Nat :=
  ({ tables := register.tables.push [] }, register.tables.size)

/-! ## Ways through tables -/

/-- The last table on the way along a path that is there already, and the parts of
the path that lead on from it, unless something else is in the way. -/
def follow? (register : Register) (number : Nat) : Path → Option (Nat × Path)
  | [] => some (number, [])
  | key :: path =>
      match register.get? number key with
      | none => some (number, key :: path)
      | some entry => do register.follow? (← entry.way?) path

/-- The table at a path. -/
def at? (register : Register) (path : Path) : Option Nat :=
  match register.follow? 0 path with
  | some (number, []) => some number
  | _ => none

/-- The register with empty tables one inside the other along a path. -/
def nest (register : Register) (number : Nat) : Path → Register
  | [] => register
  | key :: path =>
      let (register, inner) := register.fresh
      (register.set number key (.table inner)).nest inner path

/-- The register with an entry at a dotted key of a table.  Missing tables on the way
are made, and the way leads through no series. -/
def setAt? (register : Register) (number : Nat) (entry : Entry) : Path → Option Register
  | [] => none
  | [key] => some (register.set number key entry)
  | key :: path =>
      match register.get? number key with
      | none =>
          let (register, inner) := register.fresh
          (register.set number key (.table inner)).setAt? inner entry path
      | some (.table inner) => register.setAt? inner entry path
      | some _ => none

end Register

/-! ## The document -/

mutual
/-- The value of an entry, given the contents of the tables. -/
def Entry.value (contents : Nat → Table) : Entry → Value
  | .text content => .text content
  | .literal spelling => .literal spelling
  | .list items => .list (Entry.values contents items)
  | .series tables => .series (tables.reverse.map fun number => .table (contents number))
  | .table number => .table (contents number)

def Entry.values (contents : Nat → Table) : List Entry → List Value
  | [] => []
  | item :: items => item.value contents :: Entry.values contents items
end

/-- The contents of a table, down to tables at a given depth. -/
def Register.contents (register : Register) : Nat → Nat → Table
  | 0, _ => []
  | depth + 1, number =>
      (register.tables.getD number []).map fun (key, entry) =>
        (key, entry.value (register.contents depth))

/-- The whole document.  Tables one inside the other are never more than there are
tables, so none is left out for its depth. -/
def Register.document (register : Register) : Table :=
  register.contents register.tables.size 0

end BindingTrees.Toml
