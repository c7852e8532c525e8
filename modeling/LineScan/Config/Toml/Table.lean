import LineScan.Bindings
import LineScan.Config.Toml.Scalar

/-!
# Tables under construction

A document is built statement by statement. Some tables are *closed*: a value written inline, as an
array or as an inline table, takes no more entries, nor does anything inside it; and a table that
has been declared by a header cannot be declared again. A table opened by a dotted key counts as
declared once the next header comes.
-/

namespace LineScan.Toml

/-- A dotted key. -/
abbrev Key := List String

/-- A table. -/
abbrev Table := Bindings Datum

/-- Change the table behind a key. Missing tables on the way are created. With `throughArrays` the
way may go through the last entry of an array; nothing else but tables is passed. -/
def Table.modify (throughArrays : Bool) (f : Table → Except Error Table) :
    Key → Table → Except Error Table
  | [], table => f table
  | name :: key, table =>
    match table.get? name with
    | none =>
      (Table.modify throughArrays f key []).map fun inner => table.insert name (.table inner)
    | some (.table inner) =>
      (Table.modify throughArrays f key inner).map fun inner => table.insert name (.table inner)
    | some (.list items) =>
      match throughArrays, items.getLast? with
      | true, some (.table inner) =>
        (Table.modify throughArrays f key inner).map fun inner =>
          table.insert name (.list (items.dropLast ++ [.table inner]))
      | _, _ => malformed
    | some _ => malformed

/-- Enter a new value; a name that is taken is an error. -/
def Table.enter (name : String) (value : Datum) (table : Table) : Except Error Table :=
  if table.contains name then malformed else .ok (table.insert name value)

/-- Append an empty table to the array of a name, which is created when missing. -/
def Table.extendArray (name : String) (table : Table) : Except Error Table :=
  match table.get? name with
  | none => .ok (table.insert name (.list [.table []]))
  | some (.list items) => .ok (table.insert name (.list (items ++ [.table []])))
  | some _ => malformed

/-- Split the last name off a key. -/
def Key.split (key : Key) : Key × String := (key.dropLast, key.getLastD "")

/-- The value is an array or a table. -/
def isContainer : Datum → Bool
  | .list _ => true
  | .table _ => true
  | _ => false

/-- Keys that are closed for new entries, with all that is below them. -/
abbrev Closed := List Key

/-- The key, or a key above it, is closed. -/
def Closed.covers (closed : Closed) (key : Key) : Bool := closed.any fun k => k.isPrefixOf key

/-- A document under construction. -/
structure Draft where
  root : Table := []
  /-- The key of the last header. -/
  header : Key := []
  /-- Keys of inline values. -/
  closed : Closed := []
  /-- Keys of tables that have been declared. -/
  declared : List Key := []
  /-- Keys of tables that count as declared from the next header on. -/
  pending : List Key := []

namespace Draft

/-- Take over what is pending, as each header does first. -/
def settle (d : Draft) : Draft :=
  { d with declared := d.pending ++ d.declared, pending := [] }

/-- A header that declares a table. -/
def openTable (d : Draft) (key : Key) : Except Error Draft :=
  if d.declared.contains key || d.closed.covers key then malformed
  else do
    let root ← Table.modify true .ok key d.root
    pure { d with root := root, header := key, declared := key :: d.declared }

/-- A header that appends a table to an array. What was known about the array's earlier tables no
longer counts. -/
def openArrayTable (d : Draft) (key : Key) : Except Error Draft :=
  if d.closed.covers key then malformed
  else do
    let (path, name) := Key.split key
    let root ← Table.modify true (Table.extendArray name) path d.root
    let others := d.declared.filter fun k => !key.isPrefixOf k
    let closed := d.closed.filter fun k => !key.isPrefixOf k
    pure { d with root := root, header := key, declared := key :: others, closed := closed }

/-- The keys of the tables that a dotted key passes, below the header. -/
def passed (d : Draft) (key : Key) : List Key :=
  (List.range (key.length - 1)).map fun i => d.header ++ key.take (i + 1)

/-- An entry under the current header. -/
def enter (d : Draft) (key : Key) (value : Datum) : Except Error Draft :=
  let passed := d.passed key
  let (path, name) := Key.split key
  let parent := d.header ++ path
  if passed.any d.declared.contains || d.closed.covers parent then malformed
  else do
    let root ← Table.modify true (Table.enter name value) parent d.root
    let closed := if isContainer value then (d.header ++ key) :: d.closed else d.closed
    pure { d with root := root, closed := closed, pending := passed ++ d.pending }

end Draft

/-- An entry of an inline table, whose closed keys are `closed`. -/
def Table.enterInline (closed : Closed) (key : Key) (value : Datum) (table : Table) :
    Except Error Table :=
  if closed.covers key then malformed
  else
    let (path, name) := Key.split key
    Table.modify false (Table.enter name value) path table

end LineScan.Toml
