import PolicyScan.Toml.Value

/-!
# Building tables

A document defines its tables piece by piece.  A header defines a table once,
and the tables above it come into being by the way; such a table can still be
defined by a header of its own later.  A key with dots makes tables that no
header can define again, though headers may define tables below them, and it
adds to no table that a header has defined.  A header in double brackets adds
a table to an array of tables; later headers go on with the last one.  Values
are closed.
-/

namespace PolicyScan.Toml

/-- What brought a table into being. -/
inductive Origin where
  /-- A header of a table below. -/
  | implied
  /-- A key with dots. -/
  | dotted
  | header
deriving DecidableEq, Repr

/-- What a key stands for while a document is read. -/
inductive Item where
  | value (v : Value)
  | table (origin : Origin) (fields : List (String × Item))
  /-- An array of tables, the last one first. -/
  | tables (elements : List (List (String × Item)))

/-- The items of a table. -/
abbrev Fields := List (String × Item)

/-- Replace the item of a key, or add it behind the others. -/
def setItem (key : String) (item : Item) : Fields → Fields
  | [] => [(key, item)]
  | (k, old) :: rest => if k = key then (k, item) :: rest else (k, old) :: setItem key item rest

/-- Change the table that a header's keys lead to; tables on the way come into
being. -/
def within (change : Fields → Except Fault Fields) :
    List String → Fields → Except Fault Fields
  | [], fields => change fields
  | key :: rest, fields => do
    let item ← match fields.lookup key with
      | none => (within change rest []).map (.table .implied)
      | some (.table origin inner) => (within change rest inner).map (.table origin)
      | some (.tables (last :: others)) =>
        (within change rest last).map fun last => .tables (last :: others)
      | some (.tables []) | some (.value _) => .error (.notExtensible key)
    .ok (setItem key item fields)

/-- Define a table by its header. -/
def defineTable (key : String) (fields : Fields) : Except Fault Fields :=
  match fields.lookup key with
  | none => .ok (setItem key (.table .header []) fields)
  | some (.table .implied inner) => .ok (setItem key (.table .header inner) fields)
  | some _ => .error (.duplicate key)

/-- Add a table to an array of tables. -/
def addTable (key : String) (fields : Fields) : Except Fault Fields :=
  match fields.lookup key with
  | none => .ok (setItem key (.tables [[]]) fields)
  | some (.tables elements) => .ok (setItem key (.tables ([] :: elements)) fields)
  | some _ => .error (.duplicate key)

/-- Give a key a value in a table; tables on the way come into being. -/
def assign (v : Value) : List String → Fields → Except Fault Fields
  | [], _ => .error (.expected "key")
  | [key], fields =>
    match fields.lookup key with
    | none => .ok (setItem key (.value v) fields)
    | some _ => .error (.duplicate key)
  | key :: rest, fields => do
    let item ← match fields.lookup key with
      | none => (assign v rest []).map (.table .dotted)
      | some (.table .header _) => .error (.duplicate key)
      | some (.table origin inner) => (assign v rest inner).map (.table origin)
      | some _ => .error (.notExtensible key)
    .ok (setItem key item fields)

mutual

/-- The value of an item. -/
def Item.toValue : Item → Value
  | .value v => v
  | .table _ fields => .table (toTable fields)
  | .tables elements => .array (toTables elements).reverse

/-- The table of items. -/
def toTable : List (String × Item) → Table
  | [] => []
  | (key, item) :: rest => (key, item.toValue) :: toTable rest

/-- The tables of an array. -/
def toTables : List (List (String × Item)) → List Value
  | [] => []
  | fields :: rest => .table (toTable fields) :: toTables rest

end

end PolicyScan.Toml
