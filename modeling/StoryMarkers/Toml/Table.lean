import StoryMarkers.Toml.Value

/-!
Building the table of a document from its lines.

A table is declared by a header, implied by the header of a table inside it, or made by the dots
of a key. A header may declare an implied table once; dotted keys may only add to tables that
dotted keys have made.
-/

set_option autoImplicit false

namespace StoryMarkers.Toml

inductive Kind where
  | declared
  | implied
  | dotted
deriving DecidableEq, Repr

mutual

inductive Item where
  | value (v : Value)
  | table (t : Table)
  /-- Tables under one name, the latest one last. -/
  | tables (before : List Table) (latest : Table)

inductive Table where
  | mk (kind : Kind) (entries : List (String × Item))

end

namespace Table

def kind : Table → Kind
  | mk kind _ => kind

def entries : Table → List (String × Item)
  | mk _ entries => entries

def empty (kind : Kind) : Table := mk kind []

/-- Replaces or adds the entry of a key. -/
def alterEntry (key : String) (change : Option Item → Option Item) :
    List (String × Item) → Option (List (String × Item))
  | [] => (change none).map fun item => [(key, item)]
  | (k, item) :: rest =>
    if k = key then (change (some item)).map fun item => (k, item) :: rest
    else (alterEntry key change rest).map ((k, item) :: ·)

def alter (table : Table) (key : String) (change : Option Item → Option Item) : Option Table :=
  (alterEntry key change table.entries).map (mk table.kind)

/-- Changes the table that a path leads to; tables missing on the way are made. -/
def within (dotted : Bool) (change : Table → Option Table) : List String → Table → Option Table
  | [], table => change table
  | key :: path, table =>
    table.alter key fun
      | none =>
        (within dotted change path (empty (if dotted then .dotted else .implied))).map .table
      | some (.value _) => none
      | some (.tables before latest) =>
        (within dotted change path latest).map (.tables before)
      | some (.table inner) =>
        if dotted ∧ inner.kind = .declared then none
        else (within dotted change path inner).map .table

/-- Puts a value under a dotted key, at which there must not be anything yet. -/
def put (path : List String) (key : String) (value : Value) (table : Table) : Option Table :=
  within true (fun inner =>
    if path ≠ [] ∧ inner.kind ≠ .dotted then none
    else inner.alter key fun
      | none => some (.value value)
      | some _ => none) path table

/-- Declares the table of a header. -/
def declare (path : List String) (key : String) (root : Table) : Option Table :=
  within false (fun table => table.alter key fun
    | none => some (.table (empty .declared))
    | some (.table inner) =>
      if inner.kind = .implied then some (.table (mk .declared inner.entries)) else none
    | some _ => none) path root

/-- Adds a table to the tables of a header. -/
def append (path : List String) (key : String) (root : Table) : Option Table :=
  within false (fun table => table.alter key fun
    | none => some (.tables [] (empty .declared))
    | some (.tables before latest) => some (.tables (before ++ [latest]) (empty .declared))
    | some _ => none) path root

end Table

mutual

def Item.toValue : Item → Value
  | .value v => v
  | .table t => t.toValue
  | .tables before latest => .array (Table.listToValue before ++ [latest.toValue])

def Table.toValue : Table → Value
  | .mk _ entries => .table (Table.entriesToValue entries)

def Table.listToValue : List Table → List Value
  | [] => []
  | table :: rest => table.toValue :: Table.listToValue rest

def Table.entriesToValue : List (String × Item) → List (String × Value)
  | [] => []
  | (key, item) :: rest => (key, item.toValue) :: Table.entriesToValue rest

end

end StoryMarkers.Toml
