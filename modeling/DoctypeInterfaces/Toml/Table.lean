import DoctypeInterfaces.Toml.Scalar

namespace DoctypeInterfaces.Toml

inductive Origin where
  /-- It lies on the way to the table of a header. -/
  | passed
  /-- It lies on the way to the value of a dotted key. -/
  | dotted
  | opened
  deriving DecidableEq, Repr

inductive Item where
  | value (v : Value)
  | table (origin : Origin) (entries : List (String × Item))
  | tables (list : List (List (String × Item)))

abbrev Entries := List (String × Item)

/-- The entries with the item under a key replaced, or added at the end. -/
def Entries.put (key : String) (item : Item) : Entries → Entries
  | [] => [(key, item)]
  | entry :: rest => if entry.1 = key then (key, item) :: rest else entry :: put key item rest

/-- Changes the entries at the end of a path of keys, on which a header may lie. Missing tables are
made. -/
def Entries.alter (f : Entries → Option Entries) : List String → Entries → Option Entries
  | [], entries => f entries
  | key :: path, entries =>
    match entries.lookup key with
    | none => (alter f path []).map fun inner => entries.put key (.table .passed inner)
    | some (.value _) => none
    | some (.table origin inner) =>
      (alter f path inner).map fun inner => entries.put key (.table origin inner)
    | some (.tables []) => none
    | some (.tables (last :: others)) =>
      (alter f path last).map fun last => entries.put key (.tables (last :: others))

/-- Opens the table under a key, which only a table on the way to another header allows. -/
def Entries.openTable (key : String) (entries : Entries) : Option Entries :=
  match entries.lookup key with
  | none => some (entries.put key (.table .opened []))
  | some (.table .passed inner) => some (entries.put key (.table .opened inner))
  | _ => none

/-- Opens one more table in the list of tables under a key. -/
def Entries.openNext (key : String) (entries : Entries) : Option Entries :=
  match entries.lookup key with
  | none => some (entries.put key (.tables [[]]))
  | some (.tables list) => some (entries.put key (.tables ([] :: list)))
  | _ => none

/-- Adds a value at a path of keys, given whether a value may be added to the entries themselves.
Below them only tables on the way to the values of dotted keys take values. -/
def Entries.add (v : Value) (isOpen : Bool) : List String → Entries → Option Entries
  | [], _ => none
  | [key], entries =>
    if isOpen && (entries.lookup key).isNone then some (entries.put key (.value v)) else none
  | key :: path, entries =>
    match entries.lookup key with
    | none => (add v true path []).map fun inner => entries.put key (.table .dotted inner)
    | some (.table .opened _) => none
    | some (.table origin inner) =>
      (add v (origin = .dotted) path inner).map fun inner => entries.put key (.table origin inner)
    | some (.tables (last :: others)) =>
      (add v false path last).map fun last => entries.put key (.tables (last :: others))
    | _ => none

mutual

def Item.toValue : Item → Value
  | .value v => v
  | .table _ entries => .table (Item.entriesValue entries)
  | .tables list => .array (Item.tablesValue list).reverse

def Item.entriesValue : List (String × Item) → List (String × Value)
  | [] => []
  | (key, item) :: rest => (key, item.toValue) :: Item.entriesValue rest

def Item.tablesValue : List (List (String × Item)) → List Value
  | [] => []
  | entries :: rest => .table (Item.entriesValue entries) :: Item.tablesValue rest

end

end DoctypeInterfaces.Toml
