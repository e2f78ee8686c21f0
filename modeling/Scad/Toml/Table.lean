/-!
# Tables in TOML

A document is a sequence of statements that build a tree of tables. A pair
sets a key of the table whose header came last; a key with dots leads through
tables that it makes on its way. No key is set twice, no table is opened twice,
and dotted keys add only to tables that dotted keys made. A table that was made
on the way to another may still be opened once.

Of a value only texts and truth values are kept.
-/

namespace Scad.Toml

inductive Value where
  | text (s : String)
  | bool (b : Bool)
  /-- A number, a date, an array or an inline table. -/
  | other
deriving DecidableEq, Repr

/-- How a table came to be: by its header, on the way to another table, or by
a dotted key. -/
inductive Origin where
  | header
  | passage
  | dots
deriving DecidableEq, Repr

inductive Entry where
  | value (v : Value)
  | table (origin : Origin) (entries : List (String × Entry))
  /-- An array of tables, of which only the last can still change. -/
  | tables (last : List (String × Entry))

abbrev Entries := List (String × Entry)

/-- A key with dots: the keys of the tables on the way, and the key at its end. -/
structure Key where
  path : List String
  last : String
deriving DecidableEq, Repr

inductive Statement where
  | pair (key : Key) (v : Value)
  | table (key : Key)
  | tables (key : Key)
deriving DecidableEq, Repr

namespace Entries

/-- Puts at a key what becomes of the entry there. -/
def alter? (key : String) (change : Option Entry → Option Entry) : Entries → Option Entries
  | [] => do return [(key, ← change none)]
  | (k, entry) :: rest =>
      if k = key then do return (k, ← change (some entry)) :: rest
      else do return (k, entry) :: (← alter? key change rest)

/-- Changes the table at the end of a path, of which `origin` is the origin at
its start. Missing tables are made; `dotted` says that a dotted key leads here. -/
def alterAt? (dotted : Bool) (change : Origin → Entries → Option Entries) :
    List String → Origin → Entries → Option Entries
  | [], origin, entries => change origin entries
  | key :: path, _, entries =>
      alter? key
        (fun
          | none => do
              let origin := if dotted then .dots else .passage
              return .table origin (← alterAt? dotted change path origin [])
          | some (.value _) => none
          | some (.table origin inner) =>
              if dotted && origin == .header then none
              else do return .table origin (← alterAt? dotted change path origin inner)
          | some (.tables last) => do
              return .tables (← alterAt? dotted change path .header last))
        entries

/-- Sets a key. A key with dots ends in a table that dotted keys made. -/
def setPair? (key : Key) (v : Value) (origin : Origin) (entries : Entries) : Option Entries :=
  let set : Origin → Entries → Option Entries := fun origin entries =>
    if !key.path.isEmpty && origin != .dots then none
    else
      alter? key.last
        (fun
          | none => some (.value v)
          | some _ => none)
        entries
  alterAt? true set key.path origin entries

/-- Opens a table by its header. -/
def openTable? (key : Key) (entries : Entries) : Option Entries :=
  let openLast : Option Entry → Option Entry := fun
    | none => some (.table .header [])
    | some (.table .passage inner) => some (.table .header inner)
    | some _ => none
  alterAt? false (fun _ entries => alter? key.last openLast entries) key.path .header entries

/-- Opens a further table of an array. -/
def openTables? (key : Key) (entries : Entries) : Option Entries :=
  let openLast : Option Entry → Option Entry := fun
    | none => some (.tables [])
    | some (.tables _) => some (.tables [])
    | some _ => none
  alterAt? false (fun _ entries => alter? key.last openLast entries) key.path .header entries

/-- Takes the statements in turn, below the table that is open. -/
def ofStatementsFrom? (opened : List String) (entries : Entries) :
    List Statement → Option Entries
  | [] => some entries
  | .pair key v :: rest => do
      ofStatementsFrom? opened (← alterAt? false (setPair? key v) opened .header entries) rest
  | .table key :: rest => do
      ofStatementsFrom? (key.path ++ [key.last]) (← openTable? key entries) rest
  | .tables key :: rest => do
      ofStatementsFrom? (key.path ++ [key.last]) (← openTables? key entries) rest

/-- The root table of a document. -/
def ofStatements? (statements : List Statement) : Option Entries :=
  ofStatementsFrom? [] [] statements

/-- The keys and values of an inline table can stand together. -/
def agree (pairs : List (Key × Value)) : Bool :=
  (pairs.foldlM (fun entries p => setPair? p.1 p.2 .header entries) ([] : Entries)).isSome

end Entries

end Scad.Toml
