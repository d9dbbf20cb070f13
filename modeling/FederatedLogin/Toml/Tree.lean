import FederatedLogin.Toml.Value

/-! # Trees of tables

The tables of a document while it is being read. A table comes into being by its header, as a
passage to another table, or by dotted keys, and this decides how it may be extended; nothing is
defined twice.
-/

namespace FederatedLogin.Toml

inductive Node where
  /-- A value that is complete: a scalar, an array or an inline table. -/
  | value (v : Value)
  /-- A table. It is `implicit` without a header of its own and `dotted` if dotted keys made it. -/
  | table (implicit dotted : Bool) (entries : List (String × Node))
  /-- An array of tables. -/
  | tables (items : List (List (String × Node)))

abbrev Entries := List (String × Node)

namespace Entries

def set (key : String) (node : Node) : Entries → Entries
  | [] => [(key, node)]
  | (k, n) :: es => if k == key then (key, node) :: es else (k, n) :: set key node es

def erase (key : String) (entries : Entries) : Entries := entries.filter (·.1 != key)

/-- Changes the table at the end of a path, which is told whether it is dotted. Tables missing on
the way are made. Dotted keys do not reach into a table that has a header, and neither they nor
headers reach into a value; of an array of tables they reach the last. -/
def descend (byDottedKey : Bool) (f : Bool → Entries → Option Entries) :
    (path : List String) → (dotted : Bool) → Entries → Option Entries
  | [], dotted, entries => f dotted entries
  | key :: path, _, entries =>
    match entries.lookup key with
    | none => do
      let inner ← descend byDottedKey f path byDottedKey []
      return set key (.table true byDottedKey inner) entries
    | some (.value _) => none
    | some (.table implicit dotted inner) =>
      if byDottedKey && !implicit then none
      else do
        let inner ← descend byDottedKey f path dotted inner
        return set key (.table implicit dotted inner) entries
    | some (.tables items) => do
      let inner ← descend byDottedKey f path false (items.getLast?.getD [])
      return set key (.tables (items.dropLast ++ [inner])) entries

/-- Defines a key, which has a path if it is dotted. A table holds either plain keys or, once dotted
keys have made it, those reached by dotted keys. -/
def define (path : List String) (key : String) (v : Value) (entries : Entries) : Option Entries :=
  descend (!path.isEmpty) (fun dotted inner =>
    if dotted == path.isEmpty || (inner.lookup key).isSome then none
    else some (set key (.value v) inner)) path false entries

end Entries

mutual

def Node.toValue : Node → Value
  | .value v => v
  | .table _ _ entries => .table (entriesValues entries)
  | .tables items => .array (tablesValues items)

def entriesValues : List (String × Node) → List (String × Value)
  | [] => []
  | (k, n) :: es => (k, n.toValue) :: entriesValues es

def tablesValues : List (List (String × Node)) → List Value
  | [] => []
  | es :: items => .table (entriesValues es) :: tablesValues items

end

inductive Opening where
  | root
  | table (path : List String) (key : String)
  | element (path : List String) (key : String)

/-- A document up to the table being read, whose entries are kept apart. -/
structure Draft where
  root : Entries
  opening : Opening
  current : Entries

namespace Draft

def empty : Draft := ⟨[], .root, []⟩

def close (d : Draft) : Option Entries :=
  match d.opening with
  | .root => some d.current
  | .table path key =>
    d.root.descend false (fun _ inner =>
      if (inner.lookup key).isSome then none
      else some (inner.set key (.table false false d.current))) path false
  | .element path key =>
    d.root.descend false (fun _ inner =>
      match inner.lookup key with
      | none => some (inner.set key (.tables [d.current]))
      | some (.tables items) => some (inner.set key (.tables (items ++ [d.current])))
      | some _ => none) path false

/-- The entries of the table that a header opens: those of an implicit table, if there is one. -/
def opened? (key : String) (inner : Entries) : Option Entries :=
  match inner.lookup key with
  | none => some []
  | some (.table true false entries) => some entries
  | some _ => none

def entriesAt? : (path : List String) → Entries → Option Entries
  | [], entries => some entries
  | key :: path, entries =>
    match entries.lookup key with
    | none => some []
    | some (.value _) => none
    | some (.table _ _ inner) => entriesAt? path inner
    | some (.tables items) => entriesAt? path (items.getLast?.getD [])

def openTable (path : List String) (key : String) (d : Draft) : Option Draft := do
  let root ← d.close
  let current ← opened? key (← entriesAt? path root)
  let root ← root.descend false (fun _ inner => some (inner.erase key)) path false
  return ⟨root, .table path key, current⟩

def openElement (path : List String) (key : String) (d : Draft) : Option Draft := do
  let root ← d.close
  match (← entriesAt? path root).lookup key with
  | none | some (.tables _) => return ⟨root, .element path key, []⟩
  | some _ => none

def define (path : List String) (key : String) (v : Value) (d : Draft) : Option Draft := do
  return { d with current := ← d.current.define path key v }

def finish (d : Draft) : Option Value := do
  return (Node.table false false (← d.close)).toValue

end Draft

end FederatedLogin.Toml
