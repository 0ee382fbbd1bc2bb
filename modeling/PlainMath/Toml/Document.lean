/-
# `Toml.Document` — the tables of a document while it is built

A document is a tree of tables that grows statement by statement.  Header lines open a
section; the lines of a section add values to its table.  A table may be announced once only,
be it by a header or by the dotted keys of one section, and a value that is there is never
replaced: a statement that would break one of these rules is refused.
-/
import PlainMath.Value

namespace PlainMath.Toml

/-- How a table came to be. -/
inductive Mark where
  /-- On the way to another one. -/
  | passing
  /-- By its own header. -/
  | header
  /-- By dotted keys in the section of this number. -/
  | dotted (number : Nat)
  deriving DecidableEq

/-- Whether a table of this mark is finished for the statements of a later section. -/
def Mark.isClosed (now : Nat) : Mark → Bool
  | .passing => false
  | .header => true
  | .dotted s => s < now

/-- What a key stands for. -/
inductive Item where
  /-- A value that was written in one piece. -/
  | value (v : Value)
  | table (mark : Mark) (entries : List (String × Item))
  /-- A list of tables, each with a header of its own; only the last one still grows. -/
  | tables (earlier : List Value) (last : List (String × Item))

/-- The entries of a table, the first one first. -/
abbrev Entries := List (String × Item)

mutual

/-- The value of an item. -/
def Item.toValue : Item → Value
  | .value v => v
  | .table _ entries => .table (entriesValue entries)
  | .tables earlier last => .list (earlier ++ [.table (entriesValue last)])

/-- The fields of entries. -/
def entriesValue : List (String × Item) → List (String × Value)
  | [] => []
  | (name, item) :: rest => (name, item.toValue) :: entriesValue rest

end

namespace Entries

/-- The entries with one of them replaced, or added at the end. -/
def set (name : String) (item : Item) : Entries → Entries
  | [] => [(name, item)]
  | (n, i) :: rest => if n = name then (n, item) :: rest else (n, i) :: set name item rest

/-- The entries with a change inside the table of this key.  Missing tables are made, and of
a list of tables the last one is meant. -/
def inside? (change : Entries → Option Entries) : List String → Entries → Option Entries
  | [], entries => change entries
  | name :: rest, entries =>
    match entries.lookup name with
    | none => do
      let inner ← inside? change rest []
      return set name (.table .passing inner) entries
    | some (.table mark inner) => do
      let inner ← inside? change rest inner
      return set name (.table mark inner) entries
    | some (.tables earlier last) => do
      let last ← inside? change rest last
      return set name (.tables earlier last) entries
    | some (.value _) => none

/-- Announces a table. -/
def openTable? (now : Nat) (name : String) (entries : Entries) : Option Entries :=
  match entries.lookup name with
  | none => some (set name (.table .header []) entries)
  | some (.table mark inner) =>
    if mark.isClosed now then none else some (set name (.table .header inner) entries)
  | some _ => none

/-- Announces one more table of a list. -/
def appendTable? (name : String) (entries : Entries) : Option Entries :=
  match entries.lookup name with
  | none => some (set name (.tables [] []) entries)
  | some (.tables earlier last) =>
    some (set name (.tables (earlier ++ [.table (entriesValue last)]) []) entries)
  | some _ => none

/-- Adds a value under a dotted key. -/
def add? (now : Nat) (v : Value) : List String → Entries → Option Entries
  | [], _ => none
  | [name], entries =>
    match entries.lookup name with
    | none => some (set name (.value v) entries)
    | some _ => none
  | name :: rest, entries =>
    match entries.lookup name with
    | none => do
      let inner ← add? now v rest []
      return set name (.table (.dotted now) inner) entries
    | some (.table mark inner) =>
      if mark.isClosed now then none
      else do
        let inner ← add? now v rest inner
        return set name (.table (.dotted now) inner) entries
    | some _ => none

end Entries

/-- A line of a document. -/
inductive Statement where
  | table (key : List String)
  | tableInList (key : List String)
  | pair (key : List String) (v : Value)

/-- A document so far: its entries, the section that is open, and its number. -/
structure Draft where
  entries : Entries := []
  header : List String := []
  number : Nat := 0

/-- The draft after one more statement. -/
def Draft.take? (d : Draft) : Statement → Option Draft
  | .table key => do
    let now := d.number + 1
    let entries ← d.entries.inside? (Entries.openTable? now (key.getLast?.getD "")) key.dropLast
    return ⟨entries, key, now⟩
  | .tableInList key => do
    let entries ← d.entries.inside? (Entries.appendTable? (key.getLast?.getD "")) key.dropLast
    return ⟨entries, key, d.number + 1⟩
  | .pair key v => do
    let entries ← d.entries.inside? (Entries.add? d.number v key) d.header
    return { d with entries := entries }

/-- The fields of a document. -/
def Draft.fields (d : Draft) : List (String × Value) := entriesValue d.entries

end PlainMath.Toml
