import MessageExpr.Number.Binary64

/-!
# The tree of a TOML document

A document is a tree of named nodes. How a table came about decides what may still be added to it: a
table that has only been passed through on the way to another one can be opened once by a header of
its own, one that dotted keys made can get further dotted keys, and an inline table is closed.

Adding to a document is adding at a path (`Entries.updateAt`). It fails where TOML calls the document
malformed.
-/

set_option autoImplicit false

namespace MessageExpr.Toml

/-- How a table came about. -/
inductive TableForm where
  /-- On the path of a header to another table. -/
  | passed
  /-- On the path of a dotted key. -/
  | dotted
  /-- By a header of its own. -/
  | opened
  /-- Between braces. -/
  | inline
deriving DecidableEq

/-- A node of a document. -/
inductive Node where
  /-- A text. -/
  | text (text : String)
  /-- A whole number. -/
  | integer (integer : Int)
  /-- A number with a point or an exponent. -/
  | number (number : Binary64)
  /-- A truth value. -/
  | truth (truth : Bool)
  /-- A date, a time or both, as it is written. -/
  | moment (text : String)
  /-- A list of nodes. -/
  | array (elements : List Node)
  /-- A table. -/
  | table (form : TableForm) (entries : List (String × Node))
  /-- Tables under one name, each with a header of its own. -/
  | tables (elements : List Node)
deriving Inhabited

/-- The named nodes of a table. -/
abbrev Entries := List (String × Node)

namespace Entries

/-- Replaces the node of a name. -/
def replace (name : String) (node : Node) : Entries → Entries
  | [] => []
  | entry :: rest =>
    if entry.1 = name then (name, node) :: rest else entry :: replace name node rest

/-- Adds a node under a name that is free. -/
def add? (name : String) (node : Node) (entries : Entries) : Option Entries :=
  match entries.lookup name with
  | none => some (entries ++ [(name, node)])
  | some _ => none

/-- Changes the last of several tables. -/
def updateLast (change : Entries → Option Entries) : List Node → Option (List Node)
  | [] => none
  | [.table form entries] => (change entries).map fun changed => [.table form changed]
  | [_] => none
  | first :: second :: rest => (updateLast change (second :: rest)).map (first :: ·)

/-- Changes the table at a path. `change` is given the table's form and entries. A table that is
missing on the way is made, as one passed through or as one of a dotted key. A dotted key does not
lead into a table that has been opened by a header. -/
def updateAt (byKey : Bool) (change : TableForm → Entries → Option Entries) :
    List String → TableForm → Entries → Option Entries
  | [], form, entries => change form entries
  | name :: path, _, entries =>
    match entries.lookup name with
    | none =>
      let made : TableForm := if byKey then .dotted else .passed
      (updateAt byKey change path made []).map fun inner =>
        entries ++ [(name, .table made inner)]
    | some (.table form inner) =>
      if form = .inline || (byKey && form = .opened) then none
      else
        (updateAt byKey change path form inner).map fun changed =>
          replace name (.table form changed) entries
    | some (.tables elements) =>
      (updateLast (updateAt byKey change path .opened) elements).map fun changed =>
        replace name (.tables changed) entries
    | some _ => none

/-- Adds a node under a dotted key, given as the names before the last one and the last one. The
table that the names lead to has to be one of dotted keys, unless there are no names. -/
def addAt? (path : List String) (name : String) (node : Node) (form : TableForm)
    (entries : Entries) : Option Entries :=
  updateAt true
    (fun form entries => if form = .dotted ∨ path = [] then add? name node entries else none)
    path form entries

/-- Opens the table under a name, which must be free or have only been passed through. -/
def openTable? (name : String) (entries : Entries) : Option Entries :=
  match entries.lookup name with
  | none => some (entries ++ [(name, .table .opened [])])
  | some (.table .passed inner) => some (replace name (.table .opened inner) entries)
  | some _ => none

/-- Adds a further table to those under a name. -/
def openNext? (name : String) (entries : Entries) : Option Entries :=
  match entries.lookup name with
  | none => some (entries ++ [(name, .tables [.table .opened []])])
  | some (.tables elements) =>
    some (replace name (.tables (elements ++ [.table .opened []])) entries)
  | some _ => none

end Entries

end MessageExpr.Toml
