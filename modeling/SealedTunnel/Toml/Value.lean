/-!
# TOML values

A document is a table of values by key. Numbers with a fraction and points in time are kept as their
text, since nothing here calculates with them. A table remembers how it came into being, because
that decides whether more keys may be added to it later.

## Main definitions

* `Toml.Value`, `Toml.Entries`: values, and the contents of a table
* `Toml.insertDotted`: a key, perhaps dotted, with its value is added to a table
* `Toml.modifyAt`: the table that a header names is changed
-/

namespace SealedTunnel.Toml

/-- How a table came into being. -/
inductive Origin where
  /-- By a header of its own. -/
  | header
  /-- As a step on the way of a header. -/
  | implied
  /-- As a step on the way of a dotted key. -/
  | dotted
  /-- As a value in braces. -/
  | inline
  deriving DecidableEq, Repr, Inhabited

/-- A value. -/
inductive Value where
  | string (text : String)
  | integer (value : Int)
  | boolean (value : Bool)
  | float (text : String)
  | moment (text : String)
  | array (items : List Value)
  | table (origin : Origin) (entries : List (String × Value))
  /-- An array of tables, each made by a header. -/
  | tables (items : List (List (String × Value)))
  deriving Inhabited

/-- The contents of a table, in the order in which the keys came. -/
abbrev Entries := List (String × Value)

/-- The value of a key. -/
def Entries.value? (entries : Entries) (key : String) : Option Value :=
  (List.find? (fun e => e.1 = key) entries).map Prod.snd

/-- Gives a key another value; a new key comes last. -/
def Entries.put (entries : Entries) (key : String) (v : Value) : Entries :=
  if entries.any fun e => e.1 = key then
    entries.map fun e => if e.1 = key then (key, v) else e
  else entries ++ [(key, v)]

/-- Adds a key, which must be new. -/
def Entries.add? (entries : Entries) (key : String) (v : Value) : Option Entries :=
  if entries.any fun e => e.1 = key then none else some (entries ++ [(key, v)])

/-- The list with its last element changed. -/
def changeLast? {α : Type} (f : α → Option α) (xs : List α) : Option (List α) :=
  match xs.reverse with
  | [] => none
  | x :: rest => (f x).map fun y => (y :: rest).reverse

/-- Adds a dotted key to a table. The path leads through tables that dotted keys have made, which
are made here where they are missing; the last of them must be such a table, and the steps before
it may also be tables implied by headers, or the latest of an array of tables. -/
def insertDotted (path : List String) (key : String) (v : Value) (entries : Entries) :
    Option Entries :=
  match path with
  | [] => entries.add? key v
  | step :: path =>
    match entries.value? step with
    | none => (insertDotted path key v []).map fun es => entries.put step (.table .dotted es)
    | some (.table .dotted es) =>
      (insertDotted path key v es).map fun es => entries.put step (.table .dotted es)
    | some (.table .implied es) =>
      if path.isEmpty then none
      else (insertDotted path key v es).map fun es => entries.put step (.table .implied es)
    | some (.tables items) =>
      if path.isEmpty then none
      else (changeLast? (insertDotted path key v) items).map fun items =>
        entries.put step (.tables items)
    | some _ => none

/-- Changes the table to which the keys of a header lead, and gives what the change gives. The path
leads through tables of all kinds but values, and through the latest of an array of tables; missing
tables are made. -/
def modifyAt {α : Type} (f : Entries → Option (α × Entries)) (path : List String)
    (entries : Entries) : Option (α × Entries) :=
  match path with
  | [] => f entries
  | step :: path =>
    match entries.value? step with
    | none => (modifyAt f path []).map fun (a, es) => (a, entries.put step (.table .implied es))
    | some (.table .inline _) => none
    | some (.table origin es) =>
      (modifyAt f path es).map fun (a, es) => (a, entries.put step (.table origin es))
    | some (.tables items) =>
      match items.reverse with
      | [] => none
      | latest :: rest =>
        (modifyAt f path latest).map fun (a, es) =>
          (a, entries.put step (.tables (es :: rest).reverse))
    | some _ => none

end SealedTunnel.Toml
