import SealedTunnel.Toml.Moment
import SealedTunnel.Toml.Number
import SealedTunnel.Toml.Quoted
import SealedTunnel.Toml.Value

/-!
# TOML documents

A document is read line by line: keys with their values go into the table of the last header. A
header opens a table, or the next table of an array; the table is put in its place once the next
header, or the end, is reached.

## Main definitions

* `Document.value?`: the value at the start of a text
* `Toml.parse?`: the table that a document describes
-/

namespace SealedTunnel.Toml

namespace Document

/-- How deep values may be nested, and how many parts a key may have: less than this. -/
def depthLimit : Nat := 80

/-! ## Keys -/

/-- A character of a bare key. -/
def isBare (c : Char) : Bool :=
  c.isAlphanum || c = '_' || c = '-'

/-- One part of a key, and the text after it. -/
def keyPart? (cs : List Char) : Option (String × List Char) :=
  match Quoted.readLine? cs with
  | some (part, rest) => some (String.ofList part, rest)
  | none =>
    let part := cs.takeWhile isBare
    if part.isEmpty then none else some (String.ofList part, cs.dropWhile isBare)

/-- The parts of a key with spaces around each, and the text after them. `fuel` bounds their
number. -/
def keyParts? : (fuel : Nat) → List Char → Option (List String × List Char)
  | 0, _ => none
  | fuel + 1, cs => do
    let (part, rest) ← keyPart? (skipBlanks cs)
    match skipBlanks rest with
    | '.' :: rest =>
      let (parts, rest) ← keyParts? fuel rest
      return (part :: parts, rest)
    | rest => return ([part], rest)

/-- A key, split into the path to its last part and that part, and the text after it. -/
def key? (cs : List Char) : Option (List String × String × List Char) := do
  let (parts, rest) ← keyParts? (depthLimit - 1) cs
  let last ← parts.getLast?
  return (parts.dropLast, last, rest)

/-! ## Values -/

/-- The text after a word, if it starts with it. -/
def word? (word : List Char) (cs : List Char) : Option (List Char) :=
  if word.isPrefixOf cs then some (cs.drop word.length) else none

/-- What was read of a text of which this is left. -/
def consumed (cs rest : List Char) : String :=
  String.ofList (cs.take (cs.length - rest.length))

/-- A number, date or time, and the text after it. -/
def numeric? (cs : List Char) : Option (Value × List Char) :=
  match Moment.skip? cs with
  | some rest => some (.moment (consumed cs rest), rest)
  | none =>
    match Number.float? cs with
    | some rest => some (.float (consumed cs rest), rest)
    | none => (Number.integer? cs).map fun (n, rest) => (.integer n, rest)

/-- A value that holds no others, and the text after it. -/
def scalar? (cs : List Char) : Option (Value × List Char) :=
  match cs with
  | [] => none
  | c :: _ =>
    if c = '"' || c = '\'' then
      (Quoted.read? cs).map fun (s, rest) => (.string (String.ofList s), rest)
    else if c = 't' then (word? ['t', 'r', 'u', 'e'] cs).map fun rest => (.boolean true, rest)
    else if c = 'f' then (word? ['f', 'a', 'l', 's', 'e'] cs).map fun rest => (.boolean false, rest)
    else numeric? cs

/-- The items of an array after the opening bracket, and the text after the closing one; `item?`
reads an item and `fuel` bounds their number. A comma may follow the last item. -/
def items? (item? : List Char → Option (Value × List Char)) :
    (fuel : Nat) → List Char → Option (List Value × List Char)
  | 0, _ => none
  | fuel + 1, cs =>
    match skipGap cs with
    | ']' :: rest => some ([], rest)
    | cs => do
      let (v, rest) ← item? cs
      match skipGap rest with
      | ']' :: rest => return ([v], rest)
      | ',' :: rest =>
        let (vs, rest) ← items? item? fuel rest
        return (v :: vs, rest)
      | _ => none

/-- A key and its value, and the text after them. -/
def keyValue? (item? : List Char → Option (Value × List Char)) (cs : List Char) :
    Option ((List String × String × Value) × List Char) := do
  let (path, key, rest) ← key? cs
  let rest ← word? ['='] rest
  let (v, rest) ← item? (skipBlanks rest)
  return ((path, key, v), rest)

/-- The keys and values of a table in braces after the opening one, added to those before, and the
text after the closing brace. No comma may follow the last value. -/
def pairs? (item? : List Char → Option (Value × List Char)) :
    (fuel : Nat) → Entries → List Char → Option (Entries × List Char)
  | 0, _, _ => none
  | fuel + 1, entries, cs => do
    let ((path, key, v), rest) ← keyValue? item? cs
    let entries ← insertDotted path key v entries
    -- Unlike in an array, no line may end here.
    match skipBlanks rest with
    | '}' :: rest => return (entries, rest)
    | ',' :: rest => pairs? item? fuel entries rest
    | _ => none

/-- The value at the start of a text, and the text after it. Arrays and tables in braces may be
nested `room` deep. -/
def value? (room : Nat) (cs : List Char) : Option (Value × List Char) :=
  match room, cs with
  | room + 1, '[' :: r => (items? (value? room) r.length r).map fun (vs, rest) => (.array vs, rest)
  | room + 1, '{' :: r =>
    match skipBlanks r with
    | '}' :: rest => some (.table .inline [], rest)
    | _ => (pairs? (value? room) r.length [] r).map fun (es, rest) => (.table .inline es, rest)
  | _, cs => scalar? cs

/-! ## Headers -/

/-- Which table a header opens. -/
structure Place where
  path : List String
  key : String
  /-- Whether the table is the next one of an array. -/
  inArray : Bool
  deriving DecidableEq, Repr

/-- A document that was read in part: the tables in place, and the one that is being filled. The
first table has no header. -/
structure Draft where
  root : Entries := []
  place : Option Place := none
  current : Entries := []

/-- Takes a table that headers have only implied out of its place; there may be none yet. -/
def adopt (key : String) (entries : Entries) : Option (Entries × Entries) :=
  match entries.value? key with
  | none => some ([], entries)
  | some (.table .implied es) => some (es, entries.filter fun e => e.1 ≠ key)
  | some _ => none

/-- Refuses a place that is neither free nor an array of tables. -/
def checkArray (key : String) (entries : Entries) : Option (Unit × Entries) :=
  match entries.value? key with
  | none => some ((), entries)
  | some (.tables _) => some ((), entries)
  | some _ => none

/-- Puts a table in its place. -/
def settle (place : Place) (table : Entries) (entries : Entries) : Option (Unit × Entries) :=
  if place.inArray then
    match entries.value? place.key with
    | none => some ((), entries.put place.key (.tables [table]))
    | some (.tables items) => some ((), entries.put place.key (.tables (items ++ [table])))
    | some _ => none
  else some ((), entries.put place.key (.table .header table))

/-- The tables of a document, the one being filled included. -/
def Draft.finish (d : Draft) : Option Entries :=
  match d.place with
  | none => some d.current
  | some place => (modifyAt (settle place d.current) place.path d.root).map Prod.snd

/-- The document after a header. -/
def Draft.openAt (d : Draft) (place : Place) : Option Draft := do
  -- The table of the last header is put away first: the new place may lie within it.
  let root ← d.finish
  if place.inArray then
    let ((), root) ← modifyAt (checkArray place.key) place.path root
    return ⟨root, some place, []⟩
  else
    -- A table that only longer headers have implied so far may still get its own header.
    let (current, root) ← modifyAt (adopt place.key) place.path root
    return ⟨root, some place, current⟩

/-- The document after a key and its value. -/
def Draft.insert (d : Draft) (path : List String) (key : String) (v : Value) : Option Draft :=
  (insertDotted path key v d.current).map fun current => { d with current }

/-! ## Lines -/

/-- The place that a header names, after its first bracket, and the text after the header. -/
def header? (cs : List Char) : Option (Place × List Char) := do
  match cs with
  | '[' :: cs =>
    let (path, key, rest) ← key? cs
    let rest ← word? [']', ']'] rest
    return (⟨path, key, true⟩, rest)
  | _ =>
    let (path, key, rest) ← key? cs
    let rest ← word? [']'] rest
    return (⟨path, key, false⟩, rest)

/-- The document after the next line that says something, and the text after it. -/
def line? (d : Draft) (cs : List Char) : Option (Draft × List Char) :=
  match cs with
  | '[' :: rest => do
    let (place, rest) ← header? rest
    let rest ← lineEnd? rest
    return (← d.openAt place, rest)
  | _ => do
    let ((path, key, v), rest) ← keyValue? (value? (depthLimit - 1)) cs
    let rest ← lineEnd? rest
    return (← d.insert path key v, rest)

/-- Reads all lines; `fuel` bounds their number. -/
def lines? : (fuel : Nat) → Draft → List Char → Option Draft
  | 0, _, _ => none
  | fuel + 1, d, cs =>
    match skipGap cs with
    | [] => some d
    | cs => do
      let (d, rest) ← line? d cs
      lines? fuel d rest

/-- The text without a byte order mark. -/
def skipMark : List Char → List Char
  | '\uFEFF' :: r => r
  | cs => cs

end Document

/-- The table that a document describes, if it is well-formed. -/
def parse? (text : String) : Option Entries :=
  let cs := Document.skipMark text.toList
  (Document.lines? (cs.length + 1) {} cs).bind Document.Draft.finish

end SealedTunnel.Toml
