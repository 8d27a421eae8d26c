import SealedTunnel.Text.Hexadecimal
import SealedTunnel.Toml.Character

/-!
# TOML strings

Strings stand in quotation marks or in apostrophes, one of them or three. In quotation marks a
backslash starts an escape; in apostrophes every character stands for itself; three of either allow
line ends inside. A string is written in the first of the four forms that needs no escape, and in
quotation marks with escapes where there is none.

## Main definitions

* `Quoted.read?`: the string at the start of a text, and the rest of the text
* `Quoted.write`: the written form of a string
-/

namespace SealedTunnel.Toml.Quoted

/-! ## Reading -/

/-- Where a reader stands in a string in quotation marks. -/
inductive State where
  /-- Between characters; after an escaped line end, spaces and line ends are skipped. -/
  | text (skipping : Bool)
  /-- After a backslash. -/
  | escape
  /-- After a backslash and spaces, which a line end must follow. -/
  | lineEnd
  /-- So many more hexadecimal digits belong to the escape; those before give the value. -/
  | hex (missing : Nat) (value : Nat)
  deriving DecidableEq, Repr

/-- The character of a short escape. -/
def shortEscape? (c : Char) : Option Char :=
  match c with
  | 'b' => some '\x08'
  | 't' => some '\t'
  | 'n' => some '\n'
  | 'f' => some '\x0c'
  | 'r' => some '\r'
  | '"' => some '"'
  | '\\' => some '\\'
  | _ => none

/-- The end of a string in three marks, where the text starts with at least three of them: up to two
more belong to the string. -/
def closing? (mark : Char) (cs : List Char) : Option (List Char × List Char) :=
  let run := (cs.takeWhile (· = mark)).length
  if run < 3 then none
  else
    let inside := min (run - 3) 2
    some (List.replicate inside mark, cs.drop (inside + 3))

/-- Puts a character in front of what was read. -/
def front (c : Char) (r : Option (List Char × List Char)) : Option (List Char × List Char) :=
  r.map fun (cs, rest) => (c :: cs, rest)

/-- The characters up to the end of a string in quotation marks, and the text after it. `multi`
says whether there are three of them. -/
def basic (multi : Bool) : State → List Char → Option (List Char × List Char)
  | _, [] => none
  | .text skipping, c :: r =>
    if c = '"' then
      if multi then
        match closing? '"' (c :: r) with
        | some done => some done
        | none => front c (basic multi (.text false) r)
      else some ([], r)
    else if c = '\\' then basic multi .escape r
    else if c = '\n' then
      if !multi then none
      else if skipping then basic multi (.text true) r
      else front c (basic multi (.text false) r)
    else if c = '\r' then
      if multi && r.head? = some '\n' then basic multi (.text skipping) r else none
    else if !isPrintable c then none
    else if skipping && isBlank c then basic multi (.text true) r
    else front c (basic multi (.text false) r)
  | .escape, c :: r =>
    if c = 'u' then basic multi (.hex 4 0) r
    else if c = 'U' then basic multi (.hex 8 0) r
    else
      match shortEscape? c with
      | some e => front e (basic multi (.text false) r)
      | none =>
        if !multi then none
        else if c = '\n' then basic multi (.text true) r
        else if isBlank c || (c = '\r' && r.head? = some '\n') then basic multi .lineEnd r
        else none
  | .lineEnd, c :: r =>
    if c = '\n' then basic multi (.text true) r
    else if isBlank c || (c = '\r' && r.head? = some '\n') then basic multi .lineEnd r
    else none
  | .hex missing value, c :: r =>
    match Text.hexValue? c with
    | none => none
    | some d =>
      if missing ≤ 1 then
        match Text.scalar? (value * 16 + d) with
        | some e => front e (basic multi (.text false) r)
        | none => none
      else basic multi (.hex (missing - 1) (value * 16 + d)) r

/-- The characters up to the end of a string in apostrophes, and the text after it. `multi` says
whether there are three of them. -/
def literal (multi : Bool) : List Char → Option (List Char × List Char)
  | [] => none
  | c :: r =>
    if c = '\'' then
      if multi then
        match closing? '\'' (c :: r) with
        | some done => some done
        | none => front c (literal multi r)
      else some ([], r)
    else if c = '\n' then (if multi then front c (literal multi r) else none)
    else if c = '\r' then
      if multi && r.head? = some '\n' then literal multi r else none
    else if isPrintable c then front c (literal multi r)
    else none

/-- The text after a line end that directly follows three marks, which is no part of the string. -/
def skipFirstNewline (cs : List Char) : List Char :=
  (newline? cs).getD cs

/-- The string in one quotation mark or apostrophe at the start of a text, and the rest. -/
def readLine? : List Char → Option (List Char × List Char)
  | '"' :: r => basic false (.text false) r
  | '\'' :: r => literal false r
  | _ => none

/-- The string at the start of a text, and the rest. -/
def read? : List Char → Option (List Char × List Char)
  | '"' :: '"' :: '"' :: r => basic true (.text false) (skipFirstNewline r)
  | '\'' :: '\'' :: '\'' :: r => literal true (skipFirstNewline r)
  | cs => readLine? cs

/-! ## Writing -/

/-- Control characters of ASCII other than tab and line feed; they can only be written as
escapes. -/
def isControl (c : Char) : Bool :=
  !isPrintable c && c ≠ '\n'

/-- The length of the longest run of a character. -/
def longestRun (mark : Char) (cs : List Char) : Nat :=
  go 0 0 cs
where
  /-- `best` is the longest run so far, `run` the length of the present one. -/
  go (best run : Nat) : List Char → Nat
    | [] => max best run
    | c :: r => if c = mark then go best (run + 1) r else go (max best run) 0 r

/-- The four hexadecimal digits of a control character. -/
def controlDigits (c : Char) : List Char :=
  ['0', '0', (Nat.digitChar (c.toNat / 16)).toUpper, (Nat.digitChar (c.toNat % 16)).toUpper]

/-- How a character other than a quotation mark stands in quotation marks. -/
def escaped (multi : Bool) (c : Char) : List Char :=
  if c = '\x08' then ['\\', 'b']
  else if c = '\t' then ['\\', 't']
  else if c = '\n' then (if multi then ['\n'] else ['\\', 'n'])
  else if c = '\x0c' then ['\\', 'f']
  else if c = '\r' then ['\\', 'r']
  else if c = '\\' then ['\\', '\\']
  else if isControl c then '\\' :: 'u' :: controlDigits c
  else [c]

/-- The inside of a string in quotation marks; `run` is the number of quotation marks just before.
In three marks, every third of a run of quotation marks is escaped. -/
def escapeAll (multi : Bool) (run : Nat) : List Char → List Char
  | [] => []
  | c :: r =>
    if c = '"' then
      if multi && run < 2 then c :: escapeAll multi (run + 1) r
      else '\\' :: c :: escapeAll multi 0 r
    else escaped multi c ++ escapeAll multi 0 r

/-- A text between three marks. It starts on a line of its own if it has line ends. -/
def tripled (mark : Char) (newline : Bool) (inside : List Char) : List Char :=
  let marks := List.replicate 3 mark
  marks ++ (if newline then ['\n'] else []) ++ inside ++ marks

/-- The written form of a string. -/
def write (cs : List Char) : List Char :=
  let control := cs.any isControl
  let backslash := cs.contains '\\'
  let newline := cs.contains '\n'
  let quotes := longestRun '"' cs
  let apostrophes := longestRun '\'' cs
  if !control && !backslash && quotes = 0 && !newline then
    '"' :: escapeAll false 0 cs ++ ['"']
  else if !control && apostrophes = 0 && !newline then '\'' :: cs ++ ['\'']
  else if !control && !backslash && quotes ≤ 2 then tripled '"' newline (escapeAll true 0 cs)
  else if !control && apostrophes ≤ 2 then tripled '\'' newline cs
  else if newline then tripled '"' newline (escapeAll true 0 cs)
  else '"' :: escapeAll false 0 cs ++ ['"']

end SealedTunnel.Toml.Quoted
