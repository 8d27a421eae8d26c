/-!
# Characters and spaces in TOML

## Main definitions

* `Toml.isPrintable`: the characters of comments, and of strings as they stand
* `Toml.newline?`, `Toml.lineEnd?`, `Toml.skipGap`: line ends, and what may stand between values
-/

namespace SealedTunnel.Toml

/-- A space or a tab. -/
def isBlank (c : Char) : Bool :=
  c = ' ' || c = '\t'

/-- A tab, or any character that is no control character of ASCII. -/
def isPrintable (c : Char) : Bool :=
  c = '\t' || (0x20 ≤ c.val && c.val ≠ 0x7F)

/-- The text after spaces and tabs. -/
def skipBlanks (cs : List Char) : List Char :=
  cs.dropWhile isBlank

/-- The text after a line end. -/
def newline? : List Char → Option (List Char)
  | '\n' :: r => some r
  | '\r' :: '\n' :: r => some r
  | _ => none

/-- The text after a comment, if there is one. -/
def skipComment : List Char → List Char
  | '#' :: r => r.dropWhile isPrintable
  | cs => cs

/-- The text after the rest of a line that holds nothing but perhaps a comment. -/
def lineEnd? (cs : List Char) : Option (List Char) :=
  match skipComment (skipBlanks cs) with
  | [] => some []
  | rest => newline? rest

/-- The text after spaces, line ends and comments that end with their line. `comment` says whether
the text is in the middle of a comment. -/
def skipGapFrom (comment : Bool) : List Char → List Char
  | [] => []
  | '\n' :: r => skipGapFrom false r
  | '\r' :: r => if r.head? = some '\n' then skipGapFrom comment r else '\r' :: r
  | c :: r =>
    if comment then (if isPrintable c then skipGapFrom true r else c :: r)
    else if isBlank c then skipGapFrom false r
    else if c = '#' then skipGapFrom true r
    else c :: r

/-- The text after spaces, line ends and comments. -/
def skipGap (cs : List Char) : List Char :=
  skipGapFrom false cs

end SealedTunnel.Toml
