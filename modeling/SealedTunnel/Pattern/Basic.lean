/-!
# Patterns

A pattern is a regular expression: it describes texts. Of the characters that it names only those
things are kept on which it depends whether an automaton can be built for it.

## Main definitions

* `Pattern.Flag`, `Pattern.FlagChanges`: how the parts of a pattern are meant
* `Pattern.CharSet`: what stands in square brackets
* `Pattern`: patterns, with `Pattern.depth`, how deeply their parts are nested
-/

namespace SealedTunnel

namespace Pattern

/-- What can be switched on or off for a part of a pattern. -/
inductive Flag where
  /-- Letters stand for both their cases. -/
  | ignoreCase
  /-- The anchors of a text are those of its lines. -/
  | multiLine
  /-- Any character is also a line end. -/
  | dotAll
  /-- Repetitions are as short as they can be. -/
  | shortest
  /-- Characters are meant, and not bytes. -/
  | unicode
  /-- Lines may also end in a carriage return and a line feed. -/
  | anyLineEnd
  /-- Blanks and notes in the pattern do not count. -/
  | spaced
  deriving DecidableEq, Repr

/-- Flags with what becomes of them, in the order in which they are written. -/
abbrev FlagChanges := List (Flag × Bool)

/-- A flag after changes. -/
def FlagChanges.apply (changes : FlagChanges) (flag : Flag) (before : Bool) : Bool :=
  (List.lookup flag changes).getD before

/-- A character that stands for itself. -/
structure Literal where
  char : Char
  /-- Whether it is written as a byte, with two hexadecimal digits. -/
  asByte : Bool := false
  deriving DecidableEq, Repr

/-- Whether it is a character of ASCII. -/
def Literal.isAscii (l : Literal) : Bool :=
  l.char.val < 0x80

/-- What stands in square brackets. -/
inductive CharSet where
  | literal (l : Literal)
  /-- The characters from one to another. -/
  | range (first last : Literal)
  /-- A set of ASCII characters with a name, or those that are not in it. -/
  | named (negated : Bool)
  /-- Digits, blanks or letters, or what is none of them. -/
  | kind (negated : Bool)
  /-- A set in brackets of its own. -/
  | bracketed (negated : Bool) (set : CharSet)
  | union (parts : List CharSet)
  /-- What two sets have in common, or a difference of two. -/
  | operation (left right : CharSet)

namespace CharSet

/-- The union of parts; one part alone is itself. -/
def ofParts : List CharSet → CharSet
  | [part] => part
  | parts => .union parts

mutual

/-- How deeply brackets, unions and operations are nested in a set. -/
def depth : CharSet → Nat
  | .bracketed _ set => 1 + set.depth
  | .union [] => 0
  | .union (part :: parts) => 1 + depthOfAll (part :: parts)
  | .operation left right => 1 + max left.depth right.depth
  | _ => 0

/-- The depth of the deepest of some sets. -/
def depthOfAll : List CharSet → Nat
  | [] => 0
  | part :: parts => max part.depth (depthOfAll parts)

end

end CharSet

end Pattern

open Pattern in
/-- A regular expression. -/
inductive Pattern where
  /-- From here to the end of the group flags are changed. -/
  | flags (changes : FlagChanges)
  | literal (l : Literal)
  /-- Any character, line ends apart. -/
  | anyChar
  /-- Digits, blanks or letters, or what is none of them. -/
  | kind (negated : Bool)
  /-- A place at an end of the text or of a line. -/
  | anchor
  /-- A place at an end of a word, or within one. -/
  | wordBoundary
  /-- A character of a set, or one that is not in it. -/
  | oneOf (negated : Bool) (set : CharSet)
  | repeated (p : Pattern)
  /-- A part in parentheses, in which flags are changed. -/
  | group (changes : FlagChanges) (p : Pattern)
  | sequence (parts : List Pattern)
  | alternatives (branches : List Pattern)

namespace Pattern

/-- The parts one after another; one part alone is itself. -/
def inOrder : List Pattern → Pattern
  | [p] => p
  | parts => .sequence parts

/-- One of the branches; one branch alone is itself. -/
def either : List Pattern → Pattern
  | [p] => p
  | branches => .alternatives branches

mutual

/-- How deeply the parts of a pattern are nested. -/
def depth : Pattern → Nat
  | .oneOf _ set => 1 + set.depth
  | .repeated p => 1 + p.depth
  | .group _ p => 1 + p.depth
  | .sequence [] => 0
  | .sequence (p :: parts) => 1 + depthOfAll (p :: parts)
  | .alternatives branches => 1 + depthOfAll branches
  | _ => 0

/-- The depth of the deepest of some patterns. -/
def depthOfAll : List Pattern → Nat
  | [] => 0
  | p :: ps => max p.depth (depthOfAll ps)

end

end Pattern

end SealedTunnel
