import SealedTunnel.Pattern.Basic
import SealedTunnel.Text.Blank
import SealedTunnel.Text.Hexadecimal

/-!
# The signs of patterns

A sign is a character, or a backslash with what belongs to it. Between signs there may be blanks and
notes, which start with a number sign and end with their line, where the flag for them is on. All
functions give what they leave of the text.

## Main definitions

* `Pattern.skipSpace`: the text after blanks and notes
* `Pattern.Sign`: what a sign means, with `Sign.read?`
-/

namespace SealedTunnel.Pattern

/-! ## Space -/

/-- The text after blanks and notes. `inNote` says whether the text is in the middle of a note. -/
def skipNotes (inNote : Bool) : List Char → List Char
  | [] => []
  | c :: cs =>
    if inNote then skipNotes (c ≠ '\n') cs
    else if Text.isBlank c then skipNotes false cs
    else if c = '#' then skipNotes true cs
    else c :: cs

/-- The text after what does not count. -/
def skipSpace (spaced : Bool) (cs : List Char) : List Char :=
  if spaced then skipNotes false cs else cs

theorem length_skipNotes_le (inNote : Bool) (cs : List Char) :
    (skipNotes inNote cs).length ≤ cs.length := by
  fun_induction skipNotes inNote cs <;> simp_all <;> omega

theorem length_skipSpace_le (spaced : Bool) (cs : List Char) :
    (skipSpace spaced cs).length ≤ cs.length := by
  unfold skipSpace
  split
  · exact length_skipNotes_le false cs
  · exact Nat.le_refl _

/-- The first character that is no blank; the first number sign does not count either, but the note
after it does. -/
def nextMark (pastSign : Bool) : List Char → Option Char
  | [] => none
  | c :: cs =>
    if Text.isBlank c then nextMark pastSign cs
    else if c = '#' && !pastSign then nextMark true cs
    else some c

/-- The character that decides whether a hyphen before it makes a range. -/
def afterHyphen? (spaced : Bool) (cs : List Char) : Option Char :=
  if spaced then nextMark false cs else cs.head?

/-! ## Signs -/

/-- What a sign means. -/
inductive Sign where
  | literal (l : Literal)
  | kind (negated : Bool)
  | anchor
  | wordBoundary
  deriving DecidableEq, Repr

namespace Sign

/-- The sign of a character that stands for itself. -/
def char (c : Char) : Sign :=
  .literal { char := c }

/-- The character with a number of so many hexadecimal digits, those before given by their value.
Space may stand around each of them. -/
def ofHex? (spaced asByte : Bool) : Nat → Nat → List Char → Option (Sign × List Char)
  | 0, value, cs => do
    return (.literal { char := ← Text.scalar? value, asByte }, skipSpace spaced cs)
  | digits + 1, value, cs =>
    match skipSpace spaced cs with
    | [] => none
    | c :: cs => do ofHex? spaced asByte digits (16 * value + (← Text.hexValue? c)) cs

/-- Whether a character stands for itself after a backslash. -/
def isEscapable (c : Char) : Bool :=
  c.val < 0x80 && !c.isAlphanum

/-- The sign that a backslash starts. -/
def ofEscape? (spaced : Bool) : List Char → Option (Sign × List Char)
  | [] => none
  | c :: cs =>
    match c with
    | 'x' => ofHex? spaced true 2 0 cs
    | 'u' => ofHex? spaced false 4 0 cs
    | 'U' => ofHex? spaced false 8 0 cs
    | 'd' | 's' | 'w' => some (.kind false, cs)
    | 'D' | 'S' | 'W' => some (.kind true, cs)
    | 'A' | 'z' => some (.anchor, cs)
    | 'b' | 'B' | '<' | '>' => some (.wordBoundary, cs)
    | 'a' => some (char '\x07', cs)
    | 't' => some (char '\t', cs)
    | 'n' => some (char '\n', cs)
    | 'v' => some (char '\x0b', cs)
    | 'f' => some (char '\x0c', cs)
    | 'r' => some (char '\r', cs)
    | _ => if isEscapable c then some (char c, cs) else none

/-- The sign at the start of a text. -/
def read? (spaced : Bool) : List Char → Option (Sign × List Char)
  | [] => none
  | '\\' :: cs => ofEscape? spaced cs
  | c :: cs => some (char c, cs)

end Sign

end SealedTunnel.Pattern
