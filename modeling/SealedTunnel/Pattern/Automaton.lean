import SealedTunnel.Pattern.Reader

/-!
# Patterns as automata

The log's filters run the patterns of fields as automata over bytes. Not every pattern can be made
one: there are no tables that say which characters are digits, blanks or letters or which are two
cases of one letter, an automaton must find whole characters only, and it does not know where words
of other characters than those of ASCII end.

## Main definitions

* `Pattern.check?`: which patterns can be made automata over bytes, word boundaries apart
* `Pattern.ofText`: the pattern of a text, if an automaton can be built for it
-/

namespace SealedTunnel

/-- Why no automaton is built for a text. -/
inductive PatternFault where
  /-- It is no pattern, or one that cannot be expressed. -/
  | notExpressible
  /-- The automaton would have to know where words end. -/
  | wordBoundary
  deriving DecidableEq, Repr

/-- The fault in words. -/
def PatternFault.message : PatternFault → String
  | .notExpressible => "error building NFA"
  | .wordBoundary =>
    "unsupported regex feature for DFAs: cannot build DFAs for regexes with Unicode word " ++
      "boundaries; switch to ASCII word boundaries, or heuristically enable Unicode word " ++
      "boundaries or use a different regex engine"

namespace Pattern

/-- The flags that decide what can be expressed. -/
structure Mode where
  unicode : Bool := true
  ignoreCase : Bool := false
  deriving DecidableEq, Repr

namespace Mode

/-- The mode after changes of flags. -/
def after (m : Mode) (changes : FlagChanges) : Mode :=
  { unicode := changes.apply .unicode m.unicode
    ignoreCase := changes.apply .ignoreCase m.ignoreCase }

/-- Whether a character can be expressed: its cases must not matter, and a byte must be a
character. -/
def allows (m : Mode) (l : Literal) : Bool :=
  if m.unicode then !m.ignoreCase else l.isAscii || !l.asByte

/-- Whether a character can be in a set: its cases must not matter, and a set of bytes holds
characters of ASCII only. -/
def allowsInSet (m : Mode) (l : Literal) : Bool :=
  if m.unicode then !m.ignoreCase else l.isAscii

/-- Whether all digits, blanks or letters can be expressed, or what is none of them: those of ASCII
can, but no bytes besides. -/
def allowsKind (m : Mode) (negated : Bool) : Bool :=
  !m.unicode && !negated

/-- Whether a set can be denied: of bytes, some would be left that are no characters. -/
def allowsSet (m : Mode) (negated : Bool) : Bool :=
  m.unicode || !negated

end Mode

mutual

/-- Whether a set can be expressed. -/
def CharSet.fits (m : Mode) : CharSet → Bool
  | .literal l => m.allowsInSet l
  | .range first last => m.allowsInSet first && m.allowsInSet last
  | .named negated => m.allowsSet negated && !(m.unicode && m.ignoreCase)
  | .kind negated => m.allowsKind negated
  | .bracketed negated set => m.allowsSet negated && set.fits m
  | .union parts => CharSet.allFit m parts
  | .operation left right => left.fits m && right.fits m

/-- Whether all of some sets can be expressed. -/
def CharSet.allFit (m : Mode) : List CharSet → Bool
  | [] => true
  | part :: parts => part.fits m && CharSet.allFit m parts

end

/-- What is known of a pattern up to some part. -/
structure Outlook where
  mode : Mode := {}
  /-- Whether there is a word boundary for words of any characters. -/
  wordBoundary : Bool := false
  deriving DecidableEq, Repr

mutual

/-- Goes through a pattern that can be expressed. Flags that are changed in a group stay changed
from branch to branch, but not after the group. -/
def check? : Pattern → Outlook → Option Outlook
  | .flags changes, o => some { o with mode := o.mode.after changes }
  | .literal l, o => if o.mode.allows l then some o else none
  | .anyChar, o => if o.mode.unicode then some o else none
  | .kind negated, o => if o.mode.allowsKind negated then some o else none
  | .anchor, o => some o
  | .wordBoundary, o => some { o with wordBoundary := o.wordBoundary || o.mode.unicode }
  | .oneOf negated set, o => if o.mode.allowsSet negated && set.fits o.mode then some o else none
  | .repeated p, o => p.check? o
  | .group changes p, o => do
    return { ← p.check? { o with mode := o.mode.after changes } with mode := o.mode }
  | .sequence parts, o => checkAll? parts o
  | .alternatives branches, o => checkAll? branches o

/-- Goes through patterns one after another. -/
def checkAll? : List Pattern → Outlook → Option Outlook
  | [], o => some o
  | p :: ps, o => do checkAll? ps (← p.check? o)

end

/-- Patterns whose parts are nested more deeply are refused. -/
def depthLimit : Nat := 250

/-- The pattern of a text, if an automaton can be built for it. -/
def ofText (text : List Char) : Except PatternFault Pattern :=
  match read? text with
  | none => .error .notExpressible
  | some p =>
    if p.depth > depthLimit then .error .notExpressible
    else
      match p.check? {} with
      | none => .error .notExpressible
      | some o => if o.wordBoundary then .error .wordBoundary else .ok p

end Pattern

end SealedTunnel
