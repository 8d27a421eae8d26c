import SealedTunnel.Pattern.Brackets
import SealedTunnel.Text.Alphanumeric

/-!
# Reading patterns

A pattern is one or more branches with bars between them, a branch is a row of parts: signs, sets in
brackets, groups in parentheses, each perhaps with marks that repeat it. Parentheses may also change
flags, up to the end of the group that they stand in.

## Main definitions

* `Pattern.opened?`: what stands after an opening parenthesis
* `Pattern.read?`: the pattern that a text spells
-/

namespace SealedTunnel.Pattern

/-! ## Groups -/

/-- The letter of a flag. -/
def Flag.ofLetter? : Char → Option Flag
  | 'i' => some .ignoreCase
  | 'm' => some .multiLine
  | 's' => some .dotAll
  | 'U' => some .shortest
  | 'u' => some .unicode
  | 'R' => some .anyLineEnd
  | 'x' => some .spaced
  | _ => none

/-- What an opening parenthesis starts. -/
inductive Opened where
  /-- Nothing but changes of flags; the parenthesis is closed again. -/
  | changes (changes : FlagChanges)
  /-- A group with changes of flags. -/
  | group (changes : FlagChanges)
  /-- A group with a name. -/
  | named (name : List Char)

/-- Flags up to a colon, which starts a group, or a closing parenthesis. None may come twice. After
a hyphen, of which there is one at most and never at the end, flags are switched off; `hanging` says
that no flag has followed it. -/
def ofFlags? (on hanging : Bool) (changes : FlagChanges) : List Char → Option (Opened × List Char)
  | [] => none
  | c :: cs =>
    if c = ':' then
      if hanging then none else some (.group changes, cs)
    else if c = ')' then
      if hanging || changes.isEmpty then none else some (.changes changes, cs)
    else if c = '-' then
      if on then ofFlags? false true changes cs else none
    else
      match Flag.ofLetter? c with
      | none => none
      | some flag =>
        if (List.lookup flag changes).isSome then none
        else ofFlags? on false (changes ++ [(flag, on)]) cs

/-- Whether a character may start the name of a group. -/
def startsName (c : Char) : Bool :=
  c = '_' || Text.isAlphabetic c

/-- Whether a character may follow in the name of a group. -/
def continuesName (c : Char) : Bool :=
  c = '_' || c = '.' || c = '[' || c = ']' || Text.isAlphanumeric c

/-- The name of a group up to an angle bracket. -/
def ofName? (cs : List Char) : Option (Opened × List Char) :=
  match cs.takeWhile (· ≠ '>'), cs.dropWhile (· ≠ '>') with
  | first :: name, _ :: rest =>
    if startsName first && name.all continuesName then some (.named (first :: name), rest) else none
  | _, _ => none

/-- What stands after an opening parenthesis. -/
def opened? : List Char → Option (Opened × List Char)
  | '?' :: 'P' :: '<' :: cs | '?' :: '<' :: cs => ofName? cs
  | '?' :: cs => ofFlags? true false [] cs
  | cs => some (.group [], cs)

/-! ## Parts -/

/-- Where a reader stands. -/
structure Reader where
  rest : List Char
  /-- Whether blanks and notes do not count. -/
  spaced : Bool := false
  /-- The names of groups so far. -/
  names : List (List Char) := []

/-- The pattern of a sign. -/
def ofSign : Sign → Pattern
  | .literal l => .literal l
  | .kind negated => .kind negated
  | .anchor => .anchor
  | .wordBoundary => .wordBoundary

/-- A character or a sign that is a part by itself. A brace would start a count of repetitions,
which patterns do not have. -/
def ofCharacter? (spaced : Bool) : List Char → Option (Pattern × List Char)
  | [] | '\x7b' :: _ => none
  | '.' :: cs => some (.anyChar, cs)
  | '^' :: cs | '$' :: cs => some (.anchor, cs)
  | cs => (Sign.read? spaced cs).map fun (sign, rest) => (ofSign sign, rest)

/-- The parts of a branch with the last of them repeated. There must be one, and changes of flags
cannot be repeated. -/
def repeatLast? : List Pattern → Option (List Pattern)
  | [] | .flags _ :: _ => none
  | p :: parts => some (.repeated p :: parts)

/-- The text after a mark of repetition, which another one may make as short as it can be. -/
def afterRepeat : List Char → List Char
  | '?' :: cs => cs
  | cs => cs

mutual

/-- The branches up to the end of a group or of the text. A text of `n` characters takes no more
than `3 * n + 2` steps. -/
def readBranches? (steps : Nat) (r : Reader) : Option (List Pattern × Reader) :=
  match steps with
  | 0 => none
  | steps + 1 => do
    let (branch, r) ← readBranch? steps [] r
    match r.rest with
    | '|' :: rest =>
      let (others, r) ← readBranches? steps { r with rest }
      return (branch :: others, r)
    | _ => return ([branch], r)

/-- The rest of a branch, where the parts so far are known, the latest first. -/
def readBranch? (steps : Nat) (parts : List Pattern) (r : Reader) : Option (Pattern × Reader) :=
  match steps with
  | 0 => none
  | steps + 1 =>
    let next := skipSpace r.spaced r.rest
    match next with
    | [] | ')' :: _ | '|' :: _ => some (inOrder parts.reverse, { r with rest := next })
    | '?' :: rest | '*' :: rest | '+' :: rest => do
      readBranch? steps (← repeatLast? parts) { r with rest := afterRepeat rest }
    | '[' :: rest => do
      let (negated, first, rest) := CharSet.opened r.spaced rest
      let (set, rest) ← CharSet.read? r.spaced rest.length none first.reverse rest
      readBranch? steps (.oneOf negated set :: parts) { r with rest }
    | '(' :: rest => do
      let (opened, rest) ← opened? (skipSpace r.spaced rest)
      match opened with
      | .changes changes =>
        let spaced := changes.apply .spaced r.spaced
        readBranch? steps (.flags changes :: parts) { r with rest, spaced }
      | .group changes =>
        readGroup? steps changes parts r.spaced
          { r with rest, spaced := changes.apply .spaced r.spaced }
      | .named name =>
        if r.names.contains name then none
        else readGroup? steps [] parts r.spaced { r with rest, names := name :: r.names }
    | _ => do
      let (part, rest) ← ofCharacter? r.spaced next
      readBranch? steps (part :: parts) { r with rest }

/-- The rest of a group, and of the branch with the group in it. Space counts after the group as it
did before, which `spaced` says. -/
def readGroup? (steps : Nat) (changes : FlagChanges) (parts : List Pattern) (spaced : Bool)
    (r : Reader) : Option (Pattern × Reader) :=
  match steps with
  | 0 => none
  | steps + 1 => do
    let (branches, r) ← readBranches? steps r
    match r.rest with
    | ')' :: rest =>
      readBranch? steps (.group changes (either branches) :: parts) { r with rest, spaced }
    | _ => none

end

/-- The pattern that a text spells. -/
def read? (text : List Char) : Option Pattern := do
  let (branches, r) ← readBranches? (3 * text.length + 2) { rest := text }
  if r.rest.isEmpty then some (either branches) else none

end SealedTunnel.Pattern
