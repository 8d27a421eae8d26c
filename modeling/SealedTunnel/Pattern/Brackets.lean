import SealedTunnel.Pattern.Sign

/-!
# Sets of characters in brackets

Square brackets hold characters, ranges, named sets and further brackets; two sets may be joined by
an operation. A circumflex in front denies the set, and hyphens in front, or a closing bracket,
stand for themselves.

## Main definitions

* `CharSet.opened`: what stands in front
* `CharSet.read?`: the set up to the closing bracket
-/

namespace SealedTunnel.Pattern.CharSet

/-- The names of the named sets. -/
def names : List String :=
  ["alnum", "alpha", "ascii", "blank", "cntrl", "digit", "graph", "lower", "print", "punct",
   "space", "upper", "word", "xdigit"]

/-- A named set after its opening bracket: a colon, perhaps a circumflex, the name, and a colon with
the closing bracket. -/
def named? : List Char → Option (CharSet × List Char)
  | ':' :: cs =>
    let (negated, cs) := match cs with
      | '^' :: cs => (true, cs)
      | cs => (false, cs)
    match cs.dropWhile (· ≠ ':') with
    | ':' :: ']' :: rest =>
      if names.contains (String.ofList (cs.takeWhile (· ≠ ':'))) then some (.named negated, rest)
      else none
    | _ => none
  | _ => none

/-- The hyphens in front of a set, and what follows them and the space around them. -/
def hyphens (spaced : Bool) (cs : List Char) : List CharSet × List Char :=
  match h : skipSpace spaced cs with
  | '-' :: rest =>
    have : rest.length < cs.length := by
      have := length_skipSpace_le spaced cs
      rw [h, List.length_cons] at this
      omega
    let (parts, rest) := hyphens spaced rest
    (.literal { char := '-' } :: parts, rest)
  | rest => ([], rest)
termination_by cs.length

/-- What stands in front of a set, after its opening bracket: whether it is denied, and the
characters that stand for themselves there. -/
def opened (spaced : Bool) (cs : List Char) : Bool × List CharSet × List Char :=
  let (negated, cs) := match skipSpace spaced cs with
    | '^' :: cs => (true, cs)
    | cs => (false, cs)
  match hyphens spaced cs with
  | ([], ']' :: rest) => (negated, [.literal { char := ']' }], rest)
  | (parts, rest) => (negated, parts, rest)

/-- A sign as a part of a set. -/
def ofSign? : Sign → Option CharSet
  | .literal l => some (.literal l)
  | .kind negated => some (.kind negated)
  | _ => none

/-- The range between two signs. -/
def range? : Sign → Sign → Option CharSet
  | .literal first, .literal last =>
    if first.char ≤ last.char then some (.range first last) else none
  | _, _ => none

/-- A sign, or a range of which it is the first; a hyphen in front of the closing bracket or of
another hyphen makes none. -/
def part? (spaced : Bool) (cs : List Char) : Option (CharSet × List Char) := do
  let (first, rest) ← Sign.read? spaced cs
  let rest := skipSpace spaced rest
  let alone := do return (← ofSign? first, rest)
  match rest with
  | '-' :: after =>
    match afterHyphen? spaced after with
    | some ']' | some '-' => alone
    | _ =>
      let (last, rest) ← Sign.read? spaced (skipSpace spaced after)
      return (← range? first last, rest)
  | _ => alone

/-- The set of parts, which an operation may join to a set on the left. -/
def joined (left : Option CharSet) (parts : List CharSet) : CharSet :=
  match left with
  | none => ofParts parts
  | some left => .operation left (ofParts parts)

/-- The rest of a set up to its closing bracket, where an operation may wait with what is on its
left, and the parts since then are known, the latest first. Every step takes a character at least,
so `steps` may be the length of the text. -/
def read? (spaced : Bool) (steps : Nat) (left : Option CharSet) (parts : List CharSet)
    (cs : List Char) : Option (CharSet × List Char) :=
  match steps with
  | 0 => none
  | steps + 1 =>
    let set := joined left parts.reverse
    match skipSpace spaced cs with
    | ']' :: cs => some (set, cs)
    | '&' :: '&' :: cs | '-' :: '-' :: cs | '~' :: '~' :: cs => read? spaced steps (some set) [] cs
    | '[' :: cs =>
      match named? cs with
      | some (part, cs) => read? spaced steps left (part :: parts) cs
      | none => do
        let (negated, first, cs) := opened spaced cs
        let (inner, cs) ← read? spaced steps none first.reverse cs
        read? spaced steps left (.bracketed negated inner :: parts) cs
    | cs => do
      let (part, cs) ← part? spaced cs
      read? spaced steps left (part :: parts) cs

end SealedTunnel.Pattern.CharSet
