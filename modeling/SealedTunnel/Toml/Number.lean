/-!
# TOML numbers

Integers are of 64 bits, in decimal with an optional sign or, without one, in hexadecimal, octal or
binary; numbers with a fraction or an exponent are checked and kept as text. Underscores may stand
between digits.

## Main definitions

* `Number.integer?`, `Number.float?`: the number at the start of a text, and the rest of the text
-/

namespace SealedTunnel.Toml.Number

/-- Digits and the text after them. After the first digit, each may follow an underscore. -/
def moreDigits (digit : Char → Bool) : List Char → List Char × List Char
  | [] => ([], [])
  | c :: r =>
    if digit c then ((moreDigits digit r).map (c :: ·) id)
    else if c = '_' && r.head?.any digit then moreDigits digit r
    else ([], c :: r)

/-- At least one digit, and the text after the digits. -/
def digits? (digit : Char → Bool) : List Char → Option (List Char × List Char)
  | [] => none
  | c :: r => if digit c then some (moreDigits digit (c :: r)) else none

/-- Whether a number starts with a minus, and the text after its sign. -/
def sign : List Char → Bool × List Char
  | '-' :: r => (true, r)
  | '+' :: r => (false, r)
  | cs => (false, cs)

/-- The digits of a decimal integer, which has no leading zeros, and the text after them. -/
def wholeDigits? (cs : List Char) : Option (List Char × List Char) :=
  match cs with
  | '0' :: r => some (['0'], r)
  | _ => digits? Char.isDigit cs

/-- Whether an integer has 64 bits. -/
def inRange (n : Int) : Bool :=
  -9223372036854775808 ≤ n && n ≤ 9223372036854775807

/-- A digit of a base up to sixteen. -/
def isDigitOf (base : Nat) (c : Char) : Bool :=
  c.isDigit && c.toNat < '0'.toNat + base ||
    (base = 16 && (('a' ≤ c && c ≤ 'f') || ('A' ≤ c && c ≤ 'F')))

/-- The value of digits of a base up to sixteen. -/
def valueOf (base : Nat) (ds : List Char) : Nat :=
  ds.foldl
    (fun n c =>
      n * base +
        (if c.isDigit then c.toNat - '0'.toNat else c.toLower.toNat - 'a'.toNat + 10)) 0

/-- The integer, if it has 64 bits. -/
def ranged? (n : Int) (rest : List Char) : Option (Int × List Char) :=
  if inRange n then some (n, rest) else none

/-- The digits of a base as an integer. -/
def based? (base : Nat) (cs : List Char) : Option (Int × List Char) :=
  match digits? (isDigitOf base) cs with
  | some (ds, rest) => ranged? (valueOf base ds) rest
  | none => none

/-- The integer at the start of a text, and the rest. -/
def integer? (cs : List Char) : Option (Int × List Char) :=
  match cs with
  | '0' :: 'x' :: r => based? 16 r
  | '0' :: 'o' :: r => based? 8 r
  | '0' :: 'b' :: r => based? 2 r
  | _ =>
    let (negative, r) := sign cs
    match wholeDigits? r with
    | some (ds, rest) =>
      let n : Int := valueOf 10 ds
      ranged? (if negative then -n else n) rest
    | none => none

/-- The digits after the point, if there are any, and the text after them. -/
def fraction? : List Char → Option (List Char × List Char)
  | '.' :: r => digits? Char.isDigit r
  | _ => none

/-- An exponent, and the text after it. -/
def exponent? : List Char → Option (Int × List Char)
  | c :: r =>
    if c = 'e' || c = 'E' then
      let (negative, r) := sign r
      match digits? Char.isDigit r with
      | some (ds, rest) =>
        let n : Int := valueOf 10 ds
        some (if negative then -n else n, rest)
      | none => none
    else none
  | [] => none

/-- Whether `digits` times ten to the `power` is nearer to infinity than to the largest number of 53
binary digits with an exponent of eleven bits. Powers far beyond the range are not computed. -/
def overflows (digits : List Char) (power : Int) : Bool :=
  let significant := digits.dropWhile (· = '0')
  let magnitude : Int := significant.length + power
  let limit := 1 <<< 1024 - 1 <<< 970
  if significant.isEmpty || magnitude < 300 then false
  else if magnitude > 320 then true
  else if power ≥ 0 then valueOf 10 significant * Nat.pow 10 power.toNat ≥ limit
  else valueOf 10 significant ≥ limit * Nat.pow 10 (-power).toNat

/-- Whether a text starts with the name of infinity or of what is no number; the rest of it. -/
def special? : List Char → Option (List Char)
  | 'i' :: 'n' :: 'f' :: r => some r
  | 'n' :: 'a' :: 'n' :: r => some r
  | _ => none

/-- The text after a number with a fraction or an exponent. A positive number beyond the range is
refused. -/
def float? (cs : List Char) : Option (List Char) :=
  let (negative, r) := sign cs
  match special? r with
  | some rest => some rest
  | none =>
    match wholeDigits? r with
    | none => none
    | some (whole, r) =>
      match fraction? r with
      | some (fraction, r) =>
        let (power, rest) := (exponent? r).getD (0, r)
        if !negative && overflows (whole ++ fraction) (power - fraction.length) then none
        else some rest
      | none =>
        match exponent? r with
        | some (power, rest) => if !negative && overflows whole power then none else some rest
        | none => none

end SealedTunnel.Toml.Number
