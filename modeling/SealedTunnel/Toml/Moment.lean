/-!
# Dates and times in TOML

A date, a time of day, or both with an optional offset. They are checked and kept as text.

## Main definitions

* `Moment.skip?`: the text after a date or time at its start
-/

namespace SealedTunnel.Toml.Moment

/-- A number of exactly `n` decimal digits, and the text after it. -/
def fixed? (n : Nat) (cs : List Char) : Option (Nat × List Char) :=
  let ds := cs.take n
  if ds.length = n && ds.all Char.isDigit then some (Nat.ofDigitChars 10 ds 0, cs.drop n) else none

/-- The text after a character that must stand there. -/
def expect? (c : Char) : List Char → Option (List Char)
  | d :: r => if d = c then some r else none
  | [] => none

/-- The number of days of a month. -/
def daysIn (year month : Nat) : Nat :=
  if month = 2 then
    if (year % 4 = 0 ∧ year % 100 ≠ 0) ∨ year % 400 = 0 then 29 else 28
  else if month = 4 ∨ month = 6 ∨ month = 9 ∨ month = 11 then 30
  else 31

/-- The text after a date. -/
def date? (cs : List Char) : Option (List Char) := do
  let (year, r) ← fixed? 4 cs
  let (month, r) ← fixed? 2 (← expect? '-' r)
  let (day, r) ← fixed? 2 (← expect? '-' r)
  if 1 ≤ month ∧ month ≤ 12 ∧ 1 ≤ day ∧ day ≤ daysIn year month then some r else none

/-- The text after a fraction of a second, if there is one. -/
def skipFraction : List Char → List Char
  | '.' :: c :: r => if c.isDigit then r.dropWhile Char.isDigit else '.' :: c :: r
  | cs => cs

/-- The text after a time of day. The second sixty is a leap second. -/
def time? (cs : List Char) : Option (List Char) := do
  let (hour, r) ← fixed? 2 cs
  let (minute, r) ← fixed? 2 (← expect? ':' r)
  let (second, r) ← fixed? 2 (← expect? ':' r)
  if hour ≤ 23 ∧ minute ≤ 59 ∧ second ≤ 60 then some (skipFraction r) else none

/-- The text after an offset, where there is one. -/
def offset? : List Char → Option (List Char)
  | c :: r =>
    if c = 'Z' || c = 'z' then some r
    else if c = '+' || c = '-' then do
      let (hour, r) ← fixed? 2 r
      let (minute, r) ← fixed? 2 (← expect? ':' r)
      if hour ≤ 23 ∧ minute ≤ 59 then some r else none
    else none
  | [] => none

/-- The text after a date, or a date and a time with an optional offset. -/
def dateTime? (cs : List Char) : Option (List Char) := do
  let r ← date? cs
  match r with
  | c :: t =>
    if c = 'T' || c = 't' || c = ' ' then
      match time? t with
      | some r => some ((offset? r).getD r)
      | none => some r
    else some r
  | [] => some []

/-- The text after a date or time. -/
def skip? (cs : List Char) : Option (List Char) :=
  (dateTime? cs).or (time? cs)

end SealedTunnel.Toml.Moment
