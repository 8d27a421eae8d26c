import SealedTunnel.Command.LogField
import SealedTunnel.Text.Alphanumeric
import SealedTunnel.Text.Blank
import SealedTunnel.Text.Extent

/-!
# Log filters

Which lines of the log are shown is said by a list of directives with commas between them. A
directive is a level, or the part of the program that it is about, or both: `warn`, `relay`,
`relay=debug`, `relay[frame{size=4}]=trace`. A directive that is not understood is ignored, and
that is said.

## Main definitions

* `LogLevel`: the levels
* `LogDirective`: one directive, with `LogDirective.ofText`
* `LogFilter`: the directives of a text, and those that are ignored
-/

namespace SealedTunnel

/-- How much of the log is shown. -/
inductive LogLevel where
  | off
  | error
  | warn
  | info
  | debug
  | trace
  deriving DecidableEq, Repr

namespace LogLevel

/-- The level of a name, in letters of either case. -/
def ofName? (name : String) : Option LogLevel :=
  match name.map Char.toLower with
  | "off" => some .off
  | "error" => some .error
  | "warn" => some .warn
  | "info" => some .info
  | "debug" => some .debug
  | "trace" => some .trace
  | _ => none

/-- The number that digits spell, a plus sign in front of them or not. -/
def number? (text : List Char) : Option Nat :=
  let digits := match text with
    | '+' :: digits => digits
    | digits => digits
  if digits.isEmpty || !digits.all Char.isDigit then none
  else some (digits.foldl (fun n c => 10 * n + (c.toNat - '0'.toNat)) 0)

/-- The level of a number. -/
def ofNumber? : Nat → Option LogLevel
  | 0 => some .off
  | 1 => some .error
  | 2 => some .warn
  | 3 => some .info
  | 4 => some .debug
  | 5 => some .trace
  | _ => none

/-- The level that a text names or numbers. -/
def ofText? (text : List Char) : Option LogLevel :=
  match number? text with
  | some n => ofNumber? n
  | none => ofName? (String.ofList text)

end LogLevel

/-- Why a directive is not understood. -/
inductive LogDirectiveFault where
  | malformed
  /-- What stands in the place of the level is none. -/
  | noLevel
  /-- The value of a field is no pattern that could be used. -/
  | badField (fault : PatternFault)
  deriving DecidableEq, Repr

/-- What is wrong with a directive in words. -/
def LogDirectiveFault.message : LogDirectiveFault → String
  | .malformed => "invalid filter directive"
  | .noLevel =>
    "error parsing level filter: expected one of \"off\", \"error\", \"warn\", \"info\", " ++
      "\"debug\", \"trace\", or a number 0-5"
  | .badField fault => "invalid field filter: " ++ fault.message

/-- A directive: what it is about, and how much of that is shown. -/
structure LogDirective where
  target : Option String := none
  span : Option String := none
  /-- The fields that a span must have. -/
  fields : List LogField := []
  level : LogLevel := .trace

namespace LogDirective

/-- Whether a directive may start with the character, an opening bracket apart. -/
def isFirst (c : Char) : Bool :=
  c = '-' || c = ':' || c = '_' || Text.isAlphanumeric c

/-- A name as long as there is one. -/
def name? (cs : List Char) : Option String :=
  if cs.isEmpty then none else some (String.ofList cs)

/-- A directive as it stands between commas. Places in it are counted without the blanks around it,
but what stands at a place is taken from the text with them. -/
structure Source where
  text : List Char

namespace Source

/-- The text without the blanks around it. -/
def trimmed (s : Source) : List Char :=
  Text.trim s.text

/-- Whether there are no blanks around the directive. -/
def isBare (s : Source) : Bool :=
  s.trimmed == s.text

/-- What stands in the text at the place that the first `n` characters of the end `cs` of the
trimmed text have there. -/
def taken (s : Source) (cs : List Char) (n : Nat) : List Char :=
  let start := Text.size s.trimmed - Text.size cs
  Text.between start (start + Text.size (cs.take n)) s.text

end Source

/-- The directive with the level that follows an equals sign; without one, all is shown. No level
is understood where the directive has blanks around it. -/
def withLevel (s : Source) (d : LogDirective) (cs : List Char) :
    Except LogDirectiveFault LogDirective :=
  if s.isBare && cs.isEmpty then .ok d
  else
    match if s.isBare then LogLevel.ofText? cs else none with
    | some level => .ok { d with level }
    | none => .error .noLevel

/-- What may follow the closing bracket of a span. -/
def afterSpan (s : Source) (d : LogDirective) : List Char →
    Except LogDirectiveFault LogDirective
  | [] => .ok d
  | '=' :: level => d.withLevel s level
  | _ => .error .malformed

/-- A span after its opening bracket: a name, a field in braces, or both. The field is looked at
before what follows its closing brace. -/
def withSpan (s : Source) (d : LogDirective) (cs : List Char) :
    Except LogDirectiveFault LogDirective :=
  let inName (c : Char) := c ≠ ']' && c ≠ '\x7b'
  let name := cs.takeWhile inName
  match cs.dropWhile inName with
  | [] => .error .malformed
  | ']' :: rest => { d with span := some (String.ofList name) }.afterSpan s rest
  | _ :: inside => do
    let length := (inside.takeWhile (· ≠ '\x7d')).length
    let after := inside.drop length
    if length = 0 || after.isEmpty then .error .malformed
    let field ← (LogField.ofText (s.taken inside length)).mapError .badField
    match after.drop 1 with
    | ']' :: rest => afterSpan s { d with span := name? name, fields := [field] } rest
    | _ => .error .malformed

/-- The directive that a text spells. A text that names no level is the name of a target. -/
def ofText (text : String) : Except LogDirectiveFault LogDirective :=
  let s : Source := ⟨text.toList⟩
  let inTarget (c : Char) := c ≠ '=' && c ≠ '['
  match s.trimmed with
  | [] => .error .malformed
  | '[' :: rest => ({} : LogDirective).withSpan s rest
  | c :: _ =>
    if !isFirst c then .error .malformed
    else
      let target := s.trimmed.takeWhile inTarget
      match s.trimmed.dropWhile inTarget with
      | [] =>
        match LogLevel.ofText? s.text with
        | some level => .ok { level }
        | none => .ok { target := some (String.ofList target) }
      | '=' :: rest => { target := some (String.ofList target) : LogDirective }.withLevel s rest
      | _ :: rest => { target := some (String.ofList target) : LogDirective }.withSpan s rest

end LogDirective

/-- The directives of a text, and those that are not understood. -/
structure LogFilter where
  directives : List LogDirective := []
  ignored : List (String × LogDirectiveFault) := []

namespace LogFilter

/-- The filter that a text spells; nothing between two commas is no directive. -/
def ofText (text : String) : LogFilter :=
  let parts := (text.splitOn ",").filter (· ≠ "")
  { directives := parts.filterMap fun part => (LogDirective.ofText part).toOption
    ignored := parts.filterMap fun part =>
      match LogDirective.ofText part with
      | .ok _ => none
      | .error fault => some (part, fault) }

/-- What is said about the directives that are ignored, a line for each. -/
def complaints (f : LogFilter) : String :=
  String.join (f.ignored.map fun (part, fault) =>
    "ignoring `" ++ part ++ "`: " ++ fault.message ++ "\n")

end LogFilter

end SealedTunnel
