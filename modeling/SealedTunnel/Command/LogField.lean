import SealedTunnel.Pattern.Automaton

/-!
# Fields in log filters

A directive of a log filter may ask for a field of a span: by its name alone, or also by its value,
which is a truth value, a number, or a pattern that describes it.

## Main definitions

* `FieldValue`: what the value of a field must be
* `LogField`: a field by its name and perhaps its value, with `LogField.ofText`
-/

namespace SealedTunnel

/-- What the value of a field must be. -/
inductive FieldValue where
  | boolean (value : Bool)
  /-- A number, as its text. -/
  | number (text : String)
  | pattern (p : Pattern)

namespace FieldValue

/-- A text without the sign that it may start with. -/
def unsigned : List Char → List Char
  | '+' :: cs | '-' :: cs => cs
  | cs => cs

/-- Whether a text is an exponent, or nothing. -/
def isExponent : List Char → Bool
  | [] => true
  | 'e' :: cs | 'E' :: cs => !(unsigned cs).isEmpty && (unsigned cs).all Char.isDigit
  | _ => false

/-- Whether a text spells a decimal number without a sign: digits, on at least one side of a point
where there is one, and perhaps an exponent. -/
def isDecimal (cs : List Char) : Bool :=
  let whole := cs.takeWhile Char.isDigit
  match cs.dropWhile Char.isDigit with
  | '.' :: rest =>
    !(whole.isEmpty && (rest.takeWhile Char.isDigit).isEmpty) &&
      isExponent (rest.dropWhile Char.isDigit)
  | rest => !whole.isEmpty && isExponent rest

/-- Whether a text spells a number, which may also be infinite or none. -/
def isNumber (cs : List Char) : Bool :=
  let cs := unsigned cs
  isDecimal cs || ["inf", "infinity", "nan"].contains (String.ofList (cs.map Char.toLower))

/-- The value that a text spells. What is neither a truth value nor a number is a pattern. -/
def ofText (cs : List Char) : Except PatternFault FieldValue :=
  let text := String.ofList cs
  if text = "true" then .ok (.boolean true)
  else if text = "false" then .ok (.boolean false)
  else if isNumber cs then .ok (.number text)
  else (Pattern.ofText cs).map .pattern

end FieldValue

/-- A field that a span must have. -/
structure LogField where
  name : String
  /-- What its value must be, if that matters. -/
  value : Option FieldValue := none

/-- The field that a text spells: its name, and after an equals sign its value, up to another equals
sign. -/
def LogField.ofText (cs : List Char) : Except PatternFault LogField :=
  let name := String.ofList (cs.takeWhile (· ≠ '='))
  match cs.dropWhile (· ≠ '=') with
  | [] => .ok { name }
  | _ :: rest =>
    (FieldValue.ofText (rest.takeWhile (· ≠ '='))).map fun value => { name, value := some value }

end SealedTunnel
