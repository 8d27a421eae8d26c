/-!
# Options of the programs

There is a program for each side of the tunnel. Both take options in a long form and most of them in
a short one; a value may stand apart or be attached. No option may be given twice, and nothing but
options may be given.

## Main definitions

* `Program`: the programs, and the options that each knows
* `Options.ofArguments`: what a list of arguments asks for
-/

namespace SealedTunnel

/-- The two programs. -/
inductive Program where
  | client
  | server
  deriving DecidableEq, Repr

/-- The name of a program. -/
def Program.name : Program → String
  | .client => "veil-client"
  | .server => "veil-server"

/-- The options that take a value. -/
inductive Setting where
  | config
  | initConfig
  /-- The address of the far end, or the one to listen at. -/
  | address
  /-- The address at which the proxy listens. -/
  | socks
  | profile
  | logLevel
  deriving DecidableEq, Repr

/-- What an option is about. -/
inductive OptionKind where
  | setting (s : Setting)
  | generatePsk
  | version
  | usage
  deriving DecidableEq, Repr

/-- Whether an option takes a value. -/
def OptionKind.takesValue : OptionKind → Bool
  | .setting _ => true
  | _ => false

/-- An option: its long form, and its short one. -/
structure OptionForm where
  long : String
  short : Option Char
  kind : OptionKind
  deriving DecidableEq, Repr

/-- The options that a program knows. -/
def Program.options (p : Program) : List OptionForm :=
  [⟨"config", some 'c', .setting .config⟩,
   ⟨"generate-psk", none, .generatePsk⟩,
   ⟨"init-config", none, .setting .initConfig⟩,
   ⟨"profile", some 'p', .setting .profile⟩,
   ⟨"log-level", some 'v', .setting .logLevel⟩,
   ⟨"version", some 'V', .version⟩,
   ⟨"help", some 'h', .usage⟩] ++
  match p with
  | .client =>
    [⟨"server", some 's', .setting .address⟩, ⟨"socks5", none, .setting .socks⟩]
  | .server => [⟨"listen", some 'l', .setting .address⟩]

/-- The options that were given. -/
structure Options where
  settings : List (Setting × String) := []
  generatePsk : Bool := false
  deriving DecidableEq, Repr

/-- What arguments ask for. -/
inductive Request where
  | run (options : Options)
  | version
  | usage
  /-- The arguments are not understood. -/
  | misuse
  deriving DecidableEq, Repr

namespace Options

/-- The value of an option. -/
def value? (o : Options) (s : Setting) : Option String :=
  (o.settings.find? fun e => e.1 = s).map Prod.snd

/-- The options with one more value, unless it was given before. -/
def add? (o : Options) (s : Setting) (v : String) : Option Options :=
  if (o.value? s).isSome then none else some { o with settings := o.settings ++ [(s, v)] }

/-- An argument taken apart: an option, and a value attached to it. -/
structure Argument where
  kind : OptionKind
  attached : Option String
  deriving DecidableEq, Repr

/-- A long form, with the value after an equals sign; only an option that takes a value may have
one. -/
def ofLong? (p : Program) (cs : List Char) : Option Argument := do
  let name := String.ofList (cs.takeWhile (· ≠ '='))
  let form ← p.options.find? fun f => f.long = name
  match cs.dropWhile (· ≠ '=') with
  | [] => return ⟨form.kind, none⟩
  | _ :: v => if form.kind.takesValue then return ⟨form.kind, some (String.ofList v)⟩ else none

/-- A short form, with the value directly after it or after an equals sign. -/
def ofShort? (p : Program) (c : Char) (cs : List Char) : Option Argument := do
  let form ← p.options.find? fun f => f.short = some c
  match cs with
  | [] => return ⟨form.kind, none⟩
  | '=' :: v => return ⟨form.kind, some (String.ofList v)⟩
  | v => return ⟨form.kind, some (String.ofList v)⟩

/-- The option that an argument gives. -/
def ofArgument? (p : Program) (argument : String) : Option Argument :=
  match argument.toList with
  | '-' :: '-' :: cs => ofLong? p cs
  | '-' :: c :: cs => ofShort? p c cs
  | _ => none

/-- Whether an argument can be the value of an option. -/
def canBeValue (argument : String) : Bool :=
  argument = "-" || !argument.startsWith "-"

/-- What arguments ask for after some options, the last of which may still lack its value. The
version or the usage is given as soon as it is asked for. -/
def ofArgumentsFrom (p : Program) (lacking : Option Setting) (o : Options) :
    List String → Request
  | [] => if lacking.isSome then .misuse else .run o
  | argument :: rest =>
    match lacking with
    | some s =>
      if !canBeValue argument then .misuse
      else
        match o.add? s argument with
        | some o => ofArgumentsFrom p none o rest
        | none => .misuse
    | none =>
      -- Nothing but options may be given, so nothing may follow the mark that ends them.
      if argument = "--" then (if rest.isEmpty then .run o else .misuse)
      else
        match ofArgument? p argument with
        | none => .misuse
        | some ⟨.version, _⟩ => .version
        | some ⟨.usage, _⟩ => .usage
        | some ⟨.generatePsk, _⟩ =>
          if o.generatePsk then .misuse
          else ofArgumentsFrom p none { o with generatePsk := true } rest
        | some ⟨.setting s, none⟩ => ofArgumentsFrom p (some s) o rest
        | some ⟨.setting s, some v⟩ =>
          match o.add? s v with
          | some o => ofArgumentsFrom p none o rest
          | none => .misuse

/-- What arguments ask for. -/
def ofArguments (p : Program) (arguments : List String) : Request :=
  ofArgumentsFrom p none {} arguments

end Options

end SealedTunnel
