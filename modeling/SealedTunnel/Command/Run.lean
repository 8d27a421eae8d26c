import SealedTunnel.Command.LogFilter
import SealedTunnel.Command.Options
import SealedTunnel.Config.Decode
import SealedTunnel.Config.Written
import SealedTunnel.Network.Endpoint

/-!
# Running a program

A program makes a pre-shared key, writes an example configuration, or loads its configuration and
starts. Whatever it needs from its surroundings it asks of a host, so that it can be run on files in
memory as well as on those of the system. What it prints is part of its outcome.

## Main definitions

* `Host`: what a program asks of its surroundings
* `Outcome`: how a program ends, and what it has printed by then
* `Program.run`: the outcome of a program
-/

namespace SealedTunnel

/-- The version of the programs. -/
def programVersion : String := "0.1.0"

/-- What a program asks of its surroundings. -/
structure Host (m : Type → Type) where
  readFile : String → m (Except IoError String)
  writeFile : String → String → m (Except IoError Unit)
  /-- A new pre-shared key. -/
  newPsk : m (Except CryptoError String)
  /-- Whether one can listen at an endpoint. -/
  listen : Endpoint → m (Except IoError Unit)

/-- A program that is about to listen. -/
structure Listening where
  config : Config
  settings : Settings
  /-- The address to listen at. -/
  endpoint : Endpoint
  /-- The address of the far end, for the program of the near end. -/
  far : Option String

/-- A failure with its causes, the outermost first. -/
structure Report where
  what : String
  causes : List String := []
  deriving DecidableEq, Repr

/-- How a program ends. -/
inductive Ending where
  /-- It has done its work and prints a text. -/
  | printed (text : String)
  | failed (report : Report)
  | misused
  | listens (l : Listening)

/-- What comes of running a program: the filter of its log, as soon as it has one, and how it
ends. -/
structure Outcome where
  filter : LogFilter := {}
  ending : Ending

/-! ## Reports -/

/-- A text whose further lines are indented. -/
def indentLines (indent : String) (text : String) : String :=
  String.intercalate ("\n" ++ indent) (text.splitOn "\n")

/-- The text of a report: the causes are indented, and numbered if there are several. -/
def Report.text (r : Report) : String :=
  let causes := match r.causes with
    | [] => ""
    | [cause] => "\n\nCaused by:\n    " ++ indentLines "    " cause
    | causes =>
      "\n\nCaused by:" ++ String.join (causes.mapIdx fun i cause =>
        "\n    " ++ toString i ++ ": " ++ indentLines "       " cause)
  "Error: " ++ r.what ++ causes ++ "\n"

/-- The exit code of an ending. -/
def Ending.code : Ending → Nat
  | .printed _ | .listens _ => 0
  | .failed _ => 1
  | .misused => 2

/-- What an ending prints to standard output. -/
def Ending.output : Ending → String
  | .printed text => text
  | _ => ""

/-- What an ending prints to standard error. -/
def Ending.errors : Ending → String
  | .failed report => report.text
  | _ => ""

namespace Outcome

/-- The exit code of a program. -/
def code (o : Outcome) : Nat :=
  o.ending.code

/-- What a program prints to standard output. -/
def output (o : Outcome) : String :=
  o.ending.output

/-- What a program prints to standard error: the directives of its log filter that it ignores, and
how it has failed. -/
def errors (o : Outcome) : String :=
  o.filter.complaints ++ o.ending.errors

end Outcome

namespace Program

/-- The announcement of a new pre-shared key. -/
def announce (p : Program) (psk : String) : String :=
  match p with
  | .server => "psk = \"" ++ psk ++ "\"\n"
  | .client =>
    "╔══════════════════════════════════════════════════════════════╗\n" ++
    "║              Veil Tunnel Pre-Shared Key Generated            ║\n" ++
    "╠══════════════════════════════════════════════════════════════╣\n" ++
    "║ " ++ psk ++ "  ║\n" ++
    "╚══════════════════════════════════════════════════════════════╝\n" ++
    "\n" ++
    "Add the same key to both client and server config.toml:\n" ++
    "  psk = \"" ++ psk ++ "\"\n"

/-- What a program says about its use. -/
def usage (p : Program) : String :=
  "Usage: " ++ p.name ++ " [OPTIONS]\n"

/-- A report whose one cause is a failure. -/
def because (what : String) (failure : Failure) : Ending :=
  .failed ⟨what, [failure.message]⟩

/-- The address at which a program listens, and that of the far end. -/
def addresses (p : Program) (o : Options) (c : Config) : Option (String × Option String) :=
  match p with
  | .client =>
    c.client.map fun s =>
      ((o.value? .socks).getD s.socksListen, some ((o.value? .address).getD s.server))
  | .server => c.server.map fun s => ((o.value? .address).getD s.listen, none)

/-- The name of the section that a program needs. -/
def sectionName : Program → String
  | .client => "client"
  | .server => "server"

/-- The report about an address at which nothing can listen. -/
def bindReport (p : Program) (address : String) (e : IoError) : Report :=
  match p with
  | .client => ⟨"Failed to bind SOCKS5 listener", [(ProxyError.io e).message, e.message]⟩
  | .server =>
    ⟨"Failed to bind to address",
      [(TunnelError.dial ("bind " ++ address ++ ": " ++ (ConnectError.io e).message)).message]⟩

variable {m : Type → Type} [Monad m]

/-- Prints a new pre-shared key. -/
def printPsk (p : Program) (host : Host m) : m Ending := do
  match ← host.newPsk with
  | .error e => return .failed ⟨e.message, []⟩
  | .ok psk => return .printed (p.announce psk)

/-- Saves a configuration. One that cannot be written as a text leaves the file alone. -/
def save (host : Host m) (c : Config) (path : String) : m (Except ConfigFault Unit) := do
  match c.toText with
  | .error fault => return .error fault
  | .ok text =>
    match ← host.writeFile path text with
    | .error e => return .error (.unwritable e)
    | .ok () => return .ok ()

/-- Writes an example configuration with a new pre-shared key. -/
def writeExample (host : Host m) (path : String) : m Ending := do
  match ← host.newPsk with
  | .error e => return .failed ⟨e.message, []⟩
  | .ok psk =>
    match ← save host { Config.starter with psk } path with
    | .error fault => return because "Failed to write example config" fault.failure
    | .ok () => return .printed ("Example configuration written to " ++ path ++ "\n")

/-- How a program ends that is to listen at an address. -/
def listen (p : Program) (host : Host m) (c : Config) (settings : Settings) (address : String)
    (far : Option String) : m Ending := do
  match Endpoint.ofText address with
  | .error e => return .failed (p.bindReport address e)
  | .ok endpoint =>
    match ← host.listen endpoint with
    | .error e => return .failed (p.bindReport address e)
    | .ok () => return .listens ⟨c, settings, endpoint, far⟩

/-- How a program ends with a configuration. -/
def conclude (p : Program) (host : Host m) (o : Options) (c : Config) : m Ending := do
  -- The profile given as an option counts already when the configuration is checked.
  let c := { c with profile := (o.value? .profile).getD c.profile }
  match c.validate with
  | .error fault => return because "Invalid configuration" fault.failure
  | .ok () =>
    match p.addresses o c with
    | none => return .failed ⟨"No [" ++ p.sectionName ++ "] section in config file", []⟩
    | some (address, far) =>
      match c.settings c.resolvedTunables with
      | .error e => return because "Failed to set up tunnel encryption" (.crypto e)
      | .ok settings => p.listen host c settings address far

/-- The outcome of a program with a configuration. The log is set up before the configuration is
checked. -/
def start (p : Program) (host : Host m) (o : Options) (c : Config) : m Outcome := do
  let filter := LogFilter.ofText ((o.value? .logLevel).getD c.logging.level)
  return { filter, ending := ← p.conclude host o c }

/-- Loads a configuration. -/
def load (host : Host m) (path : String) : m (Except ConfigFault Config) := do
  match ← host.readFile path with
  | .error e => return .error (.unreadable e)
  | .ok text => return Config.parse text

/-- The file that holds the configuration where nothing else is said. -/
def defaultPath : String := "config.toml"

/-- The outcome of a program with options. -/
def runWith (p : Program) (host : Host m) (o : Options) : m Outcome := do
  if o.generatePsk then return { ending := ← p.printPsk host }
  else
    match o.value? .initConfig with
    | some path => return { ending := ← writeExample host path }
    | none =>
      match ← load host ((o.value? .config).getD defaultPath) with
      | .error fault =>
        return { ending := because "Failed to load configuration" fault.failure }
      | .ok c => p.start host o c

/-- The outcome of a program with arguments. -/
def run (p : Program) (host : Host m) (arguments : List String) : m Outcome :=
  match Options.ofArguments p arguments with
  | .misuse => pure { ending := .misused }
  | .version => pure { ending := .printed (p.name ++ " " ++ programVersion ++ "\n") }
  | .usage => pure { ending := .printed p.usage }
  | .run o => p.runWith host o

end Program

end SealedTunnel
