import SealedTunnel.Frame.Compression
import SealedTunnel.Text.Blank

/-!
# Tunables and profiles

A configuration gives some tunables and names a profile; the profile makes them complete. Unset
numbers, which are zero, get defaults, numbers below the profile's floors are raised to them, the
profile's own switches are set, and last a frame is kept as small as it has to be.

## Main definitions

* `Tunables`: the knobs
* `Profile`: the profiles, with `Profile.ofName?` and `Profile.resolve`
* `Tunables.resolve`: resolution by the name of a profile, with what is logged about it
-/

namespace SealedTunnel

/-- The knobs of a connection. A number that is zero is not set. -/
structure Tunables where
  frameSize : UInt64 := 0
  recvWindow : UInt64 := 0
  streamWindow : UInt64 := 0
  readBuffer : UInt64 := 0
  writeBuffer : UInt64 := 0
  keepaliveSecs : UInt64 := 0
  nodelay : Bool := true
  compression : Compression := .none
  fragment : Bool := false
  obfuscation : Bool := true
  jitter : Bool := true
  deriving DecidableEq, Repr, Inhabited

namespace Tunables

/-- The frame size where none is set. -/
def defaultFrameSize : UInt64 := 32768

/-- The largest frame size. -/
def maxFrameSize : UInt64 := 65535

/-- The windows where none are set. -/
def defaultWindow : UInt64 := 4194304

/-- The seconds between signs of life where nothing is set. -/
def defaultKeepaliveSecs : UInt64 := 15

end Tunables

/-- The least values that a profile allows. -/
structure Floors where
  frameSize : UInt64 := 0
  window : UInt64 := 0
  buffer : UInt64 := 0
  deriving DecidableEq, Repr

/-- The profiles. -/
inductive Profile where
  | balanced
  | aggressive
  | performance
  | stable
  | latency
  deriving DecidableEq, Repr, Inhabited

namespace Profile

/-- All profiles, in the order in which they are listed. -/
def all : List Profile := [.balanced, .aggressive, .performance, .stable, .latency]

/-- The name in configurations. -/
def name : Profile → String
  | .balanced => "balanced"
  | .aggressive => "aggressive"
  | .performance => "performance"
  | .stable => "stable"
  | .latency => "latency"

/-- A name without blanks around it and in lower case. -/
def canonicalName (text : String) : String :=
  String.ofList ((Text.trim text.toList).map Char.toLower)

/-- The profile that a text names. -/
def ofName? (text : String) : Option Profile :=
  all.find? fun p => p.name = canonicalName text

/-- What is said about a text that names none. -/
def unknown (text : String) : String :=
  "unknown profile: " ++ text

/-- The seconds between signs of life where nothing is set. -/
def keepaliveSecs : Profile → UInt64
  | .aggressive | .performance | .latency => 5
  | .balanced | .stable => Tunables.defaultKeepaliveSecs

/-- The least values. -/
def floors : Profile → Floors
  | .aggressive | .performance => ⟨32768, 8388608, 8388608⟩
  | .latency => { frameSize := 32768 }
  | .balanced | .stable => {}

/-- Sets the switches that the profile decides. -/
def override (p : Profile) (t : Tunables) : Tunables :=
  match p with
  | .balanced => t
  | .aggressive | .stable => { t with jitter := false }
  | .performance =>
    { t with obfuscation := false, fragment := false, compression := .none, jitter := false }
  | .latency => { t with nodelay := true, jitter := false }

/-- Gives the numbers that are not set their defaults. -/
def fill (p : Profile) (t : Tunables) : Tunables :=
  { t with
    frameSize := if t.frameSize = 0 then Tunables.defaultFrameSize else t.frameSize
    recvWindow := if t.recvWindow = 0 then Tunables.defaultWindow else t.recvWindow
    streamWindow := if t.streamWindow = 0 then Tunables.defaultWindow else t.streamWindow
    keepaliveSecs := if t.keepaliveSecs = 0 then p.keepaliveSecs else t.keepaliveSecs }

/-- Raises numbers to the floors. -/
def raise (p : Profile) (t : Tunables) : Tunables :=
  { t with
    frameSize := max t.frameSize p.floors.frameSize
    recvWindow := max t.recvWindow p.floors.window
    streamWindow := max t.streamWindow p.floors.window
    readBuffer := max t.readBuffer p.floors.buffer
    writeBuffer := max t.writeBuffer p.floors.buffer }

/-- The tunables made complete. -/
def resolve (p : Profile) (base : Tunables) : Tunables :=
  let t := p.override (p.raise (p.fill base))
  { t with frameSize := min t.frameSize Tunables.maxFrameSize }

end Profile

namespace Tunables

/-- What is logged about a name that is no profile's. -/
def resolveWarnings (name : String) : List String :=
  match Profile.ofName? name with
  | some _ => []
  | none => ["Unknown profile '" ++ name ++ "', using balanced"]

/-- The tunables made complete by the profile of a name; an unknown one counts as balanced. -/
def resolve (base : Tunables) (name : String) : Tunables :=
  ((Profile.ofName? name).getD .balanced).resolve base

end Tunables

end SealedTunnel
