import SealedTunnel.Config.Basic
import SealedTunnel.Toml.Quoted

/-!
# Writing configurations

The text of a configuration: the keys of the top, then the sections in a fixed order, each after an
empty line. Every key is written, so that nothing depends on defaults. Numbers of more than 63 bits
cannot be written.

## Main definitions

* `Config.lines`: the keys and headers of a configuration
* `Config.toText`: its text
-/

namespace SealedTunnel

namespace Config

/-- What is written after a key. -/
inductive Field where
  | text (s : String)
  | switch (b : Bool)
  | number (n : UInt64)
  deriving DecidableEq, Repr

/-- The largest number that can be written. -/
def maxNumber : Nat := 1 <<< 63 - 1

/-- Whether a value can be written. -/
def Field.fits : Field → Bool
  | .number n => n.toNat ≤ maxNumber
  | _ => true

/-- A value as it is written. -/
def Field.written : Field → String
  | .text s => String.ofList (Toml.Quoted.write s.toList)
  | .switch b => if b then "true" else "false"
  | .number n => toString n.toNat

/-- Keys with their values, under the header of a section or at the top. -/
structure Part where
  header : Option String
  fields : List (String × Field)
  deriving DecidableEq, Repr

/-- The keys at the top. -/
def topPart (c : Config) : Part :=
  ⟨none, [("profile", .text c.profile), ("psk", .text c.psk), ("cipher", .text c.cipher.name)]⟩

/-- The tunables. -/
def tunablesPart (t : Tunables) : Part :=
  ⟨some "tunables",
    [("frame_size", .number t.frameSize), ("max_recv_window", .number t.recvWindow),
     ("max_stream_window", .number t.streamWindow), ("tcp_read_buffer", .number t.readBuffer),
     ("tcp_write_buffer", .number t.writeBuffer),
     ("tcp_keepalive_secs", .number t.keepaliveSecs), ("tcp_nodelay", .switch t.nodelay),
     ("compression", .text t.compression.name), ("fragment_enabled", .switch t.fragment),
     ("obfuscation_enabled", .switch t.obfuscation), ("jitter_enabled", .switch t.jitter)]⟩

/-- The disguise. -/
def obfuscationPart (o : Obfuscation) : Part :=
  ⟨some "obfuscation",
    [("enabled", .switch o.enabled), ("min_padding", .number o.minPadding),
     ("max_padding", .number o.maxPadding), ("min_delay_ms", .number o.minDelayMs),
     ("max_delay_ms", .number o.maxDelayMs)]⟩

/-- The section of the near end. -/
def clientPart (s : ClientSection) : Part :=
  ⟨some "client",
    [("server", .text s.server), ("socks5_listen", .text s.socksListen),
     ("connect_timeout", .number s.connectTimeout),
     ("handshake_timeout", .number s.handshakeTimeout)]⟩

/-- The section of the far end. -/
def serverPart (s : ServerSection) : Part :=
  ⟨some "server",
    [("listen", .text s.listen), ("max_connections", .number s.maxConnections),
     ("connect_timeout", .number s.connectTimeout)]⟩

/-- The section about logging. -/
def loggingPart (s : LoggingSection) : Part :=
  ⟨some "logging",
    [("level", .text s.level), ("format", .text s.format),
     ("stats_interval", .number s.statsInterval)]⟩

/-- All parts, in the order in which they are written. -/
def parts (c : Config) : List Part :=
  [c.topPart, tunablesPart c.tunables, obfuscationPart c.obfuscation] ++
    (c.client.map clientPart).toList ++ (c.server.map serverPart).toList ++
    [loggingPart c.logging]

/-- The lines of a part. -/
def Part.lines (p : Part) : List String :=
  (match p.header with
    | none => []
    | some header => ["", "[" ++ header ++ "]"]) ++
    p.fields.map fun (key, field) => key ++ " = " ++ field.written

/-- The text of a configuration, if its numbers can be written. -/
def toText (c : Config) : Except ConfigFault String :=
  if c.parts.all fun p => p.fields.all fun f => f.2.fits then
    .ok (String.join (c.parts.flatMap fun p => p.lines.map (· ++ "\n")))
  else .error .numberTooLarge

end Config

end SealedTunnel
