import SealedTunnel.Config.Basic
import SealedTunnel.Toml.Document

/-!
# Reading configurations

A configuration is read from a TOML document. Every key may be missing, keys that mean nothing are
passed over, and a section may also be given as an array of its values in order. Any value of
another type than its key asks for makes the whole document malformed.

## Main definitions

* `Config.ofEntries?`: the configuration in a table
* `Config.parse`: the configuration in a text
-/

namespace SealedTunnel

namespace Config

open Toml

/-! ## Values -/

/-- A value that may be missing. -/
def read? {α : Type} (ofValue? : Value → Option α) (missing : α) : Option Value → Option α
  | none => some missing
  | some v => ofValue? v

/-- A text. -/
def text? : Value → Option String
  | .string s => some s
  | _ => none

/-- A switch. -/
def switch? : Value → Option Bool
  | .boolean b => some b
  | _ => none

/-- A number of 64 bits that is not negative. -/
def number? : Value → Option UInt64
  | .integer n => if 0 ≤ n ∧ n.toNat < UInt64.size then some (UInt64.ofNat n.toNat) else none
  | _ => none

/-- Whether a value says nothing: an array or a table without contents. -/
def isVoid : Value → Bool
  | .array items => items.isEmpty
  | .table _ entries => entries.isEmpty
  | .tables items => items.isEmpty
  | _ => false

/-- One of several names: a text, or a table whose only key is the name and says nothing more. -/
def choice? {α : Type} (ofName? : String → Option α) : Value → Option α
  | .string s => ofName? s
  | .table _ [(key, v)] => if isVoid v then ofName? key else none
  | _ => none

/-! ## Sections -/

/-- The values of a section, by the key or by the position that a value has. -/
abbrev Fields := String → Nat → Option Value

/-- The values of a section. A date counts as a section whose keys mean nothing. -/
def fields? : Value → Option Fields
  | .table _ entries => some fun key _ => Entries.value? entries key
  | .array items => some fun _ i => items[i]?
  | .tables items => some fun _ i => items[i]?.map (.table .header)
  | .moment _ => some fun _ _ => none
  | _ => none

/-- The tunables. -/
def tunables? (v : Value) : Option Tunables := do
  let f ← fields? v
  return {
    frameSize := ← read? number? 0 (f "frame_size" 0)
    recvWindow := ← read? number? 0 (f "max_recv_window" 1)
    streamWindow := ← read? number? 0 (f "max_stream_window" 2)
    readBuffer := ← read? number? 0 (f "tcp_read_buffer" 3)
    writeBuffer := ← read? number? 0 (f "tcp_write_buffer" 4)
    keepaliveSecs := ← read? number? 0 (f "tcp_keepalive_secs" 5)
    nodelay := ← read? switch? true (f "tcp_nodelay" 6)
    compression := ← read? (choice? Compression.ofName?) .none (f "compression" 7)
    fragment := ← read? switch? false (f "fragment_enabled" 8)
    obfuscation := ← read? switch? true (f "obfuscation_enabled" 9)
    jitter := ← read? switch? true (f "jitter_enabled" 10) }

/-- The disguise. -/
def obfuscation? (v : Value) : Option Obfuscation := do
  let f ← fields? v
  let missing : Obfuscation := {}
  return {
    enabled := ← read? switch? missing.enabled (f "enabled" 0)
    minPadding := ← read? number? missing.minPadding (f "min_padding" 1)
    maxPadding := ← read? number? missing.maxPadding (f "max_padding" 2)
    minDelayMs := ← read? number? missing.minDelayMs (f "min_delay_ms" 3)
    maxDelayMs := ← read? number? missing.maxDelayMs (f "max_delay_ms" 4) }

/-- The section of the near end. -/
def client? (v : Value) : Option ClientSection := do
  let f ← fields? v
  let missing : ClientSection := {}
  return {
    server := ← read? text? missing.server (f "server" 0)
    socksListen := ← read? text? missing.socksListen (f "socks5_listen" 1)
    connectTimeout := ← read? number? missing.connectTimeout (f "connect_timeout" 2)
    handshakeTimeout := ← read? number? missing.handshakeTimeout (f "handshake_timeout" 3) }

/-- The section of the far end. -/
def server? (v : Value) : Option ServerSection := do
  let f ← fields? v
  let missing : ServerSection := {}
  return {
    listen := ← read? text? missing.listen (f "listen" 0)
    maxConnections := ← read? number? missing.maxConnections (f "max_connections" 1)
    connectTimeout := ← read? number? missing.connectTimeout (f "connect_timeout" 2) }

/-- The section about logging. -/
def logging? (v : Value) : Option LoggingSection := do
  let f ← fields? v
  let missing : LoggingSection := {}
  return {
    level := ← read? text? missing.level (f "level" 0)
    format := ← read? text? missing.format (f "format" 1)
    statsInterval := ← read? number? missing.statsInterval (f "stats_interval" 2) }

/-! ## Documents -/

/-- The configuration in a table. -/
def ofEntries? (entries : Entries) : Option Config := do
  let missing : Config := {}
  return {
    profile := ← read? text? missing.profile (entries.value? "profile")
    psk := ← read? text? missing.psk (entries.value? "psk")
    cipher := ← read? (choice? Algorithm.ofName?) missing.cipher (entries.value? "cipher")
    tunables := ← read? tunables? {} (entries.value? "tunables")
    obfuscation := ← read? obfuscation? {} (entries.value? "obfuscation")
    client := ← read? (fun v => some <$> client? v) none (entries.value? "client")
    server := ← read? (fun v => some <$> server? v) none (entries.value? "server")
    logging := ← read? logging? {} (entries.value? "logging") }

/-- The configuration in a text. -/
def parse (text : String) : Except ConfigFault Config :=
  match (Toml.parse? text).bind ofEntries? with
  | some c => .ok c
  | none => .error .malformed

end Config

end SealedTunnel
