import SealedTunnel.Cipher
import SealedTunnel.Config.Profile
import SealedTunnel.Conn.Settings

/-!
# Configurations

What a configuration file says: the profile, the pre-shared key and the cipher, tunables, the
disguise, one section for each side of the tunnel, and logging. From it follow the settings of the
connections.

## Main definitions

* `Config`: configurations
* `Config.validate`: what is checked before a configuration is used, and what is logged about it
* `Config.resolvedTunables`, `Config.settings`: what connections are made with
-/

namespace SealedTunnel

/-- The section of the far end. -/
structure ServerSection where
  listen : String := "0.0.0.0:8443"
  maxConnections : UInt64 := 1000
  /-- The seconds in which a connection to a target has to stand. -/
  connectTimeout : UInt64 := 10
  deriving DecidableEq, Repr, Inhabited

/-- The section of the near end. -/
structure ClientSection where
  server : String := "127.0.0.1:8443"
  socksListen : String := "127.0.0.1:1080"
  /-- The seconds in which a connection to the far end has to stand. -/
  connectTimeout : UInt64 := 10
  /-- The seconds in which a client has to have made its request. -/
  handshakeTimeout : UInt64 := 5
  deriving DecidableEq, Repr, Inhabited

/-- The section about logging. -/
structure LoggingSection where
  level : String := "info"
  format : String := "pretty"
  /-- The seconds between two lines of counters; none are logged for zero. -/
  statsInterval : UInt64 := 60
  deriving DecidableEq, Repr, Inhabited

/-- A configuration. -/
structure Config where
  profile : String := Profile.balanced.name
  psk : String := ""
  cipher : Algorithm := .aes256Gcm
  tunables : Tunables := {}
  obfuscation : Obfuscation := {}
  client : Option ClientSection := none
  server : Option ServerSection := none
  logging : LoggingSection := {}
  deriving DecidableEq, Repr, Inhabited

/-- What is wrong with a configuration, or with the file that holds it. -/
inductive ConfigFault where
  | unreadable (why : IoError)
  | malformed
  | numberTooLarge
  | unwritable (why : IoError)
  | obfuscation (fault : ObfuscationFault)
  | noConnections
  deriving DecidableEq, Repr

/-- The wording of a fault. -/
def ConfigFault.message : ConfigFault → String
  | .unreadable why => "Failed to read config: " ++ why.message
  | .malformed => "Failed to parse config"
  | .numberTooLarge => "Failed to serialize config"
  | .unwritable why => "Failed to write config: " ++ why.message
  | .obfuscation fault => "[obfuscation] " ++ fault.message
  | .noConnections => "[server] max_connections must be at least 1"

/-- The fault as a failure. -/
def ConfigFault.failure (fault : ConfigFault) : Failure :=
  .config fault.message

namespace Config

/-- A configuration to start from, with both sections. -/
def starter : Config :=
  { psk := "change-me", client := some {}, server := some {} }

/-- The tunables made complete by the profile. -/
def resolvedTunables (c : Config) : Tunables :=
  c.tunables.resolve c.profile

/-! ## Checking -/

/-- Why a configuration is refused, if it is. -/
def fault? (c : Config) : Option ConfigFault :=
  match c.obfuscation.check with
  | .error fault => some (.obfuscation fault)
  | .ok () =>
    if c.server.any fun s => s.maxConnections = 0 then some .noConnections else none

/-- Checks what no profile mends. -/
def validate (c : Config) : Except ConfigFault Unit :=
  match c.fault? with
  | some fault => .error fault
  | none => .ok ()

/-- What is logged about a profile that is not known. -/
def profileWarnings (c : Config) : List String :=
  match Profile.ofName? c.profile with
  | some _ => []
  | none => ["Unknown profile '" ++ c.profile ++ "', balanced will be used"]

/-- What is logged about a switch that does nothing. -/
def fragmentWarnings (c : Config) : List String :=
  if c.resolvedTunables.fragment then
    ["fragment_enabled has no effect on the TCP transport and is ignored"]
  else []

/-- What is logged while a configuration is checked: nothing if its ranges are wrong, since these
are checked first. -/
def validateWarnings (c : Config) : List String :=
  match c.obfuscation.check with
  | .error _ => []
  | .ok () =>
    c.profileWarnings ++ Tunables.resolveWarnings c.profile ++ c.fragmentWarnings

/-! ## Settings of connections -/

/-- The disguise under the switches of tunables. -/
def effectiveObfuscation (c : Config) (t : Tunables) : Obfuscation :=
  let o := if t.obfuscation then c.obfuscation else { c.obfuscation with enabled := false }
  if t.jitter then o else o.withDelay 0 0

/-- The cipher; none without a pre-shared key. -/
def cipher? (c : Config) : Except CryptoError (Option Cipher) :=
  if c.psk.isEmpty then .ok none else some <$> Cipher.ofPsk c.cipher c.psk

/-- What is logged while settings are made. -/
def settingsWarnings (c : Config) : List String :=
  if c.psk.isEmpty then
    ["No pre-shared key configured, tunnel traffic will NOT be encrypted"]
  else []

/-- The settings of connections under tunables. -/
def settings (c : Config) (t : Tunables) : Except CryptoError Settings := do
  return {
    cipher := ← c.cipher?
    obfuscation := c.effectiveObfuscation t
    compression := t.compression
    frameSize := t.frameSize }

/-- The seconds in which a connection has to stand where nothing else is said. -/
def defaultConnectTimeout : UInt64 := 10

/-- The seconds in which a connection to the far end has to stand. -/
def connectTimeout (c : Config) : UInt64 :=
  (c.client.map (·.connectTimeout)).getD defaultConnectTimeout

end Config

end SealedTunnel
