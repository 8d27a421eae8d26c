import SealedTunnel.Bytes

/-!
# What can go wrong

Every failure is a value that says what happened; its wording is one function per layer. The layers
are those of the library: random numbers and ciphers, the framed connection, connecting and
listening, the proxy that clients talk to, and the configuration.

## Main definitions

* `IoError`, `CryptoError`, `FramingFault`, `CompressionFault`, `TunnelError`, `ConnectError`,
  `ProxyError`, `Failure`, each with its `message`
-/

namespace SealedTunnel

/-- Why an operation on a byte stream or a file failed. -/
inductive IoError where
  /-- The stream ended before the bytes that were needed. -/
  | endOfStream
  /-- The other end is gone, or this end was shut down. -/
  | brokenPipe
  /-- The stream took none of the bytes it was given. -/
  | nothingTaken
  /-- An address without a port. -/
  | noPort
  /-- An address whose port is no number below 2^16. -/
  | badPort
  /-- Anything that the system or a peer reports in words of its own. -/
  | other (why : String)
  deriving DecidableEq, Repr, Inhabited

/-- The wording of a stream or file failure. -/
def IoError.message : IoError → String
  | .endOfStream => "early eof"
  | .brokenPipe => "broken pipe"
  | .nothingTaken => "failed to write whole buffer"
  | .noPort => "invalid socket address"
  | .badPort => "invalid port value"
  | .other why => why

/-- Why a key, a random draw or a sealed message is refused. -/
inductive CryptoError where
  | keyDerivation (why : String)
  | encryption (why : String)
  | keyLength
  | notAuthentic
  /-- The random source gives no more bytes. -/
  | noEntropy
  deriving DecidableEq, Repr, Inhabited

/-- The wording of a cryptographic failure. -/
def CryptoError.message : CryptoError → String
  | .keyDerivation why => "Key derivation failed: " ++ why
  | .encryption why => "Encryption failed: " ++ why
  | .keyLength => "Invalid key length"
  | .notAuthentic => "Authentication failed"
  | .noEntropy => "System RNG unavailable"

/-- How a byte sequence breaks the format of frames, padding or the stream-open header. -/
inductive FramingFault where
  | emptyFrame
  | hugeFrame (length limit : Nat)
  | frameOverLimit (length limit : Nat)
  | endInsideHeader (got : Nat)
  | endInsideFrame (length : Nat)
  | paddedTooShort (length : Nat)
  | paddedOverrun (declared available : Nat)
  | tooLongToPad (length limit : Nat)
  | endInsideRead (got wanted : Nat)
  | targetLength (length : Nat)
  | targetNotText
  | targetScheme (text : String)
  | other (why : String)
  deriving DecidableEq, Repr, Inhabited

/-- The wording of a framing fault. -/
def FramingFault.message : FramingFault → String
  | .emptyFrame => "zero-length frame"
  | .hugeFrame length limit => s!"frame too large: {length} > {limit}"
  | .frameOverLimit length limit => s!"frame of {length} bytes exceeds limit {limit}"
  | .endInsideHeader got => s!"connection closed inside frame header ({got} of 4 bytes)"
  | .endInsideFrame length => s!"connection closed inside {length}-byte frame"
  | .paddedTooShort length => s!"padded payload too short: {length} bytes"
  | .paddedOverrun declared available =>
    s!"declared length {declared} exceeds padded payload of {available} bytes"
  | .tooLongToPad length limit =>
    s!"payload of {length} bytes exceeds padding prefix limit {limit}"
  | .endInsideRead got wanted => s!"stream ended after {got} of {wanted} bytes"
  | .targetLength length => s!"target length {length} out of range"
  | .targetNotText => "target is not valid UTF-8"
  | .targetScheme text => s!"unsupported target '{text}'"
  | .other why => why

/-- How a chunk or a compressed body is outside what compression handles. -/
inductive CompressionFault where
  | chunkTooLong (length limit : Nat)
  | emptyBody
  | unknownMarker (marker : UInt8)
  | expandsTooFar (length limit : Nat)
  /-- The compressed block itself is malformed. -/
  | badBlock
  | other (why : String)
  deriving DecidableEq, Repr, Inhabited

/-- A byte in two hexadecimal digits, after `0x`. -/
def hexByte (b : UInt8) : String :=
  String.ofList ['0', 'x', Nat.digitChar (b.toNat / 16), Nat.digitChar (b.toNat % 16)]

/-- The wording of a compression fault. -/
def CompressionFault.message : CompressionFault → String
  | .chunkTooLong length limit => s!"chunk of {length} bytes exceeds limit {limit}"
  | .emptyBody => "empty compressed body"
  | .unknownMarker marker => "unknown compression marker " ++ hexByte marker
  | .expandsTooFar length limit => s!"block expands to {length} bytes, limit is {limit}"
  | .badBlock => "snappy: corrupt input"
  | .other why => why

/-- Why an operation on a tunnel connection failed. -/
inductive TunnelError where
  | framing (fault : FramingFault)
  | authentication
  | compression (fault : CompressionFault)
  | dial (why : String)
  | timeout (what : String)
  | closed
  | io (error : IoError)
  | crypto (error : CryptoError)
  deriving DecidableEq, Repr, Inhabited

/-- The wording of a tunnel failure. -/
def TunnelError.message : TunnelError → String
  | .framing fault => "Framing error: " ++ fault.message
  | .authentication => "Authentication failed: frame tag mismatch"
  | .compression fault => "Compression error: " ++ fault.message
  | .dial why => "Dial failed: " ++ why
  | .timeout what => "Timed out: " ++ what
  | .closed => "Stream closed"
  | .io error => "IO error: " ++ error.message
  | .crypto error => "Crypto error: " ++ error.message

/-- Why connecting or listening failed. -/
inductive ConnectError where
  | io (error : IoError)
  | failed (target : String) (error : IoError)
  | timeout (target : String)
  deriving DecidableEq, Repr, Inhabited

/-- The wording of a failure to connect or listen. -/
def ConnectError.message : ConnectError → String
  | .io error => "IO error: " ++ error.message
  | .failed target error => s!"Connection to {target} failed: " ++ error.message
  | .timeout target => s!"Connection to {target} timed out"

/-- Why a proxy session ended badly. -/
inductive ProxyError where
  | io (error : IoError)
  | version (byte : UInt8)
  | command (byte : UInt8)
  | addressType (byte : UInt8)
  | handshakeTimeout
  | dial (target : String) (error : TunnelError)
  | tunnel (error : TunnelError)
  | address (why : String)
  | state (why : String)
  deriving DecidableEq, Repr, Inhabited

/-- The wording of a proxy failure. -/
def ProxyError.message : ProxyError → String
  | .io error => "IO error: " ++ error.message
  | .version byte => "Invalid SOCKS version: " ++ toString byte.toNat
  | .command byte => "Unsupported command: " ++ toString byte.toNat
  | .addressType byte => "Address type not supported: " ++ toString byte.toNat
  | .handshakeTimeout => "Handshake timed out"
  | .dial target error => s!"Failed to open stream to {target}: " ++ error.message
  | .tunnel error => "Tunnel error: " ++ error.message
  | .address why => "Invalid address: " ++ why
  | .state why => "Protocol state error: " ++ why

/-- A failure of any layer. -/
inductive Failure where
  | io (error : IoError)
  | crypto (error : CryptoError)
  | connect (error : ConnectError)
  | tunnel (error : TunnelError)
  | proxy (error : ProxyError)
  | config (why : String)
  deriving DecidableEq, Repr, Inhabited

/-- The wording of a failure of any layer. -/
def Failure.message : Failure → String
  | .io error => "IO error: " ++ error.message
  | .crypto error => "Crypto error: " ++ error.message
  | .connect error => "Transport error: " ++ error.message
  | .tunnel error => "Tunnel error: " ++ error.message
  | .proxy error => "Proxy error: " ++ error.message
  | .config why => "Configuration error: " ++ why

end SealedTunnel
