import SealedTunnel.Address
import SealedTunnel.Stream.Talk

/-!
# SOCKS5 sessions

The server's side of a SOCKS5 conversation, with the one command CONNECT and no authentication: a
greeting, a request, and a reply. A session remembers how far it has come; each of its three
calls is a conversation with the client that ends with the session changed, also where it fails.

## Main definitions

* `Session`: how far a session has come, and what was asked for
* `Session.negotiate`, `Session.readRequest`, `Session.reply`: its calls
-/

namespace SealedTunnel.Socks

/-- The version that is spoken. -/
def version : UInt8 := 5

/-- The method "no authentication". -/
def noAuthentication : UInt8 := 0

/-- The commands that the protocol knows. -/
inductive Command where
  | connect
  | bind
  | udpAssociate
  deriving DecidableEq, Repr

/-- The name of a command. -/
def Command.name : Command → String
  | .connect => "Connect"
  | .bind => "Bind"
  | .udpAssociate => "UdpAssociate"

/-- The byte of a command. -/
def Command.byte : Command → UInt8
  | .connect => 1
  | .bind => 2
  | .udpAssociate => 3

/-- The command of a byte. -/
def Command.ofByte (b : UInt8) : Except ProxyError Command :=
  if b = 1 then .ok .connect
  else if b = 2 then .ok .bind
  else if b = 3 then .ok .udpAssociate
  else .error (.command b)

/-- The answers to a request. -/
inductive Reply where
  | succeeded
  | hostUnreachable
  | commandNotSupported
  deriving DecidableEq, Repr

/-- The byte of an answer. -/
def Reply.code : Reply → UInt8
  | .succeeded => 0
  | .hostUnreachable => 4
  | .commandNotSupported => 7

/-- The ten bytes of an answer; the address in it is always 0.0.0.0:0. -/
def Reply.bytes (r : Reply) : Bytes :=
  [version, r.code, 0, 1, 0, 0, 0, 0, 0, 0]

/-- How far a session has come. -/
inductive Phase where
  | awaitHandshake
  | awaitRequest
  | relaying
  deriving DecidableEq, Repr

/-- The name of a phase. -/
def Phase.name : Phase → String
  | .awaitHandshake => "AwaitHandshake"
  | .awaitRequest => "AwaitRequest"
  | .relaying => "Relaying"

/-- A session with one client. -/
structure Session where
  phase : Phase := .awaitHandshake
  negotiated : Bool := false
  target : Option Address := none
  command : Option Command := none
  deriving DecidableEq, Repr

namespace Session

/-- A call on a session: it ends with a value, or with an error, and with the session after it. -/
abbrev Call (α : Type) := Talk IoError (ProxyError × Session) (α × Session)

/-- A stream failure as the failure of a call. -/
def ioStop (s : Session) : Interruption IoError → ProxyError × Session
  | .ended _ => (.io .endOfStream, s)
  | .broken e => (.io e, s)

/-- A stream that takes no bytes, or breaks, as the failure of a call. -/
def writeStop (s : Session) : Interruption IoError → ProxyError × Session
  | .ended _ => (.io .nothingTaken, s)
  | .broken e => (.io e, s)

/-- Reads exactly `n` bytes. -/
def read (s : Session) (n : Nat) (next : Bytes → Call α) : Call α :=
  .need n s.ioStop next

/-- Refuses a call that belongs to another phase. -/
def expect (s : Session) (phase : Phase) (next : Call α) : Call α :=
  if s.phase = phase then next
  else .fail (.state s!"session in {s.phase.name}, expected {phase.name}", s)

/-- Reads the greeting and selects "no authentication", whatever methods the client offers. A
greeting of another version gets no answer. -/
def negotiate (s : Session) : Call Unit :=
  s.expect .awaitHandshake <|
    s.read 2 fun greeting =>
      let spoken := greeting.getD 0 0
      if spoken ≠ version then .fail (.version spoken, s)
      else
        s.read (greeting.getD 1 0).toNat fun _ =>
          .send [version, noAuthentication] s.writeStop
            (.done ((), { s with negotiated := true, phase := .awaitRequest }))

/-- Reads a port and ends with the address that it completes. -/
def readPort (s : Session) (address : UInt16 → Address) : Call Address :=
  s.read 2 fun port =>
    let target := address (UInt16.ofNat (Bytes.ofBigEndian port))
    .done (target, { s with target := some target })

/-- Reads the address of a request. -/
def readAddress (s : Session) (addressType : UInt8) : Call Address :=
  if addressType = 1 then s.read 4 fun octets => s.readPort (.ofIpv4 octets)
  else if addressType = 3 then
    s.read 1 fun length =>
      s.read (length.getD 0 0).toNat fun name =>
        match Bytes.toString? name with
        | some name => s.readPort (.domain name)
        | none => .fail (.address "domain is not UTF-8", s)
  else if addressType = 4 then s.read 16 fun octets => s.readPort (.ofIpv6 octets)
  else .fail (.addressType addressType, s)

/-- Reads the request and gives its target. A command other than CONNECT is answered at once; an
unknown type of address gets no answer. -/
def readRequest (s : Session) : Call Address :=
  s.expect .awaitRequest <|
    s.read 4 fun request =>
      let spoken := request.getD 0 0
      let asked := request.getD 1 0
      if spoken ≠ version then .fail (.version spoken, s)
      else if asked ≠ Command.connect.byte then
        .send Reply.commandNotSupported.bytes s.writeStop
          (.fail (.command asked, { s with command := (Command.ofByte asked).toOption }))
      else ({ s with command := some .connect } : Session).readAddress (request.getD 3 0)

/-- Sends the answer; after success the session relays. -/
def reply (s : Session) (r : Reply) : Call Unit :=
  .send r.bytes s.writeStop
    (.done ((), if r = .succeeded then { s with phase := .relaying } else s))

/-- The greeting and the request of a fresh session. -/
def handshake : Call Address :=
  Talk.bind (negotiate {}) fun (_, s) => s.readRequest

end Session

end SealedTunnel.Socks
