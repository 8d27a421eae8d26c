import SealedTunnel.Bytes

/-!
# Counters

How many relays run and have run, how many bytes went each way, and how many connections could not
be made. Counters are 64-bit words and wrap around.

## Main definitions

* `Stats`: the counters
* `Stats.logLine`: the counters in one line of the log
* `Stats.logTimes`: when that line is logged
-/

namespace SealedTunnel

/-- The counters. -/
structure Stats where
  activeRelays : UInt64 := 0
  totalRelays : UInt64 := 0
  bytesSent : UInt64 := 0
  bytesReceived : UInt64 := 0
  failedDials : UInt64 := 0
  deriving DecidableEq, Repr, Inhabited

namespace Stats

/-- A relay has started. -/
def relayStarted (s : Stats) : Stats :=
  { s with activeRelays := s.activeRelays + 1, totalRelays := s.totalRelays + 1 }

/-- A relay has ended, however it did. -/
def relayEnded (s : Stats) : Stats :=
  { s with activeRelays := s.activeRelays - 1 }

/-- So many bytes went into a tunnel. -/
def addSent (s : Stats) (n : UInt64) : Stats :=
  { s with bytesSent := s.bytesSent + n }

/-- So many bytes came out of a tunnel. -/
def addReceived (s : Stats) (n : UInt64) : Stats :=
  { s with bytesReceived := s.bytesReceived + n }

/-- A connection could not be made. -/
def dialFailed (s : Stats) : Stats :=
  { s with failedDials := s.failedDials + 1 }

/-- The bytes of a megabyte. -/
def megabyte : UInt64 := 1048576

/-- The counters in one line, with whole megabytes. -/
def logLine (s : Stats) (uptimeSeconds : Nat) : String :=
  "Stats: uptime=" ++ toString uptimeSeconds ++
    "s relays=" ++ toString s.activeRelays.toNat ++ "/" ++ toString s.totalRelays.toNat ++
    " sent=" ++ toString (s.bytesSent / megabyte).toNat ++
    "MB recv=" ++ toString (s.bytesReceived / megabyte).toNat ++
    "MB failed_dials=" ++ toString s.failedDials.toNat

/-- The milliseconds between two lines of the log where the interval is zero. -/
def defaultPeriodMs : Nat := 60000

/-- The milliseconds between two lines of the log. -/
def logPeriodMs (intervalMs : Nat) : Nat :=
  if intervalMs = 0 then defaultPeriodMs else intervalMs

/-- The times, in milliseconds from the start, at which lines are logged up to a given time: once
per period, and never at the start itself. -/
def logTimes (intervalMs untilMs : Nat) : List Nat :=
  (List.range (untilMs / logPeriodMs intervalMs)).map fun i => (i + 1) * logPeriodMs intervalMs

end Stats

end SealedTunnel
