import SealedTunnel.Command.Run

/-!
# The command line

`client` or `server` as the first argument says which program runs; the others are its options. A
program that would listen says so and ends.
-/

namespace SealedTunnel

/-- A failure of the system in the library's words. -/
def IoError.ofSystem : IO.Error → IoError
  | .noFileOrDirectory .. => .other "No such file or directory (os error 2)"
  | .inappropriateType .. => .other "Is a directory (os error 21)"
  | .permissionDenied .. => .other "Permission denied (os error 13)"
  | e => .other (toString e)

/-- The outcome of an action, its failure as a value. -/
def attempt {α : Type} (action : IO α) : IO (Except IoError α) := do
  match ← action.toBaseIO with
  | .ok a => return .ok a
  | .error e => return .error (.ofSystem e)

/-- The system as the host of a program. -/
def systemHost : Host IO where
  readFile path := attempt (IO.FS.readFile path)
  writeFile path text := attempt (IO.FS.writeFile path text)
  newPsk := do
    let bytes ← IO.getRandomBytes 32
    return (Psk.generate.run (Entropy.ofBytes bytes.toList)).map Prod.fst
  listen _ := return .ok ()

/-- Runs a program and prints what it says. -/
def runProgram (p : Program) (arguments : List String) : IO UInt32 := do
  let outcome ← p.run systemHost arguments
  IO.print outcome.output
  IO.eprint outcome.errors
  match outcome.ending with
  | .listens l =>
    IO.println s!"{p.name} is ready to listen at {l.endpoint.host}:{l.endpoint.port.toNat}"
  | .misused => IO.eprint p.usage
  | _ => pure ()
  return UInt32.ofNat outcome.code

end SealedTunnel

open SealedTunnel in
/-- Runs the program that the first argument names. -/
def main (arguments : List String) : IO UInt32 :=
  match arguments with
  | "client" :: rest => runProgram .client rest
  | "server" :: rest => runProgram .server rest
  | _ => do
    IO.eprintln "The first argument has to be client or server."
    return 2
