import SealedTunnel.Command.Files
import SealedTunnel.Command.Run

/-!
# A host in memory

A program runs on a tree of files and a supply of random bytes; afterwards one can see the files,
what was written to the standard streams through them, and which pre-shared keys were made.

## Main definitions

* `Memory`: the files, the random bytes and the keys made from them
* `Memory.host`: the host
-/

namespace SealedTunnel

/-- What a host in memory consists of. -/
structure Memory where
  tree : FileTree
  entropy : Entropy
  /-- Whether one can listen at an endpoint. -/
  listening : Endpoint → Except IoError Unit := fun _ => .ok ()
  /-- The pre-shared keys that were made, the latest first. -/
  keys : List String := []

/-- The host. -/
def Memory.host : Host (StateM Memory) where
  readFile path m := (m.tree.read path, m)
  writeFile path text m :=
    match m.tree.write path text with
    | .ok tree => (.ok (), { m with tree })
    | .error e => (.error e, m)
  newPsk m :=
    match Psk.generate.run m.entropy with
    | .ok (psk, entropy) => (.ok psk, { m with entropy, keys := psk :: m.keys })
    | .error e => (.error e, m)
  listen endpoint m := (m.listening endpoint, m)

end SealedTunnel
