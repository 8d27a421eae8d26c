import SealedTunnel.Opening
import SealedTunnel.Proofs.Relay.Within

/-!
# What happens while someone is served

Both ends of the tunnel serve someone in stages: they ask for a stream to a target, which is refused
or opened, and a stream that is opened is relayed to. These incidents are written down as they
happen, next to the state of the program, which does not know of it.

## Main definitions

* `Incident`: what happens, and `Incident.targets`: what streams were asked for
* `Opener.recorded`, `Relay.Ends.announced`: an opener and the ends of a relay that write it down
* `Opener.Within`: an opener within a larger state

## Main results

* `Relay.step_announced`: a relay that has begun leaves the incidents as they are
-/

namespace SealedTunnel

variable {ε δ σ σ' τ : Type}

/-- What happens while someone is served. -/
inductive Incident (ε σ : Type) where
  | asked (target : String)
  | refused (why : ε)
  | opened (stream : Nat)
  /-- A relay to a stream begins in the given state. -/
  | relays (stream : Nat) (start : σ)

/-- The targets that were asked for. -/
def Incident.targets (log : List (Incident ε σ)) : List String :=
  log.filterMap fun
    | .asked target => some target
    | _ => none

/-- What an answer of an opener is written down as. -/
def Opening.incidents : Opening ε δ → List (Incident ε σ)
  | .pending _ => []
  | .opened stream => [.opened stream]
  | .refused why => [.refused why]

/-- The same opener; what is asked for and what is answered is written down. -/
def Opener.recorded (o : Opener ε δ σ) : Opener ε δ (σ × List (Incident ε σ)) where
  start target s := let (progress, s') := o.start target s.1; (progress, s', s.2 ++ [.asked target])
  resume progress s :=
    let (answer, s') := o.resume progress s.1
    (answer, s', s.2 ++ answer.incidents)

theorem Opener.resume_recorded (o : Opener ε δ σ) (progress : δ)
    (s : σ × List (Incident ε σ)) :
    o.recorded.resume progress s = ((o.resume progress s.1).1, (o.resume progress s.1).2,
      s.2 ++ (o.resume progress s.1).1.incidents) := rfl

/-- The ends of a relay, next to something that they leave alone. -/
def Relay.Ends.beside (τ : Type) (e : Relay.Ends σ) : Relay.Ends (σ × τ) where
  near := e.near.beside τ
  tunnel := e.tunnel.beside τ
  started s := (e.started s.1, s.2)
  ended s := (e.ended s.1, s.2)
  countUp n s := (e.countUp n s.1, s.2)
  countDown n s := (e.countDown n s.1, s.2)
  abandon s := (e.abandon s.1, s.2)
  closeTunnel s := let (r, s') := e.closeTunnel s.1; (r, s', s.2)
  closeNear s := (e.closeNear s.1, s.2)

/-- The ends of a relay to a stream; that the relay begins is written down. -/
def Relay.Ends.announced (stream : Nat) (e : Relay.Ends σ) :
    Relay.Ends (σ × List (Incident ε σ)) :=
  { e.beside _ with started := fun s => (e.started s.1, s.2 ++ [.relays stream s.1]) }

theorem Relay.Ends.within_announced (stream : Nat) (e : Relay.Ends σ) :
    (e.announced stream : Relay.Ends (σ × List (Incident ε σ))).Within Prod.fst e where
  near := e.near.within_beside
  tunnel := e.tunnel.within_beside
  started _ := rfl
  ended _ := rfl
  countUp _ _ := rfl
  countDown _ _ := rfl
  abandon _ := rfl
  closeTunnel _ := rfl
  closeNear _ := rfl

theorem Relay.Ends.keeps_announced (stream : Nat) (e : Relay.Ends σ)
    (log : List (Incident ε σ)) : (e.announced stream).Keeps fun s => s.2 = log where
  readNear _ _ h := h
  writeNear _ _ h := h
  readTunnel _ _ h := h
  writeTunnel _ _ h := h
  ended h := h
  countUp _ _ h := h
  countDown _ _ h := h
  abandon h := h
  closeTunnel h := h
  closeNear h := h

/-- A relay that has begun leaves the incidents as they are. -/
theorem Relay.step_announced (stream : Nat) (e : Relay.Ends σ) (r : Relay) (s : σ)
    (log : List (Incident ε σ)) :
    r.step (e.announced stream) (s, log) = ((r.step e s).1, (r.step e s).2, log) := by
  have hstep := step_within (e.within_announced (ε := ε) stream) r (s, log)
  have hlog := step_keeps (e.keeps_announced stream log) r (s := (s, log)) rfl
  rw [hstep]
  exact Prod.ext rfl (Prod.ext rfl hlog)

/-- The opener `o'` does to the part `π` of its state what `o` does. -/
structure Opener.Within (π : σ' → σ) (o' : Opener ε δ σ') (o : Opener ε δ σ) : Prop where
  start : ∀ target s, o.start target (π s) = Prod.map id π (o'.start target s)
  resume : ∀ progress s, o.resume progress (π s) = Prod.map id π (o'.resume progress s)

theorem Opener.within_recorded (o : Opener ε δ σ) : o.recorded.Within Prod.fst o :=
  ⟨fun _ _ => rfl, fun _ _ => rfl⟩

end SealedTunnel
