import SealedTunnel.Proofs.Conn.Parsing

/-!
# Rounds of fetching

A read fetches frame after frame until one of them carries data. What comes of a frame is decided by
one conversation with the stream, first about its length and then about its payload; whether a
buffer is held for the payload by then, and which one, does not show. So whatever is said about
reads is shown along the rounds, with a case for each way in which one of them comes out.

## Main definitions

* `Fetching.talk`, `Reader.talk`: what is left of fetching a frame, as one conversation
* `Reader.Round`: what comes of a round

## Main results

* `Fetching.advance_matches`: fetching goes on as that conversation does
* `Settings.decodeWith_fst`: a buffer does not show in what a payload decodes to
* `Reader.fetchData_round`: a read goes on by such rounds
-/

namespace SealedTunnel

/-! ## One frame -/

/-- What is left of fetching a frame, as one conversation. -/
def Fetching.talk : Fetching → Talk IoError FetchEnd Bytes
  | .length talk => talk.bind fetchPayload
  | .payload _ talk => talk

/-- What has come of fetching a frame, by what is left of the conversation. -/
inductive Fetched.Matches : Fetched → Talk IoError FetchEnd Bytes → Prop
  | waiting (fetching : Fetching) (h : fetching.talk.isOver = false) :
      Matches (.waiting fetching) fetching.talk
  | payload (buffer : Buffer) (payload : Bytes) : Matches (.payload buffer payload) (.done payload)
  | stopped (why : FetchEnd) : Matches (.stopped why) (.fail why)

namespace Fetching

variable {τ : Type}

theorem silent_start (s : Settings) : (start s).talk.Silent :=
  s.silent_fetch

theorem hungry_start (s : Settings) : (start s).talk.Hungry :=
  s.hungry_fetch

theorem advancePayload_matches (d : Duplex IoError τ) (buffer : Buffer)
    (talk : Talk IoError FetchEnd Bytes) (pool : Pool) (t : τ) :
    let r := advancePayload d buffer talk pool t
    r.1.Matches (talk.advance d t).1 ∧ r.2.2 = (talk.advance d t).2 := by
  unfold advancePayload
  generalize talk.advance d t = r
  obtain ⟨rest, t'⟩ := r
  cases rest with
  | done payload => exact ⟨.payload buffer payload, rfl⟩
  | fail why => exact ⟨.stopped why, rfl⟩
  | need | send => exact ⟨.waiting (.payload buffer _) rfl, rfl⟩

/-- **Fetching goes on as one conversation does.** -/
theorem advance_matches (d : Duplex IoError τ) (fetching : Fetching) (pool : Pool) (t : τ) :
    let r := fetching.advance d pool t
    r.1.Matches (fetching.talk.advance d t).1 ∧ r.2.2 = (fetching.talk.advance d t).2 := by
  cases fetching with
  | payload buffer talk => exact advancePayload_matches d buffer talk pool t
  | length talk =>
    rw [Fetching.talk, Talk.advance_bind]
    dsimp only [advance]
    generalize talk.advance d t = r
    obtain ⟨rest, t'⟩ := r
    cases rest with
    | done n => exact advancePayload_matches d _ (fetchPayload n) _ t'
    | fail why => exact ⟨.stopped why, rfl⟩
    | need | send => exact ⟨.waiting (.length _) rfl, rfl⟩

end Fetching

/-- Undoing a payload in a buffer undoes the payload, whatever the buffer held before. -/
theorem Settings.decodeWith_fst (s : Settings) (buffer : Buffer) (payload : Bytes) (pool : Pool) :
    (s.decodeWith buffer payload pool).1 = s.decode payload := by
  have hroom := Placed.length_room buffer.bytes payload.length
  unfold decodeWith decode
  dsimp only
  rw [Bytes.overwrite_all hroom]
  cases s.openPayload payload with
  | error e => rfl
  | ok opened => rfl

/-! ## Frame after frame -/

namespace Reader

variable {τ : Type}

/-- What a reader has still to fetch of the next frame, as one conversation. -/
def talk (s : Settings) (r : Reader) : Talk IoError FetchEnd Bytes :=
  (r.fetching.getD (.start s)).talk

theorem talk_of_idle {r : Reader} (h : r.fetching = none) (s : Settings) : r.talk s = s.fetch := by
  rw [talk, h]
  rfl

/-- What comes of a round of fetching for a read of `n` bytes, by what is left of the conversation
and the stream behind it. Behind a frame that carries nothing there are `fuel` more rounds. -/
inductive Round (s : Settings) (n : Nat) (d : Duplex IoError τ) (fuel : Nat) :
    Talk IoError FetchEnd Bytes × τ → ReadStep τ → Prop
  | waiting {fetching : Fetching} {rest : Talk IoError FetchEnd Bytes} {pool : Pool} {t : τ}
      (htalk : fetching.talk = rest) (hover : rest.isOver = false) :
      Round s n d fuel (rest, t) ⟨.waiting, ⟨[], some fetching⟩, pool, t⟩
  | closed {pool : Pool} {t : τ} : Round s n d fuel (.fail .closed, t) ⟨.ready [], {}, pool, t⟩
  | unfetched {e : TunnelError} {pool : Pool} {t : τ} :
      Round s n d fuel (.fail (.failed e), t) ⟨.failed e, {}, pool, t⟩
  | undecoded {payload : Bytes} {e : TunnelError} {pool : Pool} {t : τ}
      (hd : s.decode payload = .error e) :
      Round s n d fuel (.done payload, t) ⟨.failed e, {}, pool, t⟩
  | empty {payload : Bytes} {pool : Pool} {t : τ} (hd : s.decode payload = .ok []) :
      Round s n d fuel (.done payload, t) (fetchData s n d fuel (.start s) pool t)
  | data {payload data : Bytes} {pool : Pool} {t : τ} (hd : s.decode payload = .ok data)
      (hne : data ≠ []) :
      Round s n d fuel (.done payload, t) ⟨.ready (data.take n), ⟨data.drop n, none⟩, pool, t⟩

/-- **A read goes on by rounds.** -/
theorem fetchData_round (s : Settings) (n : Nat) (d : Duplex IoError τ) (fuel : Nat)
    (fetching : Fetching) (pool : Pool) (t : τ) :
    Round s n d fuel (fetching.talk.advance d t) (fetchData s n d (fuel + 1) fetching pool t) := by
  obtain ⟨hmatches, hsource⟩ := fetching.advance_matches d pool t
  rw [fetchData]
  generalize fetching.advance d pool t = x at hmatches hsource
  generalize fetching.talk.advance d t = r at hmatches hsource
  obtain ⟨fetched, pool', t'⟩ := x
  obtain ⟨rest, t''⟩ := r
  dsimp only at hmatches hsource
  subst hsource
  cases hmatches with
  | waiting _ hover => exact .waiting rfl hover
  | stopped why =>
    cases why with
    | closed => exact .closed
    | failed e => exact .unfetched
  | payload buffer payload =>
    have hdecode := s.decodeWith_fst buffer payload pool'
    dsimp only
    generalize s.decodeWith buffer payload pool' = undone at hdecode
    obtain ⟨outcome, pool''⟩ := undone
    cases outcome with
    | error e => exact .undecoded hdecode.symm
    | ok data =>
      cases data with
      | nil => exact .empty hdecode.symm
      | cons b bs => exact .data hdecode.symm (List.cons_ne_nil b bs)

end Reader

end SealedTunnel
