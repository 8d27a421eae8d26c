import Mathlib.Algebra.GroupWithZero.Nat
import SealedTunnel.Proofs.Ends.Connecting
import SealedTunnel.Proofs.Loopback.Counters

/-!
# The counters of a process

In one process any number of relays run side by side, connections are dialed and served, and counts
are made directly, all on the same counters. Each relay may be given up at any time. In whatever
order all of this happens, the counters are the sum of what each has to its account: so many relays
run, so many were started, and the bytes are those that were counted directly and those of the
chunks that the relays have forwarded.

## Main definitions

* `RelayCall`: a relay with its ends and its record, which may be given up
* `Activity`: the state of a process, its relays, and the counts that were made directly
* `Activity.Event`, `Activity.run`: what happens in a process, in any order
* `Activity.total`: what the counters should be

## Main results

* `Activity.sound_step`: after every step the counters are what they should be
* `Activity.counters_true`: whatever happens in whatever order, the counters tell the truth
-/

namespace SealedTunnel

open Relay (Act Way)

/-! ## Relays that may be given up -/

/-- A relay, as long as nobody has given it up, with its ends and the record of what it did. -/
structure RelayCall (σ : Type) where
  ends : Relay.Ends σ
  relay : Option Relay
  log : List Act

namespace RelayCall

variable {σ : Type}

/-- A relay that has just begun. -/
def start (ends : Relay.Ends σ) : RelayCall σ :=
  ⟨ends, some .start, []⟩

/-- Whether the relay has neither finished nor been given up. -/
def runs (t : RelayCall σ) : Bool :=
  t.relay.any Relay.runs

/-- How many bytes the chunks have that the relay has forwarded in a direction. -/
def forwarded (w : Way) (t : RelayCall σ) : Nat :=
  Relay.forwarded w t.log

/-- Whether the relay runs, and what it has forwarded in each direction. -/
def account (t : RelayCall σ) : Bool × Nat × Nat :=
  (t.runs, t.forwarded .up, t.forwarded .down)

/-- The relay makes a step. -/
def act (m : Relay.Move σ) (t : RelayCall σ) (s : σ) : RelayCall σ × σ :=
  match t.relay with
  | some r =>
    let (r, s, log) := Relay.act t.ends (r, s, t.log) m
    ({ t with relay := some r, log }, s)
  | none => (t, s)

/-- The relay is given up. -/
def drop (t : RelayCall σ) (s : σ) : RelayCall σ × σ :=
  match t.relay with
  | some r =>
    let (s, log) := r.drop t.ends.recorded (s, t.log)
    ({ t with relay := none, log }, s)
  | none => (t, s)

/-- What the relay has counted. -/
def share (t : RelayCall σ) : Stats :=
  Relay.share t.runs t.log

/-- The relay counts on the counters that `view` shows, its record is orderly, and it has counted
what it has forwarded. -/
structure Sound (view : σ → Stats) (t : RelayCall σ) : Prop where
  counts : t.ends.Counts view
  orderly : Relay.Orderly t.log
  fits : ∀ r, t.relay = some r → r.Fits t.log
  settled : ∀ w, Relay.Settled w t.log

variable {view : σ → Stats} {t : RelayCall σ}

theorem sound_start {ends : Relay.Ends σ} (h : ends.Counts view) : (start ends).Sound view where
  counts := h
  orderly := .nil
  fits _ hr := Option.some.inj hr ▸ Relay.fits_start
  settled _ := rfl

/-- **A step of a relay changes its own share, and that by what it has forwarded.** -/
theorem Sound.act (h : t.Sound view) {m : Relay.Move σ} (hm : ∀ f, m ≠ .others f) {others : Stats}
    {s : σ} (hs : view s = others + t.share) :
    (t.act m s).1.Sound view ∧ view (t.act m s).2 = others + (t.act m s).1.share := by
  obtain ⟨ends, relay, log⟩ := t
  cases relay with
  | none => exact ⟨h, hs⟩
  | some r =>
    have hfits := h.fits r rfl
    obtain ⟨ho, hf⟩ := Relay.fits_act (e := ends) m (r := (r, s, log)) h.orderly hfits
    have htells := h.counts.tells_act (m := m) (fun f hf => absurd hf (hm f)) (r := (r, s, log)) hs
    have hsettled (w : Way) := Relay.settled_act (e := ends) m (r := (r, s, log)) h.orderly hfits
      (h.settled w)
    exact ⟨⟨h.counts, ho, fun _ hr => Option.some.inj hr ▸ hf, hsettled⟩, htells⟩

/-- **A relay that is given up no longer runs, and has counted what it has forwarded.** -/
theorem Sound.drop (h : t.Sound view) {others : Stats} {s : σ} (hs : view s = others + t.share) :
    (t.drop s).1.Sound view ∧ view (t.drop s).2 = others + (t.drop s).1.share := by
  obtain ⟨ends, relay, log⟩ := t
  cases relay with
  | none => exact ⟨h, hs⟩
  | some r =>
    have ho := Relay.drop_keeps (P := Relay.Orderly) (fun hact ho => .closing ho hact) ends r s
      h.orderly
    have hsettled (w : Way) := Relay.drop_keeps (P := Relay.Settled w)
      (fun hact hs => hs.closing hact) ends r s (h.settled w)
    have htells := h.counts.tells_drop r (s := (s, log)) hs
    exact ⟨⟨h.counts, ho, nofun, hsettled⟩, htells⟩

end RelayCall

/-! ## Counts that are made directly -/

/-- A count that is not made by a relay. -/
inductive Count where
  | sent (n : UInt64)
  | received (n : UInt64)
  | failedDial
  deriving DecidableEq, Repr

namespace Count

/-- The counters after the count. -/
def apply (k : Stats) : Count → Stats
  | .sent n => k.addSent n
  | .received n => k.addReceived n
  | .failedDial => k.dialFailed

/-- The bytes that are counted in a direction. -/
def bytes : Way → Count → Nat
  | .up, .sent n | .down, .received n => n.toNat
  | _, _ => 0

/-- What the count adds to the counters. -/
def share (c : Count) : Stats :=
  c.apply 0

theorem apply_eq (k : Stats) (c : Count) : c.apply k = k + c.share := by
  have h (f : Stats → Stats) (hf : f (k + 0) = k + f 0) : f k = k + f 0 := by
    rwa [add_zero] at hf
  cases c with
  | sent n => exact h (·.addSent n) (Stats.add_addSent k 0 n)
  | received n => exact h (·.addReceived n) (Stats.add_addReceived k 0 n)
  | failedDial => exact h Stats.dialFailed (Stats.add_dialFailed k 0)

end Count

/-! ## Processes -/

/-- The state that everything in a process shares, the relays in the order of their starts, and the
counts that were made directly. -/
structure Activity (σ : Type) where
  shared : σ
  calls : List (RelayCall σ) := []
  direct : List Count := []

namespace Activity

variable {δ σ : Type}

/-- What happens in a process. -/
inductive Event (δ σ : Type) where
  | relays (ends : Relay.Ends σ)
  /-- A lane of the relay of a number goes on. -/
  | copies (i : Nat) (w : Way)
  /-- The relay of a number goes on with closing. -/
  | closes (i : Nat)
  /-- The relay of a number is given up. -/
  | drops (i : Nat)
  | dials (dialer : Dialer δ σ) (p : Dialing δ)
  /-- Serving goes on, up to the relay. -/
  | serves (site : Egress.Site δ σ) (e : Egress δ)
  | counts (c : Count) (f : σ → σ)
  | others (f : σ → σ)

/-- What happens counts on the counters that `view` shows as it should, and does nothing else to
them. -/
def Event.Counts (view : σ → Stats) : Event δ σ → Prop
  | .relays ends => ends.Counts view
  | .copies _ _ | .closes _ | .drops _ => True
  | .dials dialer _ => dialer.Counts view
  | .serves site e => site.Counts view ∧ e.Early
  | .counts c f => ∀ s, view (f s) = c.apply (view s)
  | .others f => ∀ s, view (f s) = view s

/-- A relay starts. -/
def relay (ends : Relay.Ends σ) (a : Activity σ) : Activity σ :=
  { a with shared := ends.started a.shared, calls := a.calls ++ [.start ends] }

/-- Something happens to the relay of a number. -/
def onCall (i : Nat) (f : RelayCall σ → σ → RelayCall σ × σ) (a : Activity σ) : Activity σ :=
  match a.calls[i]? with
  | some t =>
    let (t, s) := f t a.shared
    { a with shared := s, calls := a.calls.set i t }
  | none => a

/-- A count is made, which leads to the given state. -/
def count (c : Count) (s : σ) (a : Activity σ) : Activity σ :=
  { a with shared := s, direct := a.direct ++ [c] }

/-- What happens in a process happens. -/
def step (a : Activity σ) : Event δ σ → Activity σ
  | .relays ends => a.relay ends
  | .copies i .up => a.onCall i (RelayCall.act .up)
  | .copies i .down => a.onCall i (RelayCall.act .down)
  | .closes i => a.onCall i (RelayCall.act .close)
  | .drops i => a.onCall i RelayCall.drop
  | .dials dialer p =>
    let s := (p.resume dialer a.shared).2
    match p.answer? dialer a.shared with
    | some (.refused _, _) => a.count .failedDial s
    | some (.pending _, _) | some (.opened _, _) | none => { a with shared := s }
  | .serves site e =>
    let s := (e.serve site a.shared).2
    match e.answer? site a.shared with
    | some (.opened stream, s) => relay (site.relayTo stream) { a with shared := s }
    | some (.refused _, _) => a.count .failedDial s
    | some (.pending _, _) | none => { a with shared := s }
  | .counts c f => a.count c (f a.shared)
  | .others f => { a with shared := f a.shared }

/-- Many things happen, one after the other. -/
def run (events : List (Event δ σ)) (a : Activity σ) : Activity σ :=
  events.foldl step a

/-- What the counters should be. -/
def total (a : Activity σ) : Stats where
  activeRelays := .ofNat (a.calls.countP RelayCall.runs)
  totalRelays := .ofNat a.calls.length
  bytesSent := .ofNat ((a.direct.map (Count.bytes .up)).sum +
    (a.calls.map (RelayCall.forwarded .up)).sum)
  bytesReceived := .ofNat ((a.direct.map (Count.bytes .down)).sum +
    (a.calls.map (RelayCall.forwarded .down)).sum)
  failedDials := .ofNat (a.direct.count .failedDial)

/-- What everyone has counted, all in all. -/
def accounts (a : Activity σ) : Stats :=
  (a.direct.map Count.share).sum + (a.calls.map RelayCall.share).sum

/-- The counters are the sum of what everyone has counted, and all relays are sound. -/
structure Sound (view : σ → Stats) (a : Activity σ) : Prop where
  calls : ∀ t ∈ a.calls, t.Sound view
  counters : view a.shared = a.accounts

variable {view : σ → Stats} {a : Activity σ}

theorem Sound.relay (h : a.Sound view) {ends : Relay.Ends σ} (hends : ends.Counts view) :
    (a.relay ends).Sound view where
  calls t ht := by
    rcases List.mem_append.1 ht with hmem | hmem
    · exact h.calls t hmem
    · rw [List.mem_singleton.1 hmem]
      exact RelayCall.sound_start hends
  counters := by
    have hstarted : a.accounts.relayStarted = a.accounts + (RelayCall.start ends).share := by
      have hadd := Stats.add_relayStarted a.accounts 0
      rwa [add_zero, Relay.relayStarted_zero] at hadd
    show view (ends.started a.shared) = accounts (Activity.relay ends a)
    rw [hends.started, h.counters, hstarted, accounts, accounts, Activity.relay, List.map_append,
      List.map_singleton, List.sum_append, List.sum_singleton, add_assoc]

/-- What happens to one relay changes what everyone has counted by the share of that relay. -/
theorem exists_others {i : Nat} {t : RelayCall σ} (ht : a.calls[i]? = some t) :
    ∃ others, a.accounts = others + t.share ∧ ∀ (s : σ) (t' : RelayCall σ),
      accounts { a with shared := s, calls := a.calls.set i t' } = others + t'.share := by
  obtain ⟨hi, rfl⟩ := List.getElem?_eq_some_iff.1 ht
  -- All that is counted besides is counted directly, or by the relays before and after it.
  obtain ⟨others, hsplit⟩ : ∃ others, ∀ (s : σ) (t : RelayCall σ),
      accounts { a with shared := s, calls := a.calls.take i ++ t :: a.calls.drop (i + 1) } =
        others + t.share := by
    refine ⟨(a.direct.map Count.share).sum + (((a.calls.take i).map RelayCall.share).sum +
      ((a.calls.drop (i + 1)).map RelayCall.share).sum), fun s t => ?_⟩
    rw [accounts, List.map_append, List.map_cons, List.sum_append, List.sum_cons]
    ac_rfl
  refine ⟨others, ?_, fun s t' => ?_⟩
  · have hsame := hsplit a.shared a.calls[i]
    rw [← List.drop_eq_getElem_cons, List.take_append_drop] at hsame
    exact hsame
  · rw [List.set_eq_take_append_cons_drop, if_pos hi]
    exact hsplit s t'

/-- What changes nothing but the share of a relay keeps the process sound. -/
theorem Sound.onCall (h : a.Sound view) (i : Nat) {f : RelayCall σ → σ → RelayCall σ × σ}
    (hf : ∀ {t others s}, t.Sound view → view s = others + t.share →
      (f t s).1.Sound view ∧ view (f t s).2 = others + (f t s).1.share) :
    (a.onCall i f).Sound view := by
  unfold Activity.onCall
  split
  · rename_i t ht
    obtain ⟨others, haccounts, hset⟩ := exists_others ht
    have hmem : t ∈ a.calls := List.mem_of_getElem? ht
    obtain ⟨hsound, hview⟩ := hf (h.calls t hmem) (h.counters.trans haccounts)
    constructor
    · intro t' ht'
      rcases List.mem_or_eq_of_mem_set ht' with hother | rfl
      · exact h.calls t' hother
      · exact hsound
    · exact hview.trans (hset _ _).symm
  · exact h

theorem Sound.others (h : a.Sound view) {s : σ} (hs : view s = view a.shared) :
    Sound view { a with shared := s } :=
  ⟨h.calls, hs.trans h.counters⟩

theorem Sound.count (h : a.Sound view) {c : Count} {s : σ}
    (hs : view s = c.apply (view a.shared)) : (a.count c s).Sound view where
  calls := h.calls
  counters := by
    show view s = accounts (Activity.count c s a)
    rw [hs, Count.apply_eq, h.counters, accounts, accounts, Activity.count, List.map_append,
      List.map_singleton, List.sum_append, List.sum_singleton]
    ac_rfl

/-- **After every step the counters are what everyone has counted.** -/
theorem sound_step (h : a.Sound view) {ev : Event δ σ} (hev : ev.Counts view) :
    (a.step ev).Sound view := by
  cases ev with
  | relays ends => exact h.relay hev
  | copies i w =>
    cases w with
    | up => exact h.onCall i fun ht hs => ht.act (m := .up) nofun hs
    | down => exact h.onCall i fun ht hs => ht.act (m := .down) nofun hs
  | closes i => exact h.onCall i fun ht hs => ht.act (m := .close) nofun hs
  | drops i => exact h.onCall i fun ht hs => ht.drop hs
  | counts c f => exact h.count (hev a.shared)
  | others f => exact h.others (hev a.shared)
  | dials dialer p =>
    have hpoll := Dialing.counts_resume hev p a.shared
    unfold step
    dsimp only
    generalize p.answer? dialer a.shared = answer at hpoll
    match answer with
    | some (.refused why, s) =>
      refine h.count ?_
      rw [hpoll.2]
      exact hpoll.1
    | some (.pending _, _) | some (.opened _, _) | none => exact h.others hpoll
  | serves site e =>
    have hpoll := Egress.counts_serve hev.1 hev.2 a.shared
    unfold step
    dsimp only
    generalize e.answer? site a.shared = answer at hpoll
    match answer with
    | some (.opened stream, s) => exact (h.others hpoll.1).relay (hev.1.relayTo stream)
    | some (.refused why, s) =>
      refine h.count ?_
      rw [hpoll.2]
      exact hpoll.1
    | some (.pending progress, s) =>
      refine h.others ?_
      rw [hpoll.2]
      exact hpoll.1
    | none => exact h.others hpoll.1

theorem sound_fresh {s : σ} (h : view s = {}) : Sound view { shared := s } where
  calls _ ht := absurd ht List.not_mem_nil
  counters := h

theorem sound_run (h : a.Sound view) {events : List (Event δ σ)}
    (hevents : ∀ ev ∈ events, ev.Counts view) : (run events a).Sound view := by
  induction events generalizing a with
  | nil => exact h
  | cons ev events ih =>
    obtain ⟨hev, hevents⟩ := List.forall_mem_cons.1 hevents
    exact ih (sound_step h hev) hevents

/-! ## Totals -/

/-- Counters that have counted so much. -/
def wrapped (active total sent received failed : Nat) : Stats :=
  ⟨.ofNat active, .ofNat total, .ofNat sent, .ofNat received, .ofNat failed⟩

theorem wrapped_add (a b c d e a' b' c' d' e' : Nat) :
    wrapped a b c d e + wrapped a' b' c' d' e' =
      wrapped (a + a') (b + b') (c + c') (d + d') (e + e') := by
  ext1 <;> exact (UInt64.ofNat_add ..).symm

theorem share_call {t : RelayCall σ} (h : t.Sound view) :
    t.share = wrapped (if t.runs then 1 else 0) 1 (t.forwarded .up) (t.forwarded .down) 0 := by
  ext1
  case activeRelays =>
    show (if t.runs then 1 else 0) = UInt64.ofNat (if t.runs then 1 else 0)
    split <;> rfl
  case bytesSent => exact h.settled .up
  case bytesReceived => exact h.settled .down
  all_goals rfl

theorem share_count (c : Count) :
    c.share = wrapped 0 0 (c.bytes .up) (c.bytes .down) (if c == .failedDial then 1 else 0) := by
  cases c with
  | sent n =>
    ext1
    case bytesSent => exact (UInt64.zero_add n).trans UInt64.ofNat_toNat.symm
    all_goals rfl
  | received n =>
    ext1
    case bytesReceived => exact (UInt64.zero_add n).trans UInt64.ofNat_toNat.symm
    all_goals rfl
  | failedDial => rfl

theorem sum_calls {calls : List (RelayCall σ)} (h : ∀ t ∈ calls, t.Sound view) :
    (calls.map RelayCall.share).sum = wrapped (calls.countP RelayCall.runs) calls.length
      (calls.map (RelayCall.forwarded .up)).sum (calls.map (RelayCall.forwarded .down)).sum 0 := by
  induction calls with
  | nil => rfl
  | cons t calls ih =>
    obtain ⟨ht, hcalls⟩ := List.forall_mem_cons.1 h
    rw [List.map_cons, List.sum_cons, share_call ht, ih hcalls, wrapped_add, List.countP_cons,
      List.length_cons, List.map_cons, List.map_cons, List.sum_cons, List.sum_cons,
      Nat.add_comm (if t.runs then 1 else 0), Nat.add_comm 1]

theorem sum_counts (direct : List Count) :
    (direct.map Count.share).sum = wrapped 0 0 (direct.map (Count.bytes .up)).sum
      (direct.map (Count.bytes .down)).sum (direct.count .failedDial) := by
  induction direct with
  | nil => rfl
  | cons c direct ih =>
    rw [List.map_cons, List.sum_cons, share_count, ih, wrapped_add, List.count_cons, List.map_cons,
      List.map_cons, List.sum_cons, List.sum_cons, Nat.add_comm (if c == .failedDial then 1 else 0)]

/-- What everyone has counted is what the counters should be. -/
theorem Sound.accounts_eq (h : a.Sound view) : a.accounts = a.total := by
  rw [accounts, sum_counts, sum_calls h.calls, wrapped_add, Nat.zero_add, Nat.zero_add,
    Nat.add_zero]
  rfl

/-- What the counters should be does not depend on the order of the relays or of the counts. -/
theorem total_congr {b : Activity σ}
    (hcalls : (a.calls.map RelayCall.account).Perm (b.calls.map RelayCall.account))
    (hdirect : a.direct.Perm b.direct) : a.total = b.total := by
  have hruns : a.calls.countP RelayCall.runs = b.calls.countP RelayCall.runs := by
    have hcount := hcalls.countP_eq (·.1)
    rwa [List.countP_map, List.countP_map] at hcount
  have hlength : a.calls.length = b.calls.length := by
    have hlength := hcalls.length_eq
    rwa [List.length_map, List.length_map] at hlength
  have hforwarded (f : Bool × Nat × Nat → Nat) :
      (a.calls.map (f ∘ RelayCall.account)).sum = (b.calls.map (f ∘ RelayCall.account)).sum := by
    have hsum := (hcalls.map f).sum_eq
    rwa [List.map_map, List.map_map] at hsum
  have hup : (a.calls.map (RelayCall.forwarded .up)).sum =
      (b.calls.map (RelayCall.forwarded .up)).sum := hforwarded (·.2.1)
  have hdown : (a.calls.map (RelayCall.forwarded .down)).sum =
      (b.calls.map (RelayCall.forwarded .down)).sum := hforwarded (·.2.2)
  rw [total, total, hruns, hlength, hup, hdown, (hdirect.map _).sum_eq, (hdirect.map _).sum_eq,
    hdirect.count_eq]

/-- **The counters tell the truth, whatever happens in whatever order.** However many relays run
side by side, in steps that come in any order and among counts of other kinds, and however each of
them ends, by itself or by being given up at any point: after every step as many relays count as
running as have been started and have not ended, as many as started as were, and the bytes are those
that were counted directly and those of the chunks that were forwarded, all up to the size of a
word. So the number of running relays never falls below zero; and it does not matter to the counters
in which order things have happened, as long as the relays have forwarded the same and the same was
counted directly. Of all that may go wrong before there is a relay, only a connection that cannot be
made is counted, once, and no relay starts then. -/
theorem counters_true {view : σ → Stats} {events : List (Event δ σ)} {s : σ} (hfresh : view s = {})
    (hevents : ∀ ev ∈ events, ev.Counts view) :
    let a := run events { shared := s }
    view a.shared = a.total ∧
      (a.calls.length < UInt64.size →
        (view a.shared).activeRelays.toNat = a.calls.countP RelayCall.runs ∧
          (view a.shared).totalRelays.toNat = a.calls.length) ∧
      (∀ (events' : List (Event δ σ)) (s' : σ), view s' = {} → (∀ ev ∈ events', ev.Counts view) →
        let b := run events' { shared := s' }
        (a.calls.map RelayCall.account).Perm (b.calls.map RelayCall.account) →
          a.direct.Perm b.direct → view b.shared = view a.shared) ∧
      (∀ dialer : Dialer δ σ, dialer.Counts view →
        (∀ target s, view ((Dialing.opener dialer).start target s).2 = view s) ∧
          ∀ (p : Dialing δ) s,
            Dialing.Polled dialer view s (p.resume dialer s) (p.answer? dialer s)) ∧
      ∀ site : Egress.Site δ σ, site.Counts view → ∀ e : Egress δ, e.Early → ∀ s,
        Egress.Polled site view s (e.serve site s) (e.answer? site s) := by
  intro a
  have hsound {events : List (Event δ σ)} {s : σ} (hfresh : view s = {})
      (hevents : ∀ ev ∈ events, ev.Counts view) :
      view (run events { shared := s }).shared = (run events { shared := s }).total := by
    have h := sound_run (sound_fresh hfresh) hevents
    exact h.counters.trans h.accounts_eq
  have htotal : view a.shared = a.total := hsound hfresh hevents
  refine ⟨htotal, ?_, ?_, ?_, ?_⟩
  · intro hsize
    rw [htotal]
    exact ⟨UInt64.toNat_ofNat_of_lt' (Nat.lt_of_le_of_lt List.countP_le_length hsize),
      UInt64.toNat_ofNat_of_lt' hsize⟩
  · intro events' s' hfresh' hevents' b hcalls hdirect
    rw [htotal, total_congr hcalls hdirect]
    exact hsound hfresh' hevents'
  · intro dialer hdialer
    exact ⟨fun _ s => hdialer.connector.start dialer.far s, Dialing.counts_resume hdialer⟩
  · intro site hsite e he s
    exact Egress.counts_serve hsite he s

/-- A relay of a world forwards three bytes and is given up; five bytes are counted besides, and the
far end cannot be connected to. -/
theorem counters_true_given_up :
    let hosts : Attempt World := fun _ w => (.failed .brokenPipe, w)
    let dialer := World.dialer hosts 0 "far:1" {} 1
    let near : Pipe := { queue := ByteQueue.empty.push [1, 2, 3], capacity := 3 }
    let far : Pipe := { capacity := 99 }
    let conn : Conn :=
      { settings := { obfuscation := .disabled }, inbound := 1, outbound := 1, pool := 0 }
    let w : World := { pipes := #[near, far], conns := #[conn], entropy := .ofBytes [] }
    let events : List (Event Transport.Progress World) :=
      [.relays (World.relayEnds 0 1 0 0), .copies 0 .up,
        .counts (.sent 5) fun w => { w with stats := w.stats.addSent 5 },
        .dials dialer (.connecting "h:1" ⟨"far:1", 0⟩), .drops 0]
    let a := run events { shared := w }
    w.stats = {} ∧ (∀ ev ∈ events, ev.Counts World.stats) ∧
      a.shared.stats = { totalRelays := 1, bytesSent := 8, failedDials := 1 } := by
  intro hosts dialer near far conn w events a
  have hevents : ∀ ev ∈ events, ev.Counts World.stats := by
    intro ev hev
    simp only [events, List.mem_cons, List.not_mem_nil, or_false] at hev
    rcases hev with rfl | rfl | rfl | rfl | rfl
    · exact World.counts_relayEnds 0 1 0 0
    · trivial
    · exact fun _ => rfl
    · exact World.counts_dialer (fun _ _ => rfl) 0 "far:1" {} 1
    · trivial
  refine ⟨rfl, hevents, ?_⟩
  rw [(counters_true (s := w) rfl hevents).1]
  decide +kernel

end Activity

end SealedTunnel
