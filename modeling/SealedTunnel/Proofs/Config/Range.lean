import SealedTunnel.Ends.Admission
import SealedTunnel.Proofs.Config.Resolved
import SealedTunnel.Proofs.Conn.Payload

/-!
# Numbers that stay in their range

The sizes and delays of a configuration are words of 64 bits, and so is every number that is made
from them. Here the same computations are done with numbers that know their range: a sum, a
difference or a narrowing that leaves it has no value, and neither has a draw from no candidates.
Under a checked configuration these computations give what the words give, so nothing wraps around.
There are two exceptions that checking lets through: a delay drawn from the whole range of a word,
whose number of candidates is one more than a word holds, and a limit of connections above the most
permits that can be given out.

## Main definitions

* `Ranged`: computations whose numbers may leave their range
* `Ranged.drawLength`, `Ranged.encodeInto`, `Ranged.sealedLength`, `Ranged.maxFrameLength`,
  `Ranged.drawDelay`: the computations with sizes and delays
* `Obfuscation.WholeRange`: the delay is drawn from all words

## Main results

* `Ranged.encodeInto_eq`, `Ranged.drawDelay_eq`: under settings in order nothing leaves its range
* `Ranged.drawDelay_of_wholeRange`: but for the one range of delays
* `Config.numbers_stay_in_range`: what this says of a checked configuration
* `Config.numbers_out_of_range`: a checked configuration under which the far end does not start and
  no delay is drawn
-/

namespace SealedTunnel

/-- A computation with random bytes in which a number may leave its range; then it has no error to
show for it. -/
abbrev Ranged (α : Type) := StateT Entropy (Except (Option TunnelError)) α

namespace Ranged

variable {α β : Type}

/-! ## Numbers in their range -/

/-- A computation with words, seen as one that may leave the range. -/
def of (m : Draw TunnelError α) : Ranged α :=
  fun e => (m e).mapError some

/-- A number below a limit. -/
def within (limit n : Nat) : Ranged Nat :=
  if n < limit then pure n else throw none

/-- A sum. -/
def add (a b : Nat) : Ranged Nat :=
  within UInt64.size (a + b)

/-- A difference. -/
def sub (a b : Nat) : Ranged Nat :=
  if b ≤ a then pure (a - b) else throw none

/-- A number in two bytes. -/
def narrow (n : Nat) : Ranged Nat :=
  within UInt16.size n

/-- A random number below a bound. Nothing can be drawn from no candidates. -/
def below (bound : Nat) : Ranged Nat :=
  if bound = 0 then throw none
  else UInt64.toNat <$> of (Draw.below bound.toUInt64).forTunnel

/-! ## The computations -/

/-- A random length of padding. -/
def drawLength (o : Obfuscation) : Ranged Nat := do
  let span := o.maxPadding.toNat - o.minPadding.toNat
  if span = 0 then return o.minPadding.toNat
  let candidates ← add span 1
  add o.minPadding.toNat (← below candidates)

/-- Random padding of the given length. -/
def drawPadding (length : Nat) : Ranged Bytes := do
  let noise ← of (Draw.bytes length).forTunnel
  if length ≤ Padding.decoyThreshold then return noise
  let choice ← below Padding.decoys.length
  let decoy := Padding.decoys.getD choice []
  if length ≤ decoy.length then return noise
  let slack ← sub length decoy.length
  let offset ← below (← add slack 1)
  let _stop ← add offset decoy.length
  return noise.overwrite offset decoy

/-- The length, the text and random padding in a buffer of exactly the length of all three. -/
def fill (data : Bytes) (pad : Nat) (out : Bytes) : Ranged Bytes := do
  let declared ← narrow data.length
  let out := out.overwrite 0 (Bytes.bigEndian Padding.headerLength declared)
  let start ← add Padding.headerLength data.length
  let out := Bytes.overwrite out Padding.headerLength data
  if pad = 0 then return out
  let padding ← drawPadding pad
  return Bytes.overwrite out start padding

/-- A text padded in a scratch buffer if that is large enough, else apart from it. -/
def encodeInto (data : Bytes) (o : Obfuscation) (scratch : Bytes) : Ranged Placed := do
  if data.length > Padding.maxPayload then
    throw (some (.framing (.tooLongToPad data.length Padding.maxPayload)))
  let pad ← drawLength o
  let body ← add Padding.headerLength data.length
  let total ← add body pad
  let room := Placed.room scratch total
  return { room with bytes := ← fill data pad room.bytes }

/-- The length of the sealed form of a text, where there is a cipher. -/
def sealedLength (s : Settings) (length : Nat) : Ranged Nat := do
  if s.cipher.isSome then
    let body ← add Cipher.nonceLength length
    add body Cipher.tagLength
  else return length

/-- The longest payload that the other end can send. -/
def maxFrameLength (s : Settings) : Ranged Nat := do
  if s.obfuscation.enabled then
    let padding ← add Padding.headerLength Obfuscation.paddingLimit.toNat
    sealedLength s (← add maxFramePayload padding)
  else sealedLength s maxFramePayload

/-- The milliseconds to wait after a frame that carried `length` bytes. -/
def drawDelay (o : Obfuscation) (length : Nat) : Ranged (Option Nat) := do
  if !o.enabled || o.maxDelayMs = 0 || length ≤ Jitter.threshold then return none
  let least := min o.minDelayMs.toNat o.maxDelayMs.toNat
  let span ← sub o.maxDelayMs.toNat least
  let delay ← add least (← below (← add span 1))
  return if delay = 0 then none else some delay

/-! ## Computing in range -/

theorem of_pure (a : α) : of (pure a) = pure a := rfl

theorem of_bind (m : Draw TunnelError α) (f : α → Draw TunnelError β) :
    of (m >>= f) = of m >>= fun a => of (f a) := by
  funext e
  show (m e >>= fun r => f r.1 r.2).mapError some = (m e).mapError some >>= fun r => of (f r.1) r.2
  cases m e <;> rfl

theorem within_eq {limit n : Nat} (h : n < limit) : within limit n = pure n := by
  rw [within, if_pos h]

theorem add_eq {a b : Nat} (h : a + b < UInt64.size) : add a b = pure (a + b) :=
  within_eq h

theorem sub_eq {a b : Nat} (h : b ≤ a) : sub a b = pure (a - b) := by
  rw [sub, if_pos h]

theorem map_of (f : α → β) (m : Draw TunnelError α) :
    f <$> of m = of (m >>= fun a => pure (f a)) := by
  rw [of_bind]
  rfl

/-- Drawing a number comes to the word that the same draw gives, which is below a limit. -/
structure Stands (limit : Nat) (m : Draw TunnelError UInt64) (x : Ranged Nat) : Prop where
  eq : x = UInt64.toNat <$> of m
  lt : ∀ {e w e'}, m e = .ok (w, e') → w.toNat < limit

/-- What is done with the number need only agree on words below the limit. -/
theorem Stands.bind {limit : Nat} {m : Draw TunnelError UInt64} {x : Ranged Nat}
    (hx : Stands limit m x) {f : Nat → Ranged β} {g : UInt64 → Draw TunnelError β}
    (h : ∀ w : UInt64, w.toNat < limit → f w.toNat = of (g w)) : x >>= f = of (m >>= g) := by
  rw [hx.eq, map_of, of_bind, of_bind, bind_assoc]
  funext e
  show ((m e).mapError some >>= fun r => f r.1.toNat r.2) =
    ((m e).mapError some >>= fun r => of (g r.1) r.2)
  cases hm : m e with
  | error err => rfl
  | ok r => exact congrFun (h r.1 (hx.lt hm)) r.2

theorem stands_below {bound : Nat} (hpos : 0 < bound) (hb : bound < UInt64.size) :
    Stands bound (Draw.below bound.toUInt64).forTunnel (below bound) where
  eq := by rw [below, if_neg (Nat.ne_of_gt hpos)]
  lt := by
    intro e w e' h
    have hlt := Draw.below_lt (Draw.forTunnel_eq_ok.1 h)
    rw [Nat.toUInt64_eq, UInt64.toNat_ofNat_of_lt' hb] at hlt
    omega

/-! ## Sizes -/

section Sizes

variable {o : Obfuscation}

theorem toNat_span {a b : UInt64} (h : a ≤ b) (hb : b.toNat - a.toNat + 1 < UInt64.size) :
    b - a + 1 = (b.toNat - a.toNat + 1).toUInt64 := by
  apply UInt64.toNat_inj.1
  rw [Nat.toUInt64_eq, UInt64.toNat_ofNat_of_lt' hb, UInt64.toNat_add, UInt64.toNat_sub_of_le _ _ h,
    UInt64.toNat_one]
  exact Nat.mod_eq_of_lt hb

/-- A number drawn on top of a lower bound. -/
theorem below_above {least : UInt64} {bound : Nat} (hpos : 0 < bound) (hb : bound < UInt64.size)
    (hsum : least.toNat + bound ≤ UInt64.size) :
    below bound >>= (add least.toNat ·) =
      UInt64.toNat <$>
        of ((Draw.below bound.toUInt64).forTunnel >>= fun w => pure (least + w)) := by
  rw [map_of, bind_assoc]
  refine (stands_below hpos hb).bind fun w hw => ?_
  have hfits : least.toNat + w.toNat < UInt64.size := by omega
  rw [add_eq hfits, pure_bind, of_pure, UInt64.toNat_add, Nat.mod_eq_of_lt hfits]

theorem stands_drawLength (ho : o.check = .ok ()) :
    Stands 32769 (Padding.drawLength o).forTunnel (drawLength o) where
  eq := by
    have hmax := (Padding.modest_of_check ho).max_le
    have hsize : UInt64.size = 18446744073709551616 := rfl
    rw [drawLength, Padding.drawLength_eq]
    by_cases hlt : o.minPadding < o.maxPadding
    · have hlt' := UInt64.lt_iff_toNat_lt.1 hlt
      rw [if_neg (by omega), if_pos hlt, add_eq (by omega), pure_bind,
        toNat_span (UInt64.le_of_lt hlt) (by omega), Draw.forTunnel_bind]
      exact below_above (by omega) (by omega) (by omega)
    · have hle := UInt64.le_iff_toNat_le.1 (UInt64.not_lt.1 hlt)
      rw [if_pos (by omega), if_neg hlt]
      rfl
  lt := fun h => Nat.lt_succ_of_le
    (Padding.drawLength_le (Padding.modest_of_check ho) (Draw.forTunnel_eq_ok.1 h))

/-- A decoy is laid over the padding where it fits. -/
theorem drawPadding_eq {length : Nat} (h : length < UInt64.size - 1) :
    drawPadding length = of (Padding.drawPadding length).forTunnel := by
  have hdecoys : Padding.decoys.length = 8 := rfl
  have hsize : UInt64.size = 18446744073709551616 := rfl
  rw [drawPadding, Padding.drawPadding, Draw.forTunnel_bind, of_bind]
  refine congrArg _ (funext fun noise => ?_)
  split
  · rfl
  · rw [Draw.forTunnel_bind]
    refine (stands_below (by omega) (by omega)).bind fun choice _ => ?_
    dsimp only
    split
    · rfl
    · rename_i hfit
      rw [sub_eq (by omega), pure_bind, add_eq (by omega), pure_bind, Draw.forTunnel_bind]
      refine (stands_below (by omega) (by omega)).bind fun offset hoffset => ?_
      rw [add_eq (by omega), pure_bind]
      rfl

theorem fill_eq {data : Bytes} {pad : Nat} (hd : data.length ≤ Padding.maxPayload)
    (hpad : pad ≤ 32768) (out : Bytes) :
    fill data pad out = of (Padding.fill data pad out).forTunnel := by
  have hsize : UInt64.size = 18446744073709551616 := rfl
  have hsmall : UInt16.size = 65536 := rfl
  rw [Padding.maxPayload] at hd
  have hstart : Padding.headerLength + data.length < UInt64.size := by
    rw [Padding.headerLength]
    omega
  rw [fill, Padding.fill, narrow, within_eq (by omega), pure_bind, add_eq hstart, pure_bind]
  dsimp only
  split
  · rfl
  · rw [drawPadding_eq (by omega), Draw.forTunnel_bind, of_bind]
    rfl

/-- **Padding a text leaves no range.** A text that is too long is refused before anything is
computed. -/
theorem encodeInto_eq (ho : o.check = .ok ()) (data scratch : Bytes) :
    encodeInto data o scratch = of (Padding.encodeInto data o scratch) := by
  have hsize : UInt64.size = 18446744073709551616 := rfl
  rw [encodeInto, Padding.encodeInto]
  split
  · rfl
  · rename_i hd
    have hd : data.length ≤ Padding.maxPayload := Nat.not_lt.1 hd
    have hshort := hd
    rw [Padding.maxPayload] at hshort
    refine (stands_drawLength ho).bind fun pad hpad => ?_
    have htotal : Padding.headerLength + data.length + pad.toNat < UInt64.size := by
      rw [Padding.headerLength]
      omega
    rw [add_eq (by omega), pure_bind, add_eq htotal, pure_bind]
    dsimp only
    rw [fill_eq hd (by omega), of_bind]
    rfl

/-- Sealing leaves no range for any text that a buffer can hold. -/
theorem sealedLength_eq (s : Settings) {length : Nat} (h : length < UInt64.size / 2) :
    sealedLength s length = pure (s.sealedLength length) := by
  have hsize : UInt64.size = 18446744073709551616 := rfl
  unfold sealedLength Settings.sealedLength
  split
  · have hsum : Cipher.nonceLength + length + Cipher.tagLength < UInt64.size := by
      rw [Cipher.nonceLength, Cipher.tagLength]
      omega
    rw [add_eq (by omega), pure_bind, add_eq hsum, Cipher.sealedLength]
  · rfl

theorem maxFrameLength_eq (s : Settings) : maxFrameLength s = pure s.maxFrameLength := by
  have hsize : UInt64.size = 18446744073709551616 := rfl
  have hlimit : Obfuscation.paddingLimit.toNat = 32768 := rfl
  have hheader : Padding.headerLength = 2 := rfl
  have hpayload : maxFramePayload = 65535 := rfl
  unfold maxFrameLength Settings.maxFrameLength
  split
  · rw [add_eq (by omega), pure_bind, add_eq (by omega), pure_bind, sealedLength_eq s (by omega)]
  · exact sealedLength_eq s (by omega)

end Sizes

end Ranged

/-! ## Delays -/

/-- The delay is drawn from all words: there is one more of them than a word can count. -/
def Obfuscation.WholeRange (o : Obfuscation) : Prop :=
  o.minDelayMs = 0 ∧ o.maxDelayMs = 0xFFFFFFFFFFFFFFFF
  deriving Decidable

namespace Ranged

variable {o : Obfuscation} {length : Nat}

theorem span_of_not_wholeRange (h : ¬o.WholeRange) :
    o.maxDelayMs.toNat - o.minDelayMs.toNat + 1 < UInt64.size := by
  have hsize : UInt64.size = 18446744073709551616 := rfl
  have hmax := o.maxDelayMs.toNat_lt_size
  refine Nat.lt_of_le_of_ne (by omega) fun hall => h ⟨?_, ?_⟩
  · apply UInt64.toNat_inj.1
    rw [UInt64.toNat_zero]
    omega
  · apply UInt64.toNat_inj.1
    show o.maxDelayMs.toNat = UInt64.size - 1
    omega

/-- **A delay leaves no range**, unless there is one and it is drawn from all words. -/
theorem drawDelay_eq (ho : o.check = .ok ())
    (h : o.enabled = true → Jitter.threshold < length → ¬o.WholeRange) :
    drawDelay o length = Option.map UInt64.toNat <$> of (Jitter.drawDelay o length).forTunnel := by
  obtain ⟨-, -, hdelay⟩ := Obfuscation.check_eq_ok_iff.1 ho
  have hle := UInt64.le_iff_toNat_le.1 hdelay
  have hmax := o.maxDelayMs.toNat_lt_size
  have hleast : min o.minDelayMs o.maxDelayMs = o.minDelayMs := if_pos hdelay
  rw [drawDelay, Jitter.drawDelay, hleast, Nat.min_eq_left hle]
  split
  · rfl
  · rename_i hjitter
    simp only [Bool.or_eq_true, not_or, Bool.not_eq_true', decide_eq_true_eq] at hjitter
    obtain ⟨⟨henabled, -⟩, hlong⟩ := hjitter
    have hspan := span_of_not_wholeRange (h (by simpa using henabled) (Nat.not_le.1 hlong))
    dsimp only
    rw [sub_eq hle, pure_bind, add_eq hspan, pure_bind, toNat_span hdelay hspan, map_of,
      Draw.forTunnel_bind, bind_assoc]
    refine (stands_below (Nat.succ_pos _) hspan).bind fun w hw => ?_
    have hfits : o.minDelayMs.toNat + w.toNat < UInt64.size := by omega
    have hsum : (o.minDelayMs + w).toNat = o.minDelayMs.toNat + w.toNat := by
      rw [UInt64.toNat_add, Nat.mod_eq_of_lt hfits]
    rw [add_eq hfits, pure_bind, ← hsum]
    by_cases hzero : o.minDelayMs + w = 0
    · rw [hzero]
      rfl
    · have hsome : (o.minDelayMs + w).toNat ≠ 0 := fun h =>
        hzero (UInt64.toNat_inj.1 (h.trans UInt64.toNat_zero.symm))
      rw [if_neg hzero, if_neg hsome]
      rfl

/-- **A delay that is drawn from all words is never drawn**: the number of candidates leaves the
range, and the word that is left of it is zero. -/
theorem drawDelay_of_wholeRange (h : o.WholeRange) (henabled : o.enabled = true)
    (hlong : Jitter.threshold < length) (e : Entropy) :
    drawDelay o length e = .error none ∧ Jitter.drawDelay o length e = .ok (none, e) := by
  obtain ⟨enabled, minPadding, maxPadding, minDelay, maxDelay⟩ := o
  obtain ⟨rfl, rfl⟩ := h
  obtain rfl := henabled
  have hjitter : ¬(!true || (0xFFFFFFFFFFFFFFFF : UInt64) = 0 || length ≤ Jitter.threshold) := by
    simpa using hlong
  have hleast : min (0 : UInt64) 0xFFFFFFFFFFFFFFFF = 0 := rfl
  -- The numbers in range have no value for the candidates; the words wrap to none of them.
  have hspan : sub (0xFFFFFFFFFFFFFFFF : UInt64).toNat 0 = pure 18446744073709551615 := rfl
  have hcandidates : add 18446744073709551615 1 = throw none := rfl
  have hwrapped : (0xFFFFFFFFFFFFFFFF : UInt64) - 0 + 1 = 0 := rfl
  rw [drawDelay, Jitter.drawDelay, if_neg hjitter, if_neg hjitter, hleast]
  dsimp only
  rw [UInt64.toNat_zero, Nat.zero_min, hspan, pure_bind, hcandidates, hwrapped]
  exact ⟨rfl, rfl⟩

end Ranged

/-! ## Permits -/

namespace Admission

theorem permits_of_pos {n : Nat} (h : 1 ≤ n) : permits n = n :=
  Nat.max_eq_left h

/-- The far end starts exactly if all of its permits can be given out. -/
theorem isSome_start? (n : Nat) : (start? n).isSome ↔ permits n ≤ permitLimit := by
  unfold start?
  split <;> simp [*]

end Admission

/-! ## Checked configurations -/

namespace Config

variable {c : Config}

/-- **What is computed from a checked configuration stays in range**, with two exceptions. Under
every profile a frame carries between one byte and as many as fit, and padding, sealing and the
bound of payloads come to the same with numbers that know their range. So do delays, unless they
are drawn from the whole range of a word: then their number of candidates leaves the range, and no
frame is ever delayed. The far end has at least one permit and as many as were asked for, but it
starts only if that is no more than can be given out. -/
theorem numbers_stay_in_range (hc : c.validate = .ok ()) (profile : String) :
    let t := c.tunables.resolve profile
    let o := c.effectiveObfuscation t
    (1 ≤ t.frameSize.toNat ∧ t.frameSize.toNat ≤ 65535) ∧
      Ranged.drawLength o = UInt64.toNat <$> Ranged.of (Padding.drawLength o).forTunnel ∧
      (∀ data scratch : Bytes,
        Ranged.encodeInto data o scratch = Ranged.of (Padding.encodeInto data o scratch)) ∧
      (∃ s, c.settings t = .ok s ∧ Ranged.maxFrameLength s = pure s.maxFrameLength ∧
        ∀ length < UInt64.size / 2,
          Ranged.sealedLength s length = pure (s.sealedLength length)) ∧
      (∀ length, (o.enabled = true → Jitter.threshold < length → ¬o.WholeRange) →
        Ranged.drawDelay o length =
          Option.map UInt64.toNat <$> Ranged.of (Jitter.drawDelay o length).forTunnel) ∧
      (∀ length e, o.enabled = true → Jitter.threshold < length → o.WholeRange →
        Ranged.drawDelay o length e = .error none ∧
          Jitter.drawDelay o length e = .ok (none, e)) ∧
      ∀ server, c.server = some server →
        let n := server.maxConnections.toNat
        1 ≤ n ∧ Admission.permits n = n ∧
          ((Admission.start? n).isSome ↔ n ≤ Admission.permitLimit) := by
  intro t o
  have ho : o.check = .ok () := check_effectiveObfuscation (check_of_validate hc) t
  obtain ⟨s, hs, -⟩ := c.settings_eq_ok t
  refine ⟨c.tunables.frameSize_resolve profile, (Ranged.stands_drawLength ho).eq,
    Ranged.encodeInto_eq ho,
    ⟨s, hs, Ranged.maxFrameLength_eq s, fun _ hlength => Ranged.sealedLength_eq s hlength⟩,
    fun length hsome => Ranged.drawDelay_eq ho hsome,
    fun length e henabled hlong hwhole => Ranged.drawDelay_of_wholeRange hwhole henabled hlong e,
    fun server hserver => ?_⟩
  intro n
  have hpos : 1 ≤ n := UInt64.pos_iff_ne_zero.2 (maxConnections_of_validate hc hserver)
  have hpermits := Admission.permits_of_pos hpos
  refine ⟨hpos, hpermits, ?_⟩
  rw [Admission.isSome_start?, hpermits]

/-- The starting configuration with a delay between 5 and 20 milliseconds: a long frame is delayed
by what the numbers in range say, and the far end starts. -/
theorem starter_numbers_stay_in_range :
    let c : Config := { starter with obfuscation := { minDelayMs := 5, maxDelayMs := 20 } }
    let o := c.effectiveObfuscation (c.tunables.resolve "balanced")
    c.validate = .ok () ∧ ¬o.WholeRange ∧ o.enabled = true ∧
      Ranged.drawDelay o 1000 =
        Option.map UInt64.toNat <$> Ranged.of (Jitter.drawDelay o 1000).forTunnel ∧
      (Admission.start? 1000).isSome := by
  intro c o
  have hvalid : c.validate = .ok () := rfl
  have hdelay : ¬o.WholeRange := by decide
  obtain ⟨-, -, -, -, hdelays, -, hpermits⟩ := numbers_stay_in_range hvalid "balanced"
  exact ⟨hvalid, hdelay, rfl, hdelays 1000 fun _ _ => hdelay, (hpermits {} rfl).2.2.2 (by decide)⟩

/-- **A checked configuration with numbers out of range.** One connection more is asked for than
permits can be given out, so the far end does not start; and the delay is drawn from all words, so
nothing is delayed. -/
theorem numbers_out_of_range :
    let c : Config :=
      { starter with
        obfuscation := { maxDelayMs := 0xFFFFFFFFFFFFFFFF }
        server := some { maxConnections := 2305843009213693952 } }
    let o := c.effectiveObfuscation (c.tunables.resolve "balanced")
    let e := Entropy.ofBytes (Bytes.zeros 8)
    c.validate = .ok () ∧
      Admission.permitLimit < Admission.permits 2305843009213693952 ∧
      Admission.start? 2305843009213693952 = none ∧
      Ranged.drawDelay o 1000 e = .error none ∧ Jitter.drawDelay o 1000 e = .ok (none, e) := by
  intro c o e
  have hwhole : o.WholeRange := ⟨rfl, rfl⟩
  have hlong : Jitter.threshold < 1000 := by decide
  obtain ⟨hranged, hdrawn⟩ := Ranged.drawDelay_of_wholeRange hwhole rfl hlong e
  exact ⟨rfl, by decide, by decide, hranged, hdrawn⟩

end Config

end SealedTunnel
