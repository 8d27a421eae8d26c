import SealedTunnel.Proofs.Config.Resolved
import SealedTunnel.Proofs.Conn.Session

/-!
# Two ends under different profiles

The two ends of a tunnel may share a configuration and still run under different profiles, since
each may be given another one when it is started. Only `performance` decides a switch that both ends
have to agree on: it turns the disguise and compression off. So two ends understand each other if
both run under that profile, or neither does; and if one of them does, exactly if the configuration
has turned both off already.

## Main definitions

* `Profile.named`: the profile that a name stands for
* `Config.under`: the configuration of an end that is started with a profile
* `Settings.ReadsBack`: what is written with some settings is read with others

## Main results

* `Profile.compression_resolve`, `Profile.obfuscation_resolve`: what a profile does to the switches
  that both ends have to agree on
* `Settings.Agree.readsBack`: ends that agree on these read what the other has written
* `Config.profiles_understand`: when two ends with one configuration agree
-/

namespace SealedTunnel

/-! ## Profiles -/

namespace Profile

/-- The profile that a name stands for; an unknown name stands for the balanced one. -/
def named (name : String) : Profile :=
  (ofName? name).getD .balanced

theorem compression_resolve (p : Profile) (base : Tunables) :
    (p.resolve base).compression = if p = .performance then .none else base.compression := by
  cases p <;> rfl

theorem obfuscation_resolve (p : Profile) (base : Tunables) :
    (p.resolve base).obfuscation = if p = .performance then false else base.obfuscation := by
  cases p <;> rfl

end Profile

/-! ## What is read back -/

namespace Settings

/-- **What is written with the settings of one end is read back with those of the other.** Over any
stream that carries what is put in, whatever is drawn and in whatever order the two ends move, no
read fails, what the reads give are the bytes that were written from the first on, and nobody is
told of an end before all of them were given. Once the writing end has closed, more reads than there
are bytes give all of them. -/
def ReadsBack (near far : Settings) : Prop :=
  ∀ (τ : Type) (link : Carrier τ) (fuel : Nat) (queue : τ → Bytes) (closed : τ → Bool),
    link.Carries queue closed →
    ∀ (sender receiver : Channel τ), sender.stream = receiver.stream →
      closed receiver.stream = false → queue receiver.stream = [] → sender.writeLine = [] →
      receiver.reader = {} → receiver.readLine = [] →
      ∀ (program : List Bytes) (events : List Event),
        let c : Circuit τ := { near, far, link, fuel }
        let t := Session.run c events { sender, receiver, todo := program }
        (∀ r ∈ t.outcomes, ∃ bs, r = .ready bs) ∧
          t.outcomes.flatMap Poll.bytes <+: program.flatten ∧
          (∀ r ∈ t.outcomes, r.bytes = [] →
            t.fate = .closed ∧ t.outcomes.flatMap Poll.bytes = program.flatten) ∧
          (link.AtOnce (closed · = true) → t.fate = .closed →
            (queue t.receiver.stream).length < fuel →
            ∀ rooms : List Nat, (∀ n ∈ rooms, 0 < n) → program.flatten.length < rooms.length →
              (t.run c (rooms.map .receive)).outcomes.flatMap Poll.bytes = program.flatten)

theorem Agree.symm {a b : Settings} (h : Agree a b) : Agree b a :=
  ⟨h.cipher.symm, h.padded.symm, h.compression.symm⟩

/-- **Ends that agree read what the other has written**, whatever the sizes of their frames. -/
theorem Agree.readsBack {near far : Settings} (h : Agree near far)
    (ho : near.obfuscation.check = .ok ()) : ReadsBack near far := by
  intro τ link fuel queue closed hc sender receiver hstream hopen hempty hwriters hreader
    hreaders program events c t
  have hstart := Session.sound_start (c := c) program hstream hopen hempty hwriters hreader hreaders
  obtain ⟨chunks, untold, coming, begun, hsound⟩ :=
    Session.run_sound hc h ho events ⟨_, _, _, _, hstart⟩
  obtain ⟨hpre, hend⟩ := hsound.bytes_outcomes
  refine ⟨hsound.outcomes_ready, hpre, hend, ?_⟩
  intro hd hfate hfuel rooms hrooms hmany
  exact Session.bytes_run_receive hc h ho hd hsound hfate hfuel hrooms hmany

end Settings

/-! ## One configuration under two profiles -/

namespace Config

variable {c : Config}

/-- The configuration of an end that is started with a profile of its own. -/
def under (c : Config) (profile : String) : Config :=
  { c with profile }

theorem resolvedTunables_under (c : Config) (profile : String) :
    (c.under profile).resolvedTunables = (Profile.named profile).resolve c.tunables := rfl

/-- Whether the texts of a connection are padded if its profile does not decide it. -/
def disguised (c : Config) : Bool :=
  c.tunables.obfuscation && c.obfuscation.enabled

theorem enabled_effectiveObfuscation (c : Config) (t : Tunables) :
    (c.effectiveObfuscation t).enabled = (t.obfuscation && c.obfuscation.enabled) := by
  unfold effectiveObfuscation
  cases t.obfuscation <;> cases t.jitter <;> rfl

/-- The settings under a profile: those of the configuration, but for what `performance` turns
off. -/
theorem settings_under (c : Config) (profile : String) :
    ∃ s, (c.under profile).settings (c.under profile).resolvedTunables = .ok s ∧
      c.cipher? = .ok s.cipher ∧
      s.obfuscation = c.effectiveObfuscation ((Profile.named profile).resolve c.tunables) ∧
      s.obfuscation.enabled = (if Profile.named profile = .performance then false
        else c.disguised) ∧
      s.compression = (if Profile.named profile = .performance then .none
        else c.tunables.compression) := by
  obtain ⟨cipher, hcipher, -⟩ := c.cipher?_eq_ok
  rw [resolvedTunables_under]
  generalize Profile.named profile = p
  let t := p.resolve c.tunables
  refine ⟨⟨cipher, c.effectiveObfuscation t, t.compression, t.frameSize⟩, ?_, hcipher, rfl, ?_, ?_⟩
  · have hunder : (c.under profile).cipher? = .ok cipher := hcipher
    rw [settings, hunder]
    rfl
  · rw [enabled_effectiveObfuscation, Profile.obfuscation_resolve, disguised]
    split
    · rfl
    · rfl
  · exact p.compression_resolve c.tunables

/-- An end with both switches off agrees with one that has them as configured exactly if they are
configured off. -/
theorem agree_off_iff {near far : Settings} (hcipher : near.cipher = far.cipher)
    (hplain : near.obfuscation.enabled = false) (hnone : near.compression = .none)
    (hpadded : far.obfuscation.enabled = c.disguised)
    (hcompression : far.compression = c.tunables.compression) :
    Settings.Agree near far ↔ c.tunables.compression = .none ∧ c.disguised = false := by
  constructor
  · intro h
    constructor
    · rw [← hcompression, ← h.compression, hnone]
    · rw [← hpadded, ← h.padded, hplain]
  · rintro ⟨hnone', hplain'⟩
    exact ⟨hcipher, by rw [hplain, hpadded, hplain'], by rw [hnone, hcompression, hnone']⟩

/-- **Two ends with one configuration understand each other** under whatever profiles they are
started with, if both stand for `performance` or neither does. If one of them does, they agree
exactly if the configuration turns compression and the disguise off. Ends that agree read what the
other has written, in both directions. -/
theorem profiles_understand (hc : c.validate = .ok ()) (p q : String) :
    ∃ near far,
      (c.under p).settings (c.under p).resolvedTunables = .ok near ∧
        (c.under q).settings (c.under q).resolvedTunables = .ok far ∧
        ((Profile.named p = .performance ↔ Profile.named q = .performance) →
          Settings.Agree near far) ∧
        (¬(Profile.named p = .performance ↔ Profile.named q = .performance) →
          (Settings.Agree near far ↔ c.tunables.compression = .none ∧ c.disguised = false)) ∧
        (Settings.Agree near far →
          Settings.ReadsBack near far ∧ Settings.ReadsBack far near) := by
  obtain ⟨near, hnear, hcipher, heffective, hpadded, hcompression⟩ := c.settings_under p
  obtain ⟨far, hfar, hcipher', heffective', hpadded', hcompression'⟩ := c.settings_under q
  have hsame : near.cipher = far.cipher := Except.ok.inj (hcipher.symm.trans hcipher')
  refine ⟨near, far, hnear, hfar, ?_, ?_, ?_⟩
  · intro hboth
    rw [← if_congr hboth rfl rfl] at hpadded' hcompression'
    exact ⟨hsame, hpadded.trans hpadded'.symm, hcompression.trans hcompression'.symm⟩
  · intro hone
    by_cases hp : Profile.named p = .performance
    · have hq : Profile.named q ≠ .performance := fun hq => hone (iff_of_true hp hq)
      rw [if_pos hp] at hpadded hcompression
      rw [if_neg hq] at hpadded' hcompression'
      exact agree_off_iff hsame hpadded hcompression hpadded' hcompression'
    · have hq : Profile.named q = .performance := by
        by_contra hq
        exact hone (iff_of_false hp hq)
      rw [if_neg hp] at hpadded hcompression
      rw [if_pos hq] at hpadded' hcompression'
      have hoff := agree_off_iff hsame.symm hpadded' hcompression' hpadded hcompression
      exact ⟨fun h => hoff.1 h.symm, fun h => (hoff.2 h).symm⟩
  · intro h
    have hcheck := check_of_validate hc
    constructor
    · apply h.readsBack
      rw [heffective]
      exact check_effectiveObfuscation hcheck _
    · apply h.symm.readsBack
      rw [heffective']
      exact check_effectiveObfuscation hcheck _

/-- One end runs under `latency` and sends long frames, the other under a name that nobody knows and
sends frames of two bytes. What the second one writes, padded and compressed, reaches the first. -/
theorem profiles_understand_latency :
    let c : Config :=
      { tunables := { frameSize := 2, compression := .snappy }
        obfuscation := { minPadding := 1, maxPadding := 1 } }
    let pipe : Pipe := { capacity := 7 }
    let sender : Channel Pipe :=
      { pool := .empty 4 0, entropy := .ofBytes [9, 9, 9], stream := pipe }
    let receiver : Channel Pipe := { pool := .empty 8 1, entropy := .ofBytes [], stream := pipe }
    c.validate = .ok () ∧ Profile.named "latency" ≠ .performance ∧
      Profile.named "warp-speed" ≠ .performance ∧
      ∃ near far,
        (c.under "latency").settings (c.under "latency").resolvedTunables = .ok near ∧
          (c.under "warp-speed").settings (c.under "warp-speed").resolvedTunables = .ok far ∧
          near.frameSize = 32768 ∧ far.frameSize = 2 ∧ Settings.Agree near far ∧
          let circuit : Circuit Pipe :=
            { near := far, far := near, link := Pipe.ends, fuel := 20 }
          let t := Session.run circuit (List.replicate 20 [Event.send, .receive 1]).flatten
            { sender, receiver, todo := [[1, 2, 3], [4]] }
          t.fate = .closed ∧
            (t.run circuit ([9, 9, 9, 9, 9].map .receive)).outcomes.flatMap Poll.bytes =
              [1, 2, 3, 4] := by
  intro c pipe sender receiver
  have hvalid : c.validate = .ok () := rfl
  have hp : Profile.named "latency" = .latency := by decide +kernel
  have hq : Profile.named "warp-speed" = .balanced := by decide +kernel
  obtain ⟨near, far, hnear, hfar, hagree, -, hreads⟩ :=
    profiles_understand hvalid "latency" "warp-speed"
  have hboth : Profile.named "latency" = .performance ↔
      Profile.named "warp-speed" = .performance := by rw [hp, hq]; decide
  have hagree := hagree hboth
  refine ⟨hvalid, by rw [hp]; decide, by rw [hq]; decide, near, far, hnear, hfar, ?_⟩
  -- The settings of the two ends are known, so the run up to the closing can be evaluated.
  rw [resolvedTunables_under, hp] at hnear
  rw [resolvedTunables_under, hq] at hfar
  obtain rfl := Except.ok.inj hnear
  obtain rfl := Except.ok.inj hfar
  refine ⟨rfl, rfl, hagree, ?_⟩
  intro circuit t
  obtain ⟨-, -, -, hall⟩ := (hreads hagree).2 Pipe Pipe.ends 20 _ _ Pipe.carries sender
    receiver rfl rfl rfl rfl rfl rfl [[1, 2, 3], [4]]
    (List.replicate 20 [Event.send, .receive 1]).flatten
  refine ⟨?_, hall Pipe.atOnce ?_ ?_ [9, 9, 9, 9, 9] (by decide) (by decide)⟩
  all_goals decide +kernel

end Config

end SealedTunnel
