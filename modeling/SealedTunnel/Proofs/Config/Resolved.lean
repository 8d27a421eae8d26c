import SealedTunnel.Config.Basic

/-!
# What a checked configuration resolves to

Checking a configuration looks at its ranges and at the number of connections; everything else is
brought into range when the profile is applied. From a checked configuration settings can always be
made, and whichever profile they are made under, their ranges are in order and a frame carries
between one byte and as many as fit.

## Main results

* `Config.check_of_validate`, `Config.maxConnections_of_validate`: what checking makes sure of
* `Config.check_effectiveObfuscation`: the switches of a profile keep the ranges in order
* `Tunables.frameSize_resolve`: the size of frames is in range under every profile
* `Config.settings_eq_ok`: settings can be made from every configuration
-/

namespace SealedTunnel

theorem toNat_min (a b : UInt64) : (min a b).toNat = min a.toNat b.toNat := by
  show (if a ≤ b then a else b).toNat = _
  split
  · rename_i h
    exact (Nat.min_eq_left (UInt64.le_iff_toNat_le.1 h)).symm
  · rename_i h
    exact (Nat.min_eq_right (UInt64.le_iff_toNat_le.1 (UInt64.le_of_lt (UInt64.not_le.1 h)))).symm

theorem toNat_max (a b : UInt64) : (max a b).toNat = max a.toNat b.toNat := by
  show (if a ≤ b then b else a).toNat = _
  split
  · rename_i h
    exact (Nat.max_eq_right (UInt64.le_iff_toNat_le.1 h)).symm
  · rename_i h
    exact (Nat.max_eq_left (UInt64.le_iff_toNat_le.1 (UInt64.le_of_lt (UInt64.not_le.1 h)))).symm

/-! ## The profile -/

namespace Profile

theorem frameSize_fill_pos (p : Profile) (base : Tunables) : 0 < (p.fill base).frameSize := by
  unfold fill
  dsimp only
  split
  · decide
  · rename_i h
    exact UInt64.pos_iff_ne_zero.2 h

theorem frameSize_raise_pos {t : Tunables} (h : 0 < t.frameSize) (p : Profile) :
    0 < (p.raise t).frameSize := by
  show 0 < if t.frameSize ≤ p.floors.frameSize then p.floors.frameSize else t.frameSize
  split
  · exact UInt64.lt_of_lt_of_le h ‹_›
  · exact h

theorem frameSize_override (p : Profile) (t : Tunables) :
    (p.override t).frameSize = t.frameSize := by
  cases p <;> rfl

end Profile

/-- **The size of frames is in range under every profile**, whatever was configured. -/
theorem Tunables.frameSize_resolve (base : Tunables) (name : String) :
    1 ≤ (base.resolve name).frameSize.toNat ∧ (base.resolve name).frameSize.toNat ≤ 65535 := by
  unfold resolve
  generalize (Profile.ofName? name).getD .balanced = p
  show 1 ≤ (min (p.override (p.raise (p.fill base))).frameSize maxFrameSize).toNat ∧
    (min (p.override (p.raise (p.fill base))).frameSize maxFrameSize).toNat ≤ 65535
  have hpos := Profile.frameSize_raise_pos (p.frameSize_fill_pos base) p
  rw [p.frameSize_override]
  generalize (p.raise (p.fill base)).frameSize = size at hpos
  show 1 ≤ (if size ≤ maxFrameSize then size else maxFrameSize).toNat ∧
    (if size ≤ maxFrameSize then size else maxFrameSize).toNat ≤ 65535
  split
  · exact ⟨hpos, ‹_›⟩
  · decide

/-- Ranges are in order when their bounds are, and the padding stays below its limit. -/
theorem Obfuscation.check_eq_ok_iff {o : Obfuscation} :
    o.check = .ok () ↔
      o.minPadding ≤ o.maxPadding ∧ o.maxPadding ≤ paddingLimit ∧ o.minDelayMs ≤ o.maxDelayMs := by
  unfold check
  constructor
  · intro h
    split at h
    · cases h
    split at h
    · cases h
    split at h
    · cases h
    · exact ⟨UInt64.not_lt.1 ‹_›, UInt64.not_lt.1 ‹_›, UInt64.not_lt.1 ‹_›⟩
  · rintro ⟨hpadding, hlimit, hdelay⟩
    rw [if_neg (UInt64.not_lt.2 hpadding), if_neg (UInt64.not_lt.2 hlimit),
      if_neg (UInt64.not_lt.2 hdelay)]

namespace Psk

/-- A key can be derived from whatever is not empty. -/
theorem deriveKey_eq_ok {psk : String} (h : psk.isEmpty = false) :
    ∃ key, deriveKey psk = .ok key ∧ key.length = 32 := by
  have hlength : Cipher.keyLength ≤ Hkdf.maxLength := by decide
  unfold deriveKey
  rw [h, if_neg Bool.false_ne_true, expand, Hkdf.derive?]
  cases hexpand : Hkdf.expand? (Hkdf.extract salt (Bytes.ofString psk)) frameKeyInfo
      Cipher.keyLength with
  | some key => exact ⟨key, rfl, Hkdf.length_of_expand? hexpand⟩
  | none =>
    rw [Hkdf.expand?, if_pos hlength] at hexpand
    cases hexpand

end Psk

namespace Config

variable {c : Config}

/-! ## Checking -/

theorem check_of_validate (h : c.validate = .ok ()) : c.obfuscation.check = .ok () := by
  unfold validate fault? at h
  cases hc : c.obfuscation.check with
  | ok => rfl
  | error fault =>
    rw [hc] at h
    cases h

theorem maxConnections_of_validate (h : c.validate = .ok ()) {server : ServerSection}
    (hs : c.server = some server) : server.maxConnections ≠ 0 := by
  intro hzero
  unfold validate fault? at h
  rw [check_of_validate h] at h
  simp [hs, hzero] at h

/-! ## Settings -/

/-- **The switches of a profile keep the ranges in order.** -/
theorem check_effectiveObfuscation (h : c.obfuscation.check = .ok ()) (t : Tunables) :
    (c.effectiveObfuscation t).check = .ok () := by
  obtain ⟨hpadding, hlimit, hdelay⟩ := Obfuscation.check_eq_ok_iff.1 h
  unfold effectiveObfuscation
  refine Obfuscation.check_eq_ok_iff.2 ?_
  cases t.jitter with
  | true => cases t.obfuscation <;> exact ⟨hpadding, hlimit, hdelay⟩
  | false => cases t.obfuscation <;> exact ⟨hpadding, hlimit, UInt64.le_refl 0⟩

theorem cipher?_eq_ok (c : Config) :
    ∃ cipher, c.cipher? = .ok cipher ∧ cipher.isSome = !c.psk.isEmpty := by
  unfold cipher?
  cases hpsk : c.psk.isEmpty with
  | true => exact ⟨none, rfl, rfl⟩
  | false =>
    obtain ⟨key, hkey, hlength⟩ := Psk.deriveKey_eq_ok hpsk
    refine ⟨some ⟨c.cipher, key, hlength⟩, ?_, rfl⟩
    rw [if_neg Bool.false_ne_true, Cipher.ofPsk, hkey]
    show some <$> Cipher.ofKey c.cipher key = _
    rw [Cipher.ofKey, dif_pos hlength]
    rfl

/-- **Settings can be made from every configuration**, with a cipher exactly if there is a
pre-shared key. -/
theorem settings_eq_ok (c : Config) (t : Tunables) :
    ∃ s, c.settings t = .ok s ∧ s.cipher.isSome = !c.psk.isEmpty ∧
      s.obfuscation = c.effectiveObfuscation t ∧ s.compression = t.compression ∧
      s.frameSize = t.frameSize := by
  obtain ⟨cipher, hcipher, hsome⟩ := c.cipher?_eq_ok
  refine ⟨⟨cipher, c.effectiveObfuscation t, t.compression, t.frameSize⟩, ?_, hsome, rfl, rfl, rfl⟩
  rw [settings, hcipher]
  rfl

end Config

end SealedTunnel
