import SealedTunnel.Cipher
import SealedTunnel.Proofs.Bytes
import SealedTunnel.Proofs.Random

/-!
# Opening undoes sealing

Both ciphers combine a text with a keystream of its own length, so doing it twice gives the text
back; and the tag that is recomputed is the one that was written. A text sealed into a buffer is
the nonce, the ciphertext and the tag, whatever the buffer held before.

## Main results

* `Cipher.length_sealUnder`: sealing lengthens a text by the overhead
* `Cipher.openInPlace_sealUnder`: opening gives the text
* `Cipher.sealInto_eq`: the buffer that is sealed into does not matter
-/

namespace SealedTunnel

/-! ## Keystreams are as long as asked for -/

theorem length_flatMap_const {α : Type} {f : α → Bytes} {w : Nat}
    (hf : ∀ a, (f a).length = w) (l : List α) : (l.flatMap f).length = l.length * w := by
  induction l with
  | nil => rw [List.flatMap_nil, List.length_nil, List.length_nil, Nat.zero_mul]
  | cons a l ih =>
    rw [List.flatMap_cons, List.length_append, hf, ih, List.length_cons, Nat.succ_mul, Nat.add_comm]

theorem Gcm.length_keystream (key nonce : Bytes) (length : Nat) :
    (Gcm.keystream key nonce length).length = length := by
  unfold Gcm.keystream
  rw [List.length_take, length_flatMap_const fun _ => Aes.Columns.length_bytes _, List.length_range]
  omega

theorem ChaChaPoly.length_block (start : ChaChaPoly.State) :
    (ChaChaPoly.block start).length = 64 := by
  unfold ChaChaPoly.block
  rw [length_flatMap_const (w := 4) fun _ => rfl, Vector.length_toList]

theorem ChaChaPoly.length_keystream (key nonce : Bytes) (length : Nat) :
    (ChaChaPoly.keystream key nonce length).length = length := by
  unfold ChaChaPoly.keystream
  rw [List.length_take, length_flatMap_const fun _ => ChaChaPoly.length_block _, List.length_range]
  omega

namespace Cipher

variable (c : Cipher) (nonce plain : Bytes)

@[simp] theorem length_keystream (length : Nat) : (c.keystream nonce length).length = length := by
  unfold keystream
  cases c.algorithm with
  | aes256Gcm => exact Gcm.length_keystream _ _ _
  | chaCha20Poly1305 => exact ChaChaPoly.length_keystream _ _ _

@[simp] theorem length_tag : (c.tag nonce plain).length = tagLength := by
  unfold tag
  cases c.algorithm with
  | aes256Gcm => exact Gcm.length_tag _ _ _
  | chaCha20Poly1305 => exact ChaChaPoly.length_tag _ _ _

@[simp] theorem length_crypt : (c.crypt nonce plain).length = plain.length := by
  rw [crypt, Bytes.length_xor, length_keystream, Nat.min_self]

/-- Encrypting twice under one nonce gives the text back. -/
theorem crypt_crypt : c.crypt nonce (c.crypt nonce plain) = plain := by
  rw [crypt, length_crypt, crypt]
  exact Bytes.xor_xor (Nat.le_of_eq (length_keystream ..).symm)

variable {nonce}

theorem length_sealUnder (hn : nonce.length = nonceLength) :
    (c.sealUnder nonce plain).length = sealedLength plain.length := by
  rw [sealUnder, List.length_append, List.length_append, length_crypt, length_tag, hn, sealedLength]

/-! ## Opening -/

variable {text mark : Bytes}

theorem take_parts (hn : nonce.length = nonceLength) :
    (nonce ++ text ++ mark).take nonceLength = nonce := by
  rw [List.append_assoc, List.take_left' hn]

theorem drop_parts (ht : mark.length = tagLength) :
    (nonce ++ text ++ mark).drop ((nonce ++ text ++ mark).length - tagLength) = mark := by
  have hlen : (nonce ++ text ++ mark).length = (nonce ++ text).length + mark.length :=
    List.length_append
  apply List.drop_left'
  rw [hlen, ht, Nat.add_sub_cancel]

/-- Opening a nonce, a ciphertext and a tag compares the tag with that of the other two. -/
theorem openInPlace_parts (hn : nonce.length = nonceLength) (ht : mark.length = tagLength) :
    c.openInPlace (nonce ++ text ++ mark) =
      if c.tag nonce text = mark then
        .ok (c.crypt nonce text, nonce ++ c.crypt nonce text ++ mark)
      else .error .notAuthentic := by
  have hlen : (nonce ++ text ++ mark).length = overhead + text.length := by
    simp only [List.length_append, hn, ht, overhead]
    omega
  have htext : ((nonce ++ text ++ mark).drop nonceLength).take
      ((nonce ++ text ++ mark).length - overhead) = text := by
    rw [hlen, List.append_assoc, List.drop_left' hn, Nat.add_sub_cancel_left, List.take_left]
  unfold openInPlace
  rw [if_neg (by omega)]
  simp only [take_parts hn, htext, drop_parts ht]

/-- **Opening undoes sealing**: a text sealed under any nonce opens to that text. -/
theorem openInPlace_sealUnder (hn : nonce.length = nonceLength) :
    c.openInPlace (c.sealUnder nonce plain) =
      .ok (plain, nonce ++ plain ++ c.tag nonce (c.crypt nonce plain)) := by
  rw [sealUnder]
  simp only [openInPlace_parts c hn (length_tag ..), ↓reduceIte, crypt_crypt]

/-- What a buffer opens to is as long as a text whose sealed form has the length of the buffer. -/
theorem sealedLength_of_openInPlace {buffer room : Bytes}
    (h : c.openInPlace buffer = .ok (plain, room)) : sealedLength plain.length = buffer.length := by
  unfold openInPlace at h
  dsimp only at h
  split at h
  · cases h
  · rename_i hlong
    split at h
    · obtain ⟨rfl, -⟩ := Prod.mk.inj (Except.ok.inj h)
      rw [length_crypt, List.length_take, List.length_drop]
      simp only [sealedLength, overhead] at hlong ⊢
      omega
    · cases h

/-! ## Sealing into a buffer -/

/-- Nonce, text and tag written one after the other leave nothing of the buffer. -/
theorem overwrite_eq_sealUnder {out : Bytes} (h : out.length = sealedLength plain.length)
    (hn : nonce.length = nonceLength) :
    (((out.overwrite 0 nonce).overwrite nonceLength plain).overwrite nonceLength
      (c.crypt nonce plain)).overwrite (nonceLength + plain.length)
        (c.tag nonce (c.crypt nonce plain)) = c.sealUnder nonce plain := by
  have hrest : (out.drop nonceLength).length = plain.length + tagLength := by
    rw [List.length_drop, h, sealedLength]
    omega
  obtain ⟨body, tail, hout, hbody⟩ : ∃ body tail, out.drop nonceLength = body ++ tail ∧
      body.length = plain.length :=
    ⟨_, _, (List.take_append_drop plain.length _).symm, by
      rw [List.length_take, hrest]
      omega⟩
  have htail : tail.length = tagLength := by
    rw [hout, List.length_append, hbody] at hrest
    omega
  -- The text is written twice over the same place: as it is, and encrypted.
  have step : ∀ old new : Bytes, old.length = new.length →
      (nonce ++ (old ++ tail)).overwrite nonceLength new = nonce ++ (new ++ tail) := by
    intro old new hl
    rw [Bytes.overwrite, List.take_left' hn, ← hl, ← hn, ← List.length_append,
      ← List.append_assoc, List.drop_left, List.append_assoc]
  rw [Bytes.overwrite_zero, hn, hout, step _ _ hbody, step _ _ (length_crypt ..).symm,
    ← List.append_assoc, Bytes.overwrite_append _ (htail.trans (length_tag ..).symm)]
  · rfl
  · rw [List.length_append, hn, length_crypt]

/-- What sealing over a buffer of the right size leaves of it: the sealed text, and all of it where
no nonce can be drawn. -/
theorem sealOver_eq {out : Bytes} (h : out.length = sealedLength plain.length) (e : Entropy) :
    c.sealOver plain out e =
      match Draw.bytes nonceLength e with
      | .error err => (.error err, out, e)
      | .ok (nonce, e) => (.ok (), c.sealUnder nonce plain, e) := by
  rw [sealOver, if_neg (not_not_intro h)]
  cases hd : Draw.bytes nonceLength e with
  | error err => rfl
  | ok r =>
    dsimp only
    rw [overwrite_eq_sealUnder c plain h (Draw.length_bytes hd)]

/-- **The buffer that is sealed into does not matter**, as long as it has the right size. -/
theorem sealInto_eq {out : Bytes} (h : out.length = sealedLength plain.length) :
    c.sealInto plain out = do return c.sealUnder (← Draw.bytes nonceLength) plain := by
  funext e
  rw [sealInto, c.sealOver_eq plain h, Draw.bind_apply]
  cases Draw.bytes nonceLength e <;> rfl

end Cipher

end SealedTunnel
