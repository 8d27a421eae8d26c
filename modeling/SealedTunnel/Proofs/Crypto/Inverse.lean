import SealedTunnel.Proofs.Crypto.Standard

/-!
# Opening is the inverse of sealing

A sealed text opens to just the text that it was made of, and nothing else opens: whatever a byte
string of the right length holds, it is the sealed form of at most one text, and it is one only with
the tag that its nonce and its ciphertext have. Sealing over a buffer writes all of it, or none.

## Main results

* `Cipher.openInPlace_eq_ok`: what opens, and what is left in the buffer
* `Cipher.sealUnder_injective`: no two texts have one sealed form
* `Cipher.opens_one_tag`: a nonce and a ciphertext open with one tag
* `Cipher.open_inverts_seal`: both directions, the buffers and the standard together
-/

namespace SealedTunnel.Cipher

variable (c : Cipher) {nonce text plain : Bytes}

/-! ## What opens -/

/-- The sealed form of what a nonce and a ciphertext decrypt to is that nonce and that ciphertext,
with their tag. -/
theorem sealUnder_crypt (nonce text : Bytes) :
    c.sealUnder nonce (c.crypt nonce text) = nonce ++ text ++ c.tag nonce text := by
  rw [sealUnder, crypt_crypt]

/-- A byte string that is long enough is a nonce, a ciphertext and a tag. -/
theorem exists_parts {buffer : Bytes} (h : overhead ≤ buffer.length) :
    ∃ nonce text tag, buffer = nonce ++ text ++ tag ∧ nonce.length = nonceLength ∧
      tag.length = tagLength := by
  refine ⟨buffer.take nonceLength, (buffer.drop nonceLength).take (buffer.length - overhead),
    buffer.drop (buffer.length - tagLength), ?_, ?_, ?_⟩
  · have hrest : buffer.drop (buffer.length - tagLength) =
        (buffer.drop nonceLength).drop (buffer.length - overhead) := by
      rw [List.drop_drop]
      congr 1
      simp only [overhead] at h ⊢
      omega
    rw [hrest, List.append_assoc, List.take_append_drop, List.take_append_drop]
  · simp only [overhead] at h
    simp
    omega
  · simp only [overhead] at h
    simp
    omega

/-- **What opens.** A buffer opens to a text just if it is the sealed form of that text under the
nonce in front of it; then the text stands in it where its encrypted form stood. -/
theorem openInPlace_eq_ok {buffer room : Bytes} :
    c.openInPlace buffer = .ok (plain, room) ↔
      overhead ≤ buffer.length ∧ buffer = c.sealUnder (buffer.take nonceLength) plain ∧
        room = buffer.take nonceLength ++ plain ++ buffer.drop (buffer.length - tagLength) := by
  constructor
  · intro h
    have hlen : overhead ≤ buffer.length := by
      rw [← c.sealedLength_of_openInPlace plain h, sealedLength, overhead]
      omega
    obtain ⟨nonce, text, tag, rfl, hn, ht⟩ := exists_parts hlen
    rw [openInPlace_parts c hn ht] at h
    split at h
    · rename_i htag
      obtain ⟨rfl, rfl⟩ := Prod.mk.inj (Except.ok.inj h)
      rw [take_parts hn, drop_parts ht, sealUnder_crypt, htag]
      exact ⟨hlen, rfl, rfl⟩
    · cases h
  · rintro ⟨hlen, hsealed, rfl⟩
    have hn : (buffer.take nonceLength).length = nonceLength := by
      rw [List.length_take]
      simp only [overhead] at hlen
      omega
    generalize buffer.take nonceLength = nonce at hsealed hn
    subst hsealed
    have hback : (c.sealUnder nonce plain).drop ((c.sealUnder nonce plain).length - tagLength) =
        c.tag nonce (c.crypt nonce plain) := drop_parts (length_tag ..)
    rw [hback]
    exact c.openInPlace_sealUnder plain hn

/-- Whatever does not open is not authentic. -/
theorem openInPlace_eq_error {buffer : Bytes} {err : CryptoError}
    (h : c.openInPlace buffer = .error err) : err = .notAuthentic := by
  unfold openInPlace at h
  dsimp only at h
  split at h
  · exact (Except.error.inj h).symm
  · split at h
    · cases h
    · exact (Except.error.inj h).symm

/-- Opening apart and opening in place agree; the buffer then holds the text between the nonce and
the tag that it held before. -/
theorem openInPlace_eq_ok_iff {buffer room : Bytes} :
    c.openInPlace buffer = .ok (plain, room) ↔
      c.open? buffer = .ok plain ∧
        room = buffer.take nonceLength ++ plain ++ buffer.drop (buffer.length - tagLength) := by
  unfold open?
  constructor
  · intro h
    rw [h]
    exact ⟨rfl, (c.openInPlace_eq_ok.1 h).2.2⟩
  · rintro ⟨h, rfl⟩
    cases hopen : c.openInPlace buffer with
    | error err =>
      rw [hopen] at h
      cases h
    | ok r =>
      rw [hopen] at h
      obtain ⟨found, room⟩ := r
      obtain rfl : found = plain := Except.ok.inj h
      rw [(c.openInPlace_eq_ok.1 hopen).2.2]

theorem openInPlace_eq_error_iff {buffer : Bytes} {err : CryptoError} :
    c.openInPlace buffer = .error err ↔ c.open? buffer = .error err := by
  unfold open?
  cases c.openInPlace buffer with
  | error err' => exact ⟨congrArg _, fun h => congrArg _ (Except.error.inj h)⟩
  | ok r => exact ⟨nofun, nofun⟩

theorem open?_eq_ok {buffer : Bytes} :
    c.open? buffer = .ok plain ↔
      overhead ≤ buffer.length ∧ buffer = c.sealUnder (buffer.take nonceLength) plain := by
  constructor
  · intro h
    obtain ⟨hlen, hsealed, -⟩ := c.openInPlace_eq_ok.1 (c.openInPlace_eq_ok_iff.2 ⟨h, rfl⟩)
    exact ⟨hlen, hsealed⟩
  · rintro ⟨hlen, hsealed⟩
    exact (c.openInPlace_eq_ok_iff.1 (c.openInPlace_eq_ok.2 ⟨hlen, hsealed, rfl⟩)).1

theorem open?_eq_error {buffer : Bytes} {err : CryptoError} (h : c.open? buffer = .error err) :
    err = .notAuthentic :=
  c.openInPlace_eq_error (c.openInPlace_eq_error_iff.2 h)

theorem open?_sealUnder (plain : Bytes) (hn : nonce.length = nonceLength) :
    c.open? (c.sealUnder nonce plain) = .ok plain := by
  rw [open?, c.openInPlace_sealUnder plain hn]
  rfl

/-- What is too short to hold a nonce and a tag does not open. -/
theorem open?_of_short {buffer : Bytes} (h : buffer.length < overhead) :
    c.open? buffer = .error .notAuthentic := by
  rw [open?, openInPlace, if_pos h]
  rfl

/-! ## One form, one text, one tag -/

/-- **A byte string is the sealed form of at most one text**, under one nonce. -/
theorem sealUnder_injective {nonce' plain' : Bytes} (hn : nonce.length = nonceLength)
    (hn' : nonce'.length = nonceLength)
    (h : c.sealUnder nonce plain = c.sealUnder nonce' plain') :
    nonce = nonce' ∧ plain = plain' := by
  constructor
  · have hfront (nonce plain : Bytes) (hn : nonce.length = nonceLength) :
        (c.sealUnder nonce plain).take nonceLength = nonce := take_parts hn
    rw [← hfront nonce plain hn, h, hfront nonce' plain' hn']
  · have hopen := c.open?_sealUnder plain hn
    rw [h, c.open?_sealUnder plain' hn'] at hopen
    exact (Except.ok.inj hopen).symm

/-- **A nonce and a ciphertext open with one tag** of all there are. -/
theorem opens_one_tag (text : Bytes) (hn : nonce.length = nonceLength) :
    ∃! mark : Bytes, mark.length = tagLength ∧
      ∃ plain, c.open? (nonce ++ text ++ mark) = .ok plain := by
  refine ⟨c.tag nonce text, ⟨length_tag .., c.crypt nonce text, ?_⟩, ?_⟩
  · rw [← sealUnder_crypt]
    exact c.open?_sealUnder _ hn
  · rintro mark ⟨ht, plain, hopen⟩
    rw [open?, openInPlace_parts c hn ht] at hopen
    split at hopen
    · rename_i htag
      exact htag.symm
    · cases hopen

/-! ## Sealing under a drawn nonce -/

/-- Sealing apart draws a nonce and seals under it. -/
theorem encrypt_eq (plain : Bytes) :
    c.encrypt plain = do return c.sealUnder (← Draw.bytes nonceLength) plain :=
  c.sealInto_eq plain (Bytes.length_zeros _)

/-- A buffer of any other size is refused and left alone. -/
theorem sealOver_of_length_ne {out : Bytes} (h : out.length ≠ sealedLength plain.length)
    (e : Entropy) :
    c.sealOver plain out e = (.error (.encryption
      s!"output buffer is {out.length} bytes, need {sealedLength plain.length}"), out, e) := by
  rw [sealOver, if_pos h]

/-- **Opening is the exact inverse of sealing**, and sealing is what the standard says. -/
theorem open_inverts_seal (c : Cipher) (plain : Bytes) :
    (∀ x, c.open? x = .ok plain ↔
      overhead ≤ x.length ∧ x = c.sealUnder (x.take nonceLength) plain) ∧
    (∀ x err, c.open? x = .error err → err = .notAuthentic) ∧
    (∀ x, x.length < overhead → c.open? x = .error .notAuthentic) ∧
    (∀ nonce nonce' plain', nonce.length = nonceLength → nonce'.length = nonceLength →
      c.sealUnder nonce plain = c.sealUnder nonce' plain' → nonce = nonce' ∧ plain = plain') ∧
    (∀ nonce text, nonce.length = nonceLength → ∃! mark : Bytes, mark.length = tagLength ∧
      ∃ p, c.open? (nonce ++ text ++ mark) = .ok p) ∧
    (∀ x room, c.openInPlace x = .ok (plain, room) ↔ c.open? x = .ok plain ∧
      room = x.take nonceLength ++ plain ++ x.drop (x.length - tagLength)) ∧
    (∀ x err, c.openInPlace x = .error err ↔ c.open? x = .error err) ∧
    (∀ out e, out.length = sealedLength plain.length → c.sealOver plain out e =
      match Draw.bytes nonceLength e with
      | .error err => (.error err, out, e)
      | .ok (nonce, e') => (.ok (), c.sealUnder nonce plain, e')) ∧
    (∀ out e, out.length ≠ sealedLength plain.length → c.sealOver plain out e =
      (.error (.encryption
        s!"output buffer is {out.length} bytes, need {sealedLength plain.length}"), out, e)) ∧
    (∀ e, c.encrypt plain e =
      (Draw.bytes nonceLength e).map fun r => (c.sealUnder r.1 plain, r.2)) ∧
    (∀ e x e', c.encrypt plain e = .ok (x, e') → c.open? x = .ok plain) ∧
    (∀ e err, c.encrypt plain e = .error err → err = .noEntropy) ∧
    (∀ nonce, nonce.length = nonceLength → ∃ text mark,
      c.sealUnder nonce plain = nonce ++ text ++ mark ∧ c.Standard nonce plain text mark) := by
  have hencrypt (e : Entropy) : c.encrypt plain e =
      (Draw.bytes nonceLength e).map fun r => (c.sealUnder r.1 plain, r.2) := by
    rw [encrypt_eq, Draw.bind_apply]
    cases Draw.bytes nonceLength e <;> rfl
  refine ⟨fun x => c.open?_eq_ok, fun x err => c.open?_eq_error, fun x => c.open?_of_short,
    fun nonce nonce' plain' => c.sealUnder_injective, fun nonce text => c.opens_one_tag text,
    fun x room => c.openInPlace_eq_ok_iff, fun x err => c.openInPlace_eq_error_iff,
    fun out e h => c.sealOver_eq plain h e, fun out e h => c.sealOver_of_length_ne h e, hencrypt,
    ?_, ?_, ?_⟩
  · intro e x e' h
    rw [hencrypt] at h
    cases hdraw : Draw.bytes nonceLength e with
    | error err =>
      rw [hdraw] at h
      cases h
    | ok r =>
      rw [hdraw] at h
      obtain ⟨rfl, -⟩ := Prod.mk.inj (Except.ok.inj h)
      exact c.open?_sealUnder plain (Draw.length_bytes hdraw)
  · intro e err h
    rw [hencrypt] at h
    cases hdraw : Draw.bytes nonceLength e with
    | error err' =>
      rw [hdraw] at h
      rw [← Except.error.inj h]
      exact Draw.OnlyDry.bytes _ e err' hdraw
    | ok r =>
      rw [hdraw] at h
      cases h
  · intro nonce hn
    exact ⟨_, _, rfl, c.standard plain hn⟩

end SealedTunnel.Cipher
