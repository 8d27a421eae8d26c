import Mathlib.Data.List.Basic
import Mathlib.Logic.Equiv.Defs
import SealedTunnel.Conn.Reader
import SealedTunnel.Proofs.Frame.Body
import SealedTunnel.Proofs.Stream.Polls

/-!
# Headers and the lengths that they declare

Each length that a frame may have stands in one header, and each header that is accepted declares
one such length; the others are refused on both sides. A length of more than four bytes is refused
before any of them would be cut off.

A header is read in whatever pieces its bytes come, and with whatever waits between them: what comes
of it is a function of the first four bytes of the stream, and no byte behind them is taken.

## Main definitions

* `Header.Spells`: the number that four bytes spell
* `Header.Unfit`: why no frame has a length
* `Header.Accepted`, `Header.codec`: the headers that are accepted, one for each length
* `Header.Found`: what reading a header comes to, by the bytes of the stream

## Main results

* `Header.encode_eq_ok_iff`, `Header.decode_eq_ok_iff`: which lengths and headers are accepted
* `Header.encode_eq_error_iff`, `Header.decode_eq_error_iff`: which are refused, and why
* `Header.found_of_isOver`: reading a header, after any polls
* `Header.declares_each_length_once`: headers and their reading
-/

namespace SealedTunnel.Header

variable {n : Nat} {header : Bytes} {fault : FramingFault}

/-! ## Lengths -/

/-- Why no frame has this length. -/
inductive Unfit : Nat → FramingFault → Prop
  | empty : Unfit 0 .emptyFrame
  | huge {n : Nat} (h : 2097152 < n) : Unfit n (.hugeFrame n 2097152)

theorem fits_or_unfit (n : Nat) : Fits n ∨ ∃ fault, Unfit n fault := by
  rcases Nat.eq_zero_or_pos n with rfl | hpos
  · exact .inr ⟨_, .empty⟩
  · rcases Nat.lt_or_ge 2097152 n with hhuge | hle
    · exact .inr ⟨_, .huge hhuge⟩
    · exact .inl ⟨hpos, hle⟩

theorem Unfit.not_fits (h : Unfit n fault) : ¬Fits n := by
  rintro ⟨hpos, hle⟩
  cases h with
  | empty => exact Nat.lt_irrefl 0 hpos
  | huge h => exact Nat.not_le.2 h hle

theorem Unfit.check (h : Unfit n fault) : check n = .error fault := by
  cases h with
  | empty => rfl
  | huge h =>
    have hpos : n ≠ 0 := by omega
    have hhuge : n > maxLength := h
    rw [Header.check, if_neg hpos, if_pos hhuge]
    rfl

section Checked

variable {α : Type} {a b : α}

/-- What is made of a length is there just if a frame may have the length. -/
theorem map_check_eq_ok_iff : ((check n).map fun _ => a) = .ok b ↔ Fits n ∧ a = b := by
  rcases fits_or_unfit n with hfits | ⟨fault, hunfit⟩
  · rw [check_of_fits hfits]
    constructor
    · rintro ⟨⟩
      exact ⟨hfits, rfl⟩
    · rintro ⟨-, rfl⟩
      rfl
  · rw [hunfit.check]
    apply iff_of_false
    · rintro ⟨⟩
    · exact fun h => hunfit.not_fits h.1

theorem map_check_eq_error_iff : ((check n).map fun _ => a) = .error fault ↔ Unfit n fault := by
  rcases fits_or_unfit n with hfits | ⟨fault', hunfit⟩
  · rw [check_of_fits hfits]
    apply iff_of_false
    · rintro ⟨⟩
    · exact fun h => h.not_fits hfits
  · rw [hunfit.check]
    constructor
    · rintro ⟨⟩
      exact hunfit
    · intro h
      cases h.check.symm.trans hunfit.check
      rfl

end Checked

/-! ## Headers -/

/-- The header is four bytes, which are the digits of `n` to the base 256, the most significant
first. -/
def Spells (header : Bytes) (n : Nat) : Prop :=
  ∃ a b c d : UInt8, header = [a, b, c, d] ∧
    n = a.toNat * 2 ^ 24 + b.toNat * 2 ^ 16 + c.toNat * 2 ^ 8 + d.toNat

theorem ofBigEndian_four (a b c d : UInt8) : Bytes.ofBigEndian [a, b, c, d] =
    a.toNat * 2 ^ 24 + b.toNat * 2 ^ 16 + c.toNat * 2 ^ 8 + d.toNat := by
  simp only [Bytes.ofBigEndian, List.foldl_cons, List.foldl_nil]
  omega

theorem spells_iff : Spells header n ↔ header.length = size ∧ Bytes.ofBigEndian header = n := by
  constructor
  · rintro ⟨a, b, c, d, rfl, rfl⟩
    exact ⟨rfl, ofBigEndian_four a b c d⟩
  · rintro ⟨hlength, rfl⟩
    obtain ⟨a, b, c, d, rfl⟩ := List.length_eq_four.1 hlength
    exact ⟨a, b, c, d, rfl, ofBigEndian_four a b c d⟩

/-- No number that a frame may have as its length is cut off in four bytes. -/
theorem ofBigEndian_of_fits (h : Fits n) : Bytes.ofBigEndian (Bytes.bigEndian size n) = n := by
  apply Bytes.ofBigEndian_bigEndian
  exact Nat.lt_of_le_of_lt h.2 (by decide)

theorem bigEndian_of_length (h : header.length = size) :
    Bytes.bigEndian size (Bytes.ofBigEndian header) = header := by
  rw [← h, Bytes.bigEndian_ofBigEndian]

/-- **A length has a header just if a frame may have it**, and then the header spells it. -/
theorem encode_eq_ok_iff : encode n = .ok header ↔ Spells header n ∧ Fits n := by
  rw [encode, map_check_eq_ok_iff, spells_iff]
  constructor
  · rintro ⟨hfits, rfl⟩
    exact ⟨⟨Bytes.length_bigEndian size n, ofBigEndian_of_fits hfits⟩, hfits⟩
  · rintro ⟨⟨hlength, rfl⟩, hfits⟩
    exact ⟨hfits, bigEndian_of_length hlength⟩

theorem encode_eq_error_iff : encode n = .error fault ↔ Unfit n fault :=
  map_check_eq_error_iff

/-- **A header is accepted just if a frame may have the length that it spells.** -/
theorem decode_eq_ok_iff (h : header.length = size) :
    decode header = .ok n ↔ Spells header n ∧ Fits n := by
  rw [decode, map_check_eq_ok_iff, spells_iff]
  constructor
  · rintro ⟨hfits, rfl⟩
    exact ⟨⟨h, rfl⟩, hfits⟩
  · rintro ⟨⟨-, rfl⟩, hfits⟩
    exact ⟨hfits, rfl⟩

theorem decode_eq_error_iff (h : Spells header n) :
    decode header = .error fault ↔ Unfit n fault := by
  obtain ⟨-, rfl⟩ := spells_iff.1 h
  exact map_check_eq_error_iff

/-- Whatever is refused, a length that is not fit is the reason. -/
theorem exists_unfit_of_decode (h : decode header = .error fault) : ∃ n, Unfit n fault :=
  ⟨_, map_check_eq_error_iff.1 h⟩

/-- **A header is the one of a length just if it declares that length.** -/
theorem encode_eq_ok_iff_decode :
    encode n = .ok header ↔ header.length = size ∧ decode header = .ok n := by
  rw [encode_eq_ok_iff]
  constructor
  · intro h
    have hlength := (spells_iff.1 h.1).1
    exact ⟨hlength, (decode_eq_ok_iff hlength).2 h⟩
  · rintro ⟨hlength, h⟩
    exact (decode_eq_ok_iff hlength).1 h

/-- Four bytes that declare a length. -/
def Accepted (header : Bytes) : Prop :=
  header.length = size ∧ ∃ n, decode header = .ok n

theorem Accepted.fits (h : Accepted header) : Fits (Bytes.ofBigEndian header) := by
  obtain ⟨-, n, hn⟩ := h
  exact (map_check_eq_ok_iff.1 hn).1

/-- The lengths that a frame may have and the headers that are accepted, one to one. -/
def codec : { n // Fits n } ≃ { header // Accepted header } where
  toFun n := ⟨Bytes.bigEndian size n, Bytes.length_bigEndian size n, n, decode_bigEndian n.2⟩
  invFun header := ⟨Bytes.ofBigEndian header, header.2.fits⟩
  left_inv n := Subtype.ext (ofBigEndian_of_fits n.2)
  right_inv header := Subtype.ext (bigEndian_of_length header.2.1)

theorem encode_codec (n : { n // Fits n }) : encode n = .ok (codec n) :=
  encode_eq n.2

theorem decode_codec (header : { header // Accepted header }) :
    decode header = .ok (codec.symm header) :=
  map_check_eq_ok_iff.2 ⟨header.2.fits, rfl⟩

/-! ## Reading -/

/-- What is left of reading a header once its bytes are there. -/
def declared (header : Bytes) : Talk IoError FetchEnd Nat :=
  match decode header with
  | .ok length => .done length
  | .error fault => .fail (.failed (.framing fault))

theorem isOver_declared (header : Bytes) : (declared header).isOver := by
  unfold declared
  cases decode header <;> rfl

theorem declared_eq_done_iff : declared header = .done n ↔ decode header = .ok n := by
  unfold declared
  cases decode header <;> simp

theorem declared_eq_fault_iff :
    declared header = .fail (.failed (.framing fault)) ↔ decode header = .error fault := by
  unfold declared
  cases decode header <;> simp

theorem declared_ne_closed (header : Bytes) : declared header ≠ .fail .closed := by
  unfold declared
  cases decode header <;> simp

/-- What reading a header comes to on these bytes, if the stream ends behind them. -/
inductive Found (bs : Bytes) : Talk IoError FetchEnd Nat → Prop
  | nothing (h : bs = []) : Found bs (.fail .closed)
  | cut (hpos : 1 ≤ bs.length) (hle : bs.length ≤ 3) :
      Found bs (.fail (.failed (.framing (.endInsideHeader bs.length))))
  | whole (hle : 4 ≤ bs.length) : Found bs (declared (bs.take 4))

namespace Found

variable {bs : Bytes} {t : Talk IoError FetchEnd Nat}

/-- **The stream has closed just if it was empty.** -/
theorem closed_iff (h : Found bs t) : t = .fail .closed ↔ bs = [] := by
  cases h with
  | nothing h => simp [h]
  | cut hpos =>
    have hne : bs ≠ [] := List.length_pos_iff.1 hpos
    simp [hne]
  | whole hle =>
    have hne : bs ≠ [] := List.length_pos_iff.1 (by omega)
    simp [hne, declared_ne_closed]

/-- **The stream has ended inside the header just if it had some of its bytes**, and not all. -/
theorem cut_iff (h : Found bs t) {got : Nat} :
    t = .fail (.failed (.framing (.endInsideHeader got))) ↔
      got = bs.length ∧ 1 ≤ got ∧ got ≤ 3 := by
  cases h with
  | nothing h =>
    apply iff_of_false
    · rintro ⟨⟩
    · rw [h, List.length_nil]
      omega
  | cut hpos hle =>
    constructor
    · rintro ⟨⟩
      exact ⟨rfl, hpos, hle⟩
    · rintro ⟨rfl, -⟩
      rfl
  | whole hle =>
    apply iff_of_false
    · intro h
      obtain ⟨n, hn⟩ := exists_unfit_of_decode (declared_eq_fault_iff.1 h)
      cases hn
    · omega

theorem eq_declared (h : Found bs t) (hbs : 4 ≤ bs.length) : t = declared (bs.take 4) := by
  cases h with
  | nothing h =>
    rw [h, List.length_nil] at hbs
    omega
  | cut => omega
  | whole => rfl

end Found

section Reading

variable {σ : Type} {ahead : σ → Bytes} {before : Bytes} {r : Talk IoError FetchEnd Nat × σ}

theorem found_of_isOver (h : Talk.Reading ahead size .ofHeader declared before r)
    (hover : r.1.isOver) : Found before r.1 := by
  cases h with
  | underWay => cases hover
  | @complete got s hlength hsplit =>
    have hle : 4 ≤ before.length := by
      rw [hsplit, List.length_append, hlength]
      exact Nat.le_add_right ..
    have htake : before.take 4 = got := by
      subst hsplit
      exact List.take_left' hlength
    rw [← htake]
    exact .whole hle
  | ended hlt hnone =>
    cases before with
    | nil => exact .nothing rfl
    | cons b bs => exact .cut (Nat.le_add_left ..) (Nat.le_of_lt_succ hlt)

/-- Whoever has read a header has taken its bytes, or all that there were. -/
theorem taken_of_isOver (h : Talk.Reading ahead size .ofHeader declared before r)
    (hover : r.1.isOver) :
    ∃ taken, before = taken ++ ahead r.2 ∧ taken.length = min 4 before.length := by
  cases h with
  | underWay => cases hover
  | @complete got s hlength hsplit =>
    refine ⟨got, hsplit, ?_⟩
    rw [hsplit, List.length_append, hlength]
    exact (Nat.min_eq_left (Nat.le_add_right ..)).symm
  | ended hlt hnone =>
    refine ⟨before, ?_, ?_⟩
    · rw [hnone, List.append_nil]
    · exact (Nat.min_eq_right (Nat.le_of_lt hlt)).symm

/-- Whoever waits for a header has taken less than the bytes of one. -/
theorem taken_of_waiting (h : Talk.Reading ahead size .ofHeader declared before r)
    (hover : r.1.isOver = false) : ∃ taken, before = taken ++ ahead r.2 ∧ taken.length < 4 := by
  cases h with
  | underWay hlt hsplit => exact ⟨_, hsplit, hlt⟩
  | complete =>
    rw [isOver_declared] at hover
    cases hover
  | ended => cases hover

end Reading

/-- **Each length is declared by one header**, and each header declares one length at most, which
it spells in four bytes. The lengths are those from 1 to 2097152; every other length, however many
bytes it would need, and every other header is refused as a framing fault that says why.

A header is read off any stream, in whatever pieces and after whatever polls: what comes of it is
that the stream has closed just if it was empty, that it has ended inside the header just if it had
one to three bytes, and what the first four bytes declare otherwise. No byte behind these is taken,
and four polls that find something are enough. -/
theorem declares_each_length_once {σ : Type} (d : Duplex IoError σ) :
    (∀ n header, encode n = .ok header ↔ header.length = 4 ∧ decode header = .ok n) ∧
    (∀ n header, encode n = .ok header ↔ Spells header n ∧ 1 ≤ n ∧ n ≤ 2097152) ∧
    ((∀ n : { n // Fits n }, encode n = .ok (codec n)) ∧
      ∀ header : { header // Accepted header }, decode header = .ok (codec.symm header)) ∧
    (∀ n fault, encode n = .error fault ↔ Unfit n fault) ∧
    (∀ header : Bytes, header.length = 4 →
      ∃ n, Spells header n ∧ ∀ fault, decode header = .error fault ↔ Unfit n fault) ∧
    ∀ ahead : σ → Bytes, d.Gives ahead →
      ∀ others : List (σ → σ), (∀ f ∈ others, ∀ s, ahead (f s) = ahead s) → ∀ s : σ,
      let r := Talk.advanceAll d others (fetch, s)
      (r.1.isOver →
        (r.1 = .fail .closed ↔ ahead s = []) ∧
        (∀ got, r.1 = .fail (.failed (.framing (.endInsideHeader got))) ↔
          got = (ahead s).length ∧ 1 ≤ got ∧ got ≤ 3) ∧
        (4 ≤ (ahead s).length →
          (∀ n, r.1 = .done n ↔ decode ((ahead s).take 4) = .ok n) ∧
          ∀ fault, r.1 = .fail (.failed (.framing fault)) ↔
            decode ((ahead s).take 4) = .error fault) ∧
        ∃ taken, ahead s = taken ++ ahead r.2 ∧ taken.length = min 4 (ahead s).length) ∧
      (r.1.isOver = false → ∃ taken, ahead s = taken ++ ahead r.2 ∧ taken.length < 4) ∧
      ∀ awake : List (σ → σ), awake.Sublist others → (∀ f ∈ awake, d.WakesReader f) →
        4 ≤ awake.length → r.1.isOver := by
  refine ⟨fun n header => encode_eq_ok_iff_decode, fun n header => encode_eq_ok_iff,
    ⟨encode_codec, decode_codec⟩, fun n fault => encode_eq_error_iff, ?_, ?_⟩
  · intro header hlength
    have hspells := spells_iff.2 ⟨hlength, rfl⟩
    exact ⟨_, hspells, fun fault => decode_eq_error_iff hspells⟩
  · intro ahead hgives others hothers s r
    have hreading : Talk.Reading ahead size .ofHeader declared (ahead s) r :=
      Talk.advanceAll_need hgives isOver_declared hothers (by decide) s
    refine ⟨?_, taken_of_waiting hreading, ?_⟩
    · intro hover
      have hfound := found_of_isOver hreading hover
      refine ⟨hfound.closed_iff, fun got => hfound.cut_iff, ?_, taken_of_isOver hreading hover⟩
      intro hle
      rw [hfound.eq_declared hle]
      exact ⟨fun n => declared_eq_done_iff, fun fault => declared_eq_fault_iff⟩
    · intro awake hsub hawake hmany
      exact Talk.isOver_advanceAll_need hgives isOver_declared hsub hawake (by decide) hmany s

/-- A stream that gives as many of its bytes as have come, and makes its reader wait for more. -/
def dripping : Duplex IoError (Bytes × Nat) where
  read
    | _, ([], came) => (.ready [], ([], came))
    | _, (bs, 0) => (.waiting, (bs, 0))
    | n, (bs, came + 1) =>
      let k := min n (came + 1)
      (.ready (bs.take k), (bs.drop k, came + 1 - k))
  write bs s := (.ready bs.length, s)

theorem dripping_gives : dripping.Gives Prod.fst where
  ready := by
    rintro n ⟨_ | ⟨b, bs⟩, _ | came⟩ got s' hn hread
    · cases hread
      exact ⟨Nat.zero_le n, rfl, fun _ => rfl⟩
    · cases hread
      exact ⟨Nat.zero_le n, rfl, fun _ => rfl⟩
    · cases hread
    · cases hread
      refine ⟨?_, (List.take_append_drop ..).symm, ?_⟩
      · rw [List.length_take]
        omega
      · intro hnil
        have hlength := congrArg List.length hnil
        rw [List.length_take, List.length_cons, List.length_nil] at hlength
        omega
  waiting := by
    rintro n ⟨_ | ⟨b, bs⟩, _ | came⟩ s' hn hread <;> cases hread
    rfl
  unfailing := by
    rintro n ⟨_ | ⟨b, bs⟩, _ | came⟩ e s' hn hread <;> cases hread

/-- A header that comes in halves declares 42, and the byte behind it is left; one that is cut
behind its third byte says so. -/
theorem declares_each_length_once_in_halves :
    let arrive : Bytes × Nat → Bytes × Nat := fun s => (s.1, 2)
    let polls := List.replicate 4 arrive
    let whole := Talk.advanceAll dripping polls (fetch, ([0, 0, 0, 42, 7], 0))
    let cut := Talk.advanceAll dripping polls (fetch, ([0, 0, 1], 0))
    dripping.Gives Prod.fst ∧ whole.1 = .done 42 ∧ whole.2.1 = [7] ∧
      cut.1 = .fail (.failed (.framing (.endInsideHeader 3))) ∧
      Spells [0, 0, 0, 42] 42 ∧ encode 42 = .ok [0, 0, 0, 42] := by
  intro arrive polls whole cut
  have hsame : ∀ f ∈ polls, f = arrive := fun f hf => List.eq_of_mem_replicate hf
  have hwakes : dripping.WakesReader arrive := by
    rintro n ⟨_ | ⟨b, bs⟩, came⟩ hn ⟨⟩
  obtain ⟨hinverse, hspells, -, -, -, hread⟩ := declares_each_length_once dripping
  have hread := hread Prod.fst dripping_gives polls (fun f hf s => by rw [hsame f hf])
  have hover (s : Bytes × Nat) : (Talk.advanceAll dripping polls (fetch, s)).1.isOver :=
    (hread s).2.2 polls (List.Sublist.refl _) (fun f hf => hsame f hf ▸ hwakes) (Nat.le_refl 4)
  have hspelled : Spells [0, 0, 0, 42] 42 := ⟨0, 0, 0, 42, rfl, rfl⟩
  have hencode : encode 42 = .ok [0, 0, 0, 42] := (hspells 42 _).2 ⟨hspelled, by decide, by decide⟩
  have hdecode : decode [0, 0, 0, 42] = .ok 42 := ((hinverse 42 _).1 hencode).2
  obtain ⟨-, -, hwhole, taken, htaken, hlength⟩ :=
    (hread ([0, 0, 0, 42, 7], 0)).1 (hover ([0, 0, 0, 42, 7], 0))
  obtain ⟨-, hcut, -⟩ := (hread ([0, 0, 1], 0)).1 (hover ([0, 0, 1], 0))
  refine ⟨dripping_gives, ((hwhole (by decide)).1 42).2 hdecode, ?_, (hcut 3).2 (by decide),
    hspelled, hencode⟩
  have hfour : taken.length = 4 := hlength
  have hdrop := congrArg (List.drop 4) htaken
  rw [List.drop_left' hfour] at hdrop
  exact hdrop.symm

end SealedTunnel.Header
