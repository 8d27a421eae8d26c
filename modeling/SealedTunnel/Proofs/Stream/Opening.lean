import SealedTunnel.Proofs.Stream.Polls
import SealedTunnel.Proofs.Stream.Target

/-!
# The grammar of the header that opens a stream

A header is its length in two bytes and as many bytes behind it, which are the scheme and a target.
Whatever comes instead is refused for the first reason that shows, and no byte behind that reason is
read. A target is sent just if its header is one that is accepted, and then the header is all that
is written; so sending and receiving undo each other, whatever the target says.

Both hold over every stream, in whatever pieces it gives and takes the bytes, and however often it
makes its user wait in between.

## Main definitions

* `Target.Opens`, `Target.Refused`: bytes that begin with a header, and the others
* `Target.Sendable`: targets that have a header

## Main results

* `Target.on_receive_eq_ok_iff`, `Target.on_receive_eq_error_iff`: what comes of bytes
* `Target.opens_iff`: the bytes that begin with a header of a target, by the target
* `Target.header_opens_streams`: the header, from both sides
-/

namespace SealedTunnel.Target

/-! ## What comes of bytes -/

/-- The bytes begin with a header: a length from 1 to 4096 in two bytes, and as many bytes, which
are the scheme and a target. `rest` is what is behind them. -/
def Opens (bs : Bytes) (target : String) (rest : Bytes) : Prop :=
  ∃ n text, bs = Bytes.bigEndian 2 n ++ (text ++ rest) ∧ 1 ≤ n ∧ n ≤ 4096 ∧ text.length = n ∧
    Bytes.toString? text = some ("tcp://" ++ target) ∧ target ≠ ""

/-- Why the bytes do not begin with a header, and what is left of them when that shows. -/
inductive Refused : Bytes → FramingFault → Bytes → Prop
  | noLength {bs : Bytes} (h : bs.length < 2) : Refused bs (.endInsideRead bs.length 2) []
  | badLength {n : Nat} {rest : Bytes} (hn : n < 65536) (h : n = 0 ∨ 4096 < n) :
      Refused (Bytes.bigEndian 2 n ++ rest) (.targetLength n) rest
  | tooShort {n : Nat} {text : Bytes} (hpos : 1 ≤ n) (hle : n ≤ 4096) (h : text.length < n) :
      Refused (Bytes.bigEndian 2 n ++ text) (.endInsideRead text.length n) []
  | notText {n : Nat} {text rest : Bytes} (hpos : 1 ≤ n) (hle : n ≤ 4096)
      (hlength : text.length = n) (h : Bytes.toString? text = none) :
      Refused (Bytes.bigEndian 2 n ++ (text ++ rest)) .targetNotText rest
  | noTarget {n : Nat} {text rest : Bytes} {s : String} (hpos : 1 ≤ n) (hle : n ≤ 4096)
      (hlength : text.length = n) (htext : Bytes.toString? text = some s)
      (h : ∀ target, s = "tcp://" ++ target → target = "") :
      Refused (Bytes.bigEndian 2 n ++ (text ++ rest)) (.targetScheme s) rest

section Outcome

variable {bs text rest : Bytes} {target : String} {n : Nat} {fault : FramingFault}

theorem lengthOk_iff : lengthOk n = true ↔ 1 ≤ n ∧ n ≤ 4096 := by
  rw [lengthOk, Bool.and_eq_true, decide_eq_true_iff, decide_eq_true_iff]
  rfl

theorem afterLength_of_ok (hpos : 1 ≤ n) (hle : n ≤ 4096) :
    afterLength n = .need n (Tunnel.readStop n) named := by
  rw [afterLength, lengthOk_iff.2 ⟨hpos, hle⟩]
  rfl

theorem afterLength_of_bad (h : n = 0 ∨ 4096 < n) :
    afterLength n = .fail (.framing (.targetLength n)) := by
  have hbad : lengthOk n = false := by
    rw [← Bool.not_eq_true, lengthOk_iff]
    omega
  rw [afterLength, hbad]
  rfl

/-- A text that is not the scheme and something behind it names no target. -/
theorem ofText_of_noTarget {s : String} (h : ∀ target, s = "tcp://" ++ target → target = "") :
    ofText s = .error (.targetScheme s) := by
  cases hof : ofText s with
  | ok target =>
    obtain ⟨rfl, hne⟩ := eq_of_ofText hof
    exact absurd (h target rfl) hne
  | error fault =>
    unfold ofText at hof
    split at hof
    · cases hof
    · rw [← Except.error.inj hof]

/-- Once the length is read, its two bytes do not matter any more. -/
theorem on_receive_length (hn : n < 65536) (bs : Bytes) :
    receive.on (Bytes.bigEndian 2 n ++ bs) = (afterLength n).on bs := by
  have hlength : (Bytes.bigEndian 2 n).length = lengthSize := Bytes.length_bigEndian ..
  rw [receive_eq, Talk.on_need_append hlength, Bytes.ofBigEndian_bigEndian 2 n hn]

theorem on_receive_text (hpos : 1 ≤ n) (hle : n ≤ 4096) (hlength : text.length = n) (rest : Bytes) :
    receive.on (Bytes.bigEndian 2 n ++ (text ++ rest)) = (named text).on rest := by
  rw [on_receive_length (by omega), afterLength_of_ok hpos hle, Talk.on_need_append hlength]

theorem Opens.on (h : Opens bs target rest) : receive.on bs = (.ok target, rest) := by
  obtain ⟨n, text, rfl, hpos, hle, hlength, htext, hne⟩ := h
  have hof : ofText ("tcp://" ++ target) = .ok target := ofText_scheme hne
  rw [on_receive_text hpos hle hlength, named, htext]
  dsimp only
  rw [hof]
  rfl

theorem Refused.on (h : Refused bs fault rest) :
    receive.on bs = (.error (.framing fault), rest) := by
  cases h with
  | noLength h =>
    have hshort : bs.length < lengthSize := h
    rw [receive_eq, Talk.on_need_of_lt hshort]
    rfl
  | badLength hn h =>
    rw [on_receive_length hn, afterLength_of_bad h]
    rfl
  | tooShort hpos hle h =>
    rw [on_receive_length (by omega), afterLength_of_ok hpos hle, Talk.on_need_of_lt h]
    rfl
  | notText hpos hle hlength h =>
    rw [on_receive_text hpos hle hlength, named, h]
    rfl
  | noTarget hpos hle hlength htext h =>
    rw [on_receive_text hpos hle hlength, named, htext]
    dsimp only
    rw [ofText_of_noTarget h]
    rfl

/-- **All bytes are of one kind or the other.** -/
theorem opens_or_refused (bs : Bytes) :
    (∃ target rest, Opens bs target rest) ∨ ∃ fault rest, Refused bs fault rest := by
  by_cases hsize : bs.length < 2
  · exact .inr ⟨_, _, .noLength hsize⟩
  have hfront : (bs.take 2).length = 2 := List.length_take_of_le (Nat.not_lt.1 hsize)
  have hn := Bytes.ofBigEndian_lt (bs.take 2)
  have hbytes := Bytes.bigEndian_ofBigEndian (bs.take 2)
  rw [hfront] at hn hbytes
  rw [← List.take_append_drop 2 bs, ← hbytes]
  generalize Bytes.ofBigEndian (bs.take 2) = n at hn
  generalize bs.drop 2 = behind
  by_cases hbad : n = 0 ∨ 4096 < n
  · exact .inr ⟨_, _, .badLength hn hbad⟩
  have hpos : 1 ≤ n := by omega
  have hle : n ≤ 4096 := by omega
  by_cases hshort : behind.length < n
  · exact .inr ⟨_, _, .tooShort hpos hle hshort⟩
  have hlength : (behind.take n).length = n := List.length_take_of_le (Nat.not_lt.1 hshort)
  rw [← List.take_append_drop n behind]
  cases htext : Bytes.toString? (behind.take n) with
  | none => exact .inr ⟨_, _, .notText hpos hle hlength htext⟩
  | some s =>
    by_cases hnone : ∀ target, s = "tcp://" ++ target → target = ""
    · exact .inr ⟨_, _, .noTarget hpos hle hlength htext hnone⟩
    · simp only [not_forall] at hnone
      obtain ⟨target, rfl, hne⟩ := hnone
      exact .inl ⟨target, _, n, _, rfl, hpos, hle, hlength, htext, hne⟩

/-- **A target is known just if the bytes begin with its header.** -/
theorem on_receive_eq_ok_iff : receive.on bs = (.ok target, rest) ↔ Opens bs target rest := by
  refine ⟨fun h => ?_, Opens.on⟩
  rcases opens_or_refused bs with ⟨target', rest', hopens⟩ | ⟨fault, rest', hrefused⟩
  · cases h.symm.trans hopens.on
    exact hopens
  · cases h.symm.trans hrefused.on

/-- **The header is refused just for the reason that the bytes show.** -/
theorem on_receive_eq_error_iff :
    receive.on bs = (.error (.framing fault), rest) ↔ Refused bs fault rest := by
  refine ⟨fun h => ?_, Refused.on⟩
  rcases opens_or_refused bs with ⟨target, rest', hopens⟩ | ⟨fault', rest', hrefused⟩
  · cases h.symm.trans hopens.on
  · cases h.symm.trans hrefused.on
    exact hrefused

end Outcome

/-! ## Which targets have a header -/

/-- A target that is not empty and no longer than a header can say. -/
def Sendable (target : String) : Prop :=
  target ≠ "" ∧ (Bytes.ofString target).length ≤ 4090

theorem length_text (target : String) :
    (Bytes.ofString (scheme ++ target)).length = 6 + (Bytes.ofString target).length := by
  have hscheme : scheme.utf8ByteSize = 6 := rfl
  rw [Bytes.length_ofString, Bytes.length_ofString, String.utf8ByteSize_append, hscheme]

theorem lengthOk_text_iff {target : String} :
    lengthOk (Bytes.ofString (scheme ++ target)).length = true ↔
      (Bytes.ofString target).length ≤ 4090 := by
  rw [lengthOk_iff, length_text]
  omega

/-- Sending such a target is writing its header. -/
theorem send_of_sendable {target : String} (h : Sendable target) :
    send target = Tunnel.writeAll (header target) := by
  obtain ⟨hne, hle⟩ := h
  have hnonempty : target.isEmpty = false := by
    rw [← Bool.not_eq_true, String.isEmpty_iff]
    exact hne
  unfold send
  dsimp only
  rw [hnonempty, lengthOk_text_iff.2 hle]
  rfl

/-- Sending any other target is nothing but a failure. -/
theorem send_of_not_sendable {target : String} (h : ¬Sendable target) :
    send target = .fail (.framing (.targetLength (6 + (Bytes.ofString target).length))) := by
  unfold send
  dsimp only
  rw [if_pos, length_text]
  by_cases hempty : target = ""
  · rw [hempty]
    rfl
  · have hlong : lengthOk (Bytes.ofString (scheme ++ target)).length = false := by
      rw [← Bool.not_eq_true, lengthOk_text_iff]
      exact fun hle => h ⟨hempty, hle⟩
    rw [hlong]
    exact Bool.or_true _

/-- **The bytes that begin with a header are those that sending its target writes**, and what is
behind them. -/
theorem opens_iff {bs rest : Bytes} {target : String} :
    Opens bs target rest ↔ Sendable target ∧ bs = header target ++ rest := by
  constructor
  · rintro ⟨n, text, rfl, hpos, hle, hlength, htext, hne⟩
    have htext' : Bytes.ofString (scheme ++ target) = text := Bytes.ofString_of_toString? htext
    rw [header_eq, htext', hlength, List.append_assoc]
    refine ⟨⟨hne, ?_⟩, rfl⟩
    rw [← lengthOk_text_iff, htext', hlength, lengthOk_iff]
    exact ⟨hpos, hle⟩
  · rintro ⟨⟨hne, hle⟩, rfl⟩
    obtain ⟨hpos, hmost⟩ := lengthOk_iff.1 (lengthOk_text_iff.2 hle)
    refine ⟨_, Bytes.ofString (scheme ++ target), ?_, hpos, hmost, rfl, ?_, hne⟩
    · rw [header_eq, List.append_assoc]
      rfl
    · exact Bytes.toString?_ofString _

/-! ## Over streams -/

/-- **The header that opens a stream**, over every stream that gives or takes bytes, in whatever
pieces and after whatever polls. Once receiving is over, a target is known just if the bytes of the
stream begin with its header, and it fails just for the reason that they show; nothing behind that
has been read. A target that has a header is sent by writing just that, any other by writing
nothing. And a header is accepted just if it is the one that sending its target writes. -/
theorem header_opens_streams {σ : Type} (d : Duplex TunnelError σ) :
    (∀ ahead : σ → Bytes, d.Gives ahead →
      ∀ others : List (σ → σ), (∀ f ∈ others, ∀ s, ahead (f s) = ahead s) → ∀ s : σ,
      let r := Talk.advanceAll d others (receive, s)
      (r.1.isOver →
        (∀ target rest, Opens (ahead s) target rest ↔ r.1 = .done target ∧ ahead r.2 = rest) ∧
        (∀ fault rest, Refused (ahead s) fault rest ↔
          r.1 = .fail (.framing fault) ∧ ahead r.2 = rest) ∧
        ((∃ target rest, Opens (ahead s) target rest) ∨
          ∃ fault rest, Refused (ahead s) fault rest) ∧
        ∀ n bs s', 0 < n → d.read n r.2 = (.ready bs, s') →
          bs <+: ahead r.2 ∧ (bs = [] → ahead r.2 = [])) ∧
      ∀ awake : List (σ → σ), awake.Sublist others → (∀ f ∈ awake, d.WakesReader f) →
        (ahead s).length < awake.length → r.1.isOver) ∧
    (∀ (up : σ → Prop) (taken : σ → Bytes), d.Takes up taken →
      ∀ others : List (σ → σ), (∀ f ∈ others, ∀ s, up s → up (f s) ∧ taken (f s) = taken s) →
      ∀ target, Sendable target → ∀ s, up s →
      let r := Talk.advanceAll d others (send target, s)
      (∃ went rest, header target = went ++ rest ∧ taken r.2 = taken s ++ went ∧
        (r.1.isOver = true ↔ rest = []) ∧ (r.1.isOver → r.1 = .done ())) ∧
      ∀ awake : List (σ → σ), awake.Sublist others → (∀ f ∈ awake, d.WakesWriter f) →
        (header target).length ≤ awake.length → r.1.isOver) ∧
    (∀ target, ¬Sendable target → ∀ s, (send target).advance d s =
      (.fail (.framing (.targetLength (6 + (Bytes.ofString target).length))), s)) ∧
    ∀ bs target rest, Opens bs target rest ↔ Sendable target ∧ bs = header target ++ rest := by
  refine ⟨?_, ?_, ?_, fun bs target rest => opens_iff⟩
  · intro ahead hgives others hothers s r
    obtain ⟨hsilent, hon⟩ := Talk.advanceAll_of_gives hgives hothers silent_receive s
    constructor
    · intro hover
      refine ⟨?_, ?_, opens_or_refused (ahead s), ?_⟩
      · intro target rest
        rw [← on_receive_eq_ok_iff, hon, Talk.on_eq_ok_iff hover]
      · intro fault rest
        rw [← on_receive_eq_error_iff, hon, Talk.on_eq_error_iff hover]
      · intro n bs s' hn hread
        obtain ⟨-, hahead, hend⟩ := hgives.ready hn hread
        refine ⟨⟨_, hahead.symm⟩, ?_⟩
        intro hnone
        rw [hahead, hnone, hend hnone]
        rfl
    · intro awake hsub hawake hmany
      exact Talk.isOver_advanceAll hgives hothers hsub hawake silent_receive hmany
  · intro up taken htakes others hothers target hsendable s hup r
    have hne := header_ne_nil target
    have hsend : r = Talk.advanceAll d others (Tunnel.writeAll (header target), s) := by
      show Talk.advanceAll d others (send target, s) = _
      rw [send_of_sendable hsendable]
    rw [hsend]
    refine ⟨(Talk.advanceAll_writeAll htakes hothers hne hup).went, ?_⟩
    intro awake hsub hawake hmany
    exact Talk.isOver_advanceAll_writeAll hsub hawake hne hmany
  · intro target hnot s
    rw [send_of_not_sendable hnot]
    rfl

/-- A target that itself begins with the scheme, over a stream that gives one byte at a time and
takes two: it is sent and received like any other, and the byte behind its header is left. -/
theorem header_opens_streams_by_the_byte :
    let d : Duplex TunnelError Bytes :=
      ⟨fun _ s => (.ready (s.take 1), s.drop 1),
        fun bs s => (.ready (min 2 bs.length), s ++ bs.take 2)⟩
    let target := "tcp://a:1"
    let polls : List (Bytes → Bytes) := List.replicate 99 id
    d.Gives id ∧ d.Takes (fun _ => True) id ∧ Sendable target ∧
      Talk.advanceAll d polls (receive, header target ++ [9]) = (.done target, [9]) ∧
      Talk.advanceAll d polls (send target, []) = (.done (), header target) := by
  intro d target polls
  have hgives : d.Gives id := by
    refine ⟨?_, nofun, nofun⟩
    intro n s bs s' hn hread
    obtain ⟨hbs, rfl⟩ := Prod.mk.inj hread
    obtain rfl := Poll.ready.inj hbs
    refine ⟨Nat.le_trans (List.length_take_le ..) hn, (List.take_append_drop 1 s).symm, ?_⟩
    intro hnone
    cases s with
    | nil => rfl
    | cons => cases hnone
  have htakes : d.Takes (fun _ => True) id := by
    refine ⟨?_, nofun, nofun⟩
    intro bs s n s' _ hne hwrite
    obtain ⟨hn, rfl⟩ := Prod.mk.inj hwrite
    obtain rfl := Poll.ready.inj hn
    have hpos := List.length_pos_iff.2 hne
    refine ⟨by omega, Nat.min_le_right .., trivial, ?_⟩
    show s ++ bs.take 2 = s ++ bs.take (min 2 bs.length)
    rw [List.take_eq_take_min]
  have hsame : ∀ f ∈ polls, f = id := fun f hf => List.eq_of_mem_replicate hf
  have hsendable : Sendable target := ⟨by decide, by decide +kernel⟩
  obtain ⟨hreceive, hsend, -, hopens⟩ := header_opens_streams d
  refine ⟨hgives, htakes, hsendable, ?_, ?_⟩
  · obtain ⟨hknown, hends⟩ := hreceive id hgives polls (fun f hf s => by rw [hsame f hf]; rfl)
      (header target ++ [9])
    have hover := hends polls (List.Sublist.refl _) (fun f hf => nofun) (by decide +kernel)
    obtain ⟨hdone, hrest⟩ := ((hknown hover).1 target [9]).1 ((hopens _ _ _).2 ⟨hsendable, rfl⟩)
    exact Prod.ext hdone hrest
  · obtain ⟨⟨went, rest, hsplit, htaken, hall, hdone⟩, hends⟩ :=
      hsend _ id htakes polls (fun f hf s _ => by rw [hsame f hf]; exact ⟨trivial, rfl⟩) target
        hsendable [] trivial
    have hover := hends polls (List.Sublist.refl _) (fun f hf => nofun) (by decide +kernel)
    obtain rfl := hall.1 hover
    rw [List.append_nil] at hsplit
    exact Prod.ext (hdone hover) (htaken.trans hsplit.symm)

end SealedTunnel.Target
