import SealedTunnel.Proofs.Address
import SealedTunnel.Proofs.Socks.Verdict

/-!
# What a client sends

The bytes of a greeting and of a request to connect, as a client writes them. They are judged to ask
for their address, and what the client sends behind them is not looked at.

## Main definitions

* `Address.wire`: an address in a request
* `Socks.greeting`, `Socks.request`

## Main results

* `Socks.judge_request`: a greeting and a request ask for their address
-/

namespace SealedTunnel

/-- An address in a request: its kind, the address itself, and the port. -/
def Address.wire : Address → Bytes
  | .ipv4 a b c d port => 1 :: [a, b, c, d] ++ Bytes.bigEndian 2 port.toNat
  | .domain name port =>
    3 :: (Bytes.ofString name).length.toUInt8 :: Bytes.ofString name ++
      Bytes.bigEndian 2 port.toNat
  | .ipv6 groups port =>
    4 :: groups.toList.flatMap (fun g => Bytes.bigEndian 2 g.toNat) ++
      Bytes.bigEndian 2 port.toNat

namespace Socks

/-- A greeting that offers some methods. -/
def greeting (methods : Bytes) : Bytes :=
  5 :: methods.length.toUInt8 :: methods

/-- A request to connect to an address; the third byte of it is reserved. -/
def request (reserved : UInt8) (address : Address) : Bytes :=
  [5, 1, reserved] ++ address.wire

theorem bigEndian_two (n : UInt16) :
    Bytes.bigEndian 2 n.toNat = [(n.toNat / 256).toUInt8, n.toNat.toUInt8] := rfl

/-- Two bytes give their number back. -/
theorem ofNat_two (n : UInt16) :
    UInt16.ofNat ((n.toNat / 256).toUInt8.toNat * 256 + n.toNat.toUInt8.toNat) = n := by
  have hn := n.toNat_lt
  have hhigh : (n.toNat / 256).toUInt8.toNat = n.toNat / 256 := Nat.mod_eq_of_lt (by omega)
  have hlow : n.toNat.toUInt8.toNat = n.toNat % 256 := rfl
  rw [hhigh, hlow, Nat.div_add_mod', UInt16.ofNat_toNat]

theorem toNat_length_toUInt8 {bs : Bytes} (h : bs.length < 256) :
    bs.length.toUInt8.toNat = bs.length :=
  Nat.mod_eq_of_lt h

theorem judgePort_bigEndian (address : UInt16 → Address) (port : UInt16) (more : Bytes) :
    judgePort address (Bytes.bigEndian 2 port.toNat ++ more) = .ok (address port, more) := by
  rw [bigEndian_two]
  show Except.ok (address (.ofNat _), more) = _
  rw [ofNat_two]

/-- Sixteen bytes give their eight groups back. -/
theorem ofIpv6_groups (groups : Vector UInt16 8) (port : UInt16) :
    Address.ofIpv6 (groups.toList.flatMap fun g => Bytes.bigEndian 2 g.toNat) port =
      .ipv6 groups port := by
  have hpair (n : UInt16) :
      UInt16.ofNat (Bytes.ofBigEndian [(n.toNat / 256).toUInt8, n.toNat.toUInt8]) = n := by
    show UInt16.ofNat ((0 * 256 + _) * 256 + _) = _
    rw [Nat.zero_mul, Nat.zero_add]
    exact ofNat_two n
  obtain ⟨⟨gs⟩, hsize⟩ := groups
  rw [Address.ofIpv6]
  congr 1
  match gs, hsize with
  | [a, b, c, d, e, f, g, h], _ =>
    refine Vector.ext fun i hi => ?_
    rw [Vector.getElem_ofFn]
    match i, hi with
    | 0, _ | 1, _ | 2, _ | 3, _ | 4, _ | 5, _ | 6, _ | 7, _ => exact hpair _

theorem judgeAddress_wire {address : Address} (h : address.Askable) (more : Bytes) :
    ∃ kind bytes, address.wire ++ more = kind :: bytes ∧
      judgeAddress kind bytes = .ok (address, more) := by
  cases address with
  | ipv4 a b c d port => exact ⟨1, _, rfl, judgePort_bigEndian _ port more⟩
  | domain name port =>
    refine ⟨3, (Bytes.ofString name).length.toUInt8 ::
      (Bytes.ofString name ++ (Bytes.bigEndian 2 port.toNat ++ more)), ?_, ?_⟩
    · simp [Address.wire]
    · have hlength := toNat_length_toUInt8 h
      have hroom : ¬(Bytes.ofString name ++ (Bytes.bigEndian 2 port.toNat ++ more)).length <
          (Bytes.ofString name).length := by
        rw [List.length_append]
        omega
      unfold judgeAddress
      rw [if_neg (by decide), if_pos rfl]
      dsimp only
      rw [hlength, if_neg hroom, List.take_left, List.drop_left, Bytes.toString?_ofString]
      exact judgePort_bigEndian _ port more
  | ipv6 groups port =>
    have hsize : (groups.toList.flatMap fun g => Bytes.bigEndian 2 g.toNat).length = 16 := by
      obtain ⟨⟨gs⟩, hgroups⟩ := groups
      match gs, hgroups with
      | [_, _, _, _, _, _, _, _], _ => rfl
    refine ⟨4, (groups.toList.flatMap fun g => Bytes.bigEndian 2 g.toNat) ++
      (Bytes.bigEndian 2 port.toNat ++ more), ?_, ?_⟩
    · rw [Address.wire, List.append_assoc]
      rfl
    · unfold judgeAddress
      rw [if_neg (by decide), if_neg (by decide), if_pos rfl, List.length_append,
        if_neg (by omega), List.take_left' hsize, List.drop_left' hsize, judgePort_bigEndian,
        ofIpv6_groups]

/-- **A greeting and a request ask for their address**, whatever is behind them. -/
theorem judge_request {methods : Bytes} (hm : methods.length < 256) (reserved : UInt8)
    {address : Address} (ha : address.Askable) (more : Bytes) :
    judge (greeting methods ++ request reserved address ++ more) =
      ⟨[5, 0], .ok (address, more)⟩ := by
  obtain ⟨kind, bytes, hwire, haddress⟩ := judgeAddress_wire ha more
  have hrequest : judgeRequest (request reserved address ++ more) = ⟨[], .ok (address, more)⟩ := by
    rw [request, List.append_assoc, hwire]
    show Verdict.mk [] (judgeAddress kind bytes) = _
    rw [haddress]
  have hcount := toNat_length_toUInt8 hm
  have hroom : ¬(methods ++ (request reserved address ++ more)).length <
      methods.length.toUInt8.toNat := by
    rw [hcount, List.length_append]
    omega
  rw [List.append_assoc, greeting, List.cons_append, List.cons_append]
  show (if _ then _ else _ : Verdict) = _
  rw [if_neg hroom, hcount, List.drop_left, hrequest]
  rfl

/-- So does the conversation with a client that sends them. -/
theorem on_handshake_request {methods : Bytes} (hm : methods.length < 256) (reserved : UInt8)
    {address : Address} (ha : address.Askable) (more : Bytes) :
    ∃ session, Session.handshake.on (greeting methods ++ request reserved address ++ more) =
      (.ok (address, session), more) := by
  have hverdict :=
    Session.verdict_handshake (greeting methods ++ request reserved address ++ more)
  rw [judge_request hm reserved ha more] at hverdict
  have houtcome := congrArg Verdict.outcome hverdict
  unfold Session.Call.verdict Session.Call.outcome at houtcome
  generalize Session.handshake.on (greeting methods ++ request reserved address ++ more) = r
    at houtcome
  obtain ⟨outcome, rest⟩ := r
  cases outcome with
  | error e => cases houtcome
  | ok asked =>
    obtain ⟨asked, session⟩ := asked
    obtain ⟨rfl, rfl⟩ := Prod.mk.inj (Except.ok.inj houtcome)
    exact ⟨session, rfl⟩

end Socks

end SealedTunnel
