import SealedTunnel.Proofs.Stream.Talk
import SealedTunnel.Socks.Session

/-!
# What a client's bytes come to

A client sends a byte string and then nothing more. What it is told, and what becomes of its
request, depends on the bytes alone: they are judged part by part, in the order in which the
protocol looks at them, and the first part that is missing or wrong decides. Each wrong part has its
own failure, and its own answer or none. Reading greeting and request as a conversation comes to the
same verdict.

## Main definitions

* `Verdict`, `judge`: the verdict on a byte string, read off its layout
* `Session.Call.verdict`: what a conversation comes to

## Main results

* `Session.verdict_handshake`: greeting and request come to the verdict on the bytes
-/

namespace SealedTunnel.Socks

/-- What becomes of a client that sends certain bytes and then ends. -/
structure Verdict where
  told : Bytes
  /-- The address that it asks for and the bytes behind its request, or what is wrong with it. -/
  outcome : Except ProxyError (Address × Bytes)

/-- An answer to a request. -/
def answer (code : UInt8) : Bytes :=
  [5, code, 0, 1, 0, 0, 0, 0, 0, 0]

/-! ## The layout -/

/-- The end has come where more bytes were needed. -/
def tooShort : Except ProxyError (Address × Bytes) :=
  .error (.io .endOfStream)

/-- A port, the last part of a request. -/
def judgePort (address : UInt16 → Address) : Bytes → Except ProxyError (Address × Bytes)
  | high :: low :: rest => .ok (address (.ofNat (high.toNat * 256 + low.toNat)), rest)
  | _ => tooShort

/-- An address of one of the three kinds, and its port. -/
def judgeAddress (kind : UInt8) (bytes : Bytes) : Except ProxyError (Address × Bytes) :=
  if kind = 1 then
    match bytes with
    | a :: b :: c :: d :: more => judgePort (.ipv4 a b c d) more
    | _ => tooShort
  else if kind = 3 then
    match bytes with
    | length :: more =>
      if more.length < length.toNat then tooShort
      else
        match Bytes.toString? (more.take length.toNat) with
        | some name => judgePort (.domain name) (more.drop length.toNat)
        | none => .error (.address "domain is not UTF-8")
    | [] => tooShort
  else if kind = 4 then
    if bytes.length < 16 then tooShort
    else judgePort (.ofIpv6 (bytes.take 16)) (bytes.drop 16)
  else .error (.addressType kind)

/-- A request; only a command other than CONNECT is answered. -/
def judgeRequest : Bytes → Verdict
  | version :: command :: _reserved :: kind :: more =>
    if version ≠ 5 then ⟨[], .error (.version version)⟩
    else if command ≠ 1 then ⟨answer 7, .error (.command command)⟩
    else ⟨[], judgeAddress kind more⟩
  | _ => ⟨[], tooShort⟩

/-- A greeting and a request. The methods that the greeting offers do not matter. -/
def judge : Bytes → Verdict
  | version :: count :: more =>
    if version ≠ 5 then ⟨[], .error (.version version)⟩
    else if more.length < count.toNat then ⟨[], tooShort⟩
    else
      let request := judgeRequest (more.drop count.toNat)
      ⟨[5, 0] ++ request.told, request.outcome⟩
  | _ => ⟨[], tooShort⟩

/-! ## Conversations -/

namespace Session

/-- The outcome of a call, without the session. -/
def Call.outcome : Except (ProxyError × Session) (Address × Session) × Bytes →
    Except ProxyError (Address × Bytes)
  | (.ok (address, _), rest) => .ok (address, rest)
  | (.error (why, _), _) => .error why

/-- What a call comes to with a client that sends these bytes and then ends. -/
def Call.verdict (t : Call Address) (sent : Bytes) : Verdict :=
  ⟨t.speech sent, Call.outcome (t.on sent)⟩

variable {s : Session} {n : Nat} {next : Bytes → Call Address} {got bs : Bytes}

theorem verdict_read_of_lt (h : bs.length < n) :
    Call.verdict (s.read n next) bs = ⟨[], tooShort⟩ := by
  rw [Call.verdict, read, Talk.speech_need_of_lt h, Talk.on_need_of_lt h]
  rfl

theorem verdict_read_append (got : Bytes) (h : got.length = n) (more : Bytes) :
    Call.verdict (s.read n next) (got ++ more) = Call.verdict (next got) more := by
  rw [Call.verdict, read, Talk.speech_need_append h, Talk.on_need_append h]
  rfl

/-- Reading a number of bytes that may or may not be there. -/
theorem verdict_read (s : Session) (n : Nat) (next : Bytes → Call Address) (bs : Bytes) :
    Call.verdict (s.read n next) bs =
      if bs.length < n then ⟨[], tooShort⟩ else Call.verdict (next (bs.take n)) (bs.drop n) := by
  split
  · exact verdict_read_of_lt ‹_›
  · have hlength : (bs.take n).length = n := List.length_take_of_le (Nat.not_lt.1 ‹_›)
    rw [← verdict_read_append _ hlength, List.take_append_drop]

theorem verdict_readPort (s : Session) (address : UInt16 → Address) (bs : Bytes) :
    Call.verdict (s.readPort address) bs = ⟨[], judgePort address bs⟩ := by
  match bs with
  | [] | [_] => exact verdict_read_of_lt (by simp)
  | high :: low :: rest =>
    refine (verdict_read_append [high, low] rfl rest).trans ?_
    show Verdict.mk [] (.ok (address (.ofNat ((0 * 256 + high.toNat) * 256 + low.toNat)), rest)) = _
    rw [Nat.zero_mul, Nat.zero_add]
    rfl

theorem verdict_readAddress (s : Session) (kind : UInt8) (bs : Bytes) :
    Call.verdict (s.readAddress kind) bs = ⟨[], judgeAddress kind bs⟩ := by
  unfold readAddress judgeAddress
  split
  · match bs with
    | [] | [_] | [_, _] | [_, _, _] => exact verdict_read_of_lt (by simp)
    | a :: b :: c :: d :: more =>
      refine (verdict_read_append [a, b, c, d] rfl more).trans ?_
      exact verdict_readPort s _ more
  · split
    · match bs with
      | [] => exact verdict_read_of_lt (by simp)
      | length :: more =>
        refine (verdict_read_append [length] rfl more).trans ?_
        rw [List.getD_cons_zero, verdict_read]
        dsimp only
        split
        · rfl
        · cases Bytes.toString? (more.take length.toNat) with
          | none => rfl
          | some name => exact verdict_readPort s _ _
    · split
      · rw [verdict_read]
        split
        · rfl
        · exact verdict_readPort s _ _
      · rfl

/-- The request of a session that awaits one. -/
theorem verdict_readRequest (hs : s.phase = .awaitRequest) (bs : Bytes) :
    Call.verdict s.readRequest bs = judgeRequest bs := by
  rw [readRequest, expect, if_pos hs]
  match bs with
  | [] | [_] | [_, _] | [_, _, _] => exact verdict_read_of_lt (by simp)
  | spoken :: command :: reserved :: kind :: more =>
    refine (verdict_read_append [spoken, command, reserved, kind] rfl more).trans ?_
    show Call.verdict (if spoken ≠ 5 then _ else if command ≠ 1 then _ else _) more =
      if spoken ≠ 5 then _ else if command ≠ 1 then _ else _
    split
    · rfl
    · split
      · rfl
      · exact verdict_readAddress _ _ _

/-- **Greeting and request come to the verdict on the bytes.** -/
theorem verdict_handshake (sent : Bytes) : Call.verdict handshake sent = judge sent := by
  let greeted : Session := { negotiated := true, phase := .awaitRequest }
  have hgreeting : handshake = Session.read {} 2 fun greeting =>
      Talk.bind
        (if greeting.getD 0 0 ≠ version then .fail (.version (greeting.getD 0 0), {})
        else Session.read {} (greeting.getD 1 0).toNat fun _ =>
          .send [version, noAuthentication] (writeStop {}) (.done ((), greeted)))
        fun answer => answer.2.readRequest := rfl
  rw [hgreeting]
  rcases sent with _ | ⟨spoken, _ | ⟨count, more⟩⟩
  · exact verdict_read_of_lt (by simp)
  · exact verdict_read_of_lt (by simp)
  · refine (verdict_read_append [spoken, count] rfl more).trans ?_
    show Call.verdict (Talk.bind (if spoken ≠ 5 then _ else _) _) more = if spoken ≠ 5 then _ else _
    split
    · rfl
    · show Call.verdict (Session.read {} count.toNat fun _ =>
        .send [5, 0] (writeStop {}) greeted.readRequest) more = _
      rw [verdict_read]
      split
      · rfl
      · rw [← verdict_readRequest (s := greeted) rfl]
        rfl

end Session

end SealedTunnel.Socks
