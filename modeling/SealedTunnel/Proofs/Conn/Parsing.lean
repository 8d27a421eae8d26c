import SealedTunnel.Conn.Reader
import SealedTunnel.Proofs.Conn.Payload
import SealedTunnel.Proofs.Stream.Talk

/-!
# What a byte string carries

A byte string that is followed by the end of the stream carries the data of its frames, one after
the other, up to the first of the ends that reading may meet: the string stops between two frames,
inside a header or inside a payload, a header declares a length that no frame has, or a payload
cannot be undone. This is said here of the string as a whole, with no stream, buffer or caller;
fetching frame by frame agrees with it.

## Main definitions

* `Parsed`: the data of frames, the end that they meet, and the bytes that are left behind it
* `Settings.parse`: what a byte string carries
* `Settings.fetch`: the fetching of one frame as one conversation

## Main results

* `Settings.parse_eq_fetch`: fetching finds the first frame and leaves what is behind it
* `Settings.parse_frame`: a frame carries what its payload decodes to
* `Settings.parse_append`: what whole frames carry, and then what is behind them
* `Settings.decode_eq_error`: which error a payload that cannot be undone is reported as
-/

namespace SealedTunnel

/-- What a byte string carries. -/
structure Parsed where
  /-- The data of its frames, without the empty ones. -/
  data : List Bytes := []
  ending : FetchEnd
  /-- What is left of the bytes behind the end. -/
  rest : Bytes := []

/-- The same behind a frame that carries `data`. -/
def Parsed.behind (data : Bytes) (p : Parsed) : Parsed :=
  if data = [] then p else { p with data := data :: p.data }

theorem Parsed.behind_of_ne {data : Bytes} (h : data ≠ []) (p : Parsed) :
    p.behind data = { p with data := data :: p.data } := by
  rw [behind, if_neg h]

namespace Settings

/-- What a byte string carries if the stream ends behind it. -/
def parse (s : Settings) (wire : Bytes) : Parsed :=
  if wire = [] then { ending := .closed }
  else if wire.length < Header.size then
    { ending := .failed (.framing (.endInsideHeader wire.length)) }
  else
    let length := Bytes.ofBigEndian (wire.take Header.size)
    let body := wire.drop Header.size
    if length = 0 then { ending := .failed (.framing .emptyFrame), rest := body }
    else if Header.maxLength < length then
      { ending := .failed (.framing (.hugeFrame length Header.maxLength)), rest := body }
    else if s.maxFrameLength < length then
      { ending := .failed (.framing (.frameOverLimit length s.maxFrameLength)), rest := body }
    else if body.length < length then
      { ending := .failed (.framing (.endInsideFrame length)) }
    else
      match s.decode (body.take length) with
      | .error e => { ending := .failed e, rest := body.drop length }
      | .ok data => (s.parse (body.drop length)).behind data
termination_by wire.length
decreasing_by
  rename_i _ hshort _ _ _ _
  rw [List.length_drop, List.length_drop]
  rw [Header.size] at hshort ⊢
  omega

variable {s : Settings} {payload wire more : Bytes}

@[simp] theorem parse_nil (s : Settings) : s.parse [] = { ending := .closed } := by
  rw [parse, if_pos rfl]

/-! ## Fetching -/

/-- Fetches the payload of one frame: its length, and then so many bytes. -/
def fetch (s : Settings) : Talk IoError FetchEnd Bytes :=
  s.fetchLength.bind fetchPayload

theorem silent_fetchLength (s : Settings) : s.fetchLength.Silent := by
  refine Talk.Silent.bind (.need fun header => ?_) fun length => ?_
  · cases Header.decode header with
    | ok length => exact .done length
    | error fault => exact .fail _
  · split
    · exact .fail _
    · exact .done length

theorem silent_fetch (s : Settings) : s.fetch.Silent :=
  s.silent_fetchLength.bind fun _ => .need .done

theorem hungry_fetch (s : Settings) : s.fetch.Hungry := by
  intro payload rest h
  cases (Prod.mk.inj h).1

/-- How fetching a length comes out. -/
theorem on_fetchLength (s : Settings) (wire : Bytes) :
    s.fetchLength.on wire =
      let body := wire.drop Header.size
      if wire.length < Header.size then (.error (.ofHeader (.ended wire.length)), [])
      else match Header.decode (wire.take Header.size) with
        | .error fault => (.error (.failed (.framing fault)), body)
        | .ok length =>
          if s.maxFrameLength < length then
            (.error (.failed (.framing (.frameOverLimit length s.maxFrameLength))), body)
          else (.ok length, body) := by
  show (Header.fetch.bind _).on wire = _
  rw [Talk.on_bind, Header.fetch, Talk.on]
  by_cases hshort : wire.length < Header.size
  · rw [if_pos hshort, if_pos hshort]
  · rw [if_neg hshort, if_neg hshort]
    cases Header.decode (wire.take Header.size) with
    | error fault => rfl
    | ok length =>
      show (if _ then _ else _ : Talk _ _ _).on _ = if _ then _ else _
      by_cases hlimit : s.maxFrameLength < length
      · rw [if_pos hlimit, if_pos hlimit]
        rfl
      · rw [if_neg hlimit, if_neg hlimit]
        rfl

/-- How fetching one frame comes out. -/
theorem on_fetch (s : Settings) (wire : Bytes) :
    s.fetch.on wire =
      let body := wire.drop Header.size
      if wire.length < Header.size then (.error (.ofHeader (.ended wire.length)), [])
      else match Header.decode (wire.take Header.size) with
        | .error fault => (.error (.failed (.framing fault)), body)
        | .ok length =>
          if s.maxFrameLength < length then
            (.error (.failed (.framing (.frameOverLimit length s.maxFrameLength))), body)
          else if body.length < length then
            (.error (.failed (.framing (.endInsideFrame length))), [])
          else (.ok (body.take length), body.drop length) := by
  rw [fetch, Talk.on_bind, on_fetchLength]
  dsimp only
  by_cases hshort : wire.length < Header.size
  · rw [if_pos hshort, if_pos hshort]
  · rw [if_neg hshort, if_neg hshort]
    cases Header.decode (wire.take Header.size) with
    | error fault => rfl
    | ok length =>
      dsimp only
      by_cases hlimit : s.maxFrameLength < length
      · rw [if_pos hlimit, if_pos hlimit]
      · rw [if_neg hlimit, if_neg hlimit]
        rfl

/-- **Fetching finds the first frame** of a byte string, and leaves what is behind it. -/
theorem parse_eq_fetch (s : Settings) (wire : Bytes) :
    s.parse wire = match s.fetch.on wire with
      | (.error ending, rest) => { ending, rest }
      | (.ok payload, rest) => match s.decode payload with
        | .error e => { ending := .failed e, rest }
        | .ok data => (s.parse rest).behind data := by
  rw [parse, on_fetch, Header.decode, Header.check]
  by_cases hnil : wire = []
  · subst hnil
    rfl
  by_cases hshort : wire.length < Header.size
  · obtain ⟨got, hgot⟩ := Nat.exists_eq_succ_of_ne_zero (mt List.length_eq_zero_iff.1 hnil)
    rw [if_neg hnil, if_pos hshort]
    simp only [if_pos hshort]
    rw [hgot]
    rfl
  rw [if_neg hnil, if_neg hshort]
  simp only [if_neg hshort]
  generalize Bytes.ofBigEndian (wire.take Header.size) = length
  by_cases hzero : length = 0
  · simp only [if_pos hzero]
    rfl
  by_cases hhuge : Header.maxLength < length
  · simp only [if_neg hzero, if_pos hhuge]
    rfl
  simp only [if_neg hzero, if_neg hhuge]
  show _ = match (if _ then _ else _ : Except FetchEnd Bytes × Bytes) with
    | (.error ending, rest) => ({ ending, rest } : Parsed)
    | (.ok payload, rest) => _
  by_cases hlimit : s.maxFrameLength < length
  · simp only [if_pos hlimit]
  by_cases hbody : (wire.drop Header.size).length < length
  · simp only [if_neg hlimit, if_pos hbody]
  · simp only [if_neg hlimit, if_neg hbody]

section Cases

variable {rest data : Bytes} {ending : FetchEnd} {e : TunnelError}

theorem parse_of_unfetched (h : s.fetch.on wire = (.error ending, rest)) :
    s.parse wire = { ending, rest } := by
  rw [parse_eq_fetch, h]

theorem parse_of_decode_error (h : s.fetch.on wire = (.ok payload, rest))
    (hd : s.decode payload = .error e) : s.parse wire = { ending := .failed e, rest } := by
  rw [parse_eq_fetch, h]
  simp only [hd]

theorem parse_of_decode_ok (h : s.fetch.on wire = (.ok payload, rest))
    (hd : s.decode payload = .ok data) : s.parse wire = (s.parse rest).behind data := by
  rw [parse_eq_fetch, h]
  simp only [hd]

/-- The stream has closed only if it ends where a frame would begin. -/
theorem eq_nil_of_closed (h : s.fetch.on wire = (.error .closed, rest)) : wire = [] := by
  rw [on_fetch] at h
  dsimp only at h
  split at h
  · cases wire with
    | nil => rfl
    | cons b bs => cases (Prod.mk.inj h).1
  · cases hd : Header.decode (wire.take Header.size) with
    | error fault =>
      rw [hd] at h
      cases (Prod.mk.inj h).1
    | ok length =>
      simp only [hd] at h
      split at h
      · cases (Prod.mk.inj h).1
      · split at h <;> cases (Prod.mk.inj h).1

end Cases

/-! ## Frames -/

theorem on_fetch_frame (hf : Header.Fits payload.length)
    (hl : payload.length ≤ s.maxFrameLength) (more : Bytes) :
    s.fetch.on (Wire.frame payload ++ more) = (.ok payload, more) := by
  have hheader := Bytes.length_bigEndian Header.size payload.length
  rw [on_fetch, Wire.frame, List.append_assoc, List.take_left' hheader, List.drop_left' hheader,
    Header.decode_bigEndian hf]
  have hlong : ¬(Bytes.bigEndian Header.size payload.length ++ (payload ++ more)).length <
      Header.size := by
    rw [List.length_append, hheader]
    exact Nat.not_lt.2 (Nat.le_add_right ..)
  have hwhole : ¬(payload ++ more).length < payload.length := by
    rw [List.length_append]
    exact Nat.not_lt.2 (Nat.le_add_right ..)
  simp only [if_neg hlong, if_neg (Nat.not_lt.2 hl), if_neg hwhole, List.take_left,
    List.drop_left]

/-- **A frame carries what its payload decodes to.** -/
theorem parse_frame (hf : Header.Fits payload.length) (hl : payload.length ≤ s.maxFrameLength)
    {data : Bytes} (hd : s.decode payload = .ok data) (more : Bytes) :
    s.parse (Wire.frame payload ++ more) = (s.parse more).behind data := by
  exact parse_of_decode_ok (on_fetch_frame hf hl more) hd

/-- A frame takes at least its header off the stream. -/
theorem ne_nil_of_leaves {used : Bytes} (h : s.fetch.Leaves used (.done payload)) : used ≠ [] := by
  rintro rfl
  cases (Prod.mk.inj (h [])).1

/-- Induction along the frames of a byte string. -/
theorem frames_induction {motive : Bytes → Prop}
    (unfetched : ∀ {wire rest : Bytes} {ending : FetchEnd},
      s.fetch.on wire = (.error ending, rest) → motive wire)
    (undecoded : ∀ {wire payload rest : Bytes} {e : TunnelError},
      s.fetch.on wire = (.ok payload, rest) → s.decode payload = .error e → motive wire)
    (frame : ∀ {used payload rest data : Bytes}, s.fetch.Leaves used (.done payload) →
      s.decode payload = .ok data → motive rest → motive (used ++ rest))
    (wire : Bytes) : motive wire := by
  -- By induction on the length: a frame takes at least its header off the bytes.
  induction hn : wire.length using Nat.strongRecOn generalizing wire with
  | ind n ih =>
    subst hn
    cases hf : s.fetch.on wire with
    | mk outcome rest =>
      cases outcome with
      | error ending => exact unfetched hf
      | ok payload =>
        obtain ⟨used, rfl, hused⟩ := Talk.leaves_of_on_eq_ok hf
        have hshorter : rest.length < (used ++ rest).length := by
          rw [List.length_append]
          exact Nat.lt_add_of_pos_left (List.length_pos_iff.2 (ne_nil_of_leaves hused))
        cases hd : s.decode payload with
        | error e => exact undecoded hf hd
        | ok data => exact frame hused hd (ih _ hshorter rest rfl)

/-- What whole frames carry, and then what is behind them. -/
theorem parse_append {frames : Bytes} {chunks : List Bytes}
    (h : s.parse frames = { data := chunks, ending := .closed }) (more : Bytes) :
    s.parse (frames ++ more) = { s.parse more with data := chunks ++ (s.parse more).data } := by
  induction frames using s.frames_induction generalizing chunks with
  | unfetched hf =>
    rw [parse_of_unfetched hf] at h
    obtain ⟨rfl, rfl, rfl⟩ := Parsed.mk.inj h
    rw [eq_nil_of_closed hf]
    rfl
  | undecoded hf hd =>
    rw [parse_of_decode_error hf hd] at h
    cases (Parsed.mk.inj h).2.1
  | @frame used payload rest data hused hd ih =>
    rw [parse_of_decode_ok (hused rest) hd] at h
    -- The first frame is found in the same way whatever is behind the others.
    rw [List.append_assoc, parse_of_decode_ok (hused (rest ++ more)) hd]
    by_cases hnil : data = []
    · subst hnil
      exact ih h
    · rw [Parsed.behind_of_ne hnil] at h ⊢
      obtain ⟨rfl, hending, hrest⟩ := Parsed.mk.inj h
      rw [ih (by rw [← hending, ← hrest])]
      rfl

/-- No frame that carries nothing is counted. -/
theorem ne_nil_of_mem_parse {data : Bytes} (h : data ∈ (s.parse wire).data) : data ≠ [] := by
  induction wire using s.frames_induction with
  | unfetched hf =>
    rw [parse_of_unfetched hf] at h
    cases h
  | undecoded hf hd =>
    rw [parse_of_decode_error hf hd] at h
    cases h
  | @frame used payload rest first hused hd ih =>
    rw [parse_of_decode_ok (hused rest) hd] at h
    by_cases hnil : first = []
    · subst hnil
      exact ih h
    · rw [Parsed.behind_of_ne hnil] at h
      rcases List.mem_cons.1 h with rfl | h
      · exact hnil
      · exact ih h

/-- One frame more carries the data of its payload more. -/
theorem parse_append_frame {frames : Bytes} {chunks : List Bytes}
    (h : s.parse frames = { data := chunks, ending := .closed }) (hf : Header.Fits payload.length)
    (hl : payload.length ≤ s.maxFrameLength) {data : Bytes} (hd : s.decode payload = .ok data)
    (hne : data ≠ []) :
    s.parse (frames ++ Wire.frame payload) = { data := chunks ++ [data], ending := .closed } := by
  have hframe := parse_frame hf hl hd []
  rw [List.append_nil, Parsed.behind_of_ne hne] at hframe
  rw [parse_append h, hframe, parse_nil]

/-! ## Errors -/

section Errors

variable {text body : Bytes} {e : TunnelError}

theorem openPayload_eq_error (h : s.openPayload payload = .error e) : e = .authentication := by
  unfold openPayload at h
  split at h
  · cases ho : Cipher.openInPlace _ payload with
    | error err =>
      rw [ho] at h
      exact (Except.error.inj h).symm
    | ok r =>
      rw [ho] at h
      cases h
  · cases h

theorem unpad_eq_error (h : s.unpad text = .error e) : ∃ fault, e = .framing fault := by
  unfold unpad at h
  split at h
  · unfold Padding.decode at h
    split at h
    · exact ⟨_, (Except.error.inj h).symm⟩
    · dsimp only at h
      split at h
      · exact ⟨_, (Except.error.inj h).symm⟩
      · cases h
  · cases h

theorem expand_eq_error (h : s.expand body = .error e) : ∃ fault, e = .compression fault := by
  unfold expand at h
  split at h
  · split at h
    · cases h
    · cases hb : Body.decode body with
      | error fault =>
        rw [hb] at h
        exact ⟨fault, (Except.error.inj h).symm⟩
      | ok data =>
        rw [hb] at h
        cases h
  · cases h

/-- **What goes wrong with a payload shows in the error**: that it could not be opened, that its
padding is bad, or that its body is. -/
theorem decode_eq_error (h : s.decode payload = .error e) :
    (s.openPayload payload = .error e ∧ e = .authentication) ∨
      ∃ text place, s.openPayload payload = .ok (text, place) ∧
        ((s.unpad text = .error e ∧ ∃ fault, e = .framing fault) ∨
          ∃ body, s.unpad text = .ok body ∧ s.expand body = .error e ∧
            ∃ fault, e = .compression fault) := by
  unfold decode at h
  cases ho : s.openPayload payload with
  | error err =>
    rw [ho] at h
    obtain rfl := Except.error.inj h
    exact .inl ⟨rfl, openPayload_eq_error ho⟩
  | ok opened =>
    obtain ⟨text, place⟩ := opened
    rw [ho] at h
    replace h : s.decodeText text = .error e := h
    refine .inr ⟨text, place, rfl, ?_⟩
    unfold decodeText at h
    cases hu : s.unpad text with
    | error err =>
      rw [hu] at h
      obtain rfl := Except.error.inj h
      exact .inl ⟨rfl, unpad_eq_error hu⟩
    | ok body =>
      rw [hu] at h
      exact .inr ⟨body, rfl, h, expand_eq_error h⟩

end Errors

end Settings

end SealedTunnel
