import SealedTunnel.Proofs.Stream.Talk
import SealedTunnel.Stream.Tunnel

/-!
# Conversations, poll by poll

A conversation over a stream that makes it wait is taken up again and again, and others act in
between. What holds after one poll holds after all of them: a conversation that only listens comes
to its outcome on the bytes ahead, and writing has put in the first of the bytes. Either is over
after enough polls that find something, whatever polls find nothing in between.

## Main definitions

* `Duplex.WakesReader`, `Duplex.WakesWriter`: what others do lets a poll get on
* `Talk.advanceAll`: a conversation, poll by poll
* `Talk.Writing`, `Talk.Reading`: how far writing has come, and reading exactly

## Main results

* `Talk.advanceAll_of_gives`, `Talk.isOver_advanceAll`: listening, poll by poll
* `Talk.advanceAll_writeAll`, `Talk.isOver_advanceAll_writeAll`: writing, poll by poll
* `Talk.advanceAll_need`, `Talk.isOver_advanceAll_need`: reading exactly, poll by poll
* `Talk.isOver_advanceAll_of_left`: polls that bring a conversation to its end
-/

namespace SealedTunnel

/-! ## Streams that wake their users -/

namespace Duplex

variable {δ σ : Type}

/-- After what others do, a reader finds some bytes, or the end. -/
def WakesReader (d : Duplex δ σ) (others : σ → σ) : Prop :=
  ∀ n s, 0 < n → (d.read n (others s)).1 ≠ .waiting

/-- After what others do, some bytes of a writer are taken. -/
def WakesWriter (d : Duplex δ σ) (others : σ → σ) : Prop :=
  ∀ bs s, bs ≠ [] → (d.write bs (others s)).1 ≠ .waiting

theorem collect_zero (d : Duplex δ σ) (s : σ) : d.collect 0 s = (.complete [], s) := by
  rw [collect, collectAfter, dif_pos rfl]
  rfl

/-- What was collected before stands in front. -/
theorem pieces_le_partway (d : Duplex δ σ) (missing : Nat) (pieces : List Bytes) (s : σ)
    {got : Bytes} (h : (d.collectAfter missing pieces s).1 = .partway got) :
    pieces.reverse.flatten <+: got := by
  fun_induction d.collectAfter missing pieces s with
  | case1 | case3 | case4 => cases h
  | case2 => exact Transfer.partway.inj h ▸ List.prefix_refl _
  | case5 missing pieces s hm b bs s' hr ih =>
    refine List.IsPrefix.trans ?_ (ih h)
    rw [List.reverse_cons, List.flatten_append]
    exact List.prefix_append _ _

/-- Where a reader finds something, it has collected something when it has to wait. -/
theorem partway_ne_nil (d : Duplex δ σ) {n : Nat} (hn : 0 < n) {s : σ}
    (hread : (d.read n s).1 ≠ .waiting) (got : Bytes) (h : (d.collect n s).1 = .partway got) :
    got ≠ [] := by
  rw [collect, collectAfter, dif_neg (Nat.ne_of_gt hn)] at h
  rintro rfl
  split at h
  · rename_i hr
    exact hread (congrArg Prod.fst hr)
  · cases h
  · cases h
  · have hpieces := d.pieces_le_partway _ _ _ h
    simp at hpieces

/-- What is still to be delivered is something, and less where the stream takes some of it. -/
theorem partway_deliver (d : Duplex δ σ) (data : Bytes) (s : σ) (rest : Bytes)
    (h : (d.deliver data s).1 = .partway rest) :
    rest ≠ [] ∧ rest.length ≤ data.length ∧
      ((∀ bs, bs ≠ [] → (d.write bs s).1 ≠ .waiting) → rest.length < data.length) := by
  fun_induction d.deliver data s with
  | case1 | case3 | case4 => cases h
  | case2 s b bs s' hw =>
    obtain rfl := Transfer.partway.inj h
    refine ⟨List.cons_ne_nil b bs, Nat.le_refl _, fun hwrite => ?_⟩
    exact absurd (congrArg Prod.fst hw) (hwrite _ (List.cons_ne_nil b bs))
  | case5 s b bs n s' hw ih =>
    obtain ⟨hne, hle, -⟩ := ih h
    rw [List.length_drop] at hle
    rw [List.length_cons]
    exact ⟨hne, by omega, fun _ => by omega⟩

end Duplex

/-! ## Polls -/

namespace Talk

variable {δ ε α σ : Type} {d : Duplex δ σ} {ahead taken : σ → Bytes} {up : σ → Prop}

/-- Others act, and then a conversation goes on as far as its stream lets it. -/
def poll (d : Duplex δ σ) (r : Talk δ ε α × σ) (others : σ → σ) : Talk δ ε α × σ :=
  r.1.advance d (others r.2)

/-- A conversation, poll by poll, with what others do before each of them. -/
def advanceAll (d : Duplex δ σ) (others : List (σ → σ)) (r : Talk δ ε α × σ) : Talk δ ε α × σ :=
  others.foldl (poll d) r

/-- What every poll keeps, all of them keep. -/
theorem advanceAll_keeps {P : Talk δ ε α × σ → Prop} {others : List (σ → σ)}
    (h : ∀ f ∈ others, ∀ r, P r → P (poll d r f)) {r : Talk δ ε α × σ} (hr : P r) :
    P (advanceAll d others r) :=
  List.foldlRecOn others (poll d) hr fun r hr f hf => h f hf r hr

/-- **A conversation that only listens comes to its outcome**: after any polls, what is left of it
does with the bytes still ahead what the whole of it does with all of them. -/
theorem advanceAll_of_gives (h : d.Gives ahead) {others : List (σ → σ)}
    (hothers : ∀ f ∈ others, ∀ s, ahead (f s) = ahead s) {t : Talk δ ε α} (ht : t.Silent) (s : σ) :
    (advanceAll d others (t, s)).1.Silent ∧
      t.on (ahead s) =
        (advanceAll d others (t, s)).1.on (ahead (advanceAll d others (t, s)).2) := by
  apply advanceAll_keeps (P := fun r => r.1.Silent ∧ t.on (ahead s) = r.1.on (ahead r.2))
  · intro f hf r hr
    obtain ⟨hsilent, hon⟩ := hr
    rw [← hothers f hf r.2] at hon
    exact ⟨(advance_of_gives h hsilent (f r.2)).1, hon.trans (on_advance h hsilent (f r.2))⟩
  · exact ⟨ht, rfl⟩

/-- A conversation that is over has come to its outcome, and takes no more bytes. -/
theorem on_eq_ok_iff {t : Talk δ ε α} (hover : t.isOver) {bs rest : Bytes} {a : α} :
    t.on bs = (.ok a, rest) ↔ t = .done a ∧ bs = rest := by
  cases t with
  | done b => simp [on]
  | fail e => simp [on]
  | need | send => cases hover

theorem on_eq_error_iff {t : Talk δ ε α} (hover : t.isOver) {bs rest : Bytes} {e : ε} :
    t.on bs = (.error e, rest) ↔ t = .fail e ∧ bs = rest := by
  cases t with
  | done b => simp [on]
  | fail e => simp [on]
  | need | send => cases hover

/-- How far writing has come that began when `before` was taken. -/
inductive Writing (up : σ → Prop) (taken : σ → Bytes) (before data : Bytes) :
    Talk TunnelError TunnelError Unit × σ → Prop
  | underWay {went rest : Bytes} {s : σ} (hup : up s) (hsplit : data = went ++ rest)
      (hne : rest ≠ []) (htaken : taken s = before ++ went) :
      Writing up taken before data (Tunnel.writeAll rest, s)
  | complete {s : σ} (hup : up s) (htaken : taken s = before ++ data) :
      Writing up taken before data (.done (), s)

theorem Writing.poll {d : Duplex TunnelError σ} (h : d.Takes up taken) {f : σ → σ}
    (hf : ∀ s, up s → up (f s) ∧ taken (f s) = taken s) {before data : Bytes}
    {r : Talk TunnelError TunnelError Unit × σ} (hr : Writing up taken before data r) :
    Writing up taken before data (Talk.poll d r f) := by
  cases hr with
  | @underWay went rest s hup hsplit hne htaken =>
    obtain ⟨hup', htaken'⟩ := hf s hup
    obtain ⟨more, hdelivered, hup'', htaken''⟩ := h.delivered rest (f s) hup'
    rw [htaken', htaken, List.append_assoc] at htaken''
    show Writing up taken before data ((Tunnel.writeAll rest).advance d (f s))
    rw [Tunnel.writeAll, advance]
    generalize d.deliver rest (f s) = x at hdelivered hup'' htaken''
    obtain ⟨transfer, s'⟩ := x
    dsimp only at hdelivered hup'' htaken''
    cases hdelivered with
    | complete => exact .complete hup'' (hsplit ▸ htaken'')
    | @partway _ left hleft =>
      rw [← List.append_assoc] at hsplit
      exact .underWay hup'' hsplit hleft htaken''
  | @complete s hup htaken =>
    obtain ⟨hup', htaken'⟩ := hf s hup
    exact .complete hup' (htaken'.trans htaken)

/-- **Writing puts in the first of the bytes**, after any polls, and is over with the last. -/
theorem advanceAll_writeAll {d : Duplex TunnelError σ} (h : d.Takes up taken)
    {others : List (σ → σ)}
    (hothers : ∀ f ∈ others, ∀ s, up s → up (f s) ∧ taken (f s) = taken s) {data : Bytes}
    (hne : data ≠ []) {s : σ} (hs : up s) :
    Writing up taken (taken s) data (advanceAll d others (Tunnel.writeAll data, s)) := by
  apply advanceAll_keeps
  · intro f hf r hr
    exact hr.poll h (hothers f hf)
  · exact .underWay hs (List.nil_append data).symm hne (List.append_nil _).symm

/-- What was taken is the first of the bytes, and all of them once writing is over. -/
theorem Writing.went {before data : Bytes} {r : Talk TunnelError TunnelError Unit × σ}
    (hr : Writing up taken before data r) :
    ∃ went rest, data = went ++ rest ∧ taken r.2 = before ++ went ∧
      (r.1.isOver = true ↔ rest = []) ∧ (r.1.isOver → r.1 = .done ()) := by
  cases hr with
  | @underWay went rest s hup hsplit hne htaken =>
    exact ⟨went, rest, hsplit, htaken, iff_of_false nofun hne, nofun⟩
  | complete hup htaken =>
    exact ⟨data, [], (List.append_nil data).symm, htaken, iff_of_true rfl rfl, fun _ => rfl⟩

/-! ### Reading exactly -/

section Reading

variable {n : Nat} {stop : Interruption δ → ε} {next : Bytes → Talk δ ε α}

theorem resume_nil : resume n stop next [] = .need n stop next := by
  have hstop : (fun i : Interruption δ => stop (i.after 0)) = stop := by
    funext i
    cases i with
    | ended got => rw [Interruption.after, Nat.zero_add]
    | broken e => rfl
  show Talk.need n (fun i => stop (i.after 0)) next = _
  rw [hstop]

/-- To be put aside twice is to be put aside with all bytes that were there. -/
theorem resume_resume (got got' : Bytes) :
    resume (n - got.length) (fun i => stop (i.after got.length)) (fun more => next (got ++ more))
      got' = resume n stop next (got ++ got') := by
  have hstop : (fun i : Interruption δ => stop ((i.after got'.length).after got.length)) =
      fun i => stop (i.after (got ++ got').length) := by
    funext i
    cases i with
    | ended got =>
      rw [Interruption.after, Interruption.after, Interruption.after, List.length_append,
        Nat.add_assoc]
    | broken e => rfl
  rw [resume, resume, hstop, List.length_append, Nat.sub_sub]
  simp only [List.append_assoc]

/-- How far reading exactly `n` bytes has come that began when `before` was ahead. -/
inductive Reading (ahead : σ → Bytes) (n : Nat) (stop : Interruption δ → ε)
    (next : Bytes → Talk δ ε α) (before : Bytes) : Talk δ ε α × σ → Prop
  | underWay {got : Bytes} {s : σ} (hlt : got.length < n) (hsplit : before = got ++ ahead s) :
      Reading ahead n stop next before (resume n stop next got, s)
  | complete {got : Bytes} {s : σ} (hlength : got.length = n) (hsplit : before = got ++ ahead s) :
      Reading ahead n stop next before (next got, s)
  /-- The stream has ended too early. -/
  | ended {s : σ} (hlt : before.length < n) (hnone : ahead s = []) :
      Reading ahead n stop next before (.fail (stop (.ended before.length)), s)

theorem advance_of_isOver {t : Talk δ ε α} (hover : t.isOver) (d : Duplex δ σ) (s : σ) :
    t.advance d s = (t, s) := by
  cases t with
  | done | fail => rfl
  | need | send => cases hover

/-- **One more poll of a reader** finds all that was missing, meets the end, or finds some of it;
where there is something to find, that is not nothing. -/
theorem advance_resume (h : d.Gives ahead) (stop : Interruption δ → ε)
    (hnext : ∀ bs, (next bs).isOver) {got : Bytes} (hlt : got.length < n) (s : σ) :
    Reading ahead n stop next (got ++ ahead s) ((resume n stop next got).advance d s) ∧
      (((resume n stop next got).advance d s).1.isOver ∨
        ∃ more, ((resume n stop next got).advance d s).1 = resume n stop next (got ++ more) ∧
          (got ++ more).length < n ∧ ((d.read (n - got.length) s).1 ≠ .waiting → more ≠ [])) := by
  have hc := h.collected (n - got.length) s
  have hsome := d.partway_ne_nil (Nat.sub_pos_of_lt hlt) (s := s)
  rw [resume, advance]
  generalize d.collect (n - got.length) s = r at hc hsome
  obtain ⟨transfer, s'⟩ := r
  dsimp only at hc hsome ⊢
  generalize hbefore : ahead s = before at hc
  generalize hafter : ahead s' = after at hc
  cases hc with
  | @complete bs _ hlength =>
    have hfull : (got ++ bs).length = n := by
      rw [List.length_append]
      omega
    dsimp only
    rw [advance_of_isOver (hnext (got ++ bs)), ← hafter, ← List.append_assoc]
    exact ⟨.complete hfull rfl, .inl (hnext (got ++ bs))⟩
  | @partway bs _ hlength =>
    have hless : (got ++ bs).length < n := by
      rw [List.length_append]
      omega
    dsimp only
    rw [resume_resume, ← hafter, ← List.append_assoc]
    exact ⟨.underWay hless rfl, .inr ⟨bs, rfl, hless, fun hread => hsome hread bs rfl⟩⟩
  | ended hlength =>
    have hless : (got ++ before).length < n := by
      rw [List.length_append]
      omega
    have hend : Reading ahead n stop next (got ++ before) _ := .ended hless hafter
    rw [List.length_append] at hend
    exact ⟨hend, .inl rfl⟩

/-- Whatever others do, a poll brings reading on. -/
theorem Reading.poll (h : d.Gives ahead) (hnext : ∀ bs, (next bs).isOver) {f : σ → σ}
    (hf : ∀ s, ahead (f s) = ahead s) {before : Bytes} {r : Talk δ ε α × σ}
    (hr : Reading ahead n stop next before r) :
    Reading ahead n stop next before (Talk.poll d r f) := by
  cases hr with
  | @underWay got s hlt hsplit =>
    have hpoll := (advance_resume h stop hnext hlt (f s)).1
    rw [hf, ← hsplit] at hpoll
    exact hpoll
  | @complete got s hlength hsplit =>
    show Reading ahead n stop next before ((next got).advance d (f s))
    rw [advance_of_isOver (hnext got)]
    exact .complete hlength (by rw [hf, hsplit])
  | @ended s hlt hnone => exact .ended hlt (by rw [hf, hnone])

/-- **Reading takes the first of the bytes ahead**, after any polls, and no more than it needs. -/
theorem advanceAll_need (h : d.Gives ahead) (hnext : ∀ bs, (next bs).isOver)
    {others : List (σ → σ)} (hothers : ∀ f ∈ others, ∀ s, ahead (f s) = ahead s) (hn : 0 < n)
    (s : σ) : Reading ahead n stop next (ahead s) (advanceAll d others (.need n stop next, s)) := by
  apply advanceAll_keeps
  · intro f hf r hr
    exact hr.poll h hnext (hothers f hf)
  · rw [← resume_nil]
    exact .underWay hn (List.nil_append (ahead s)).symm

end Reading

/-! ### Getting on -/

/-- What is over stays over. -/
theorem isOver_advanceAll_of_isOver (others : List (σ → σ)) {r : Talk δ ε α × σ}
    (hr : r.1.isOver) : (advanceAll d others r).1.isOver := by
  refine advanceAll_keeps (P := fun r => r.1.isOver) ?_ hr
  intro f hf r hr
  obtain ⟨t, s⟩ := r
  cases t with
  | done | fail => rfl
  | need | send => cases hr

/-- **As many polls that find something as a conversation has left of what it needs** bring it to
its end, if each of them takes one off that and the others put nothing on it. -/
theorem isOver_advanceAll_of_left {P : Nat → Talk δ ε α × σ → Prop} {others awake : List (σ → σ)}
    (hsub : awake.Sublist others) (hnone : ∀ r, ¬P 0 r)
    (hothers : ∀ f ∈ others, ∀ k r, P k r → (poll d r f).1.isOver ∨ P k (poll d r f))
    (hawake : ∀ f ∈ awake, ∀ k r, P (k + 1) r → (poll d r f).1.isOver ∨ P k (poll d r f))
    {k : Nat} (hmany : k ≤ awake.length) {r : Talk δ ε α × σ} (hr : P k r) :
    (advanceAll d others r).1.isOver := by
  induction hsub generalizing k r with
  | slnil =>
    obtain rfl := Nat.le_zero.1 hmany
    exact absurd hr (hnone r)
  | @cons awake others f hsub ih =>
    rcases hothers f List.mem_cons_self k r hr with hover | hleft
    · exact isOver_advanceAll_of_isOver others hover
    · exact ih (fun g hg => hothers g (List.mem_cons_of_mem f hg)) hawake hmany hleft
  | @cons_cons awake others f hsub ih =>
    cases k with
    | zero => exact absurd hr (hnone r)
    | succ k =>
      rcases hawake f List.mem_cons_self k r hr with hover | hleft
      · exact isOver_advanceAll_of_isOver others hover
      · exact ih (fun g hg => hothers g (List.mem_cons_of_mem f hg))
          (fun g hg => hawake g (List.mem_cons_of_mem f hg)) (Nat.le_of_succ_le_succ hmany) hleft

/-- **A poll that finds something takes some bytes off the stream**, or it is the last. -/
theorem length_advance_lt (h : d.Gives ahead) {t : Talk δ ε α} (ht : t.Silent) {s : σ}
    (hread : ∀ n, 0 < n → (d.read n s).1 ≠ .waiting) (hover : (t.advance d s).1.isOver = false) :
    (ahead (t.advance d s).2).length < (ahead s).length := by
  induction ht generalizing s with
  | done a => cases hover
  | fail e => cases hover
  | @need n stop next hnext ih =>
    rw [advance] at hover ⊢
    by_cases hn : n = 0
    · subst hn
      rw [Duplex.collect_zero] at hover ⊢
      exact ih [] hread hover
    have hpos := Nat.pos_of_ne_zero hn
    have hc := h.collected n s
    have hsome := d.partway_ne_nil hpos (hread n hpos)
    generalize d.collect n s = r at hc hsome hover
    obtain ⟨transfer, s'⟩ := r
    dsimp only at hc hsome
    generalize hbefore : ahead s = before at hc
    generalize hafter : ahead s' = after at hc
    cases hc with
    | @complete bs _ hlength =>
      obtain ⟨-, got, hgot, -⟩ := advance_of_gives h (hnext bs) s'
      have hle := congrArg List.length hgot
      rw [List.length_append, hafter] at hle
      rw [List.length_append]
      dsimp only
      omega
    | @partway bs _ hlength =>
      have hbs := List.length_pos_iff.2 (hsome bs rfl)
      show (ahead s').length < _
      rw [List.length_append, hafter]
      omega
    | ended => cases hover

/-- **Enough polls that find something bring a conversation to its end**, whatever polls find
nothing in between. -/
theorem isOver_advanceAll (h : d.Gives ahead) {others awake : List (σ → σ)}
    (hothers : ∀ f ∈ others, ∀ s, ahead (f s) = ahead s) (hsub : awake.Sublist others)
    (hawake : ∀ f ∈ awake, d.WakesReader f) {t : Talk δ ε α} (ht : t.Silent) {s : σ}
    (hmany : (ahead s).length < awake.length) : (advanceAll d others (t, s)).1.isOver := by
  -- What is left to need is bounded by what is ahead, and by the poll that finds the end.
  apply isOver_advanceAll_of_left (P := fun k r => r.1.Silent ∧ (ahead r.2).length < k) hsub
  · intro r hleft
    exact Nat.not_lt_zero _ hleft.2
  · rintro f hf k r ⟨hr, hk⟩
    obtain ⟨hsilent, got, hgot, -⟩ := advance_of_gives h hr (f r.2)
    have hle := congrArg List.length hgot
    rw [hothers f hf, List.length_append] at hle
    refine .inr ⟨hsilent, ?_⟩
    show (ahead (r.1.advance d (f r.2)).2).length < k
    omega
  · rintro f hf k r ⟨hr, hk⟩
    cases hover : (r.1.advance d (f r.2)).1.isOver with
    | true => exact .inl hover
    | false =>
      have hless := length_advance_lt h hr (fun n => hawake f hf n r.2) hover
      rw [hothers f (hsub.subset hf)] at hless
      refine .inr ⟨(advance_of_gives h hr (f r.2)).1, ?_⟩
      show (ahead (r.1.advance d (f r.2)).2).length < k
      omega
  · exact Nat.le_refl awake.length
  · exact ⟨ht, hmany⟩

/-- Writing is over after a poll, or has less to write where the stream takes some. -/
theorem advance_writeAll_cases {d : Duplex TunnelError σ} (data : Bytes) (s : σ) :
    ((Tunnel.writeAll data).advance d s).1.isOver = true ∨
      ∃ rest, ((Tunnel.writeAll data).advance d s).1 = Tunnel.writeAll rest ∧ rest ≠ [] ∧
        rest.length ≤ data.length ∧
        ((∀ bs, bs ≠ [] → (d.write bs s).1 ≠ .waiting) → rest.length < data.length) := by
  have hpartway := d.partway_deliver data s
  rw [Tunnel.writeAll, advance]
  generalize d.deliver data s = r at hpartway
  obtain ⟨transfer, s'⟩ := r
  cases transfer with
  | complete => exact .inl rfl
  | partway rest => exact .inr ⟨rest, rfl, hpartway rest rfl⟩
  | stopped why => exact .inl rfl

theorem isOver_advanceAll_writeAll {d : Duplex TunnelError σ} {others awake : List (σ → σ)}
    (hsub : awake.Sublist others) (hawake : ∀ f ∈ awake, d.WakesWriter f) {data : Bytes}
    (hne : data ≠ []) {s : σ} (hmany : data.length ≤ awake.length) :
    (advanceAll d others (Tunnel.writeAll data, s)).1.isOver := by
  apply isOver_advanceAll_of_left
    (P := fun k r => ∃ data, r.1 = Tunnel.writeAll data ∧ data ≠ [] ∧ data.length ≤ k) hsub
  · rintro r ⟨data, -, hne, hle⟩
    exact hne (List.length_eq_zero_iff.1 (Nat.le_zero.1 hle))
  · rintro f hf k ⟨t, s⟩ ⟨data, rfl, hne, hk⟩
    rcases advance_writeAll_cases (d := d) data (f s) with hover | ⟨rest, hrest, hne', hle, -⟩
    · exact .inl hover
    · exact .inr ⟨rest, hrest, hne', Nat.le_trans hle hk⟩
  · rintro f hf k ⟨t, s⟩ ⟨data, rfl, hne, hk⟩
    rcases advance_writeAll_cases (d := d) data (f s) with hover | ⟨rest, hrest, hne', -, hless⟩
    · exact .inl hover
    · have hless := hless fun bs hbs => hawake f hf bs s hbs
      exact .inr ⟨rest, hrest, hne', by omega⟩
  · exact hmany
  · exact ⟨data, rfl, hne, Nat.le_refl data.length⟩

/-- **As many polls that find something as bytes are needed** bring reading to its end, however many
bytes are ahead. -/
theorem isOver_advanceAll_need {n : Nat} {stop : Interruption δ → ε} {next : Bytes → Talk δ ε α}
    (h : d.Gives ahead) (hnext : ∀ bs, (next bs).isOver) {others awake : List (σ → σ)}
    (hsub : awake.Sublist others) (hawake : ∀ f ∈ awake, d.WakesReader f) (hn : 0 < n)
    (hmany : n ≤ awake.length) (s : σ) : (advanceAll d others (.need n stop next, s)).1.isOver := by
  apply isOver_advanceAll_of_left
    (P := fun k r => ∃ got, r.1 = resume n stop next got ∧ got.length < n ∧ n ≤ got.length + k) hsub
  · rintro r ⟨got, -, hlt, hk⟩
    omega
  · rintro f hf k ⟨t, s⟩ ⟨got, rfl, hlt, hk⟩
    rcases (advance_resume h stop hnext hlt (f s)).2 with hover | ⟨more, hmore, hless, -⟩
    · exact .inl hover
    · refine .inr ⟨got ++ more, hmore, hless, ?_⟩
      rw [List.length_append]
      omega
  · rintro f hf k ⟨t, s⟩ ⟨got, rfl, hlt, hk⟩
    rcases (advance_resume h stop hnext hlt (f s)).2 with hover | ⟨more, hmore, hless, hsome⟩
    · exact .inl hover
    · have hwake := hawake f hf (n - got.length) s (Nat.sub_pos_of_lt hlt)
      have hpos := List.length_pos_iff.2 (hsome hwake)
      refine .inr ⟨got ++ more, hmore, hless, ?_⟩
      rw [List.length_append]
      omega
  · exact hmany
  · exact ⟨[], resume_nil.symm, hn, Nat.le_add_left n _⟩

end Talk

end SealedTunnel
