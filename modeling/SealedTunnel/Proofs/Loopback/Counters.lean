import SealedTunnel.Loopback.Dialer
import SealedTunnel.Proofs.Conn.Reading
import SealedTunnel.Proofs.Conn.Writing
import SealedTunnel.Proofs.Ends.Connecting

/-!
# Counters of an in-memory world

The tasks of a world share its counters. What they do on pipes and connections leaves these alone;
relays and dialing count on them as they should.

## Main results

* `Channel.leaves_read`, `Channel.leaves_write`, `Channel.leaves_close`: a connection leaves alone
  what its stream does
* `World.counts_relayEnds`, `World.counts_dialer`
-/

namespace SealedTunnel

/-! ## Connections -/

variable {τ κ : Type} {view : τ → κ}

/-- Whatever is done on the stream leaves alone what `view` shows. -/
structure Carrier.Leaves (d : Carrier τ) (view : τ → κ) : Prop extends d.toDuplex.Leaves view where
  flush : ∀ s, view (d.flush s).2 = view s
  shut : ∀ s, view (d.shut s).2 = view s

namespace Channel

/-- Reading on a connection leaves alone what reading its stream does. -/
theorem leaves_read {d : Duplex IoError τ} (h : d.Leaves view) (s : Settings)
    (fuel owner n : Nat) (ch : Channel τ) :
    view (ch.read s d fuel owner n).2.stream = view ch.stream := by
  have hread : view (ch.reader.read s n d fuel ch.pool ch.stream).source = view ch.stream := by
    unfold Reader.read
    split
    · exact Reader.fetchData_keeps_of (P := fun t => view t = view ch.stream) (Q := fun _ => True)
        (fun _ ht => (h.advance _ _).trans ht) trivial fuel trivial ch.pool rfl
    · rfl
  unfold read
  split
  · rfl
  · dsimp only
    split
    · rfl
    · generalize ch.reader.read s n d fuel ch.pool ch.stream = r at hread
      obtain ⟨outcome, reader, pool, source⟩ := r
      cases outcome <;> exact hread

variable {d : Carrier τ}

/-- So does writing. -/
theorem leaves_write (h : d.Leaves view) (s : Settings) (owner : Nat) (data : Bytes)
    (ch : Channel τ) : view (ch.write s d owner data).2.stream = view ch.stream :=
  (write_readers (P := fun t => view t = view ch.stream) (fun _ ht => (h.write ..).trans ht)
    (fun ht => (h.flush _).trans ht) s owner data rfl).2.2

/-- So does closing. -/
theorem leaves_close (h : d.Leaves view) (owner : Nat) (ch : Channel τ) :
    view (ch.close d owner).2.stream = view ch.stream := by
  rcases stream_close d owner ch with hsame | hshut
  · rw [hsame]
  · rw [hshut, Carrier.finish_snd]
    exact h.shut ch.stream

end Channel

/-! ## Worlds -/

namespace World

theorem leaves_rawEnd (inbound outbound : Nat) : (rawEnd inbound outbound).Leaves stats where
  read n w := by
    show (readPipe inbound n w).2.stats = w.stats
    unfold readPipe
    dsimp only
    split <;> rfl
  write bs w := by
    show (writePipe outbound bs w).2.stats = w.stats
    unfold writePipe
    dsimp only
    split <;> rfl

theorem leaves_streamOf (c : Nat) (w : World) : (streamOf c w).Leaves stats where
  toLeaves := leaves_rawEnd (w.conn c).inbound (w.conn c).outbound
  flush _ := rfl
  shut _ := rfl

/-- What is put back of a connection leaves the counters as its tasks have left them. -/
theorem stats_putChannel (c : Nat) (ch : Channel World) :
    (putChannel c ch).stats = ch.stream.stats := rfl

theorem leaves_connEnd (c owner : Nat) : (connEnd c owner).Leaves stats where
  read n w := by
    show (readConn c owner n w).2.stats = w.stats
    unfold readConn
    have hread := Channel.leaves_read (leaves_streamOf c w).toLeaves (w.conn c).settings
      ((w.pipe (w.conn c).inbound).queue.size + 1) owner n (w.channel c)
    dsimp only
    generalize (w.channel c).read _ _ _ _ _ = r at hread ⊢
    obtain ⟨outcome, ch⟩ := r
    rw [← stats_putChannel c] at hread
    dsimp only
    split <;> exact hread
  write bs w := by
    show (writeConn c owner bs w).2.stats = w.stats
    unfold writeConn
    split
    · split <;> rfl
    · have hwrite := Channel.leaves_write (leaves_streamOf c w) (w.conn c).settings owner bs
        (w.channel c)
      dsimp only
      generalize (w.channel c).write _ _ _ _ = r at hwrite ⊢
      obtain ⟨outcome, ch⟩ := r
      rw [← stats_putChannel c] at hwrite
      dsimp only
      split <;> exact hwrite

theorem stats_closeConn (c owner : Nat) (w : World) : (closeConn c owner w).2.stats = w.stats :=
  Channel.leaves_close (leaves_streamOf c w) owner (w.channel c)

theorem stats_dropConn (c : Nat) (w : World) : (dropConn c w).stats = w.stats := by
  unfold dropConn
  dsimp only
  split <;> rfl

/-- **The relays of a world count on its counters as they should.** -/
theorem counts_relayEnds (inbound outbound c owner : Nat) :
    (relayEnds inbound outbound c owner).Counts stats where
  near := ⟨(leaves_rawEnd inbound outbound).read, (leaves_rawEnd inbound outbound).write⟩
  tunnel := leaves_connEnd c owner
  started _ := rfl
  ended _ := rfl
  countUp _ _ := rfl
  countDown _ _ := rfl
  abandon _ := rfl
  closeTunnel := stats_closeConn c owner
  closeNear _ := rfl

/-- So does dialing, whatever the hosts answer. -/
theorem counts_dialer {hosts : Attempt World}
    (h : ∀ endpoint w, (hosts endpoint w).2.stats = w.stats) (timeoutMs : Nat) (far : String)
    (settings : Settings) (owner : Nat) :
    (dialer hosts timeoutMs far settings owner).Counts stats where
  connector := by
    refine ⟨fun _ _ => rfl, fun p w => ?_⟩
    show (Transport.attempt hosts World.now p w).2.stats = w.stats
    unfold Transport.attempt
    split
    · rfl
    · rename_i endpoint _
      have hw := h endpoint w
      generalize hosts endpoint w = r at hw
      obtain ⟨answer, w'⟩ := r
      cases answer with
      | ready | failed => exact hw
      | waiting =>
        dsimp only
        split <;> exact hw
  wrap _ _ := rfl
  tunnel conn := leaves_connEnd conn owner
  discard := stats_dropConn
  dialFailed _ := rfl

end World

end SealedTunnel
