import LibFtp.Detail.DataConnection

/-! Rules for the two transfers: an invariant of the loop at the beginning of a round, and
what holds where the loop ends. -/

namespace LibFtp

open Effect

variable {Ghost : Type} {monitor : Monitor boundary Ghost} {fuel : Nat} {callback : Bool}
  {connection : DataConnection} {fail : Ghost → Prop}

/-- A block has been moved. With a callback it is counted, and the callback decides whether
the loop goes on. -/
def Counted (monitor : Monitor boundary Ghost) (callback : Bool) (size : Nat)
    (goes stops : Ghost → Prop) (ghost : Ghost) : Prop :=
  if callback then
    ∀ counted, monitor.step ghost ⟨.transferNotify size, ()⟩ counted →
      ∀ cancelled after, monitor.step counted ⟨.isCancelled, cancelled⟩ after →
        if cancelled then stops after else goes after
  else goes ghost

/-- A transfer with a callback asks it first, and tells it of the begin and of the end. -/
def Framed (monitor : Monitor boundary Ghost) (callback : Bool) (skipped start : Ghost → Prop)
    (ghost : Ghost) : Prop :=
  if callback then
    ∀ cancelled asked, monitor.step ghost ⟨.isCancelled, cancelled⟩ asked →
      if cancelled then skipped asked
      else ∀ begun, monitor.step asked ⟨.transferBegin, ()⟩ begun → start begun
  else start ghost

def Ended (monitor : Monitor boundary Ghost) (callback : Bool) (post : Ghost → Prop)
    (ghost : Ghost) : Prop :=
  if callback then ∀ after, monitor.step ghost ⟨.transferEnd, ()⟩ after → post after
  else post ghost

/-- A ghost condition that the calls of the callback leave alone. -/
structure Unmoved (monitor : Monitor boundary Ghost) (kept : Ghost → Prop) : Prop where
  begins : ∀ ghost answer after, kept ghost → monitor.step ghost ⟨.transferBegin, answer⟩ after →
    kept after
  counts : ∀ ghost size answer after, kept ghost →
    monitor.step ghost ⟨.transferNotify size, answer⟩ after → kept after
  asks : ∀ ghost cancelled after, kept ghost → monitor.step ghost ⟨.isCancelled, cancelled⟩ after →
    kept after
  ends : ∀ ghost answer after, kept ghost → monitor.step ghost ⟨.transferEnd, answer⟩ after →
    kept after

namespace Unmoved

variable {kept : Ghost → Prop} (unmoved : Unmoved monitor kept)

include unmoved

theorem counted {stops : Ghost → Prop} {size : Nat} {ghost : Ghost} (holds : kept ghost)
    (weaker : ∀ ghost, kept ghost → stops ghost) : Counted monitor callback size kept stops ghost := by
  cases callback with
  | false => exact holds
  | true =>
    intro counted counting cancelled after asking
    have still := unmoved.asks _ _ _ (unmoved.counts _ _ _ _ holds counting) asking
    cases cancelled with
    | true => exact weaker after still
    | false => exact still

theorem framed {skipped : Ghost → Prop} {ghost : Ghost} (holds : kept ghost)
    (weaker : ∀ ghost, kept ghost → skipped ghost) :
    Framed monitor callback skipped kept ghost := by
  cases callback with
  | false => exact holds
  | true =>
    intro cancelled asked asking
    have still := unmoved.asks _ _ _ holds asking
    cases cancelled with
    | true => exact weaker asked still
    | false => exact fun begun beginning => unmoved.begins _ _ _ still beginning

theorem ended {ghost : Ghost} (holds : kept ghost) : Ended monitor callback kept ghost := by
  cases callback with
  | false => exact holds
  | true => exact fun after ending => unmoved.ends _ _ _ holds ending

end Unmoved

namespace DataConnection

section Sending
variable {ready post : InputStream → Ghost → Prop} {holding : Bytes → InputStream → Ghost → Prop}

/-- What one round of `send` keeps. `holding` is what holds between the read of a block and
its write. -/
structure Sends (monitor : Monitor boundary Ghost) (fuel : Nat) (callback : Bool)
    (connection : DataConnection) (ready : InputStream → Ghost → Prop)
    (holding : Bytes → InputStream → Ghost → Prop) (post : InputStream → Ghost → Prop)
    (fail : Ghost → Prop) : Prop where
  spins : ∀ stream ghost, ready stream ghost → fail ghost
  reads : ∀ stream ghost, ready stream ghost → (InputStream.read bufSize).wp monitor fuel
    (fun block next last => if block.isEmpty then post next last else holding block next last)
    (fun _ _ => fail) stream ghost
  closed : ∀ block stream ghost (ec : ErrorCode) after, holding block stream ghost →
    connection.socket.isOpen = false →
    monitor.step ghost ⟨.unopened .data connection.socket.layer (.write block), ec⟩ after →
    fail after
  refused : ∀ block stream ghost ec after, holding block stream ghost →
    connection.socket.isOpen = true →
    monitor.step ghost ⟨.write .data connection.socket.layer block, some ec⟩ after → fail after
  writes : ∀ block stream ghost after, holding block stream ghost →
    connection.socket.isOpen = true →
    monitor.step ghost ⟨.write .data connection.socket.layer block, none⟩ after →
    Counted monitor callback block.length (ready stream) (post stream) after

namespace Sends

variable (sends : Sends monitor fuel callback connection ready holding post fail)

include sends

private theorem loop (steps : Nat) (stream : InputStream) (ghost : Ghost)
    (start : ready stream ghost) :
    (sendLoop callback steps stream).wp monitor fuel
      (fun value after last => after = connection ∧ post value last) (fun _ _ => fail) connection
      ghost := by
  induction steps generalizing stream ghost with
  | zero => exact sends.spins stream ghost start
  | succ steps ih =>
    simp only [sendLoop, Program.wp_bind, Program.wp_on, Program.wp_ite, Program.wp_pure]
    refine Program.wp_mono (sends.reads stream ghost start) ?_ fun _ _ _ => id
    intro block next last read
    by_cases empty : block.isEmpty = true
    · rw [if_pos empty] at read ⊢
      exact ⟨rfl, read⟩
    · rw [if_neg empty] at read ⊢
      simp only [onSocket, Program.wp_zoom, Socket.wp_write, wp_throwIf]
      split
      · rename_i opened
        intro answer after step
        cases answer with
        | some ec => exact sends.refused block next last ec after read opened step
        | none =>
          have counted := sends.writes block next last after read opened step
          simp only [wp_call]
          cases callback with
          | false => exact ih next after counted
          | true =>
            rw [if_pos rfl]
            intro _ told telling cancelled asked asking
            have goes := counted told telling cancelled asked asking
            cases cancelled with
            | true => exact ⟨rfl, goes⟩
            | false => exact ih next asked goes
      · rename_i shut
        intro ec after step
        exact sends.closed block next last ec after read (Bool.eq_false_of_not_eq_true shut) step

/-- The whole of `send`. -/
theorem send (ending : InputStream → Ghost → Prop) (stream : InputStream) (ghost : Ghost)
    (starts : Framed monitor callback (ending stream) (ready stream) ghost)
    (ends : ∀ stream ghost, post stream ghost → Ended monitor callback (ending stream) ghost) :
    (DataConnection.send stream callback).wp monitor fuel
      (fun value after last => after = connection ∧ ending value last) (fun _ _ => fail) connection
      ghost := by
  cases callback with
  | false =>
    simp only [DataConnection.send, Program.wp_loop, Bool.false_eq_true, if_false]
    refine Program.wp_mono (sends.loop fuel stream ghost starts) ?_ fun _ _ _ => id
    exact fun value after last both => ⟨both.1, ends value last both.2⟩
  | true =>
    simp only [DataConnection.send, Program.wp_bind, Program.wp_loop, Program.wp_ite,
      Program.wp_pure, wp_call, if_true]
    intro cancelled asked asking
    have starts := starts cancelled asked asking
    cases cancelled with
    | true => exact ⟨rfl, starts⟩
    | false =>
      intro _ begun beginning
      refine Program.wp_mono (sends.loop fuel stream begun (starts begun beginning)) ?_
        fun _ _ _ => id
      intro value after last both _ told telling
      exact ⟨both.1, ends value last both.2 told telling⟩

end Sends

end Sending

section Receiving
variable {ready : OutputStream → Ghost → Prop} {post : OutputStream → Option ErrorCode → Ghost → Prop}

/-- What one round of `recv` keeps; `post` has the error code that ends the loop, or none
where the callback has. -/
structure Receives (monitor : Monitor boundary Ghost) (fuel : Nat) (callback : Bool)
    (connection : DataConnection) (ready : OutputStream → Ghost → Prop)
    (post : OutputStream → Option ErrorCode → Ghost → Prop) (fail : Ghost → Prop) : Prop where
  spins : ∀ stream ghost, ready stream ghost → fail ghost
  closed : ∀ stream ghost (ec : ErrorCode) after, ready stream ghost →
    connection.socket.isOpen = false →
    monitor.step ghost ⟨.unopened .data connection.socket.layer (.readSome bufSize), ec⟩ after →
    post stream (some ec) after
  ends : ∀ stream ghost ec after, ready stream ghost → connection.socket.isOpen = true →
    monitor.step ghost ⟨.readSome .data connection.socket.layer bufSize, .error ec⟩ after →
    post stream (some ec) after
  reads : ∀ stream ghost chunk after, ready stream ghost → connection.socket.isOpen = true →
    monitor.step ghost ⟨.readSome .data connection.socket.layer bufSize, .ok chunk⟩ after →
    (OutputStream.write chunk.data).wp monitor fuel
      (fun _ next last =>
        Counted monitor callback chunk.data.length (ready next) (post next none) last)
      (fun _ _ => fail) stream after

namespace Receives

variable (receives : Receives monitor fuel callback connection ready post fail)

include receives

private theorem loop (steps : Nat) (stream : OutputStream) (ghost : Ghost)
    (start : ready stream ghost) :
    (recvLoop callback steps stream).wp monitor fuel
      (fun value after last => after = connection ∧ post value.1 value.2 last) (fun _ _ => fail)
      connection ghost := by
  induction steps generalizing stream ghost with
  | zero => exact receives.spins stream ghost start
  | succ steps ih =>
    simp only [recvLoop, onSocket, Program.wp_bind, Program.wp_zoom, Socket.wp_readSome]
    split
    · rename_i opened
      intro answer after step
      cases answer with
      | error ec => exact ⟨rfl, receives.ends stream ghost ec after start opened step⟩
      | ok chunk =>
        simp only [Program.wp_bind, Program.wp_on, Program.wp_ite, Program.wp_pure, wp_call]
        refine Program.wp_mono (receives.reads stream ghost chunk after start opened step) ?_
          fun _ _ _ => id
        intro _ next last counted
        cases callback with
        | false => exact ih next last counted
        | true =>
          rw [if_pos rfl]
          intro _ told telling cancelled asked asking
          have goes := counted told telling cancelled asked asking
          cases cancelled with
          | true => exact ⟨rfl, goes⟩
          | false => exact ih next asked goes
    · rename_i shut
      intro ec after step
      have closed := Bool.eq_false_of_not_eq_true shut
      exact ⟨rfl, receives.closed stream ghost ec after start closed step⟩

/-- The whole of `recv`. Its destination is flushed unless the loop ends with an error. -/
theorem recv (ending : OutputStream → Ghost → Prop) (stream : OutputStream) (ghost : Ghost)
    (starts : Framed monitor callback (ending stream) (ready stream) ghost)
    (breaks : ∀ stream ec ghost, ec ≠ .eof → post stream (some ec) ghost → fail ghost)
    (flushes : ∀ stream ec ghost, ec = none ∨ ec = some .eof → post stream ec ghost →
      OutputStream.flush.wp monitor fuel
        (fun _ next last => Ended monitor callback (ending next) last) (fun _ _ => fail) stream
        ghost) :
    (DataConnection.recv stream callback).wp monitor fuel
      (fun value after last => after = connection ∧ ending value last) (fun _ _ => fail) connection
      ghost := by
  have tail (stream : OutputStream) (ec : Option ErrorCode) (ghost : Ghost)
      (ended : post stream ec ghost) :
      (recvTail stream ec).wp monitor fuel
        (fun value after last => after = connection ∧ Ended monitor callback (ending value) last)
        (fun _ _ => fail) connection ghost := by
    simp only [recvTail, Program.wp_bind, Program.wp_on, Program.wp_pure, wp_throwUnless]
    cases ec with
    | none =>
      exact Program.wp_mono (flushes stream none ghost (.inl rfl) ended)
        (fun _ _ _ done => ⟨rfl, done⟩) fun _ _ _ => id
    | some ec =>
      by_cases eof : ec = .eof
      · simp only [if_pos eof]
        exact Program.wp_mono (flushes stream (some ec) ghost (.inr (congrArg some eof)) ended)
          (fun _ _ _ done => ⟨trivial, done⟩) fun _ _ _ => id
      · simp only [if_neg eof]
        exact breaks stream ec ghost eof ended
  cases callback with
  | false =>
    simp only [DataConnection.recv, Program.wp_bind, Program.wp_loop, Bool.false_eq_true, if_false]
    refine Program.wp_mono (receives.loop fuel stream ghost starts) ?_ fun _ _ _ => id
    intro value after last both
    rw [both.1]
    exact tail value.1 value.2 last both.2
  | true =>
    simp only [DataConnection.recv, Program.wp_bind, Program.wp_loop, Program.wp_ite,
      Program.wp_pure, wp_call, if_true]
    intro cancelled asked asking
    have starts := starts cancelled asked asking
    cases cancelled with
    | true => exact ⟨rfl, starts⟩
    | false =>
      intro _ begun beginning
      refine Program.wp_mono (receives.loop fuel stream begun (starts begun beginning)) ?_
        fun _ _ _ => id
      intro value after last both
      rw [both.1]
      refine Program.wp_mono (tail value.1 value.2 last both.2) ?_ fun _ _ _ => id
      intro value after last ended _ told telling
      exact ⟨ended.1, ended.2 told telling⟩

end Receives

end Receiving

end DataConnection

end LibFtp
