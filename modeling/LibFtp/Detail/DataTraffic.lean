import LibFtp.Detail.Quiet

/-! The two transfer loops: whatever they exchange over the data connection, they leave it
in the mode in which they found it. -/

namespace LibFtp

open Effect

/-- Questions of a transfer over a data connection in the given mode. -/
inductive Moving (layer : Layer) : Boundary.Query → Prop where
  | write : Moving layer (.write .data layer data)
  | readSome : Moving layer (.readSome .data layer maxSize)
  | missedWrite : Moving layer (.unopened .data layer (.write data))
  | missedRead : Moving layer (.unopened .data layer (.readSome maxSize))
  | transferBegin : Moving layer .transferBegin
  | transferNotify : Moving layer (.transferNotify size)
  | transferEnd : Moving layer .transferEnd
  | isCancelled : Moving layer .isCancelled
  | streaming (streaming : Streaming query) : Moving layer query

namespace DataConnection

/-- The connection stays in its mode and the ghost condition holds. -/
def Stays {Ghost : Type} (layer : Layer) (kept : Ghost → Prop) (connection : DataConnection)
    (ghost : Ghost) : Prop :=
  connection.socket.layer = layer ∧ kept ghost

variable {Ghost : Type} {monitor : Monitor boundary Ghost} {layer : Layer} {kept : Ghost → Prop}

private abbrev KeptBy (monitor : Monitor boundary Ghost) (layer : Layer) (kept : Ghost → Prop)
    (program : Method DataConnection Value) : Prop :=
  program.Keeps monitor (Stays layer kept) (Stays layer kept)

variable (steady : ∀ ghost event after, Moving layer event.query → kept ghost →
  monitor.step ghost event after → kept after)

include steady

private theorem call_stays {query : Boundary.Query} (moving : Moving layer query) :
    KeptBy monitor layer kept (call query) :=
  .ask fun _ ghost answer after holds step =>
    ⟨holds.1, steady ghost ⟨query, answer⟩ after moving holds.2 step⟩

private theorem stream_stays {Stream : Type} {stream : Stream} {program : Method Stream Value}
    (asks : program.Asks Streaming) : KeptBy monitor layer kept (Program.on stream program) := by
  refine .on fun connection => asks.keeps fun ghost event after streaming holds step => ?_
  exact ⟨holds.1, steady ghost event after (.streaming streaming) holds.2 step⟩

private theorem write_stays (data : Bytes) :
    KeptBy monitor layer kept (onSocket (Socket.write .data data)) := by
  intro fuel connection ghost ⟨same, holds⟩
  simp only [onSocket, Program.wp_zoom, Socket.wp_write]
  split
  · intro answer after step
    subst layer
    exact ⟨rfl, steady _ _ _ .write holds step⟩
  · intro ec after step
    subst layer
    exact ⟨rfl, steady _ _ _ .missedWrite holds step⟩

private theorem readSome_stays (maxSize : Nat) :
    KeptBy monitor layer kept (onSocket (Socket.readSome .data maxSize)) := by
  intro fuel connection ghost ⟨same, holds⟩
  simp only [onSocket, Program.wp_zoom, Socket.wp_readSome]
  split
  · intro answer after step
    subst layer
    exact ⟨rfl, steady _ _ _ .readSome holds step⟩
  · intro ec after step
    subst layer
    exact ⟨rfl, steady _ _ _ .missedRead holds step⟩

private theorem sendLoop_stays (callback : Bool) (fuel : Nat) (stream : InputStream) :
    KeptBy monitor layer kept (sendLoop callback fuel stream) := by
  induction fuel generalizing stream with
  | zero => exact .spin fun _ _ => id
  | succ fuel ih =>
    refine .bind (stream_stays steady (InputStream.read_streaming _)) fun ⟨buf, stream⟩ => ?_
    refine .ite (.pure _) ?_
    refine .bind (write_stays steady buf) fun _ => .bind (throwIf_keeps (fun _ _ => id) _ _) fun _ => ?_
    refine .ite ?_ (ih stream)
    exact .bind (call_stays steady .transferNotify) fun _ =>
      .bind (call_stays steady .isCancelled) fun _ => .ite (.pure _) (ih stream)

theorem send_stays (stream : InputStream) (callback : Bool) :
    (send stream callback).Keeps monitor (Stays layer kept) (Stays layer kept) := by
  have loop : KeptBy monitor layer kept (Program.loop fun fuel => sendLoop callback fuel stream) :=
    .loop fun fuel => sendLoop_stays steady callback fuel stream
  refine .ite (.bind (call_stays steady .isCancelled) fun _ => .ite (.pure _) ?_) loop
  exact .bind (call_stays steady .transferBegin) fun _ => .bind loop fun _ =>
    .bind (call_stays steady .transferEnd) fun _ => .pure _

private theorem recvLoop_stays (callback : Bool) (fuel : Nat) (stream : OutputStream) :
    KeptBy monitor layer kept (recvLoop callback fuel stream) := by
  induction fuel generalizing stream with
  | zero => exact .spin fun _ _ => id
  | succ fuel ih =>
    refine .bind (readSome_stays steady _) fun answer => ?_
    cases answer with
    | error ec => exact .pure _
    | ok chunk =>
      refine .bind (stream_stays steady (OutputStream.write_streaming _)) fun ⟨_, stream⟩ => ?_
      refine .ite ?_ (ih stream)
      exact .bind (call_stays steady .transferNotify) fun _ =>
        .bind (call_stays steady .isCancelled) fun _ => .ite (.pure _) (ih stream)

private theorem recvTail_stays (stream : OutputStream) (ec : Option ErrorCode) :
    KeptBy monitor layer kept (recvTail stream ec) :=
  .bind (throwUnless_keeps (fun _ _ => id) _ _ _) fun _ =>
    .bind (stream_stays steady OutputStream.flush_streaming) fun _ => .pure _

theorem recv_stays (stream : OutputStream) (callback : Bool) :
    (recv stream callback).Keeps monitor (Stays layer kept) (Stays layer kept) := by
  have loop : KeptBy monitor layer kept (Program.loop fun fuel => recvLoop callback fuel stream) :=
    .loop fun fuel => recvLoop_stays steady callback fuel stream
  refine .ite (.bind (call_stays steady .isCancelled) fun _ => .ite (.pure _) ?_)
    (.bind loop fun ⟨stream, ec⟩ => recvTail_stays steady stream ec)
  exact .bind (call_stays steady .transferBegin) fun _ => .bind loop fun ⟨stream, ec⟩ =>
    .bind (recvTail_stays steady stream ec) fun _ =>
      .bind (call_stays steady .transferEnd) fun _ => .pure _

end DataConnection

end LibFtp
