import LibFtp.Control.Closing

/-! What the control connection asks while it opens, receives a reply and closes:
no command leaves it, no observer hears of it, and it stays in its mode. -/

namespace LibFtp

open Effect

/-- Questions of a control connection in the given mode that neither send a command
nor change the mode. -/
inductive Link (layer : Layer) : Boundary.Query → Prop where
  | resolve : Link layer (.resolve hostname port)
  | connect : Link layer .connectControl
  | handshake (ssl : layer = .ssl) : Link layer (.handshake .control)
  | readSome : Link layer (.readSome .control layer maxSize)
  | missedRead : Link layer (.unopened .control layer (.readSome maxSize))
  | closing (closing : Closing query) : Link layer query

variable {Ghost : Type} {monitor : Monitor boundary Ghost} {layer : Layer} {kept : Ghost → Prop}

/-- A ghost condition that such questions leave alone. -/
def Steady (monitor : Monitor boundary Ghost) (layer : Layer) (kept : Ghost → Prop) : Prop :=
  ∀ ghost event after, Link layer event.query → kept ghost → monitor.step ghost event after →
    kept after

/-- A computed ghost state that does not change at all. -/
theorem steady_fold {advance : Ghost → BoundaryEvent → Ghost} (ghost : Ghost)
    (still : ∀ ghost event, Link layer event.query → advance ghost event = ghost) :
    Steady (Monitor.fold advance) layer (· = ghost) := by
  intro before event after link same step
  have step : after = advance before event := step
  rw [step, still before event link, same]

private def On (layer : Layer) (kept : Ghost → Prop) (socket : Socket) (ghost : Ghost) : Prop :=
  socket.layer = layer ∧ kept ghost

variable (steady : Steady monitor layer kept)

namespace Socket

include steady

private theorem readSome_on (maxSize : Nat) :
    (readSome .control maxSize).Keeps monitor (On layer kept) (On layer kept) := by
  intro fuel socket ghost ⟨same, holds⟩
  simp only [wp_readSome]
  split
  · intro answer after step
    subst layer
    exact ⟨rfl, steady _ _ _ .readSome holds step⟩
  · intro ec after step
    subst layer
    exact ⟨rfl, steady _ _ _ .missedRead holds step⟩

private theorem sslShutdown_on :
    (sslShutdown .control).Keeps monitor (On layer kept) (On layer kept) := by
  intro fuel socket ghost ⟨same, holds⟩
  simp only [wp_sslShutdown]
  split
  · exact fun answer after step => ⟨same, steady _ _ _ (.closing .sslShutdown) holds step⟩
  · exact ⟨same, holds⟩

private theorem shutdown_on : (shutdown .control).Keeps monitor (On layer kept) (On layer kept) := by
  intro fuel socket ghost ⟨same, holds⟩
  simp only [wp_shutdown]
  split
  · exact fun answer after step => ⟨same, steady _ _ _ (.closing .shutdown) holds step⟩
  · exact fun answer after step => ⟨same, steady _ _ _ (.closing .missedShutdown) holds step⟩

private theorem close_on : (close .control).Keeps monitor (On layer kept) (On layer kept) := by
  intro fuel socket ghost ⟨same, holds⟩
  simp only [wp_close]
  split
  · exact fun answer after step => ⟨same, steady _ _ _ (.closing .close) holds step⟩
  · exact fun answer after step => ⟨same, steady _ _ _ (.closing .missedClose) holds step⟩

end Socket

namespace ControlConnection

/-- The connection stays in its mode and the ghost condition holds. -/
def Stays (layer : Layer) (kept : Ghost → Prop) (connection : ControlConnection) (ghost : Ghost) :
    Prop :=
  connection.socket.layer = layer ∧ kept ghost

private theorem onSocket_stays {program : Method Socket Value}
    (keeps : program.Keeps monitor (On layer kept) (On layer kept)) :
    (onSocket program).Keeps monitor (Stays layer kept) (Stays layer kept) :=
  .zoom (fun _ => keeps) fun _ => rfl

private theorem set_stays (change : ControlConnection → ControlConnection)
    (same : ∀ connection, (change connection).socket.layer = connection.socket.layer) :
    (Program.modify change : Method ControlConnection Unit).Keeps monitor (Stays layer kept)
      (Stays layer kept) :=
  .modify fun connection _ holds => ⟨(same connection).trans holds.1, holds.2⟩

include steady

theorem connect_stays (hostname : Bytes) (port : UInt16) :
    (connect hostname port).Keeps monitor (Stays layer kept) (Stays layer kept) := by
  have ask {query : Boundary.Query} (link : Link layer query) :
      (call query : Method ControlConnection _).Keeps monitor (Stays layer kept)
        (Stays layer kept) :=
    .ask fun _ ghost answer after holds step => ⟨holds.1, steady _ _ _ link holds.2 step⟩
  refine .bind (ask .resolve) fun _ => .bind (throwIf_keeps (fun _ _ => id) _ _) fun _ => ?_
  refine .bind (ask .connect) fun answer => ?_
  cases answer with
  | none => exact set_stays _ fun _ => rfl
  | some ec =>
    exact .bind (set_stays _ fun _ => rfl) fun _ =>
      .bind (onSocket_stays (Socket.close_on steady)) fun _ => .raise _ fun _ _ => id

theorem sslHandshake_stays :
    sslHandshake.Keeps monitor (Stays layer kept) (Stays layer kept) := by
  refine .bind (onSocket_stays ?_) fun _ => throwIf_keeps (fun _ _ => id) _ _
  intro fuel socket ghost ⟨same, holds⟩
  simp only [Socket.wp_sslHandshake]
  split
  · rename_i ssl
    exact fun answer after step => ⟨same, steady _ _ _ (.handshake (same.symm.trans ssl)) holds step⟩
  · exact ⟨same, holds⟩

theorem sslShutdown_stays : sslShutdown.Keeps monitor (Stays layer kept) (Stays layer kept) :=
  .bind (onSocket_stays (Socket.sslShutdown_on steady)) fun _ => throwIf_keeps (fun _ _ => id) _ _

theorem closeSteps_stays : closeSteps.Keeps monitor (Stays layer kept) (Stays layer kept) := by
  refine .bind ?_ fun _ => .bind ?_ fun _ => ?_
  · exact .bind .get fun _ =>
      .ite (.bind (onSocket_stays (Socket.sslShutdown_on steady)) fun _ => throwUnless_keeps (fun _ _ => id) _ _ _)
        (.pure _)
  · exact .bind (onSocket_stays (Socket.shutdown_on steady)) fun _ => throwUnless_keeps (fun _ _ => id) _ _ _
  · exact .bind (onSocket_stays (Socket.close_on steady)) fun _ => throwIf_keeps (fun _ _ => id) _ _

theorem recv_stays : recv.Keeps monitor (Stays layer kept) (Stays layer kept) :=
  recv_keeps (Socket.readSome_on steady) (fun _ _ => id) (closeSteps_stays steady)

end ControlConnection

end LibFtp
