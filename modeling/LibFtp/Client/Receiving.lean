import LibFtp.Client.Record
import LibFtp.Control.Footprint
import LibFtp.Effect.Temporal

/-! The buffer of the control connection. Nothing but `recv` changes it, so what is said of it
and of the bytes that were read is kept by everything else; and it never holds more than one
line may take. -/

namespace LibFtp

open Effect

variable {Ghost : Type} {advance : Ghost → BoundaryEvent → Ghost} {kept broken : Bytes → Ghost → Prop}

namespace ControlConnection

/-- What is said of the buffer and of the past alone. -/
abbrev Beside (kept : Bytes → Ghost → Prop) : ControlConnection → Ghost → Prop :=
  fun connection => kept connection.buffer

section Deaf
variable (ignored : ∀ query, Deaf query → Program.Ignored advance query)

include ignored

private theorem onSocket_beside {program : Method Socket Value} (asks : program.Asks Deaf) :
    (onSocket program).Keeps (Monitor.fold advance) (Beside kept) (Beside kept) := by
  refine .zoom (fun connection => ?_) fun _ => rfl
  have still : program.Keeps (Monitor.fold advance) (fun _ => kept connection.buffer)
    (fun _ => kept connection.buffer) := (asks.mono ignored).ignored
  exact still

omit ignored in
private theorem close_deaf : (Socket.close .control).Asks Deaf :=
  .bind .get fun _ => .ite (.bind (.ask trivial) fun _ => .bind (.modify _) fun _ => .pure _)
    (.bind (.ask trivial) fun _ => .pure _)

omit ignored in
private theorem shutdown_deaf : (Socket.shutdown .control).Asks Deaf :=
  .bind .get fun _ => .ite (.ask trivial) (.bind (.ask trivial) fun _ => .pure _)

omit ignored in
private theorem write_deaf (data : Bytes) : (Socket.write .control data).Asks Deaf :=
  .bind .get fun _ => .ite (.ask trivial) (.bind (.ask trivial) fun _ => .pure _)

omit ignored in
private theorem sslShutdown_deaf : (Socket.sslShutdown .control).Asks Deaf := by
  refine .bind .get fun socket => ?_
  cases socket.layer with
  | plain => exact .pure none
  | ssl => exact .ask trivial

theorem closeSteps_beside :
    closeSteps.Keeps (Monitor.fold advance) (Beside kept) (Beside kept) := by
  refine .bind ?_ fun _ => .bind ?_ fun _ => ?_
  · exact .bind .get fun _ => .ite (.bind (onSocket_beside ignored sslShutdown_deaf)
      fun _ => throwUnless_keeps (fun _ _ => id) _ _ _) (.pure _)
  · exact .bind (onSocket_beside ignored shutdown_deaf)
      fun _ => throwUnless_keeps (fun _ _ => id) _ _ _
  · exact .bind (onSocket_beside ignored close_deaf) fun _ => throwIf_keeps (fun _ _ => id) _ _

private theorem send_beside (command : Bytes) :
    (send command).Keeps (Monitor.fold advance) (Beside kept) (Beside kept) :=
  .bind (onSocket_beside ignored (write_deaf _)) fun _ => throwIf_keeps (fun _ _ => id) _ _

private theorem call_beside {query : Boundary.Query} (deaf : Deaf query) :
    (call query : Method ControlConnection _).Keeps (Monitor.fold advance) (Beside kept)
      (Beside kept) := by
  refine .ask fun connection ghost answer after holds step => ?_
  have step : after = ghost := step.trans (ignored query deaf ghost answer)
  rwa [step]

/-- Opening leaves in the buffer what the last connection has left there. -/
private theorem connect_beside (hostname : Bytes) (port : UInt16) :
    (connect hostname port).Keeps (Monitor.fold advance) (Beside kept) (Beside kept) := by
  refine .bind (call_beside ignored trivial) fun _ =>
    .bind (throwIf_keeps (fun _ _ => id) _ _) fun _ =>
    .bind (call_beside ignored trivial) fun connected => ?_
  cases connected with
  | none => exact .modify fun _ _ holds => holds
  | some ec =>
    exact .bind (.modify fun _ _ holds => holds) fun _ =>
      .bind (onSocket_beside ignored close_deaf) fun _ => .raise _ fun _ _ => id

private theorem setSsl_beside (layer : Layer) :
    (setSsl layer).Keeps (Monitor.fold advance) (Beside kept) (Beside kept) :=
  onSocket_beside ignored (.bind (.ask trivial) fun _ => .modify _)

private theorem sslHandshake_beside :
    sslHandshake.Keeps (Monitor.fold advance) (Beside kept) (Beside kept) := by
  refine .bind (onSocket_beside ignored (.bind .get fun socket => ?_)) fun _ =>
    throwIf_keeps (fun _ _ => id) _ _
  cases socket.layer with
  | plain => exact .pure none
  | ssl => exact .ask trivial

private theorem sslShutdown_beside :
    sslShutdown.Keeps (Monitor.fold advance) (Beside kept) (Beside kept) :=
  .bind (onSocket_beside ignored sslShutdown_deaf) fun _ => throwIf_keeps (fun _ _ => id) _ _

end Deaf

/-- Receiving keeps what taking a line and the closing steps keep. -/
theorem recv_lines {monitor : Monitor boundary Ghost} {invariant broken : ControlConnection → Ghost → Prop}
    (stops : ∀ connection ghost, invariant connection ghost → broken connection ghost)
    (takes : readLine.Keeps monitor invariant broken)
    (closes : closeSteps.Keeps monitor invariant broken) : recv.Keeps monitor invariant broken := by
  have lines (code : UInt16) (rounds : Nat) (statusString : Bytes) :
      (recvLines code rounds statusString).Keeps monitor invariant broken := by
    induction rounds generalizing statusString with
    | zero => exact .spin stops
    | succ rounds ih => exact .bind takes fun _ => .ite (.pure _) (ih _)
  refine .bind takes fun line => ?_
  cases tryParseStatusCode line with
  | none => exact .raise _ stops
  | some code =>
    have rest (statusString : Bytes) : Program.Keeps monitor invariant broken (do
        closeIfUnavailable code
        return (⟨code, stripEol statusString⟩ : Reply)) :=
      .bind (.ite closes (.pure _)) fun _ => .pure _
    refine .ite ?_ (.bind (.pure _) rest)
    exact .bind (.loop fun fuel => lines code fuel line) rest

end ControlConnection

namespace Client

abbrev OfBuffer (kept : Bytes → Ghost → Prop) : Client → Ghost → Prop :=
  fun client => kept client.control.buffer

/-- It is enough to look at `recv`, where nothing else counts for the ghost state. -/
theorem receiving_upholds (ignored : ∀ query, Deaf query → Program.Ignored advance query)
    (stops : ∀ buffer ghost, kept buffer ghost → broken buffer ghost)
    (receives : recv.Keeps (Monitor.fold advance) (OfBuffer kept) (OfBuffer broken)) :
    UpholdsLink (Monitor.fold advance) (OfBuffer kept) (OfBuffer broken) (fun _ => True) := by
  have linked {Value : Type} {program : Method ControlConnection Value}
      (keeps : program.Keeps (Monitor.fold advance) (ControlConnection.Beside kept)
        (ControlConnection.Beside kept)) :
      (onControl program).Keeps (Monitor.fold advance) (OfBuffer kept) (OfBuffer broken) := by
    have same : (onControl program).Keeps (Monitor.fold advance) (OfBuffer kept) (OfBuffer kept) :=
      .zoom (fun _ => keeps) fun _ => rfl
    exact same.mono fun _ _ => stops _ _
  have deaf (query : Boundary.Query) (answer : Boundary.Answer query) (client : Client)
      (ghost after : Ghost) (deaf : Deaf query) (holds : OfBuffer kept client ghost)
      (step : (Monitor.fold advance).step ghost ⟨query, answer⟩ after) :
      OfBuffer kept client after := by
    have step : after = ghost := step.trans (ignored query deaf ghost answer)
    rwa [step]
  have announced (command : Bytes) : (notifyRequest command).Keeps (Monitor.fold advance)
      (OfBuffer kept) (OfBuffer broken) :=
    .bind .get fun { observers, .. } => .ask fun client ghost answer after =>
      deaf (.notifyRequest observers command) answer client ghost after trivial
  refine ⟨⟨⟨⟨?_, ?_, ?_⟩, receives⟩, ?_⟩, ?_, ?_, ?_, ?_, ?_⟩
  · exact fun _ _ => stops _ _
  · intro query answer client ghost after quiet
    exact deaf query answer client ghost after (by cases quiet <;> trivial)
  · exact fun command _ => .bind (.bind (announced command) fun _ =>
      linked (ControlConnection.send_beside ignored command)) fun _ => receives
  · exact fun _ _ _ _ _ _ holds => holds
  · exact fun hostname port => linked (ControlConnection.connect_beside ignored hostname port)
  · exact fun layer => linked (ControlConnection.setSsl_beside ignored layer)
  · exact linked (ControlConnection.sslHandshake_beside ignored)
  · exact linked (ControlConnection.sslShutdown_beside ignored)
  · exact linked (ControlConnection.closeSteps_beside ignored)

/-- A read asks for something, and for no more than a line may take. -/
def Modest (event : BoundaryEvent) : Prop :=
  ∀ layer maxSize, event.query = .readSome .control layer maxSize → 0 < maxSize ∧ maxSize ≤ 8192

private abbrev modesty : Monitor boundary (Unit × Prop) := watch (fun _ _ => ()) fun _ => Modest

private theorem deaf_modest (query : Boundary.Query) (deaf : Deaf query) :
    Program.Ignored (watching (fun _ _ => ()) fun _ => Modest) query := by
  intro moment answer
  refine Prod.ext rfl (propext (and_iff_left ?_))
  rintro layer maxSize rfl
  exact deaf.elim

private def Roomy (buffer : Bytes) (moment : Unit × Prop) : Prop := buffer.length ≤ 8192 ∧ moment.2

/-- The part of a line that is there, and what it lacks at most, are together no longer than
a line may be. -/
private theorem readLine_roomy :
    ControlConnection.readLine.Keeps modesty (ControlConnection.Beside Roomy)
      (ControlConnection.Beside Roomy) := by
  intro fuel connection moment fits
  have asked (buffer : Bytes) (room : buffer.length < 8192) {layer : Layer}
      {answer : Except ErrorCode (Chunk (8192 - buffer.length))} {before after : Unit × Prop}
      (fine : before.2)
      (step : modesty.step before ⟨.readSome .control layer (8192 - buffer.length), answer⟩ after) :
      after.2 := by
    have step : after = watching (fun _ _ => ()) (fun _ => Modest) before
      ⟨.readSome .control layer (8192 - buffer.length), answer⟩ := step
    subst step
    refine ⟨fine, fun layer maxSize same => ?_⟩
    injection same with _ _ size
    omega
  refine ControlConnection.readLine_wp Roomy (fun _ => Roomy) connection moment fits
    ?_ ?_ ?_ ?_ ?_ ?_ ?_
  · intro buffer before chunk after _ fits _ step
    have nonempty := List.length_pos_iff.mpr chunk.nonempty
    have size := chunk.fits
    refine ⟨?_, asked buffer (by omega) fits.2 step⟩
    rw [List.length_append]
    omega
  · exact fun buffer before ec after _ fits _ short step => ⟨fits.1, asked buffer short fits.2 step⟩
  · intro buffer before ec after _ fits _ _ step
    have deaf : Deaf (.unopened .control connection.socket.layer (.readSome (8192 - buffer.length))) :=
      trivial
    rw [show after = before from step.trans (deaf_modest _ deaf before ec)]
    exact fits
  · intro buffer len after fits _
    refine ⟨?_, fits.2⟩
    rw [List.length_drop]
    exact (Nat.sub_le _ _).trans fits.1
  · exact fun _ _ _ fits _ _ => fits
  · exact fun _ _ fits => fits
  · exact fun _ _ _ _ _ fits => fits

private theorem recv_roomy : recv.Keeps modesty (OfBuffer Roomy) (OfBuffer Roomy) := by
  have received : ControlConnection.recv.Keeps modesty (ControlConnection.Beside Roomy)
      (ControlConnection.Beside Roomy) :=
    ControlConnection.recv_lines (fun _ _ => id) readLine_roomy
      (ControlConnection.closeSteps_beside deaf_modest)
  refine .bind (.zoom (fun _ => received) fun _ => rfl) fun reply => .bind ?_ fun _ => .pure _
  refine .bind .get fun { observers, .. } => .ask fun client moment answer after fits step => ?_
  have step : after = watching (fun _ _ => ()) (fun _ => Modest) moment
    ⟨.notifyReply observers reply, answer⟩ := step
  subst step
  exact ⟨fits.1, fits.2, nofun⟩

section Sessions
variable (mode : TransferMode) (type : TransferType) (context support : Bool)
  (host : Host boundary World) (fuel : Nat) (world : World) (operations : List Operation)

/-- However much the server sends, the buffer never holds more than 8192 bytes, and every read
has room for its bytes there. -/
theorem control_buffer_bounded :
    (∀ event ∈ exchanged
        (session invoke host fuel operations (Client.new mode type context support) world),
      Modest event) ∧
    ∀ record ∈ session invoke host fuel operations (Client.new mode type context support) world,
      record.after.control.buffer.length ≤ 8192 := by
  have keeps (operation : Operation) : (invoke operation).Keeps modesty
      (Watched fun client _ => client.control.buffer.length ≤ 8192)
      (Watched fun client _ => client.control.buffer.length ≤ 8192) :=
    (receiving_upholds deaf_modest (fun _ _ => id) recv_roomy).invoke operation fun _ _ => trivial
  have initial : (Client.new mode type context support).control.buffer.length ≤ 8192 :=
    Nat.zero_le _
  constructor
  · intro event member
    obtain ⟨front, back, split⟩ := List.append_of_mem member
    exact session_always host fuel keeps operations _ world () initial front event back split
  · intro record member
    obtain ⟨front, back, split⟩ := List.append_of_mem member
    exact (session_watched host fuel keeps operations _ world () initial front record back split).2

end Sessions

end Client

end LibFtp
