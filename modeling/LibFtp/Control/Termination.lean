import LibFtp.Control.Line
import LibFtp.Detail.Termination

/-! The control connection only reads on while it is given something. An end of the stream
counts as well: inside a multi-line reply it is read over and over. -/

namespace LibFtp.ControlConnection

open Effect

/-- The bytes left in the buffer are among those that were given. -/
def Buffered (start : Nat) (connection : ControlConnection) (taken : Nat) : Prop :=
  connection.buffer.length ≤ start + taken

variable {start fuel : Nat} {Value : Type}

theorem added_rises (start length : Nat) : Rising fun taken => length ≤ start + taken :=
  fun _ _ rises holds => Nat.le_trans holds (Nat.add_le_add_left rises start)

private theorem socket_ends {program : Method Socket Value}
    (ends : ∀ kept, Rising kept → program.Ends supplies (fun _ => kept) (Spent start)) :
    (onSocket program).Ends supplies (Buffered start) (Spent start) :=
  .zoom (fun connection => ends _ (added_rises start connection.buffer.length)) fun _ => rfl

private theorem call_ends (query : Boundary.Query) :
    (call query : Method ControlConnection _).Ends supplies (Buffered start) (Spent start) :=
  LibFtp.call_ends (fun state : ControlConnection => added_rises start state.buffer.length) query

theorem connect_ends (hostname : Bytes) (port : UInt16) :
    (connect hostname port).Ends supplies (Buffered start) (Spent start) := by
  refine .bind (call_ends _) fun _ => .bind (throwIf_ends _ _) fun _ => ?_
  refine .bind (call_ends _) fun answer => ?_
  cases answer with
  | none => exact .modify fun _ _ => id
  | some ec =>
    exact .bind (.modify fun _ _ => id) fun _ =>
      .bind (socket_ends fun _ rising => Socket.close_ends rising) fun _ => .raise _

theorem setSsl_ends (layer : Layer) :
    (setSsl layer).Ends supplies (Buffered start) (Spent start) :=
  socket_ends fun _ rising => Socket.setSsl_ends rising layer

theorem sslHandshake_ends : sslHandshake.Ends supplies (Buffered start) (Spent start) :=
  .bind (socket_ends fun _ rising => Socket.sslHandshake_ends rising) fun _ => throwIf_ends _ _

theorem sslShutdown_ends : sslShutdown.Ends supplies (Buffered start) (Spent start) :=
  .bind (socket_ends fun _ rising => Socket.sslShutdown_ends rising) fun _ => throwIf_ends _ _

theorem closeSteps_ends : closeSteps.Ends supplies (Buffered start) (Spent start) := by
  refine .bind ?_ fun _ => .bind ?_ fun _ => ?_
  · exact .bind .get fun _ => .ite (.bind (socket_ends fun _ rising => Socket.sslShutdown_ends rising)
      fun _ => throwUnless_ends _ _ _) (.pure _)
  · exact .bind (socket_ends fun _ rising => Socket.shutdown_ends rising)
      fun _ => throwUnless_ends _ _ _
  · exact .bind (socket_ends fun _ rising => Socket.close_ends rising) fun _ => throwIf_ends _ _

theorem send_ends (command : Bytes) :
    (send command).Ends supplies (Buffered start) (Spent start) :=
  .bind (socket_ends fun _ rising => Socket.write_ends rising _) fun _ => throwIf_ends _ _

theorem getLocalEndpoint_ends : getLocalEndpoint.Ends supplies (Buffered start) (Spent start) :=
  .bind (call_ends _) fun _ => valueOrThrow_ends _ _

theorem getRemoteEndpoint_ends : getRemoteEndpoint.Ends supplies (Buffered start) (Spent start) :=
  .bind (call_ends _) fun _ => valueOrThrow_ends _ _

/-- A line costs a byte, or the end of the stream. -/
private theorem readLine_paid (connection : ControlConnection) (taken : Nat) :
    readLine.wp supplies fuel
      (fun _ after last => taken ≤ last ∧
        after.buffer.length + taken < connection.buffer.length + last)
      (fun stop _ _ => stop ≠ .spinning) connection taken := by
  refine readLine_wp
    (fun buffer last => taken ≤ last ∧ buffer.length + taken ≤ connection.buffer.length + last)
    (fun ec buffer last => ec = .eof → taken ≤ last ∧
      buffer.length + taken < connection.buffer.length + last)
    connection taken ⟨Nat.le_refl taken, Nat.le_refl _⟩ ?_ ?_ ?_ ?_ ?_ ?_ ?_
  · intro buffer before chunk after _ held _ step
    have step : after = before + chunk.data.length := step
    rw [List.length_append]
    omega
  · intro buffer before ec after _ held _ _ step ended
    subst ended
    have step : after = before + 1 := step
    omega
  · intro buffer before ec after _ held _ _ step ended
    subst ended
    have step : after = before + 1 := step
    omega
  · intro buffer len after held found
    have bounds := Socket.matchEol_bounds found
    simp only [List.length_drop]
    omega
  · exact nofun
  · exact fun buffer after broken => broken rfl
  · exact nofun

private theorem readLine_ends : readLine.Ends supplies (Buffered start) (Spent start) := by
  intro fuel connection taken holds
  refine Program.wp_mono (readLine_paid connection taken) ?_
    fun _ _ _ never spins => (never spins).elim
  intro _ after last paid
  have holds : connection.buffer.length ≤ start + taken := holds
  show after.buffer.length ≤ start + last
  omega

private theorem recvLines_paid (code : UInt16) (steps : Nat) (statusString : Bytes) (used : Nat)
    (connection : ControlConnection) (taken : Nat)
    (holds : connection.buffer.length + used ≤ start + taken) :
    (recvLines code steps statusString).wp supplies fuel
      (fun _ after last => Buffered start after last)
      (fun stop _ last => stop = .spinning → used + steps ≤ start + last) connection taken := by
  induction steps generalizing statusString used connection taken with
  | zero => exact fun _ => by omega
  | succ steps ih =>
    simp only [recvLines, Program.wp_bind]
    refine Program.wp_mono (readLine_paid connection taken) ?_
      fun _ _ _ never spins => (never spins).elim
    intro line after last paid
    simp only [Program.wp_ite, Program.wp_pure]
    split
    · show after.buffer.length ≤ start + last
      omega
    · refine Program.wp_mono (ih _ (used + 1) after last (by omega)) (fun _ _ _ => id) ?_
      intro _ _ last spent spins
      have spent := spent spins
      omega

theorem recv_ends_paid : recv.Ends supplies (Buffered start) (Spent start) := by
  refine .bind readLine_ends fun line => ?_
  cases tryParseStatusCode line with
  | none => exact .raise _
  | some code =>
    have rest (statusString : Bytes) : Program.Ends supplies (Buffered start) (Spent start) (do
        closeIfUnavailable code
        return (⟨code, stripEol statusString⟩ : Reply)) :=
      .bind (.ite closeSteps_ends (.pure _)) fun _ => .pure _
    refine .ite (.bind ?_ rest) (.bind (.pure _) rest)
    intro fuel connection taken holds
    simp only [Program.wp_loop]
    refine Program.wp_mono (recvLines_paid code fuel line 0 connection taken holds)
      (fun _ _ _ => id) ?_
    intro _ _ last spent spins
    have spent := spent spins
    show fuel ≤ start + 2 * last
    omega

end LibFtp.ControlConnection
