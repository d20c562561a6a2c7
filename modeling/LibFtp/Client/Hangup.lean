import LibFtp.Client.Frame
import LibFtp.Control.Footprint

/-! Hanging up. Once a 421 reply was read, or the client has begun to close the control
connection, nothing more is sent or read over it within the call. -/

namespace LibFtp

open Effect

/-- Whether the exchange is over, and whether anything was sent or read after that. A 421
reply is over with the closing steps that follow it, before the observers hear of it. -/
structure Hush where
  ended : Bool
  broken : Bool
  deriving DecidableEq, Repr

namespace Hush

def start : Hush := ⟨false, false⟩

def advance (hush : Hush) : BoundaryEvent → Hush
  | ⟨.notifyReply _ reply, _⟩ => { hush with ended := hush.ended || reply.code = 421 }
  | ⟨.sslShutdown .control, _⟩ | ⟨.shutdown .control, _⟩ | ⟨.close .control, _⟩ =>
    { hush with ended := true }
  | ⟨.write .control .., _⟩ | ⟨.readSome .control .., _⟩ =>
    { hush with broken := hush.broken || hush.ended }
  | _ => hush

end Hush

private abbrev hushes : Monitor boundary Hush := Monitor.fold Hush.advance

/-- Nothing was sent or read too late, and where the exchange is over, the socket is closed. -/
private def Mute (isOpen : Bool) (hush : Hush) : Prop :=
  hush.broken = false ∧ (hush.ended = true → isOpen = false)

private def Unbroken (hush : Hush) : Prop := hush.broken = false

/-- Over an open socket the exchange goes on. -/
private theorem mute_open (mute : Mute true hush) : hush = ⟨false, false⟩ := by
  obtain ⟨ended, broken⟩ := hush
  obtain ⟨unbroken, closed⟩ := mute
  cases ended with
  | true => exact nomatch closed rfl
  | false => exact congrArg (Hush.mk false) unbroken

private theorem mute_start (isOpen : Bool) : Mute isOpen .start := ⟨rfl, nofun⟩

namespace Socket

private abbrev MuteSocket (socket : Socket) (hush : Hush) : Prop := Mute socket.isOpen hush

private theorem readSome_mute (maxSize : Nat) :
    (readSome .control maxSize).Keeps hushes MuteSocket MuteSocket := by
  intro fuel socket hush mute
  simp only [wp_readSome]
  split
  · rename_i isOpen
    intro answer after step
    rw [MuteSocket, isOpen] at mute ⊢
    rw [show after = hush.advance ⟨.readSome .control _ _, answer⟩ from step, mute_open mute]
    exact mute_start _
  · rintro ec after rfl
    exact mute

end Socket

namespace ControlConnection

private abbrev MuteControl (connection : ControlConnection) (hush : Hush) : Prop :=
  Mute connection.socket.isOpen hush

private abbrev UnbrokenControl (_ : ControlConnection) (hush : Hush) : Prop := Unbroken hush

private theorem closing_unbroken (hush : Hush) (event : BoundaryEvent) (after : Hush)
    (closing : Closing event.query) (unbroken : Unbroken hush) (step : hushes.step hush event after) :
    Unbroken after := by
  obtain ⟨query, answer⟩ := event
  rw [show after = hush.advance ⟨query, answer⟩ from step]
  cases closing <;> exact unbroken

private theorem closeSteps_mute : closeSteps.Keeps hushes MuteControl UnbrokenControl := by
  have unbroken : closeSteps.Keeps hushes UnbrokenControl UnbrokenControl :=
    (closeSteps_asks fun _ closing => closing).keeps closing_unbroken
  intro fuel connection hush mute
  apply Program.wp_mono (Program.wp_and (closeSteps_state connection hush)
    (unbroken fuel connection hush mute.1))
  · intro _ state after both
    obtain ⟨⟨_, closed⟩, unbroken⟩ := both
    subst closed
    exact ⟨unbroken, fun _ => rfl⟩
  · exact fun _ _ _ both => both.2

private theorem recv_mute : recv.Keeps hushes MuteControl UnbrokenControl :=
  recv_keeps Socket.readSome_mute (fun _ _ mute => mute.1) closeSteps_mute

end ControlConnection

namespace Client

private abbrev MuteClient (client : Client) (hush : Hush) : Prop :=
  Mute client.control.socket.isOpen hush

private abbrev UnbrokenClient (_ : Client) (hush : Hush) : Prop := Unbroken hush

/-- A 421 reply has closed the socket before the observers hear of it. -/
private theorem recv_mute : recv.Keeps hushes MuteClient UnbrokenClient := by
  intro fuel client hush mute
  simp only [recv, onControl, notifyReply, Program.wp_bind, Program.wp_zoom, Program.wp_get,
    wp_call, Program.wp_pure]
  apply Program.wp_mono (Program.wp_and (ControlConnection.recv_socket client.control hush)
    (ControlConnection.recv_mute fuel client.control hush mute))
  · intro reply control middle parts _ after step
    obtain ⟨socket, unbroken, closed⟩ := parts
    have step : after = ⟨middle.ended || reply.code = 421, middle.broken⟩ := step
    rw [step]
    refine ⟨unbroken, fun ended => ?_⟩
    simp only [Bool.or_eq_true, decide_eq_true_eq] at ended
    rcases ended with ended | unavailable
    · exact closed ended
    · rw [socket, if_pos unavailable]
      rfl
  · exact fun _ _ _ both => both.2

private theorem processCommand_mute (command : Bytes) :
    (processCommand command).Keeps hushes MuteClient UnbrokenClient := by
  intro fuel client hush mute
  rw [processCommand, Program.wp_bind]
  apply send_rule
  · intro requested after isOpen announced written
    have announced : requested = hush := announced
    have written : after = ⟨requested.ended, requested.broken || requested.ended⟩ := written
    subst announced
    rw [MuteClient, isOpen] at mute
    rw [mute_open mute] at written
    rw [written]
    exact recv_mute fuel client _ (mute_start _)
  · intro error requested after isOpen announced written
    have announced : requested = hush := announced
    have written : after = ⟨requested.ended, requested.broken || requested.ended⟩ := written
    subst announced
    rw [MuteClient, isOpen] at mute
    rw [mute_open mute] at written
    rw [written]
    rfl
  · intro ec requested after _ announced refused
    rw [show after = requested from refused, show requested = hush from announced]
    exact mute.1

private theorem mute_upholds : Upholds hushes MuteClient UnbrokenClient fun _ => True where
  stops _ _ mute := mute.1
  quiet query answer client hush after quiet mute step := by
    have same : hush.advance ⟨query, answer⟩ = hush := by cases quiet <;> rfl
    rw [show after = hush.advance ⟨query, answer⟩ from step, same]
    exact mute
  exchange command _ := processCommand_mute command
  receive := recv_mute
  settings _ _ _ _ _ _ mute := mute

private theorem open_hushed (hostname : Bytes) (port : UInt16) (client : Client) {fuel : Nat} :
    (onControl (ControlConnection.connect hostname port)).wp hushes fuel
      (fun _ _ after => after = .start) (fun _ _ => Unbroken) client .start := by
  simp only [onControl, ControlConnection.connect, ControlConnection.onSocket, Program.wp_zoom,
    Program.wp_bind, wp_call, wp_throwIf]
  intro resolved after step
  rw [show after = .start from step]
  cases resolved with
  | some ec => exact rfl
  | none =>
    intro connected after step
    rw [show after = .start from step]
    cases connected with
    | none => exact rfl
    | some ec =>
      simp only [Program.wp_bind, Program.wp_modify, Program.wp_zoom, Socket.wp_close, if_true,
        wp_throwCode]
      intro _ after step
      rw [show after = ⟨true, false⟩ from step]
      exact rfl

private theorem setSsl_hushed (layer : Layer) {kept : Client → Hush → Prop}
    (same : ∀ client hush, kept { client with control :=
      { client.control with socket := { client.control.socket with layer } } } hush ↔
        kept client hush) :
    (onControl (ControlConnection.setSsl layer)).Keeps hushes kept UnbrokenClient := by
  intro fuel client hush mute
  simp only [onControl, ControlConnection.setSsl, ControlConnection.onSocket, Program.wp_zoom,
    Socket.wp_setSsl]
  intro _ after step
  rw [show after = hush from step]
  exact (same client hush).mpr mute

private theorem handshake_hushed :
    (onControl ControlConnection.sslHandshake).Keeps hushes MuteClient UnbrokenClient := by
  intro fuel client hush mute
  simp only [onControl, ControlConnection.sslHandshake, ControlConnection.onSocket,
    Program.wp_zoom, Program.wp_bind, Socket.wp_sslHandshake, wp_throwIf]
  split
  · intro answer after step
    rw [show after = hush from step]
    cases answer with
    | none => exact mute
    | some ec => exact mute.1
  · exact mute

/-- `connect` on an open socket. -/
private theorem welcome_hushed (hostname : Bytes) (port : UInt16) (username : Option Bytes)
    (password : Bytes) : Program.Keeps hushes MuteClient UnbrokenClient (do
      notifyConnected hostname port
      let (reply, replies) ← recvInto Replies.empty
      if reply.isNegative then return replies
      else if (← Program.get).sslContext then
        let (reply, replies) ← processCommandInto (text "AUTH TLS") replies
        if reply.isNegative then return replies
        else
          onControl (ControlConnection.setSsl .ssl)
          onControl ControlConnection.sslHandshake
          connectLogin username password replies
      else connectLogin username password replies) := by
  have carries := mute_upholds.toCarries
  have login (replies : Replies) :
      (connectLogin username password replies).Keeps hushes MuteClient UnbrokenClient :=
    carries.connectLogin username password replies fun _ _ _ _ => trivial
  refine .bind (.bind .get fun _ => carries.call .notifyConnected) fun _ => ?_
  refine .bind (carries.recvInto _) fun _ => .ite (.pure _) ?_
  refine .bind .get fun _ => .ite ?_ (login _)
  refine .bind (carries.processCommandInto trivial _) fun _ => .ite (.pure _) ?_
  exact .bind (setSsl_hushed _ fun _ _ => Iff.rfl) fun _ =>
    .bind handshake_hushed fun _ => login _

private theorem connect_hushed (hostname : Bytes) (port : UInt16) (username : Option Bytes)
    (password : Bytes) (client : Client) {fuel : Nat} :
    (connect hostname port username password).wp hushes fuel (fun _ _ => Unbroken)
      (fun _ _ => Unbroken) client .start := by
  unfold connect
  rw [Program.wp_bind]
  apply Program.wp_mono (open_hushed hostname port client)
  · intro _ state after same
    subst same
    exact (welcome_hushed hostname port username password fuel).apply (mute_start _)
      (fun _ _ _ mute => mute.1) fun _ _ _ => id
  · exact fun _ _ _ => id

/-- `logout` behind the reply to REIN. -/
private theorem downgrade_hushed (reply : Reply) : Program.Keeps hushes UnbrokenClient UnbrokenClient (do
    if reply.isPositive ∧ (← Program.get).control.isSsl then
      onControl ControlConnection.sslShutdown
      onControl (ControlConnection.setSsl .plain)
    return reply : Method Client Reply) := by
  have shutsDown : (onControl ControlConnection.sslShutdown).Keeps hushes UnbrokenClient
      UnbrokenClient := by
    intro fuel client hush unbroken
    simp only [onControl, ControlConnection.sslShutdown, ControlConnection.onSocket,
      Program.wp_zoom, Program.wp_bind, Socket.wp_sslShutdown, wp_throwIf]
    split
    · intro answer after step
      rw [show after = ⟨true, hush.broken⟩ from step]
      cases answer <;> exact unbroken
    · exact unbroken
  refine .bind .get fun _ => .ite ?_ (.pure _)
  exact .bind shutsDown fun _ => .bind (setSsl_hushed _ fun _ _ => Iff.rfl) fun _ => .pure _

private theorem logout_hushed (client : Client) {fuel : Nat} :
    logout.wp hushes fuel (fun _ _ => Unbroken) (fun _ _ => Unbroken) client .start := by
  unfold logout
  rw [Program.wp_bind]
  apply (processCommand_mute _ fuel).apply (mute_start _)
  · exact fun reply state after mute => downgrade_hushed reply fuel state after mute.1
  · exact fun _ _ _ => id

private theorem disconnect_hushed (graceful : Bool) :
    (disconnect graceful).Keeps hushes MuteClient UnbrokenClient := by
  have quit : (quit graceful).Keeps hushes MuteClient UnbrokenClient :=
    .ite (.bind (processCommand_mute _) fun _ => .pure _) (.pure _)
  have closes : (onControl ControlConnection.disconnect).Keeps hushes MuteClient UnbrokenClient :=
    .zoom (fun _ => ControlConnection.closeSteps_mute) fun _ => rfl
  refine .bind quit fun _ => .bind ?_ fun _ => .bind ?_ fun _ => .pure _
  · exact .bind .get fun _ => .ite closes (.pure _)
  · exact .bind .get fun _ => .ite (setSsl_hushed _ fun _ _ => Iff.rfl) (.pure _)

theorem invoke_hushed (operation : Operation) (client : Client) (host : Host boundary World)
    (fuel : Nat) (world : World) :
    ((perform invoke host fuel operation client world).events.foldl Hush.advance
      .start).broken = false := by
  have hushed : (invoke operation).wp hushes fuel (fun _ _ => Unbroken) (fun _ _ => Unbroken) client
      .start := by
    have start : MuteClient client .start := mute_start _
    by_cases reconnects : operation.Reconnects
    · cases operation with
      | connect hostname port username password =>
        simp only [invoke, Program.wp_bind, Program.wp_pure]
        exact connect_hushed hostname port username password client
      | logout =>
        simp only [invoke, Program.wp_bind, Program.wp_pure]
        exact logout_hushed client
      | disconnect graceful =>
        simp only [invoke, Program.wp_bind, Program.wp_pure]
        exact (disconnect_hushed graceful fuel).apply start (fun _ _ _ mute => mute.1)
          fun _ _ _ => id
      | _ => exact reconnects.elim
    · exact (mute_upholds.invoke operation reconnects (fun _ _ => trivial) fuel).apply start
        (fun _ _ _ mute => mute.1) fun _ _ _ => id
  exact perform_settled hushed (Monitor.fold_drives _ _ _)

end Client

end LibFtp
