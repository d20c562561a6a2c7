import LibFtp.Client.Operations
import LibFtp.Control.Closing

/-! Dropping the connection: what the client is left with, whatever the closing
calls report. -/

namespace LibFtp

open Effect

/-- A report of the closing calls that keeps the connection open, or keeps it in
SSL mode: the close call releases the socket even when it reports an error. -/
structure Harmful (layer : Layer) (event : BoundaryEvent) : Prop where
  refuses : Refuses event.query event.answer
  harms : event.query = .close .control → layer = .ssl

namespace Client

/-- Closed and in non-SSL mode; the receive buffer stays. -/
def released (client : Client) : Client :=
  { client with control := { client.control with socket := ⟨.plain, false⟩ } }

variable {Ghost : Type} {monitor : Monitor boundary Ghost} {fuel : Nat} {Calm : Ghost → Prop}
  {Broken : Boundary.Query → Ghost → Prop}

section Release
variable (client : Client)
  (calm : ∀ query answer ghost after, Closing query → ¬ Refuses query answer → Calm ghost →
    monitor.step ghost ⟨query, answer⟩ after → Calm after)
  (breaks : ∀ query answer ghost after, Refuses query answer → Calm ghost →
    monitor.step ghost ⟨query, answer⟩ after → Broken query after)
  (silent : ∀ answer ghost after, Calm ghost →
    monitor.step ghost ⟨.setSsl .control .plain, answer⟩ after → Calm after)

include calm breaks in
private theorem closeControl_spec :
    Program.Triple monitor fuel (fun state ghost => state = client ∧ Calm ghost) closeControl
      (fun _ state after => (∃ control : ControlConnection, control.socket.isOpen = false ∧
        control.buffer = client.control.buffer ∧ state = { client with control }) ∧ Calm after)
      (fun stop state after => (∃ error, stop = .raised error) ∧
        client.control.isConnected = true ∧ ∃ control, state = { client with control } ∧
          ControlConnection.ClosingFailure client.control Calm Broken control after) := by
  rintro state ghost ⟨same, holds⟩
  subst state
  simp only [closeControl, Program.wp_bind, Program.wp_get, Program.wp_ite, Program.wp_pure,
    onControl, Program.wp_zoom]
  split
  · rename_i isConnected
    refine (ControlConnection.closeSteps_spec client.control calm breaks).apply ⟨rfl, holds⟩ ?_ ?_
    · rintro _ control after ⟨-, same, holds⟩
      subst control
      exact ⟨⟨client.control.closed, rfl, rfl, rfl⟩, holds⟩
    · rintro stop control after ⟨raised, failure⟩
      exact ⟨raised, isConnected, control, rfl, failure⟩
  · rename_i isClosed
    exact ⟨⟨client.control, by simpa [ControlConnection.isConnected] using isClosed, rfl, rfl⟩, holds⟩

include silent in
private theorem resetSsl_spec {fail : Stop FtpException → Client → Ghost → Prop} :
    Program.Triple monitor fuel
      (fun state ghost => (∃ control : ControlConnection, control.socket.isOpen = false ∧
        control.buffer = client.control.buffer ∧ state = { client with control }) ∧ Calm ghost)
      resetSsl (fun _ state after => state = client.released ∧ Calm after) fail := by
  rintro state ghost ⟨⟨⟨buffer, layer, isOpen⟩, isClosed, same, rfl⟩, holds⟩
  simp only at isClosed same
  subst isOpen buffer
  cases layer with
  | plain =>
    simp only [resetSsl, Program.wp_bind, Program.wp_get, Program.wp_ite]
    exact ⟨rfl, holds⟩
  | ssl =>
    simp only [resetSsl, Program.wp_bind, Program.wp_get, Program.wp_ite, onControl,
      Program.wp_zoom, ControlConnection.setSsl, ControlConnection.onSocket, Socket.wp_setSsl]
    exact fun answer after step => ⟨rfl, silent answer ghost after holds step⟩

include calm breaks silent in
/-- What `disconnect` does behind the QUIT exchange: it releases the client, or the
closing steps stop. -/
theorem disconnect_tail_wp {post : Client → Ghost → Prop}
    {fail : Stop FtpException → Client → Ghost → Prop} (ghost : Ghost) (holds : Calm ghost)
    (done : ∀ after, Calm after → post client.released after)
    (stopped : ∀ error control after, client.control.isConnected = true →
      ControlConnection.ClosingFailure client.control Calm Broken control after →
      fail (.raised error) { client with control } after) :
    closeControl.wp monitor fuel (fun _ => resetSsl.wp monitor fuel (fun _ => post) fail) fail
      client ghost := by
  refine (closeControl_spec client calm breaks).apply ⟨rfl, holds⟩ (fun _ middle between closed => ?_) ?_
  · refine (resetSsl_spec client silent).apply closed ?_ (fun _ _ _ => id)
    rintro _ state after ⟨same, calm⟩
    subst state
    exact done after calm
  · rintro stop state after ⟨⟨error, raised⟩, isConnected, control, same, failure⟩
    subst stop state
    exact stopped error control after isConnected failure

end Release

/-- A `disconnect` that returns has released the socket. -/
theorem disconnect_socket (graceful : Bool) (client : Client) (ghost : Ghost) :
    (disconnect graceful).wp monitor fuel
      (fun _ state _ => state.control.socket = ⟨.plain, false⟩) (fun _ _ _ => True) client ghost := by
  have calm (query answer) (ghost after : Ghost) (_ : Closing query) (_ : ¬ Refuses query answer)
      (_ : True) (_ : monitor.step ghost ⟨query, answer⟩ after) : True := trivial
  have breaks (query answer) (ghost after : Ghost) (_ : Refuses query answer) (_ : True)
      (_ : monitor.step ghost ⟨query, answer⟩ after) : True := trivial
  have silent (answer) (ghost after : Ghost) (_ : True)
      (_ : monitor.step ghost ⟨.setSsl .control .plain, answer⟩ after) : True := trivial
  simp only [disconnect, Program.wp_bind, Program.wp_pure]
  apply Program.wp_always
  · intro reply middle between
    exact disconnect_tail_wp middle calm breaks silent between trivial (fun _ _ => rfl)
      (fun _ _ _ _ _ => trivial)
  · exact fun _ _ _ => trivial

theorem disconnect_releases (graceful : Bool) (host : Host boundary World) (operation : Operation)
    (client : Client) (world : World) (same : operation = .disconnect graceful)
    (normal : (perform invoke host fuel operation client world).Normal) :
    (perform invoke host fuel operation client world).after.control.socket = ⟨.plain, false⟩ := by
  subst operation
  have settled : (invoke (.disconnect graceful)).wp Monitor.history fuel
      (fun _ state _ => state.control.socket = ⟨.plain, false⟩) (fun _ _ _ => True) client [] := by
    simp only [invoke, Program.wp_bind, Program.wp_pure]
    exact disconnect_socket graceful client []
  obtain ⟨_, _, released⟩ := perform_normal settled (Monitor.history_drives [] _) normal
  exact released

section Drop

private def Silent (events : List BoundaryEvent) : Prop :=
  ∀ event ∈ events, ¬ Refuses event.query event.answer

/-- Only the last call was refused, and it was this one. -/
private def RefusedBy (query : Boundary.Query) (events : List BoundaryEvent) : Prop :=
  ∃ past answer, Silent past ∧ Refuses query answer ∧ events = past ++ [⟨query, answer⟩]

private theorem silent_snoc (past : List BoundaryEvent) (event : BoundaryEvent)
    (silent : Silent past) (quiet : ¬ Refuses event.query event.answer) :
    Silent (past ++ [event]) := by
  intro other member
  rcases List.mem_append.mp member with early | last
  · exact silent other early
  · exact List.mem_singleton.mp last ▸ quiet

private theorem refusedBy_only (refused : RefusedBy query events)
    (member : event ∈ events) (refuses : Refuses event.query event.answer) :
    event.query = query := by
  obtain ⟨past, answer, silent, -, rfl⟩ := refused
  rcases List.mem_append.mp member with early | last
  · exact (silent event early refuses).elim
  · rw [List.mem_singleton.mp last]

private theorem refusedBy_some (refused : RefusedBy query events) :
    ∃ event ∈ events, event.query = query ∧ Refuses event.query event.answer := by
  obtain ⟨past, answer, -, refuses, rfl⟩ := refused
  exact ⟨⟨query, answer⟩, by simp, rfl, refuses⟩

/-- How `disconnect(false)` ends. -/
inductive Dropped (client : Client) (events : List BoundaryEvent) :
    Except (Stop FtpException) (Option Reply) × Client → Prop where
  | released (silent : ∀ event ∈ events, ¬ Refuses event.query event.answer) :
      Dropped client events (.ok none, client.released)
  | stuck (error : FtpException) (isConnected : client.control.isConnected = true)
      (refused : ∃ event ∈ events, event.query ≠ .close .control ∧
        Refuses event.query event.answer) :
      Dropped client events (.error (.raised error), client)
  | closed (error : FtpException)
      (refused : ∃ event ∈ events, event.query = .close .control ∧
        Refuses event.query event.answer)
      (only : ∀ event ∈ events, Refuses event.query event.answer → event.query = .close .control) :
      Dropped client events
        (.error (.raised error), { client with control := client.control.closed })

theorem drop_run (client : Client) (host : Host boundary World) (fuel : Nat) (world : World) :
    Dropped client ((disconnect false).run host fuel client world).events
      ((disconnect false).run host fuel client world).value := by
  have calm (query answer past after) (_ : Closing query) (quiet : ¬ Refuses query answer)
      (silent : Silent past) (step : Monitor.history.step past ⟨query, answer⟩ after) :
      Silent after :=
    step ▸ silent_snoc past _ silent quiet
  have breaks (query answer past after) (refuses : Refuses query answer) (silent : Silent past)
      (step : Monitor.history.step past ⟨query, answer⟩ after) : RefusedBy query after :=
    ⟨past, answer, silent, refuses, step⟩
  have reset (answer past after) (silent : Silent past)
      (step : Monitor.history.step past ⟨.setSsl .control .plain, answer⟩ after) : Silent after :=
    step ▸ silent_snoc past _ silent (by rintro ⟨⟩)
  have triple : Program.Triple Monitor.history fuel
      (fun state events => state = client ∧ events = []) (disconnect false)
      (fun value state events => Dropped client events (.ok value, state))
      (fun stop state events => Dropped client events (.error stop, state)) := by
    rintro state events ⟨same, none⟩
    subst state events
    simp only [disconnect, quit, Program.wp_bind, Program.wp_pure, Bool.false_eq_true, if_false]
    refine disconnect_tail_wp client calm breaks reset [] (fun _ member => nomatch member) ?_ ?_
    · exact fun after silent => .released silent
    · intro error control after isConnected failure
      cases failure with
      | shut isClosed => simp [ControlConnection.isConnected, isClosed] at isConnected
      | sslShutdown _ refused =>
        obtain ⟨event, member, same, refuses⟩ := refusedBy_some refused
        exact .stuck error isConnected ⟨event, member, by simp [same], refuses⟩
      | shutdown _ refused =>
        obtain ⟨event, member, same, refuses⟩ := refusedBy_some refused
        exact .stuck error isConnected ⟨event, member, by simp [same], refuses⟩
      | close _ refused =>
        exact .closed error (refusedBy_some refused)
          fun event member refuses => refusedBy_only refused member refuses
  have settled (result) (run : Run boundary World (Except (Stop FtpException) (Option Reply) × Client))
      (same : run.value.1 = result) (dropped : Dropped client run.events (result, run.value.2)) :
      Dropped client run.events run.value := by
    subst same
    exact dropped
  rcases triple.run_history host world ⟨rfl, rfl⟩ with ⟨value, same, dropped⟩ | ⟨stop, same, dropped⟩
  · exact settled _ _ same dropped
  · exact settled _ _ same dropped

end Drop

end Client

end LibFtp
