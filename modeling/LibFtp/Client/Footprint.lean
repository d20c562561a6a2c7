import LibFtp.Client.Frame
import LibFtp.Control.Footprint

/-! What an exchange of a command and a reply asks, apart from the state of the client. -/

namespace LibFtp.Client

open Effect

/-- Questions that include those of every exchange over the control connection. -/
structure Conversing (allowed : Boundary.Query → Prop) : Prop where
  link : ∀ layer query, Link layer query → allowed query
  written : ∀ layer line, allowed (.write .control layer line)
  missed : ∀ layer line, allowed (.unopened .control layer (.write line))
  requested : ∀ observers command, allowed (.notifyRequest observers command)
  heard : ∀ observers reply, allowed (.notifyReply observers reply)

namespace Conversing

variable {allowed : Boundary.Query → Prop} (conversing : Conversing allowed)

include conversing

theorem send (command : Bytes) : (send command).Asks allowed :=
  .bind (.bind .get fun _ => .ask (conversing.requested _ _)) fun _ =>
    .zoom (ControlConnection.send_asks conversing.written conversing.missed command)

theorem recv : recv.Asks allowed :=
  .bind (.zoom (ControlConnection.recv_asks conversing.link)) fun _ =>
    .bind (.bind .get fun _ => .ask (conversing.heard _ _)) fun _ => .pure _

theorem recvInto (replies : Replies) : (recvInto replies).Asks allowed := by
  rw [recvInto_eq]
  exact .bind conversing.recv fun _ => .pure _

theorem processCommand (command : Bytes) : (processCommand command).Asks allowed :=
  .bind (conversing.send command) fun _ => conversing.recv

theorem processCommandInto (command : Bytes) (replies : Replies) :
    (processCommandInto command replies).Asks allowed :=
  .bind (conversing.send command) fun _ => conversing.recvInto replies

section Main
variable (plumbing : ∀ query, Plumbing query → allowed query) (handshake : allowed (.handshake .data))
  (accepts : allowed .acceptorAccept)

include plumbing handshake

omit conversing in
theorem readyConnection (connection : DataConnection) :
    (readyConnection connection).Asks allowed := by
  refine .bind .get fun client => .ite ?_ (.pure _)
  exact .bind (.on ((DataConnection.setSsl_plumbing _).mono plumbing)) fun _ =>
    .bind (.on (DataConnection.sslHandshake_asks handshake)) fun _ => .pure _

include accepts in
theorem openMain (command : Bytes) (negotiated : Option Negotiated) (replies : Replies) :
    (openMain command negotiated replies).Asks allowed := by
  cases negotiated with
  | none => exact .pure _
  | some negotiated =>
    refine .bind (conversing.processCommandInto command replies) fun ⟨reply, replies⟩ => ?_
    refine .ite (.ite (.pure _) ?_) (.ite ?_ ?_)
    · exact .bind (.on (DataConnection.accept_asks accepts)) fun _ =>
        .bind (readyConnection plumbing handshake _) fun _ => .pure _
    · exact .bind (.on ((DataConnection.disconnect_plumbing _).mono plumbing)) fun _ => .pure _
    · exact .bind (readyConnection plumbing handshake _) fun _ => .pure _

end Main

end Conversing

/-- The same with the questions of a negotiation. -/
structure Negotiating (allowed : Boundary.Query → Prop) : Prop extends Conversing allowed where
  plumbing : ∀ query, Plumbing query → allowed query
  dialled : ∀ endpoint, allowed (.connectData endpoint)
  accepts : allowed .acceptorAccept
  localEndpoint : allowed .localEndpoint
  remoteEndpoint : allowed .remoteEndpoint

namespace Negotiating

variable {allowed : Boundary.Query → Prop} (negotiating : Negotiating allowed)

include negotiating

private theorem active (makeEndpointCommand : Endpoint → Bytes) (replies : Replies) :
    (negotiateActive makeEndpointCommand replies).Asks allowed := by
  refine .bind (.zoom (.bind (.ask negotiating.localEndpoint) fun _ => valueOrThrow_asks _ _))
    fun _ => ?_
  refine .bind (.on ((DataConnection.listen_plumbing _).mono negotiating.plumbing)) fun _ => ?_
  refine .bind (.on (DataConnection.getListenEndpoint_plumbing.mono negotiating.plumbing)) fun _ => ?_
  exact .bind (negotiating.processCommandInto _ _) fun _ => .ite (.pure _) (.pure _)

theorem negotiate (replies : Replies) : (negotiate replies).Asks allowed := by
  refine .bind .get fun client => ?_
  cases client.transferMode <;> cases client.rfc2428Support
  · refine .bind (negotiating.processCommandInto _ _) fun ⟨reply, replies⟩ => .ite (.pure _) ?_
    cases tryParsePasvReply reply with
    | none => exact .raise _
    | some remote =>
      exact .bind (.on (DataConnection.connectText_asks _ _ negotiating.dialled
        negotiating.plumbing)) fun _ => .pure _
  · refine .bind (negotiating.processCommandInto _ _) fun ⟨reply, replies⟩ => .ite (.pure _) ?_
    cases tryParseEpsvReply reply with
    | none => exact .raise _
    | some remotePort =>
      refine .bind (.zoom (.bind (.ask negotiating.remoteEndpoint) fun _ => valueOrThrow_asks _ _))
        fun _ => ?_
      exact .bind (.on (DataConnection.connect_asks _ (negotiating.dialled _) negotiating.plumbing))
        fun _ => .pure _
  · exact active negotiating makePortCommand replies
  · exact active negotiating makeEprtCommand replies

theorem createDataConnection (handshake : allowed (.handshake .data)) (command : Bytes)
    (replies : Replies) : (createDataConnection command replies).Asks allowed := by
  rw [createDataConnection_eq]
  exact .bind (negotiating.negotiate replies) fun ⟨negotiated, replies⟩ =>
    negotiating.openMain negotiating.plumbing handshake negotiating.accepts command negotiated
      replies

end Negotiating

end LibFtp.Client
