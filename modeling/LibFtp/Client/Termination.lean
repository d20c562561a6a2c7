import LibFtp.Client.ControlOnly
import LibFtp.Control.Termination
import LibFtp.Detail.Script

/-! Every operation ends, unless its surroundings go on giving: bytes over one of the two
connections, bytes of the caller's source, or ends of the control stream. -/

namespace LibFtp.Client

open Effect

private def Buffered (start : Nat) (client : Client) (taken : Nat) : Prop :=
  client.control.Buffered start taken

variable {start fuel : Nat} {Value : Type}

private theorem buffered_rises (start : Nat) (client : Client) : Rising (Buffered start client) :=
  ControlConnection.added_rises start client.control.buffer.length

private theorem call_ends (query : Boundary.Query) :
    (call query : Method Client _).Ends supplies (Buffered start) (Spent start) :=
  LibFtp.call_ends (buffered_rises start) query

private theorem control_ends {program : Method ControlConnection Value}
    (ends : program.Ends supplies (ControlConnection.Buffered start) (Spent start)) :
    (onControl program).Ends supplies (Buffered start) (Spent start) :=
  .zoom (fun _ => ends) fun _ => rfl

private theorem data_ends {connection : DataConnection} {program : Method DataConnection Value}
    (ends : ∀ kept, Rising kept → program.Ends supplies (fun _ => kept) (Spent start)) :
    (Program.on connection program : Method Client _).Ends supplies (Buffered start)
      (Spent start) :=
  .on fun client => ends (Buffered start client) (buffered_rises start client)

section Exchange

private theorem send_ends (command : Bytes) :
    (send command).Ends supplies (Buffered start) (Spent start) :=
  .bind (.bind .get fun _ => call_ends _) fun _ => control_ends (ControlConnection.send_ends _)

private theorem recv_ends : recv.Ends supplies (Buffered start) (Spent start) :=
  .bind (control_ends ControlConnection.recv_ends_paid) fun _ =>
    .bind (.bind .get fun _ => call_ends _) fun _ => .pure _

private theorem recvInto_ends (replies : Replies) :
    (recvInto replies).Ends supplies (Buffered start) (Spent start) := by
  rw [recvInto_eq]
  exact .bind recv_ends fun _ => .pure _

private theorem command_ends (command : Bytes) :
    (processCommand command).Ends supplies (Buffered start) (Spent start) :=
  .bind (send_ends command) fun _ => recv_ends

private theorem commandInto_ends (command : Bytes) (replies : Replies) :
    (processCommandInto command replies).Ends supplies (Buffered start) (Spent start) :=
  .bind (send_ends command) fun _ => recvInto_ends replies

end Exchange

section Session

private theorem applySettings_ends (reply : Reply) (replies : Replies) :
    (applySettings reply replies).Ends supplies (Buffered start) (Spent start) := by
  refine .ite (.pure _) (.bind .get fun client => .ite ?_ (commandInto_ends _ _))
  refine .bind (commandInto_ends _ _) fun ⟨reply, replies⟩ => .ite (.pure _) ?_
  exact .bind (commandInto_ends _ _) fun ⟨reply, replies⟩ => .ite (.pure _) (commandInto_ends _ _)

private theorem processLogin_ends (username password : Bytes) (replies : Replies) :
    (processLogin username password replies).Ends supplies (Buffered start) (Spent start) := by
  rw [processLogin_eq]
  refine .bind (commandInto_ends _ _) fun _ => .ite ?_ (applySettings_ends _ _)
  exact .bind (commandInto_ends _ _) fun _ => applySettings_ends _ _

private theorem greet_ends (hostname : Bytes) (port : UInt16) :
    (greet hostname port).Ends supplies (Buffered start) (Spent start) := by
  refine .bind (control_ends (ControlConnection.connect_ends _ _)) fun _ => ?_
  refine .bind (.bind .get fun _ => call_ends _) fun _ => ?_
  refine .bind (recvInto_ends _) fun ⟨reply, replies⟩ => .ite (.pure _) ?_
  refine .bind .get fun _ => .ite ?_ (.pure _)
  refine .bind (commandInto_ends _ _) fun ⟨reply, replies⟩ => .ite (.pure _) ?_
  refine .bind (control_ends (ControlConnection.setSsl_ends _)) fun _ => ?_
  exact .bind (control_ends ControlConnection.sslHandshake_ends) fun _ => .pure _

private theorem connect_ends (hostname : Bytes) (port : UInt16) (username : Option Bytes)
    (password : Bytes) :
    (connect hostname port username password).Ends supplies (Buffered start) (Spent start) := by
  rw [connect_eq]
  refine .bind (greet_ends hostname port) fun greeted => ?_
  cases greeted with
  | error replies => exact .pure _
  | ok replies =>
    cases username with
    | none => exact .pure _
    | some name => exact .bind (processLogin_ends _ _ _) fun _ => .pure _

private theorem logout_ends : logout.Ends supplies (Buffered start) (Spent start) := by
  refine .bind (command_ends _) fun _ => .bind .get fun _ => .ite ?_ (.pure _)
  exact .bind (control_ends ControlConnection.sslShutdown_ends) fun _ =>
    .bind (control_ends (ControlConnection.setSsl_ends _)) fun _ => .pure _

private theorem disconnect_ends (graceful : Bool) :
    (disconnect graceful).Ends supplies (Buffered start) (Spent start) := by
  have quit : (quit graceful).Ends supplies (Buffered start) (Spent start) :=
    .ite (.bind (command_ends _) fun _ => .pure _) (.pure _)
  refine .bind quit fun _ => .bind ?_ fun _ => .bind ?_ fun _ => .pure _
  · exact .bind .get fun _ => .ite (control_ends ControlConnection.closeSteps_ends) (.pure _)
  · exact .bind .get fun _ => .ite (control_ends (ControlConnection.setSsl_ends _)) (.pure _)

end Session

section Transfers

private theorem active_ends (makeEndpointCommand : Endpoint → Bytes) (replies : Replies) :
    (negotiateActive makeEndpointCommand replies).Ends supplies (Buffered start)
      (Spent start) := by
  refine .bind (control_ends ControlConnection.getLocalEndpoint_ends) fun _ => ?_
  refine .bind (data_ends fun _ rising => DataConnection.listen_ends rising _) fun _ => ?_
  refine .bind (data_ends fun _ rising => DataConnection.getListenEndpoint_ends rising) fun _ => ?_
  exact .bind (commandInto_ends _ _) fun _ => .ite (.pure _) (.pure _)

private theorem negotiate_ends (replies : Replies) :
    (negotiate replies).Ends supplies (Buffered start) (Spent start) := by
  refine .bind .get fun client => ?_
  cases client.transferMode <;> cases client.rfc2428Support
  · refine .bind (commandInto_ends _ _) fun ⟨reply, replies⟩ => .ite (.pure _) ?_
    cases tryParsePasvReply reply with
    | none => exact .raise _
    | some remote =>
      exact .bind (data_ends fun _ rising => DataConnection.connectText_ends rising _ _)
        fun _ => .pure _
  · refine .bind (commandInto_ends _ _) fun ⟨reply, replies⟩ => .ite (.pure _) ?_
    cases tryParseEpsvReply reply with
    | none => exact .raise _
    | some remotePort =>
      refine .bind (control_ends ControlConnection.getRemoteEndpoint_ends) fun _ => ?_
      exact .bind (data_ends fun _ rising => DataConnection.connect_ends rising _) fun _ => .pure _
  · exact active_ends makePortCommand replies
  · exact active_ends makeEprtCommand replies

private theorem readyConnection_ends (connection : DataConnection) :
    (readyConnection connection).Ends supplies (Buffered start) (Spent start) := by
  refine .bind .get fun client => .ite ?_ (.pure _)
  exact .bind (data_ends fun _ rising => DataConnection.setSsl_ends rising _) fun _ =>
    .bind (data_ends fun _ rising => DataConnection.sslHandshake_ends rising) fun _ => .pure _

private theorem createDataConnection_ends (command : Bytes) (replies : Replies) :
    (createDataConnection command replies).Ends supplies (Buffered start) (Spent start) := by
  rw [createDataConnection_eq]
  refine .bind (negotiate_ends replies) fun ⟨negotiated, replies⟩ => ?_
  cases negotiated with
  | none => exact .pure _
  | some negotiated =>
    refine .bind (commandInto_ends command replies) fun ⟨reply, replies⟩ => ?_
    refine .ite (.ite (.pure _) ?_) (.ite ?_ ?_)
    · exact .bind (data_ends fun _ rising => DataConnection.accept_ends rising) fun _ =>
        .bind (readyConnection_ends _) fun _ => .pure _
    · exact .bind (data_ends fun _ rising => DataConnection.disconnect_ends rising _) fun _ =>
        .pure _
    · exact .bind (readyConnection_ends _) fun _ => .pure _

private theorem processAbort_ends (replies : Replies) :
    (processAbort replies).Ends supplies (Buffered start) (Spent start) :=
  .bind (commandInto_ends _ _) fun _ => .ite (recvInto_ends _) (.pure _)

private theorem finishTransfer_ends (connection : DataConnection) (callback : Bool)
    (replies : Replies) :
    (finishTransfer connection callback replies).Ends supplies (Buffered start)
      (Spent start) := by
  have closed (graceful : Bool) : (Program.on connection (DataConnection.disconnect graceful) :
      Method Client _).Ends supplies (Buffered start) (Spent start) :=
    data_ends fun _ rising => DataConnection.disconnect_ends rising graceful
  have finish (cancelled : Bool) :
      (endTransfer connection replies cancelled).Ends supplies (Buffered start) (Spent start) := by
    refine .ite ?_ ?_
    · exact .bind (processAbort_ends _) fun _ => .bind (closed _) fun _ => .pure _
    · exact .bind (closed _) fun _ => .bind (recvInto_ends _) fun _ => .pure _
  rw [finishTransfer_eq]
  exact .ite (.bind (call_ends _) finish) (.bind (.pure _) finish)

private theorem overData_ends {Moved : Type} {moves : Client → Method DataConnection Moved}
    (command : Bytes) (refused : Replies → Value)
    {rest : Replies → Moved × DataConnection → Method Client Value}
    (moving : ∀ client kept, Rising kept →
      (moves client).Ends supplies (fun _ => kept) (Spent start))
    (finished : ∀ replies moved, (rest replies moved).Ends supplies (Buffered start) (Spent start)) :
    (overData command moves refused rest).Ends supplies (Buffered start) (Spent start) := by
  refine .bind (createDataConnection_ends _ _) fun ⟨connection, replies⟩ => ?_
  cases connection with
  | none => exact .pure _
  | some connection =>
    exact .bind .get fun client => .bind (data_ends (moving client)) fun _ => finished _ _

private theorem download_ends (path : Bytes) (callback : Bool) :
    (processDownload path callback).Ends supplies (Buffered start) (Spent start) := by
  rw [processDownload_eq]
  exact overData_ends _ _ (fun _ _ rising => DataConnection.recv_ends rising _ _)
    fun _ _ => finishTransfer_ends _ _ _

private theorem upload_ends (remoteCommand : String) (path : Bytes) (callback : Bool) :
    (processUpload remoteCommand path callback).Ends supplies (Buffered start) (Spent start) := by
  rw [processUpload_eq]
  refine overData_ends _ _ (fun client _ rising => DataConnection.send_ends rising _ _ ?_)
    fun _ _ => finishTransfer_ends _ _ _
  unfold createInputStream
  cases client.transferType <;> rfl

private theorem fileList_ends (path : Option Bytes) (onlyNames : Bool) :
    (getFileList path onlyNames).Ends supplies (Buffered start) (Spent start) := by
  rw [getFileList_eq]
  exact overData_ends _ _ (fun _ _ rising => DataConnection.recv_ends rising _ _) fun _ _ =>
    .bind (.bind .get fun _ => call_ends _) fun _ => .bind (finishTransfer_ends _ _ _)
      fun _ => .pure _

end Transfers

private theorem invoke_ends (operation : Operation) :
    (invoke operation).Ends supplies (Buffered start) (Spent start) := by
  cases operation with
  | connect => exact .bind (connect_ends _ _ _ _) fun _ => .pure _
  | login => exact .bind (.bind (processLogin_ends _ _ _) fun _ => .pure _) fun _ => .pure _
  | logout => exact .bind logout_ends fun _ => .pure _
  | disconnect graceful => exact .bind (disconnect_ends graceful) fun _ => .pure _
  | downloadFile => exact .bind (download_ends _ _) fun _ => .pure _
  | uploadFile | appendFile => exact .bind (upload_ends _ _ _) fun _ => .pure _
  | getFileList => exact .bind (fileList_ends _ _) fun _ => .pure _
  | rename =>
    refine .bind (.bind (commandInto_ends _ _) fun _ => ?_) fun _ => .pure _
    exact .ite (.bind (commandInto_ends _ _) fun _ => .pure _) (.pure _)
  | setTransferType =>
    refine .bind (.bind (command_ends _) fun _ => ?_) fun _ => .pure _
    exact .ite (.bind (.modify fun _ _ => id) fun _ => .pure _) (.pure _)
  | setTransferMode | addObserver | removeObserver | setRfc2428Support =>
    exact .bind (.modify fun _ _ => id) fun _ => .pure _
  | isConnected | getTransferMode | getTransferType | getRfc2428Support =>
    exact .bind .get fun _ => .pure _
  | getFileSize | getFileModifiedTime =>
    exact .bind (.bind (command_ends _) fun _ => .pure _) fun _ => .pure _
  | _ => exact .bind (command_ends _) fun _ => .pure _

private theorem spins_spent (host : Host boundary World) (fuel : Nat) (operation : Operation)
    (client : Client) (world : World)
    (spins : (perform invoke host fuel operation client world).outcome = .error .spinning) :
    Spent client.control.buffer.length fuel
      ((perform invoke host fuel operation client world).events.foldl intake 0) :=
  have held : Buffered client.control.buffer.length client 0 := Nat.le_refl _
  (invoke_ends operation).run host held (Monitor.fold_drives intake 0 _) spins

/-- An operation that goes on for ever is given something for ever: its rounds are paid for
by what it has taken from its surroundings, and by what was left in the buffer. -/
theorem spins_only_when_given (host : Host boundary World) (fuel : Nat) (operation : Operation)
    (client : Client) (world : World)
    (spins : (perform invoke host fuel operation client world).outcome = .error .spinning) :
    fuel ≤ client.control.buffer.length +
      2 * (perform invoke host fuel operation client world).events.foldl intake 0 :=
  spins_spent host fuel operation client world spins

/-- An operation that is not given more than so much, however long it goes on, ends. -/
theorem ends_on_finite_supply (host : Host boundary World) (operation : Operation) (client : Client)
    (world : World) (supply : Nat)
    (finite : ∀ fuel,
      (perform invoke host fuel operation client world).events.foldl intake 0 ≤ supply) :
    ∃ enough, ∀ fuel ≥ enough,
      (perform invoke host fuel operation client world).outcome ≠ .error .spinning := by
  refine ⟨client.control.buffer.length + 2 * supply + 1, fun fuel enough spins => ?_⟩
  have spent := spins_spent host fuel operation client world spins
  have given := finite fuel
  unfold Spent at spent
  omega

/-- The end of the stream inside a reply pays for every round. -/
theorem spins_only_when_given_inside_a_reply : ∃ (client : Client) (script : Script),
    (perform invoke Script.host 4 .sendNoop client script).outcome = .error .spinning ∧
      4 ≤ client.control.buffer.length +
        2 * (perform invoke Script.host 4 .sendNoop client script).events.foldl intake 0 := by
  have spins : (perform invoke Script.host 4 .sendNoop
      ⟨.passive, .binary, false, true, ⟨[], ⟨.plain, true⟩⟩, []⟩
      (.ofReplies [text "220-a\r\n"])).outcome = .error .spinning := by
    decide +kernel
  exact ⟨_, _, spins, spins_only_when_given _ _ _ _ _ spins⟩

end LibFtp.Client
