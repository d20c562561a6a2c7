import LibFtp.Client.ControlOnly
import LibFtp.Control.Errors
import LibFtp.Detail.Script

/-! Where the exceptions of the client come from. None is thrown without a cause among what the
operation itself has exchanged, and its message names that cause. -/

namespace LibFtp.Client

open Effect

/-- The observers were told of the reply. -/
def WasTold (events : List BoundaryEvent) (reply : Reply) : Prop :=
  ∃ observers, (⟨.notifyReply observers reply, ()⟩ : BoundaryEvent) ∈ events

/-- What an exception comes from, by what has been exchanged. The given bytes have been left in
the buffer by what was exchanged before. -/
inductive Cause (initial : Bytes) (events : List BoundaryEvent) : FtpException → Prop where
  | failure (failure : Failure events ec fmt) : Cause initial events (.ofCode ec fmt)
  | thrown (member : event ∈ events) (throws : thrown event = some error) :
    Cause initial events error
  | crowded (left : Residue initial events buffer) (long : 8192 ≤ buffer.length)
      (endless : Socket.matchEol buffer = none) :
    Cause initial events (.ofCode .notFound "Cannot receive data over control connection")
  | statusCode (taken : LineTaken initial events line)
      (unparsed : ControlConnection.tryParseStatusCode line = none) :
    Cause initial events ⟨"Cannot parse a status code from the server reply: '%1%'.", [line], none⟩
  | port (told : WasTold events reply) (unparsed : tryParseEpsvReply reply = none) :
    Cause initial events
      ⟨"Cannot parse a port number from the server reply: '%1%'.", [reply.statusString], none⟩
  | addressAndPort (told : WasTold events reply) (unparsed : tryParsePasvReply reply = none) :
    Cause initial events
      ⟨"Cannot parse IP address and port number from the server reply: '%1%'.",
        [reply.statusString], none⟩

variable {initial : Bytes}

private theorem traced : TracedLines initial (Cause initial) where
  failure _ _ _ := .failure
  thrown _ _ _ := .thrown
  crowded _ _ := .crowded
  unparsed _ _ := .statusCode

private theorem tracedCalls : Traced (Cause initial) := traced.toTraced

/-- The buffer of the control connection holds the last bytes that were received. -/
private abbrev Keeping (initial : Bytes) (client : Client) (events : List BoundaryEvent) : Prop :=
  Residue initial events client.control.buffer

private theorem keeping_detached (client : Client) : Detached (Keeping initial client) :=
  residue_detached initial client.control.buffer

private abbrev Sincere (initial : Bytes) (program : Method Client Value) : Prop :=
  Honest (Keeping initial) (Cause initial) program

/-- What the control connection accounts for, the client does. -/
private theorem onControl_accounts {program : Method ControlConnection Value}
    {past : List BoundaryEvent} {post : Value → List BoundaryEvent → Prop}
    (accounts : program.Accounts (ControlConnection.Keeping initial) (Cause initial) past post) :
    (onControl program).Accounts (Keeping initial) (Cause initial) past post :=
  .zoom (fun _ => accounts) fun _ => rfl

private theorem onControl_honest {program : Method ControlConnection Value}
    (honest : Honest (ControlConnection.Keeping initial) (Cause initial) program) :
    Sincere initial (onControl program) :=
  fun past => onControl_accounts (honest past)

/-- The data side does not touch the buffer. -/
private theorem on_honest {Part Value : Type} {object : Part} {program : Method Part Value}
    (honest : ∀ kept, Detached kept → Honest (fun _ => kept) (Cause initial) program) :
    Sincere initial (Program.on object program) :=
  .on fun client => honest _ (keeping_detached client)

private theorem told_honest {query : Boundary.Query} (apart : ¬ ReadsControl query) :
    Sincere initial (call query) := .call apart keeping_detached

section Exchange

private theorem send_honest (command : Bytes) : Sincere initial (send command) :=
  .bind (.bind .get fun _ => told_honest id) fun _ =>
    onControl_honest (ControlConnection.send_honest tracedCalls command)

private theorem recv_accounts (past : List BoundaryEvent) :
    recv.Accounts (Keeping initial) (Cause initial) past fun reply after => WasTold after reply := by
  refine .bind (onControl_accounts (ControlConnection.recv_honest traced past)) fun reply _ _ _ => ?_
  have notified (past : List BoundaryEvent) :
      (notifyReply reply).Accounts (Keeping initial) (Cause initial) past fun _ after =>
        WasTold after reply :=
    .bind .get fun client _ _ _ =>
      (call_noted keeping_detached id).mono fun _ _ _ noted => ⟨client.observers, noted⟩
  exact .bind (notified _) fun _ _ _ told => .pure told

private theorem recvInto_accounts (replies : Replies) (past : List BoundaryEvent) :
    (recvInto replies).Accounts (Keeping initial) (Cause initial) past fun result after =>
      WasTold after result.1 := by
  rw [recvInto_eq]
  exact .bind (recv_accounts past) fun _ _ _ told => .pure told

private theorem recvInto_honest (replies : Replies) : Sincere initial (recvInto replies) :=
  fun past => (recvInto_accounts replies past).mono fun _ _ _ _ => trivial

private theorem command_honest (command : Bytes) : Sincere initial (processCommand command) :=
  .bind (send_honest command) fun _ past => (recv_accounts past).mono fun _ _ _ _ => trivial

private theorem commandInto_accounts (command : Bytes) (replies : Replies)
    (past : List BoundaryEvent) :
    (processCommandInto command replies).Accounts (Keeping initial) (Cause initial) past
      fun result after =>
      WasTold after result.1 :=
  .bind (send_honest command past) fun _ _ _ _ => recvInto_accounts replies _

private theorem commandInto_honest (command : Bytes) (replies : Replies) :
    Sincere initial (processCommandInto command replies) :=
  fun past => (commandInto_accounts command replies past).mono fun _ _ _ _ => trivial

end Exchange

section Session

private theorem applySettings_honest (reply : Reply) (replies : Replies) :
    Sincere initial (applySettings reply replies) := by
  refine .ite (.pure _) (.bind .get fun client => .ite ?_ (commandInto_honest _ _))
  refine .bind (commandInto_honest _ _) fun _ => .ite (.pure _) ?_
  exact .bind (commandInto_honest _ _) fun _ => .ite (.pure _) (commandInto_honest _ _)

private theorem processLogin_honest (username password : Bytes) (replies : Replies) :
    Sincere initial (processLogin username password replies) := by
  rw [processLogin_eq]
  refine .bind (commandInto_honest _ _) fun _ => .ite ?_ (applySettings_honest _ _)
  exact .bind (commandInto_honest _ _) fun _ => applySettings_honest _ _

private theorem greet_honest (hostname : Bytes) (port : UInt16) :
    Sincere initial (greet hostname port) := by
  refine .bind (onControl_honest (ControlConnection.connect_honest tracedCalls _ _)) fun _ => ?_
  refine .bind (.bind .get fun _ => told_honest id) fun _ => ?_
  refine .bind (recvInto_honest _) fun _ => .ite (.pure _) ?_
  refine .bind .get fun _ => .ite ?_ (.pure _)
  refine .bind (commandInto_honest _ _) fun _ => .ite (.pure _) ?_
  refine .bind (onControl_honest (ControlConnection.setSsl_honest _)) fun _ => ?_
  exact .bind (onControl_honest (ControlConnection.sslHandshake_honest tracedCalls)) fun _ => .pure _

private theorem connect_honest (hostname : Bytes) (port : UInt16) (username : Option Bytes)
    (password : Bytes) : Sincere initial (connect hostname port username password) := by
  rw [connect_eq]
  refine .bind (greet_honest hostname port) fun greeted => ?_
  cases greeted with
  | error replies => exact .pure _
  | ok replies =>
    cases username with
    | none => exact .pure _
    | some name => exact .bind (processLogin_honest _ _ _) fun _ => .pure _

private theorem logout_honest : Sincere initial logout := by
  refine .bind (command_honest _) fun _ => .bind .get fun _ => .ite ?_ (.pure _)
  exact .bind (onControl_honest (ControlConnection.sslShutdown_honest tracedCalls)) fun _ =>
    .bind (onControl_honest (ControlConnection.setSsl_honest _)) fun _ => .pure _

private theorem disconnect_honest (graceful : Bool) : Sincere initial (disconnect graceful) := by
  have quit : Sincere initial (quit graceful) :=
    .ite (.bind (command_honest _) fun _ => .pure _) (.pure _)
  refine .bind quit fun _ => .bind ?_ fun _ => .bind ?_ fun _ => .pure _
  · exact .bind .get fun _ =>
      .ite (onControl_honest (ControlConnection.closeSteps_honest tracedCalls)) (.pure _)
  · exact .bind .get fun _ => .ite (onControl_honest (ControlConnection.setSsl_honest _)) (.pure _)

end Session

section Transfers

private theorem epsv_honest (replies : Replies) : Sincere initial (negotiateEpsv replies) := by
  refine fun past => .bind (commandInto_accounts _ _ past) fun answer after _ told => ?_
  refine .ite (fun _ => .pure trivial) fun _ => ?_
  cases parsed : tryParseEpsvReply answer.1 with
  | none => exact .raise (.port told parsed)
  | some remotePort =>
    refine Honest.bind (onControl_honest (ControlConnection.getRemoteEndpoint_honest tracedCalls))
      (fun _ => ?_) after
    exact .bind (on_honest fun _ detached => DataConnection.connect_honest detached tracedCalls _)
      fun _ => .pure _

private theorem pasv_honest (replies : Replies) : Sincere initial (negotiatePasv replies) := by
  refine fun past => .bind (commandInto_accounts _ _ past) fun answer after _ told => ?_
  refine .ite (fun _ => .pure trivial) fun _ => ?_
  cases parsed : tryParsePasvReply answer.1 with
  | none => exact .raise (.addressAndPort told parsed)
  | some remote =>
    exact Honest.bind
      (on_honest fun _ detached => DataConnection.connectText_honest detached tracedCalls _ _)
      (fun _ => .pure _) after

private theorem active_honest (makeEndpointCommand : Endpoint → Bytes) (replies : Replies) :
    Sincere initial (negotiateActive makeEndpointCommand replies) := by
  refine .bind (onControl_honest (ControlConnection.getLocalEndpoint_honest tracedCalls)) fun _ => ?_
  refine .bind (on_honest fun _ detached => DataConnection.listen_honest detached tracedCalls _)
    fun _ => ?_
  refine .bind (on_honest fun _ detached =>
    DataConnection.getListenEndpoint_honest detached tracedCalls) fun _ => ?_
  exact .bind (commandInto_honest _ _) fun _ => .ite (.pure _) (.pure _)

private theorem negotiate_honest (replies : Replies) : Sincere initial (negotiate replies) := by
  refine .bind .get fun client => ?_
  cases client.transferMode <;> cases client.rfc2428Support
  · exact pasv_honest replies
  · exact epsv_honest replies
  · exact active_honest makePortCommand replies
  · exact active_honest makeEprtCommand replies

private theorem readyConnection_honest (connection : DataConnection) :
    Sincere initial (readyConnection connection) := by
  refine .bind .get fun client => .ite ?_ (.pure _)
  exact .bind (on_honest (fun _ detached => DataConnection.setSsl_honest detached _)) fun _ =>
    .bind (on_honest fun _ detached => DataConnection.sslHandshake_honest detached tracedCalls)
      fun _ => .pure _

private theorem createDataConnection_honest (command : Bytes) (replies : Replies) :
    Sincere initial (createDataConnection command replies) := by
  rw [createDataConnection_eq]
  refine .bind (negotiate_honest replies) fun result => ?_
  obtain ⟨negotiated, replies⟩ := result
  cases negotiated with
  | none => exact .pure _
  | some negotiated =>
    refine .bind (commandInto_honest command replies) fun _ => ?_
    refine .ite (.ite (.pure _) ?_) (.ite ?_ ?_)
    · exact .bind (on_honest fun _ detached =>
      DataConnection.accept_honest detached tracedCalls) fun _ =>
        .bind (readyConnection_honest _) fun _ => .pure _
    · exact .bind (on_honest fun _ detached =>
      DataConnection.disconnect_honest detached tracedCalls _) fun _ => .pure _
    · exact .bind (readyConnection_honest _) fun _ => .pure _

private theorem finishTransfer_honest (connection : DataConnection) (callback : Bool)
    (replies : Replies) : Sincere initial (finishTransfer connection callback replies) := by
  have closed (graceful : Bool) : Sincere initial (Program.on connection
      (DataConnection.disconnect graceful)) :=
    on_honest fun _ detached => DataConnection.disconnect_honest detached tracedCalls graceful
  have abort : Sincere initial (processAbort replies) :=
    .bind (commandInto_honest _ _) fun _ => .ite (recvInto_honest _) (.pure _)
  have finish (cancelled : Bool) : Sincere initial (endTransfer connection replies cancelled) := by
    refine .ite ?_ ?_
    · exact .bind abort fun _ => .bind (closed _) fun _ => .pure _
    · exact .bind (closed _) fun _ => .bind (recvInto_honest _) fun _ => .pure _
  rw [finishTransfer_eq]
  exact .ite (.bind (told_honest id) finish) (.bind (.pure _) finish)

private theorem overData_honest {Moved : Type} {moves : Client → Method DataConnection Moved}
    (command : Bytes) (refused : Replies → Value)
    {rest : Replies → Moved × DataConnection → Method Client Value}
    (moving : ∀ client kept, Detached kept → Honest (fun _ => kept) (Cause initial) (moves client))
    (finished : ∀ replies moved, Sincere initial (rest replies moved)) :
    Sincere initial (overData command moves refused rest) := by
  refine .bind (createDataConnection_honest _ _) fun result => ?_
  obtain ⟨connection, replies⟩ := result
  cases connection with
  | none => exact .pure _
  | some connection =>
    refine .bind .get fun client => Honest.bind ?_ fun _ => finished _ _
    exact on_honest (moving client)

private theorem download_honest (path : Bytes) (callback : Bool) :
    Sincere initial (processDownload path callback) := by
  rw [processDownload_eq]
  exact overData_honest _ _ (fun _ _ detached => DataConnection.recv_honest detached tracedCalls _ _)
    fun _ _ => finishTransfer_honest _ _ _

private theorem upload_honest (remoteCommand : String) (path : Bytes) (callback : Bool) :
    Sincere initial (processUpload remoteCommand path callback) := by
  rw [processUpload_eq]
  exact overData_honest _ _ (fun _ _ detached => DataConnection.send_honest detached tracedCalls _ _)
    fun _ _ => finishTransfer_honest _ _ _

private theorem fileList_honest (path : Option Bytes) (onlyNames : Bool) :
    Sincere initial (getFileList path onlyNames) := by
  rw [getFileList_eq]
  refine overData_honest _ _
    (fun _ _ detached => DataConnection.recv_honest detached tracedCalls _ _) fun _ _ => ?_
  exact .bind (.bind .get fun _ => told_honest id) fun _ =>
    .bind (finishTransfer_honest _ _ _) fun _ => .pure _

end Transfers

private theorem invoke_honest (operation : Operation) : Sincere initial (invoke operation) := by
  cases operation with
  | connect => exact .bind (connect_honest _ _ _ _) fun _ => .pure _
  | login => exact .bind (.bind (processLogin_honest _ _ _) fun _ => .pure _) fun _ => .pure _
  | logout => exact .bind logout_honest fun _ => .pure _
  | disconnect graceful => exact .bind (disconnect_honest graceful) fun _ => .pure _
  | downloadFile => exact .bind (download_honest _ _) fun _ => .pure _
  | uploadFile | appendFile => exact .bind (upload_honest _ _ _) fun _ => .pure _
  | getFileList => exact .bind (fileList_honest _ _) fun _ => .pure _
  | rename =>
    refine .bind (.bind (commandInto_honest _ _) fun _ => ?_) fun _ => .pure _
    exact .ite (.bind (commandInto_honest _ _) fun _ => .pure _) (.pure _)
  | setTransferType =>
    refine .bind (.bind (command_honest _) fun _ => ?_) fun _ => .pure _
    exact .ite (.bind (.modify fun _ _ => id) fun _ => .pure _) (.pure _)
  | setTransferMode | addObserver | removeObserver | setRfc2428Support =>
    exact .bind (.modify fun _ _ => id) fun _ => .pure _
  | isConnected | getTransferMode | getTransferType | getRfc2428Support =>
    exact .bind .get fun _ => .pure _
  | getFileSize | getFileModifiedTime =>
    exact .bind (.bind (command_honest _) fun _ => .pure _) fun _ => .pure _
  | _ => exact .bind (command_honest _) fun _ => .pure _

/-- In every session an exception has a cause in the operation that throws it: a call that has
failed with the error code in the message; what a stream of the caller has thrown; a line of the
server that does not end; or a text, quoted, that was received and could not be parsed. -/
theorem exceptions_have_causes (host : Host boundary World) (fuel : Nat) (client : Client)
    (world : World) (operations : List Operation) :
    ∀ record ∈ session invoke host fuel operations client world,
      ∀ error, record.outcome = .error (.raised error) →
        Cause record.before.control.buffer record.events error := by
  refine session_all (fun record => ∀ error, record.outcome = .error (.raised error) →
    Cause record.before.control.buffer record.events error) ?_ operations client world
  intro operation state world error raised
  have initial : Keeping state.control.buffer state [] := ⟨[], List.append_nil _⟩
  exact perform_accounts (invoke_honest operation []) host fuel state world initial raised

/-- A reply without an address, to a client that asks for one. -/
theorem exceptions_have_causes_pasv : ∃ (events : List BoundaryEvent) (error : FtpException),
    error.args = [text "227 Passive"] ∧ Cause [] events error := by
  have raised : (perform invoke Script.host 9 (.getFileList none false)
      ⟨.passive, .binary, false, false, ⟨[], ⟨.plain, true⟩⟩, []⟩
      (.ofReplies [text "227 Passive\r\n"])).outcome = .error (.raised
        ⟨"Cannot parse IP address and port number from the server reply: '%1%'.",
          [text "227 Passive"], none⟩) := by
    decide +kernel
  have member (operation : Operation) (client : Client) (script : Script) :
      perform invoke Script.host 9 operation client script ∈
        session invoke Script.host 9 [operation] client script := by
    rw [session_one]
    exact List.mem_singleton_self _
  exact ⟨_, _, rfl, exceptions_have_causes Script.host 9 _ _ _ _ (member _ _ _) _ raised⟩

end LibFtp.Client
