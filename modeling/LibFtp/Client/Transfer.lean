import LibFtp.Client.Operations

/-! The transfers cut at the main command: the negotiation before it, and what follows
the preliminary reply. The operations differ in the data and in the end of the transfer. -/

namespace LibFtp

open Effect

namespace Client

/-- The data connection that a negotiation hands to the main command, and whether the
server has yet to connect to it. -/
structure Negotiated where
  connection : DataConnection
  accepting : Bool

def negotiateEpsv (replies : Replies) : Method Client (Option Negotiated × Replies) := do
  let (reply, replies) ← processCommandInto (makeCommand "EPSV" none) replies
  if reply.isNegative then return (none, replies)
  match tryParseEpsvReply reply with
  | none =>
    throwText "Cannot parse a port number from the server reply: '%1%'." [reply.statusString]
  | some remotePort =>
    let remoteEndpoint ← onControl ControlConnection.getRemoteEndpoint
    let (_, connection) ←
      Program.on DataConnection.new (DataConnection.connect ⟨remoteEndpoint.address, remotePort⟩)
    return (some ⟨connection, false⟩, replies)

def negotiatePasv (replies : Replies) : Method Client (Option Negotiated × Replies) := do
  let (reply, replies) ← processCommandInto (makeCommand "PASV" none) replies
  if reply.isNegative then return (none, replies)
  match tryParsePasvReply reply with
  | none =>
    throwText "Cannot parse IP address and port number from the server reply: '%1%'."
      [reply.statusString]
  | some (remoteIp, remotePort) =>
    let (_, connection) ←
      Program.on DataConnection.new (DataConnection.connectText remoteIp remotePort)
    return (some ⟨connection, false⟩, replies)

def negotiateActive (makeEndpointCommand : Endpoint → Bytes) (replies : Replies) :
    Method Client (Option Negotiated × Replies) := do
  let localEndpoint ← onControl ControlConnection.getLocalEndpoint
  let (_, connection) ←
    Program.on DataConnection.new (DataConnection.listen ⟨localEndpoint.address, 0⟩)
  let (listenEndpoint, connection) ← Program.on connection DataConnection.getListenEndpoint
  let (reply, replies) ← processCommandInto (makeEndpointCommand listenEndpoint) replies
  if reply.isNegative then return (none, replies)
  return (some ⟨connection, true⟩, replies)

def negotiate (replies : Replies) : Method Client (Option Negotiated × Replies) := do
  let client ← Program.get
  match client.transferMode, client.rfc2428Support with
  | .passive, true => negotiateEpsv replies
  | .passive, false => negotiatePasv replies
  | .active, true => negotiateActive makeEprtCommand replies
  | .active, false => negotiateActive makePortCommand replies

/-- What the client does with the reply to the main command. -/
def answerMain (negotiated : Negotiated) (reply : Reply) (replies : Replies) :
    Method Client (Option DataConnection × Replies) := do
  if negotiated.accepting then
    if reply.isNegative then return (none, replies)
    let (_, connection) ← Program.on negotiated.connection DataConnection.accept
    let connection ← readyConnection connection
    return (some connection, replies)
  else
    if reply.isNegative then
      let _closed ← Program.on negotiated.connection (DataConnection.disconnect true)
      return (none, replies)
    let connection ← readyConnection negotiated.connection
    return (some connection, replies)

def openMain (command : Bytes) (negotiated : Option Negotiated) (replies : Replies) :
    Method Client (Option DataConnection × Replies) :=
  match negotiated with
  | none => return (none, replies)
  | some negotiated => do
    let (reply, replies) ← processCommandInto command replies
    answerMain negotiated reply replies

private theorem passive_eq (connection : DataConnection) (command : Bytes) (replies : Replies) :
    processMainCommandPassive connection command replies =
      openMain command (some ⟨connection, false⟩) replies := rfl

theorem processEpsvCommand_eq (command : Bytes) (replies : Replies) :
    processEpsvCommand command replies = (do
      let (negotiated, replies) ← negotiateEpsv replies
      openMain command negotiated replies) := by
  unfold processEpsvCommand negotiateEpsv
  simp only [bind_assoc]
  congr 1
  funext out
  obtain ⟨reply, replies⟩ := out
  simp only
  split
  · rfl
  · cases tryParseEpsvReply reply with
    | none => rfl
    | some remotePort => simp only [bind_assoc, pure_bind, passive_eq]

theorem processPasvCommand_eq (command : Bytes) (replies : Replies) :
    processPasvCommand command replies = (do
      let (negotiated, replies) ← negotiatePasv replies
      openMain command negotiated replies) := by
  unfold processPasvCommand negotiatePasv
  simp only [bind_assoc]
  congr 1
  funext out
  obtain ⟨reply, replies⟩ := out
  simp only
  split
  · rfl
  · cases tryParsePasvReply reply with
    | none => rfl
    | some remote => simp only [bind_assoc, pure_bind, passive_eq]

theorem processActiveCommand_eq (makeEndpointCommand : Endpoint → Bytes) (command : Bytes)
    (replies : Replies) :
    processActiveCommand makeEndpointCommand command replies = (do
      let (negotiated, replies) ← negotiateActive makeEndpointCommand replies
      openMain command negotiated replies) := by
  unfold processActiveCommand negotiateActive
  simp only [bind_assoc]
  congr 1
  funext localEndpoint
  congr 1
  funext ⟨_, listening⟩
  congr 1
  funext ⟨listenEndpoint, connection⟩
  simp only
  congr 1
  funext ⟨reply, replies⟩
  simp only
  split
  · rfl
  · rfl

/-- The negotiations differ before the main command only. -/
theorem createDataConnection_eq (command : Bytes) (replies : Replies) :
    createDataConnection command replies = (do
      let (negotiated, replies) ← negotiate replies
      openMain command negotiated replies) := by
  unfold createDataConnection negotiate
  simp only [bind_assoc]
  congr 1
  funext client
  cases client.transferMode <;> cases client.rfc2428Support
  · exact processPasvCommand_eq command replies
  · exact processEpsvCommand_eq command replies
  · exact processActiveCommand_eq makePortCommand command replies
  · exact processActiveCommand_eq makeEprtCommand command replies

/-- The end of a transfer, which is aborted where the caller has cancelled it. -/
def endTransfer (connection : DataConnection) (replies : Replies) (cancelled : Bool) :
    Method Client Replies := do
  if cancelled then
    let (_, replies) ← processAbort replies
    let _closed ← Program.on connection (DataConnection.disconnect false)
    return replies
  else
    let _closed ← Program.on connection (DataConnection.disconnect true)
    let (_, replies) ← recvInto replies
    return replies

theorem finishTransfer_eq (connection : DataConnection) (callback : Bool) (replies : Replies) :
    finishTransfer connection callback replies = (do
      let cancelled ← if callback then call .isCancelled else pure false
      endTransfer connection replies cancelled) := rfl

/-- A data connection for the command, the data over it, and what follows the data. -/
def overData {Moved Value : Type} (command : Bytes) (moves : Client → Method DataConnection Moved)
    (refused : Replies → Value) (rest : Replies → Moved × DataConnection → Method Client Value) :
    Method Client Value := do
  let (connection, replies) ← createDataConnection command Replies.empty
  match connection with
  | none => return refused replies
  | some connection =>
    let moved ← Program.on connection (moves (← Program.get))
    rest replies moved

/-- What follows the data of a file list. -/
def finishFileList (replies : Replies) (moved : OutputStream × DataConnection) :
    Method Client FileListReply := do
  let fileList := match moved.1.dst with
    | .memory content => content
    | .caller => []
  notifyFileList fileList
  let replies ← finishTransfer moved.2 false replies
  return .ofReplies replies fileList

theorem processDownload_eq (path : Bytes) (callback : Bool) :
    processDownload path callback =
      overData (makeCommand "RETR" (some path))
        (fun client => DataConnection.recv (client.createOutputStream .caller) callback) id
        (fun replies moved => finishTransfer moved.2 callback replies) := rfl

theorem processUpload_eq (remoteCommand : String) (path : Bytes) (callback : Bool) :
    processUpload remoteCommand path callback =
      overData (makeCommand remoteCommand (some path))
        (fun client => DataConnection.send client.createInputStream callback) id
        (fun replies moved => finishTransfer moved.2 callback replies) := rfl

/-- A file list ends as a transfer without a callback does. -/
private theorem finish_list (connection : DataConnection) (replies : Replies) (fileList : Bytes) :
    (do
      let _closed ← Program.on connection (DataConnection.disconnect true)
      let (_, replies) ← recvInto replies
      return .ofReplies replies fileList : Method Client FileListReply) = (do
      let replies ← finishTransfer connection false replies
      return .ofReplies replies fileList) := by
  simp only [finishTransfer, Bool.false_eq_true, if_false, pure_bind, bind_assoc]

theorem getFileList_eq (path : Option Bytes) (onlyNames : Bool) :
    getFileList path onlyNames =
      overData (makeCommand (if onlyNames then "NLST" else "LIST") path)
        (fun client => DataConnection.recv (client.createOutputStream (.memory [])) false)
        (fun replies => .ofReplies replies []) finishFileList := by
  have command : (if onlyNames then makeCommand "NLST" path else makeCommand "LIST" path) =
      makeCommand (if onlyNames then "NLST" else "LIST") path := by
    cases onlyNames <;> rfl
  unfold getFileList
  rw [command]
  refine congrArg (_ >>= ·) (funext fun ⟨connection, replies⟩ => ?_)
  cases connection with
  | none => rfl
  | some connection =>
    refine congrArg (_ >>= ·) (funext fun client => ?_)
    refine congrArg (_ >>= ·) (funext fun ⟨stream, connection⟩ => ?_)
    exact congrArg (_ >>= ·) (funext fun _ => finish_list connection replies _)

end Client

end LibFtp
