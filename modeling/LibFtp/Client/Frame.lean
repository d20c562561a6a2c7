import LibFtp.Client.Greeting
import LibFtp.Client.Transfer
import LibFtp.Detail.Quiet

/-! What all public operations preserve. It is enough to look at one exchange of a
command and a reply, at one reply received without a command, and at the questions
of the data side. -/

namespace LibFtp

open Effect

namespace Client

/-- The commands around a transfer. -/
inductive Negotiates : Bytes → Prop where
  | epsv : Negotiates (makeCommand "EPSV" none)
  | pasv : Negotiates (makeCommand "PASV" none)
  | eprt (endpoint : Endpoint) : Negotiates (makeEprtCommand endpoint)
  | port (endpoint : Endpoint) : Negotiates (makePortCommand endpoint)
  | abor : Negotiates (makeCommand "ABOR" none)

/-- The commands of a login. -/
inductive LogsIn (username password : Bytes) : Bytes → Prop where
  | user : LogsIn username password (makeCommand "USER" (some username))
  | pass : LogsIn username password (makeCommand "PASS" (some password))
  | pbsz : LogsIn username password (text "PBSZ 0")
  | prot : LogsIn username password (text "PROT P")
  | type (type : TransferType) : LogsIn username password (makeTypeCommand type)

/-- The commands that an operation may issue. -/
def Operation.Issues : Operation → Bytes → Prop
  | .connect _ _ username password, command =>
    command = text "AUTH TLS" ∨ ∃ name, username = some name ∧ LogsIn name password command
  | .login username password, command => LogsIn username password command
  | .logout, command => command = makeCommand "REIN" none
  | .changeCurrentDirectory path, command => command = makeCommand "CWD" (some path)
  | .changeCurrentDirectoryUp, command => command = makeCommand "CDUP" none
  | .getCurrentDirectory, command => command = makeCommand "PWD" none
  | .downloadFile path _, command =>
    Negotiates command ∨ command = makeCommand "RETR" (some path)
  | .uploadFile path uploadUnique _, command =>
    Negotiates command ∨ command = makeCommand (if uploadUnique then "STOU" else "STOR") (some path)
  | .appendFile path _, command => Negotiates command ∨ command = makeCommand "APPE" (some path)
  | .getFileList path onlyNames, command =>
    Negotiates command ∨ command = makeCommand (if onlyNames then "NLST" else "LIST") path
  | .rename fromPath toPath, command =>
    command = makeCommand "RNFR" (some fromPath) ∨ command = makeCommand "RNTO" (some toPath)
  | .removeFile path, command => command = makeCommand "DELE" (some path)
  | .createDirectory path, command => command = makeCommand "MKD" (some path)
  | .removeDirectory path, command => command = makeCommand "RMD" (some path)
  | .getFileSize path, command => command = makeCommand "SIZE" (some path)
  | .getFileModifiedTime path, command => command = makeCommand "MDTM" (some path)
  | .getStatus path, command => command = makeCommand "STAT" path
  | .getSystemType, command => command = makeCommand "SYST" none
  | .getHelp remoteCommand, command => command = makeCommand "HELP" remoteCommand
  | .getSiteCommands, command => command = makeCommand "SITE" (some (text "HELP"))
  | .sendSiteCommand remoteCommand, command => command = makeCommand "SITE" (some remoteCommand)
  | .sendNoop, command => command = makeCommand "NOOP" none
  | .disconnect graceful, command => graceful = true ∧ command = makeCommand "QUIT" none
  | .setTransferType type, command => command = makeTypeCommand type
  | _, _ => False

/-- The operations that move data. -/
def Operation.Transfers : Operation → Prop
  | .downloadFile .. | .uploadFile .. | .appendFile .. | .getFileList .. => True
  | _ => False

/-- The operations that change what the control connection is; all others only
talk over it. -/
def Operation.Reconnects : Operation → Prop
  | .connect .. | .logout | .disconnect _ => True
  | _ => False

variable {Ghost : Type}

/-- The operations that change a setting of the client. -/
def Operation.Adjusts : Operation → Prop
  | .setTransferMode _ | .setTransferType _ | .addObserver _ | .removeObserver _
  | .setRfc2428Support _ => True
  | _ => False

/-- An invariant that survives each exchange of one of the commands in `issues`, and
whatever the data side asks. -/
structure Converses (monitor : Monitor boundary Ghost) (invariant broken : Client → Ghost → Prop)
    (issues : Bytes → Prop) : Prop where
  stops : ∀ state ghost, invariant state ghost → broken state ghost
  quiet : ∀ query answer state ghost after, Quiet query → invariant state ghost →
    monitor.step ghost ⟨query, answer⟩ after → invariant state after
  exchange : ∀ command, issues command → (processCommand command).Keeps monitor invariant broken

/-- The invariant also survives each reply that comes without a command. -/
structure Carries (monitor : Monitor boundary Ghost) (invariant broken : Client → Ghost → Prop)
    (issues : Bytes → Prop) : Prop extends Converses monitor invariant broken issues where
  receive : recv.Keeps monitor invariant broken

/-- The invariant also survives every change of the settings. -/
structure Upholds (monitor : Monitor boundary Ghost) (invariant broken : Client → Ghost → Prop)
    (issues : Bytes → Prop) : Prop extends Carries monitor invariant broken issues where
  settings : ∀ state ghost mode type support observers, invariant state ghost →
    invariant { state with transferMode := mode, transferType := type, rfc2428Support := support,
                           observers := observers } ghost

theorem recvInto_eq (replies : Replies) :
    recvInto replies = (do
      let reply ← recv
      return (reply, replies.append reply)) := by
  simp only [recvInto, recv, bind_assoc, pure_bind]

theorem processCommandInto_eq (command : Bytes) (replies : Replies) :
    processCommandInto command replies = (do
      let reply ← processCommand command
      return (reply, replies.append reply)) := by
  simp only [processCommandInto, processCommand, recvInto_eq, bind_assoc]

namespace Converses

variable {monitor : Monitor boundary Ghost} {invariant broken : Client → Ghost → Prop}
  {issues : Bytes → Prop} (upholds : Converses monitor invariant broken issues)

include upholds

theorem call {query : Boundary.Query} (quiet : Quiet query) :
    (call query : Method Client _).Keeps monitor invariant broken :=
  .ask fun state ghost answer after holds step =>
    upholds.quiet query answer state ghost after quiet holds step

theorem on {Part : Type} {object : Part} {program : Method Part Value} (quiet : program.Asks Quiet) :
    (Program.on object program : Method Client _).Keeps monitor invariant broken := by
  refine .on fun state => ?_
  have kept : program.Keeps monitor (fun _ => invariant state) (fun _ => invariant state) :=
    quiet.keeps fun ghost event after quiet holds step =>
      upholds.quiet event.query event.answer state ghost after quiet holds step
  exact kept.mono fun _ ghost holds => upholds.stops state ghost holds

theorem processCommandInto {command : Bytes} (issued : issues command) (replies : Replies) :
    (processCommandInto command replies).Keeps monitor invariant broken := by
  rw [processCommandInto_eq]
  exact .bind (upholds.exchange command issued) fun _ => .pure _

/-- The two methods that only ask for an endpoint of the control connection. -/
private theorem endpoint {query : Boundary.Query} (quiet : Quiet query)
    (read : Boundary.Answer query → Except ErrorCode Value) (fmt : String) :
    (onControl (do valueOrThrow (read (← LibFtp.call query)) fmt)).Keeps monitor invariant broken := by
  refine .zoom (fun state => ?_) fun _ => rfl
  refine .bind (.ask fun control ghost answer after holds step => ?_) fun answer => ?_
  · exact upholds.quiet query answer _ ghost after quiet holds step
  · exact valueOrThrow_keeps (fun _ => upholds.stops _) _ _

theorem getLocalEndpoint :
    (onControl ControlConnection.getLocalEndpoint).Keeps monitor invariant broken :=
  endpoint upholds .localEndpoint id _

theorem getRemoteEndpoint :
    (onControl ControlConnection.getRemoteEndpoint).Keeps monitor invariant broken :=
  endpoint upholds .remoteEndpoint id _

theorem applySettings (reply : Reply) (replies : Replies) (username password : Bytes)
    (issued : ∀ command, LogsIn username password command → issues command) :
    (applySettings reply replies).Keeps monitor invariant broken := by
  have settings (replies : Replies) (type : TransferType) :=
    upholds.processCommandInto (issued _ (.type type)) replies
  refine .ite (.pure _) (.bind .get fun client => .ite ?_ (settings _ _))
  refine .bind (upholds.processCommandInto (issued _ .pbsz) _) fun ⟨reply, replies⟩ => ?_
  refine .ite (.pure _) ?_
  refine .bind (upholds.processCommandInto (issued _ .prot) _) fun ⟨reply, replies⟩ => ?_
  exact .ite (.pure _) (settings _ _)

theorem processLogin (username password : Bytes) (replies : Replies)
    (issued : ∀ command, LogsIn username password command → issues command) :
    (processLogin username password replies).Keeps monitor invariant broken := by
  have rest (reply : Reply) (replies : Replies) :=
    applySettings upholds reply replies username password issued
  rw [processLogin_eq]
  refine .bind (upholds.processCommandInto (issued _ .user) _) fun _ => .ite ?_ (rest _ _)
  exact .bind (upholds.processCommandInto (issued _ .pass) _) fun _ => rest _ _

theorem connectLogin (username : Option Bytes) (password : Bytes) (replies : Replies)
    (issued : ∀ name command, username = some name → LogsIn name password command → issues command) :
    (connectLogin username password replies).Keeps monitor invariant broken := by
  cases username with
  | none => exact .pure replies
  | some name =>
    exact .bind (upholds.processLogin name password replies fun command => issued name command rfl)
      fun _ => .pure _

private theorem readyConnection (connection : DataConnection) :
    (readyConnection connection).Keeps monitor invariant broken := by
  refine .bind .get fun client => .ite ?_ (.pure connection)
  exact .bind (upholds.on (DataConnection.setSsl_quiet _)) fun _ =>
    .bind (upholds.on DataConnection.sslHandshake_quiet) fun _ => .pure _

private theorem answerMain (negotiated : Negotiated) (reply : Reply) (replies : Replies) :
    (answerMain negotiated reply replies).Keeps monitor invariant broken := by
  refine .ite (.ite (.pure _) ?_) (.ite ?_ ?_)
  · exact .bind (upholds.on DataConnection.accept_quiet) fun _ =>
      .bind (readyConnection upholds _) fun _ => .pure _
  · exact .bind (upholds.on (DataConnection.disconnect_quiet _)) fun _ => .pure _
  · exact .bind (readyConnection upholds _) fun _ => .pure _

theorem openMain {command : Bytes} (issued : issues command) (negotiated : Option Negotiated)
    (replies : Replies) :
    (openMain command negotiated replies).Keeps monitor invariant broken := by
  cases negotiated with
  | none => exact .pure _
  | some negotiated =>
    exact .bind (upholds.processCommandInto issued _) fun _ => answerMain upholds _ _ _

section Transfers
variable (negotiated : ∀ command, Negotiates command → issues command)

include negotiated

private theorem negotiateEpsv (replies : Replies) :
    (negotiateEpsv replies).Keeps monitor invariant broken := by
  refine .bind (upholds.processCommandInto (negotiated _ .epsv) _) fun ⟨reply, replies⟩ => ?_
  refine .ite (.pure _) ?_
  cases tryParseEpsvReply reply with
  | none => exact .raise _ upholds.stops
  | some remotePort =>
    exact .bind upholds.getRemoteEndpoint fun _ =>
      .bind (upholds.on (DataConnection.connect_quiet _)) fun _ => .pure _

private theorem negotiatePasv (replies : Replies) :
    (negotiatePasv replies).Keeps monitor invariant broken := by
  refine .bind (upholds.processCommandInto (negotiated _ .pasv) _) fun ⟨reply, replies⟩ => ?_
  refine .ite (.pure _) ?_
  cases tryParsePasvReply reply with
  | none => exact .raise _ upholds.stops
  | some remote =>
    exact .bind (upholds.on (DataConnection.connectText_quiet _ _)) fun _ => .pure _

omit negotiated in
private theorem negotiateActive (makeEndpointCommand : Endpoint → Bytes)
    (carried : ∀ endpoint, issues (makeEndpointCommand endpoint)) (replies : Replies) :
    (negotiateActive makeEndpointCommand replies).Keeps monitor invariant broken := by
  refine .bind upholds.getLocalEndpoint fun _ => ?_
  refine .bind (upholds.on (DataConnection.listen_quiet _)) fun _ => ?_
  refine .bind (upholds.on DataConnection.getListenEndpoint_quiet) fun ⟨listenEndpoint, _⟩ => ?_
  exact .bind (upholds.processCommandInto (carried listenEndpoint) _) fun _ =>
    .ite (.pure _) (.pure _)

theorem negotiate (replies : Replies) : (negotiate replies).Keeps monitor invariant broken := by
  refine .bind .get fun client => ?_
  cases client.transferMode <;> cases client.rfc2428Support
  · exact negotiatePasv upholds negotiated replies
  · exact negotiateEpsv upholds negotiated replies
  · exact negotiateActive upholds _ (fun endpoint => negotiated _ (.port endpoint)) replies
  · exact negotiateActive upholds _ (fun endpoint => negotiated _ (.eprt endpoint)) replies

theorem createDataConnection {command : Bytes} (issued : issues command) (replies : Replies) :
    (createDataConnection command replies).Keeps monitor invariant broken := by
  rw [createDataConnection_eq]
  exact .bind (negotiate upholds negotiated replies) fun ⟨_, _⟩ => openMain upholds issued _ _

end Transfers

theorem rename (fromPath toPath : Bytes) (from' : issues (makeCommand "RNFR" (some fromPath)))
    (to' : issues (makeCommand "RNTO" (some toPath))) :
    (rename fromPath toPath).Keeps monitor invariant broken :=
  .bind (upholds.processCommandInto from' _) fun _ =>
    .ite (.bind (upholds.processCommandInto to' _) fun _ => .pure _) (.pure _)

/-- All operations that only talk over the control connection and keep the settings, but for
the transfers. -/
theorem invoke (operation : Operation) (stays : ¬ operation.Reconnects)
    (keeps : ¬ operation.Adjusts) (issued : ∀ command, operation.Issues command → issues command)
    (transfers : operation.Transfers → (invoke operation).Keeps monitor invariant broken) :
    (invoke operation).Keeps monitor invariant broken := by
  have command (command : Bytes) (member : operation.Issues command) :=
    upholds.exchange command (issued command member)
  cases operation with
  | connect | logout | disconnect => exact (stays trivial).elim
  | setTransferMode | setTransferType | addObserver | removeObserver | setRfc2428Support =>
    exact (keeps trivial).elim
  | downloadFile | uploadFile | appendFile | getFileList => exact transfers trivial
  | isConnected => exact .bind .get fun _ => .pure _
  | login username password =>
    exact .bind (.bind (upholds.processLogin username password _ issued) fun _ => .pure _)
      fun _ => .pure _
  | rename fromPath toPath =>
    exact .bind (upholds.rename fromPath toPath (issued _ (.inl rfl)) (issued _ (.inr rfl)))
      fun _ => .pure _
  | getTransferMode => exact .bind .get fun _ => .pure _
  | getTransferType => exact .bind .get fun _ => .pure _
  | getRfc2428Support => exact .bind .get fun _ => .pure _
  | getFileSize path => exact .bind (.bind (command _ rfl) fun _ => .pure _) fun _ => .pure _
  | getFileModifiedTime path =>
    exact .bind (.bind (command _ rfl) fun _ => .pure _) fun _ => .pure _
  | _ => exact .bind (command _ rfl) fun _ => .pure _

end Converses

namespace Carries

variable {monitor : Monitor boundary Ghost} {invariant broken : Client → Ghost → Prop}
  {issues : Bytes → Prop} (upholds : Carries monitor invariant broken issues)

include upholds

theorem recvInto (replies : Replies) : (recvInto replies).Keeps monitor invariant broken := by
  rw [recvInto_eq]
  exact .bind upholds.receive fun _ => .pure _

section Transfers
variable (negotiated : ∀ command, Negotiates command → issues command)

include negotiated

theorem processAbort (replies : Replies) :
    (processAbort replies).Keeps monitor invariant broken :=
  .bind (upholds.processCommandInto (negotiated _ .abor) _) fun _ =>
    .ite (upholds.recvInto _) (.pure _)

theorem finishTransfer (connection : DataConnection) (callback : Bool) (replies : Replies) :
    (finishTransfer connection callback replies).Keeps monitor invariant broken := by
  have rest (cancelled : Bool) :
      (endTransfer connection replies cancelled).Keeps monitor invariant broken := by
    refine .ite ?_ ?_
    · exact .bind (upholds.processAbort negotiated _) fun _ =>
        .bind (upholds.on (DataConnection.disconnect_quiet _)) fun _ => .pure _
    · exact .bind (upholds.on (DataConnection.disconnect_quiet _)) fun _ =>
        .bind (upholds.recvInto _) fun _ => .pure _
  rw [finishTransfer_eq]
  exact .ite (.bind (upholds.call .isCancelled) rest) (.bind (.pure _) rest)

theorem overData {Moved Value : Type} {command : Bytes} (issued : issues command)
    {moves : Client → Method DataConnection Moved} {refusal : Replies → Value}
    {rest : Replies → Moved × DataConnection → Method Client Value}
    (quiet : ∀ client, (moves client).Asks Quiet)
    (ends : ∀ replies moved, (rest replies moved).Keeps monitor invariant broken) :
    (overData command moves refusal rest).Keeps monitor invariant broken := by
  refine .bind (upholds.createDataConnection negotiated issued _) fun ⟨connection, replies⟩ => ?_
  cases connection with
  | none => exact .pure _
  | some connection =>
    exact .bind .get fun client => .bind (upholds.on (quiet client)) fun _ => ends _ _

theorem processDownload (path : Bytes) (callback : Bool)
    (issued : issues (makeCommand "RETR" (some path))) :
    (processDownload path callback).Keeps monitor invariant broken := by
  rw [processDownload_eq]
  exact upholds.overData negotiated issued (fun _ => DataConnection.recv_quiet _ _)
    fun _ _ => upholds.finishTransfer negotiated _ _ _

theorem processUpload (remoteCommand : String) (path : Bytes) (callback : Bool)
    (issued : issues (makeCommand remoteCommand (some path))) :
    (processUpload remoteCommand path callback).Keeps monitor invariant broken := by
  rw [processUpload_eq]
  exact upholds.overData negotiated issued (fun _ => DataConnection.send_quiet _ _)
    fun _ _ => upholds.finishTransfer negotiated _ _ _

theorem getFileList (path : Option Bytes) (onlyNames : Bool)
    (issued : issues (makeCommand (if onlyNames then "NLST" else "LIST") path)) :
    (getFileList path onlyNames).Keeps monitor invariant broken := by
  rw [getFileList_eq]
  refine upholds.overData negotiated issued (fun _ => DataConnection.recv_quiet _ _) ?_
  intro replies moved
  exact .bind (.bind .get fun _ => upholds.call .notifyFileList) fun _ =>
    .bind (upholds.finishTransfer negotiated _ _ _) fun _ => .pure _

end Transfers

/-- All operations that only talk over the control connection and keep the settings. -/
theorem invoke (operation : Operation) (stays : ¬ operation.Reconnects)
    (keeps : ¬ operation.Adjusts) (issued : ∀ command, operation.Issues command → issues command) :
    (invoke operation).Keeps monitor invariant broken := by
  refine upholds.toConverses.invoke operation stays keeps issued fun transfers => ?_
  cases operation with
  | downloadFile path callback =>
    exact .bind (upholds.processDownload (fun _ member => issued _ (.inl member)) path callback
      (issued _ (.inr rfl))) fun _ => .pure _
  | uploadFile path uploadUnique callback =>
    exact .bind (upholds.processUpload (fun _ member => issued _ (.inl member)) _ path callback
      (issued _ (.inr rfl))) fun _ => .pure _
  | appendFile path callback =>
    exact .bind (upholds.processUpload (fun _ member => issued _ (.inl member)) _ path callback
      (issued _ (.inr rfl))) fun _ => .pure _
  | getFileList path onlyNames =>
    exact .bind (upholds.getFileList (fun _ member => issued _ (.inl member)) path onlyNames
      (issued _ (.inr rfl))) fun _ => .pure _
  | _ => exact transfers.elim

end Carries

namespace Upholds

variable {monitor : Monitor boundary Ghost} {invariant broken : Client → Ghost → Prop}
  {issues : Bytes → Prop} (upholds : Upholds monitor invariant broken issues)

include upholds

theorem setTransferType (type : TransferType) (issued : issues (makeTypeCommand type)) :
    (setTransferType type).Keeps monitor invariant broken := by
  have assign : (Program.modify fun client => { client with transferType := type } :
      Method Client Unit).Keeps monitor invariant broken :=
    .modify fun state ghost holds => upholds.settings state ghost state.transferMode type
      state.rfc2428Support state.observers holds
  refine .bind (upholds.exchange _ issued) fun _ => .ite ?_ ?_
  · exact .bind assign fun _ => .pure _
  · exact .pure _

/-- All operations that only talk over the control connection. -/
theorem invoke (operation : Operation) (stays : ¬ operation.Reconnects)
    (issued : ∀ command, operation.Issues command → issues command) :
    (invoke operation).Keeps monitor invariant broken := by
  have setting (change : Client → Client) (output : Output)
      (kept : ∀ state ghost, invariant state ghost → invariant (change state) ghost) :
      Program.Keeps monitor invariant broken (do
        Program.modify change
        return output : Method Client Output) :=
    .bind (.modify kept) fun _ => .pure _
  by_cases keeps : operation.Adjusts
  · cases operation with
    | setTransferType type =>
      exact .bind (upholds.setTransferType type (issued _ rfl)) fun _ => .pure _
    | setTransferMode mode =>
      exact setting _ _ fun state ghost => upholds.settings state ghost mode state.transferType
        state.rfc2428Support state.observers
    | addObserver observer =>
      exact setting _ _ fun state ghost => upholds.settings state ghost state.transferMode
        state.transferType state.rfc2428Support _
    | removeObserver observer =>
      exact setting _ _ fun state ghost => upholds.settings state ghost state.transferMode
        state.transferType state.rfc2428Support _
    | setRfc2428Support support =>
      exact setting _ _ fun state ghost => upholds.settings state ghost state.transferMode
        state.transferType support state.observers
    | _ => exact keeps.elim
  · exact upholds.toCarries.invoke operation stays keeps issued

end Upholds

/-- The invariant also survives what `connect`, `logout` and `disconnect` do to the
control connection. -/
structure UpholdsLink (monitor : Monitor boundary Ghost) (invariant broken : Client → Ghost → Prop)
    (issues : Bytes → Prop) : Prop extends Upholds monitor invariant broken issues where
  opens : ∀ hostname port,
    (onControl (ControlConnection.connect hostname port)).Keeps monitor invariant broken
  switches : ∀ layer, (onControl (ControlConnection.setSsl layer)).Keeps monitor invariant broken
  handshakes : (onControl ControlConnection.sslHandshake).Keeps monitor invariant broken
  shutsDown : (onControl ControlConnection.sslShutdown).Keeps monitor invariant broken
  closes : (onControl ControlConnection.disconnect).Keeps monitor invariant broken

namespace UpholdsLink

variable {monitor : Monitor boundary Ghost} {invariant broken : Client → Ghost → Prop}
  {issues : Bytes → Prop} (upholds : UpholdsLink monitor invariant broken issues)

include upholds

theorem greet (hostname : Bytes) (port : UInt16) (issued : issues (text "AUTH TLS")) :
    (greet hostname port).Keeps monitor invariant broken := by
  refine .bind (upholds.opens hostname port) fun _ => ?_
  refine .bind (.bind .get fun _ => upholds.call .notifyConnected) fun _ => ?_
  refine .bind (upholds.recvInto _) fun ⟨reply, replies⟩ => ?_
  refine .ite (.pure _) (.bind .get fun client => .ite ?_ (.pure _))
  refine .bind (upholds.processCommandInto issued _) fun ⟨reply, replies⟩ => ?_
  refine .ite (.pure _) (.bind (upholds.switches .ssl) fun _ => ?_)
  exact .bind upholds.handshakes fun _ => .pure _

theorem connect (hostname : Bytes) (port : UInt16) (username : Option Bytes) (password : Bytes)
    (issued : ∀ command, (Operation.connect hostname port username password).Issues command →
      issues command) :
    (connect hostname port username password).Keeps monitor invariant broken := by
  rw [connect_eq]
  refine .bind (upholds.greet hostname port (issued _ (.inl rfl))) fun outcome => ?_
  cases outcome with
  | error replies => exact .pure _
  | ok replies =>
    exact upholds.connectLogin username password replies
      fun name command same logsIn => issued command (.inr ⟨name, same, logsIn⟩)

theorem logout (issued : issues (makeCommand "REIN" none)) :
    Client.logout.Keeps monitor invariant broken := by
  refine .bind (upholds.exchange _ issued) fun reply => .bind .get fun client => .ite ?_ (.pure _)
  exact .bind upholds.shutsDown fun _ => .bind (upholds.switches .plain) fun _ => .pure _

theorem disconnect (graceful : Bool)
    (issued : graceful = true → issues (makeCommand "QUIT" none)) :
    (disconnect graceful).Keeps monitor invariant broken := by
  have quit : (quit graceful).Keeps monitor invariant broken := by
    cases graceful with
    | true => exact .bind (upholds.exchange _ (issued rfl)) fun _ => .pure _
    | false => exact .pure none
  refine .bind quit fun _ => .bind ?_ fun _ => .bind ?_ fun _ => .pure _
  · exact .bind .get fun _ => .ite upholds.closes (.pure _)
  · exact .bind .get fun _ => .ite (upholds.switches .plain) (.pure _)

/-- All operations. -/
theorem invoke (operation : Operation)
    (issued : ∀ command, operation.Issues command → issues command) :
    (invoke operation).Keeps monitor invariant broken := by
  by_cases stays : operation.Reconnects
  · cases operation with
    | connect hostname port username password =>
      exact .bind (upholds.connect hostname port username password issued) fun _ => .pure _
    | logout => exact .bind (upholds.logout (issued _ rfl)) fun _ => .pure _
    | disconnect graceful =>
      exact .bind (upholds.disconnect graceful fun isGraceful => issued _ ⟨isGraceful, rfl⟩)
        fun _ => .pure _
    | _ => exact stays.elim
  · exact upholds.toUpholds.invoke operation stays issued

end UpholdsLink

section Context
variable {monitor : Monitor boundary Ghost}

section Settings
variable {kept : Client → Prop} (apart : ∀ client control, kept client → kept { client with control })

include apart

private theorem onControl_settings (program : Method ControlConnection Value) :
    (onControl program).Keeps monitor (fun client _ => kept client) (fun client _ => kept client) := by
  intro fuel client past holds
  simp only [onControl, Program.wp_zoom]
  exact Program.wp_always _ (fun _ _ _ => apart _ _ holds) (fun _ _ _ => apart _ _ holds)

/-- What is said about the settings alone stays so whatever goes over the control
connection. -/
theorem settings_carries :
    Carries monitor (fun client _ => kept client) (fun client _ => kept client) (fun _ => True) := by
  have ask (query : Boundary.Query) : (call query : Method Client _).Keeps monitor
      (fun client _ => kept client) (fun client _ => kept client) := .ask fun _ _ _ _ holds _ => holds
  have receive : recv.Keeps monitor (fun client _ => kept client) (fun client _ => kept client) :=
    .bind (onControl_settings apart _) fun _ => .bind (.bind .get fun _ => ask _) fun _ => .pure _
  refine ⟨⟨fun _ _ holds => holds, fun _ _ _ _ _ _ holds _ => holds, fun command _ => ?_⟩, receive⟩
  exact .bind (.bind (.bind .get fun _ => ask _) fun _ => onControl_settings apart _) fun _ => receive

end Settings

/-- The client has an SSL context. -/
def Contextual (client : Client) (_ : Ghost) : Prop := client.sslContext = true

/-- No operation gives a client its context or takes it. -/
theorem contextual_upholds : UpholdsLink monitor Contextual Contextual (fun _ => True) := by
  have apart (client : Client) (control : ControlConnection) (context : client.sslContext = true) :
      ({ client with control } : Client).sslContext = true := context
  have linked {Value : Type} (program : Method ControlConnection Value) :
      (onControl program).Keeps monitor Contextual Contextual := onControl_settings apart program
  constructor
  · exact ⟨settings_carries apart, fun _ _ _ _ _ _ context => context⟩
  · exact fun _ _ => linked _
  · exact fun _ => linked _
  · exact linked _
  · exact linked _
  · exact linked _

end Context

end Client

end LibFtp
