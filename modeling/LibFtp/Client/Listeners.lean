import LibFtp.Client.Greeting
import LibFtp.Client.Frame
import LibFtp.Detail.Script
import LibFtp.Effect.Agreement

/-! Observers and transfer callbacks only listen. What a client does over the network, to the
streams of its caller and for its own state is the same with any observers and with none, and
a callback that never cancels changes as little. -/

namespace LibFtp

open Effect

/-- What observers and the transfer callback are told. The callback is asked as well whether to
cancel, which it never does. -/
def listening : Listeners boundary where
  asked query := match query with
    | .notifyConnected .. | .notifyRequest .. | .notifyReply .. | .notifyFileList .. => true
    | .transferBegin | .transferNotify _ | .transferEnd | .isCancelled => true
    | _ => false
  answered event := match event with
    | ⟨.isCancelled, cancelled⟩ => cancelled = false
    | _ => True

namespace DataConnection

private theorem sendLoop_concurs (callback : Bool) (fuel : Nat) (stream : InputStream) :
    (sendLoop callback fuel stream).Concurs listening Eq (sendLoop false fuel stream) := by
  cases callback with
  | false => exact .refl _
  | true =>
    induction fuel generalizing stream with
    | zero => exact .spin
    | succ fuel ih =>
      refine .bind (.refl _) fun ⟨buf, stream⟩ => .ite (.pure _) ?_
      refine .bind (.refl _) fun ec => .bind (.refl _) fun _ => ?_
      refine .left rfl fun _ _ => .left rfl fun cancelled answered => ?_
      have answered : cancelled = false := answered
      subst answered
      exact ih stream

private theorem recvLoop_concurs (callback : Bool) (fuel : Nat) (stream : OutputStream) :
    (recvLoop callback fuel stream).Concurs listening Eq (recvLoop false fuel stream) := by
  cases callback with
  | false => exact .refl _
  | true =>
    induction fuel generalizing stream with
    | zero => exact .spin
    | succ fuel ih =>
      refine .bind (.refl _) fun answer => ?_
      cases answer with
      | error ec => exact .pure _
      | ok chunk =>
        refine .bind (.refl _) fun ⟨_, stream⟩ => ?_
        refine .left rfl fun _ _ => .left rfl fun cancelled answered => ?_
        have answered : cancelled = false := answered
        subst answered
        exact ih stream

theorem send_concurs (stream : InputStream) (callback : Bool) :
    (send stream callback).Concurs listening Eq (send stream false) := by
  cases callback with
  | false => exact .refl _
  | true =>
    refine .left rfl fun cancelled answered => ?_
    have answered : cancelled = false := answered
    subst answered
    have plain : send stream false =
        (Program.loop fun fuel => sendLoop false fuel stream) >>= pure := (bind_pure _).symm
    rw [plain]
    refine .left rfl fun _ _ => .bind (.loop fun fuel => sendLoop_concurs true fuel stream) ?_
    exact fun _ => .left rfl fun _ _ => .pure _

theorem recv_concurs (stream : OutputStream) (callback : Bool) :
    (recv stream callback).Concurs listening Eq (recv stream false) := by
  cases callback with
  | false => exact .refl _
  | true =>
    refine .left rfl fun cancelled answered => ?_
    have answered : cancelled = false := answered
    subst answered
    refine .left rfl fun _ _ => .bind (.loop fun fuel => recvLoop_concurs true fuel stream) ?_
    intro ⟨stream, ec⟩
    have plain : recvTail stream ec = recvTail stream ec >>= pure := (bind_pure _).symm
    simp only
    rw [plain, bind_assoc]
    exact .bind (.refl _) fun _ => .left rfl fun _ _ => .pure _

end DataConnection

namespace Client

/-- The same client, whoever observes it. -/
def Likewise (client other : Client) : Prop := ∃ observers, client = { other with observers }

/-- The program does the same whoever observes the client. -/
private abbrev Regardless (program : Method Client Value) : Prop :=
  program.Concurs listening Likewise program

namespace Regardless

private theorem notifyConnected (hostname : Bytes) (port : UInt16) :
    Regardless (notifyConnected hostname port) :=
  fun _ _ _ related => .left rfl fun _ _ => .right rfl fun _ _ => .done ⟨rfl, related⟩

private theorem notifyRequest (command : Bytes) : Regardless (notifyRequest command) :=
  fun _ _ _ related => .left rfl fun _ _ => .right rfl fun _ _ => .done ⟨rfl, related⟩

private theorem notifyReply (reply : Reply) : Regardless (notifyReply reply) :=
  fun _ _ _ related => .left rfl fun _ _ => .right rfl fun _ _ => .done ⟨rfl, related⟩

private theorem notifyFileList (fileList : Bytes) : Regardless (notifyFileList fileList) :=
  fun _ _ _ related => .left rfl fun _ _ => .right rfl fun _ _ => .done ⟨rfl, related⟩

private theorem onControl (program : Method ControlConnection Value) :
    Regardless (onControl program) := by
  refine .zoom (.refl program) ?_ ?_
  · rintro _ other ⟨observers, rfl⟩
    rfl
  · rintro _ other control _ ⟨observers, rfl⟩ rfl
    exact ⟨observers, rfl⟩

private theorem onData {program : Method DataConnection Value} (connection : DataConnection) :
    Regardless (Program.on connection program) := .on (.refl program)

private theorem modify (change : Client → Client)
    (apart : ∀ client observers, change { client with observers } = { change client with observers }) :
    Regardless (Program.modify change) := by
  refine Program.Concurs.modify ?_
  rintro _ other ⟨observers, rfl⟩
  exact ⟨observers, apart other observers⟩

/-- What is done with the settings and the control connection does not depend on the observers. -/
private theorem get {rest : Client → Method Client Value}
    (same : ∀ client observers, rest { client with observers } = rest client)
    (tail : ∀ client, Regardless (rest client)) : Regardless (Program.get >>= rest) := by
  refine Program.Concurs.get ?_
  rintro _ other ⟨observers, rfl⟩
  rw [same]
  exact tail other

private theorem send (command : Bytes) : Regardless (send command) :=
  .bind (notifyRequest command) fun _ => onControl _

private theorem recv : Regardless recv :=
  .bind (onControl _) fun reply => .bind (notifyReply reply) fun _ => .pure _

private theorem recvInto (replies : Replies) : Regardless (recvInto replies) := by
  rw [recvInto_eq]
  exact .bind recv fun _ => .pure _

private theorem processCommand (command : Bytes) : Regardless (processCommand command) :=
  .bind (send command) fun _ => recv

private theorem processCommandInto (command : Bytes) (replies : Replies) :
    Regardless (processCommandInto command replies) :=
  .bind (send command) fun _ => recvInto replies

private theorem applySettings (reply : Reply) (replies : Replies) :
    Regardless (applySettings reply replies) := by
  refine .ite (.pure _) (get (fun _ _ => rfl) fun client => .ite ?_ (processCommandInto _ _))
  refine .bind (processCommandInto _ _) fun ⟨reply, replies⟩ => .ite (.pure _) ?_
  refine .bind (processCommandInto _ _) fun ⟨reply, replies⟩ => .ite (.pure _) ?_
  exact processCommandInto _ _

private theorem processLogin (username password : Bytes) (replies : Replies) :
    Regardless (processLogin username password replies) := by
  rw [processLogin_eq]
  refine .bind (processCommandInto _ _) fun ⟨reply, replies⟩ => .ite ?_ (applySettings _ _)
  exact .bind (processCommandInto _ _) fun ⟨reply, replies⟩ => applySettings _ _

private theorem connectLogin (username : Option Bytes) (password : Bytes) (replies : Replies) :
    Regardless (connectLogin username password replies) := by
  cases username with
  | none => exact .pure _
  | some username => exact .bind (processLogin username password replies) fun ⟨_, _⟩ => .pure _

private theorem greet (hostname : Bytes) (port : UInt16) : Regardless (greet hostname port) := by
  refine .bind (onControl _) fun _ => .bind (notifyConnected hostname port) fun _ => ?_
  refine .bind (recvInto _) fun ⟨reply, replies⟩ => .ite (.pure _) ?_
  refine get (fun _ _ => rfl) fun client => .ite ?_ (.pure _)
  refine .bind (processCommandInto _ _) fun ⟨reply, replies⟩ => .ite (.pure _) ?_
  exact .bind (onControl _) fun _ => .bind (onControl _) fun _ => .pure _

private theorem connect (hostname : Bytes) (port : UInt16) (username : Option Bytes)
    (password : Bytes) : Regardless (connect hostname port username password) := by
  rw [connect_eq]
  refine .bind (greet hostname port) fun outcome => ?_
  cases outcome with
  | error replies => exact .pure _
  | ok replies => exact connectLogin username password replies

private theorem logout : Regardless logout := by
  refine .bind (processCommand _) fun reply => get (fun _ _ => rfl) fun client => .ite ?_ (.pure _)
  exact .bind (onControl _) fun _ => .bind (onControl _) fun _ => .pure _

private theorem disconnect (graceful : Bool) : Regardless (disconnect graceful) := by
  have quit : Regardless (quit graceful) := by
    cases graceful with
    | true => exact .bind (processCommand _) fun _ => .pure _
    | false => exact .pure _
  refine .bind quit fun reply => .bind ?_ fun _ => .bind ?_ fun _ => .pure _
  · exact get (fun _ _ => rfl) fun _ => .ite (onControl _) (.pure _)
  · exact get (fun _ _ => rfl) fun _ => .ite (onControl _) (.pure _)

private theorem setTransferType (type : TransferType) : Regardless (setTransferType type) :=
  .bind (processCommand _) fun _ =>
    .ite (.bind (modify _ fun _ _ => rfl) fun _ => .pure _) (.pure _)

private theorem readyConnection (connection : DataConnection) :
    Regardless (readyConnection connection) :=
  get (fun _ _ => rfl) fun _ => .ite
    (.bind (onData _) fun ⟨_, _⟩ => .bind (onData _) fun ⟨_, _⟩ => .pure _) (.pure _)

private theorem answerMain (negotiated : Negotiated) (reply : Reply) (replies : Replies) :
    Regardless (answerMain negotiated reply replies) := by
  refine .ite (.ite (.pure _) ?_) (.ite ?_ ?_)
  · exact .bind (onData _) fun ⟨_, _⟩ => .bind (readyConnection _) fun _ => .pure _
  · exact .bind (onData _) fun _ => .pure _
  · exact .bind (readyConnection _) fun _ => .pure _

private theorem openMain (command : Bytes) (negotiated : Option Negotiated) (replies : Replies) :
    Regardless (openMain command negotiated replies) := by
  cases negotiated with
  | none => exact .pure _
  | some negotiated =>
    exact .bind (processCommandInto command replies) fun ⟨_, _⟩ => answerMain negotiated _ _

private theorem negotiateActive (makeEndpointCommand : Endpoint → Bytes) (replies : Replies) :
    Regardless (negotiateActive makeEndpointCommand replies) :=
  .bind (onControl _) fun _ => .bind (onData _) fun ⟨_, _⟩ => .bind (onData _) fun ⟨_, _⟩ =>
    .bind (processCommandInto _ _) fun ⟨_, _⟩ => .ite (.pure _) (.pure _)

private theorem negotiate (replies : Replies) : Regardless (negotiate replies) := by
  refine get (fun _ _ => rfl) fun client => ?_
  cases client.transferMode <;> cases client.rfc2428Support
  · refine .bind (processCommandInto _ _) fun ⟨reply, replies⟩ => .ite (.pure _) ?_
    cases tryParsePasvReply reply with
    | none => exact .raise _
    | some remote => exact .bind (onData _) fun ⟨_, _⟩ => .pure _
  · refine .bind (processCommandInto _ _) fun ⟨reply, replies⟩ => .ite (.pure _) ?_
    cases tryParseEpsvReply reply with
    | none => exact .raise _
    | some remotePort => exact .bind (onControl _) fun _ => .bind (onData _) fun ⟨_, _⟩ => .pure _
  · exact negotiateActive _ _
  · exact negotiateActive _ _

private theorem endTransfer (connection : DataConnection) (replies : Replies) (cancelled : Bool) :
    Regardless (endTransfer connection replies cancelled) := by
  have aborted : Regardless (processAbort replies) :=
    .bind (processCommandInto _ _) fun ⟨_, _⟩ => .ite (recvInto _) (.pure _)
  refine .ite ?_ ?_
  · exact .bind aborted fun ⟨_, _⟩ => .bind (onData _) fun _ => .pure _
  · exact .bind (onData _) fun _ => .bind (recvInto _) fun ⟨_, _⟩ => .pure _

end Regardless

/-- The callback is asked once more behind the data. -/
private theorem finishTransfer_concurs (connection : DataConnection) (callback : Bool)
    (replies : Replies) :
    (finishTransfer connection callback replies).Concurs listening Likewise
      (finishTransfer connection false replies) := by
  have plain : finishTransfer connection false replies = endTransfer connection replies false := by
    rw [finishTransfer_eq, if_neg Bool.false_ne_true, pure_bind]
  rw [plain, finishTransfer_eq]
  cases callback with
  | false =>
    rw [if_neg Bool.false_ne_true, pure_bind]
    exact Regardless.endTransfer connection replies false
  | true =>
    rw [if_pos rfl]
    refine .left rfl fun cancelled answered => ?_
    have answered : cancelled = false := answered
    subst answered
    exact Regardless.endTransfer connection replies false

private theorem overData_concurs {Moved Value : Type} {command : Bytes}
    {moves moves' : Client → Method DataConnection Moved} {refused : Replies → Value}
    {rest rest' : Replies → Moved × DataConnection → Method Client Value}
    (same : ∀ client observers, moves { client with observers } = moves client)
    (moved : ∀ client, (moves client).Concurs listening Eq (moves' client))
    (ends : ∀ replies moved, (rest replies moved).Concurs listening Likewise (rest' replies moved)) :
    (overData command moves refused rest).Concurs listening Likewise
      (overData command moves' refused rest') := by
  rw [overData, overData, createDataConnection_eq]
  refine .bind (.bind (Regardless.negotiate _) fun ⟨negotiated, replies⟩ =>
    Regardless.openMain command negotiated replies) fun ⟨connection, replies⟩ => ?_
  cases connection with
  | none => exact .pure _
  | some connection =>
    refine .get ?_
    rintro _ other ⟨observers, rfl⟩
    rw [same]
    exact .bind (.on (moved other)) fun _ => ends _ _

theorem processDownload_concurs (path : Bytes) (callback : Bool) :
    (processDownload path callback).Concurs listening Likewise (processDownload path false) := by
  rw [processDownload_eq, processDownload_eq]
  exact overData_concurs (fun _ _ => rfl) (fun _ => DataConnection.recv_concurs _ callback)
    fun _ _ => finishTransfer_concurs _ _ _

theorem processUpload_concurs (remoteCommand : String) (path : Bytes) (callback : Bool) :
    (processUpload remoteCommand path callback).Concurs listening Likewise
      (processUpload remoteCommand path false) := by
  rw [processUpload_eq, processUpload_eq]
  exact overData_concurs (fun _ _ => rfl) (fun _ => DataConnection.send_concurs _ callback)
    fun _ _ => finishTransfer_concurs _ _ _

theorem getFileList_concurs (path : Option Bytes) (onlyNames : Bool) :
    (getFileList path onlyNames).Concurs listening Likewise (getFileList path onlyNames) := by
  rw [getFileList_eq]
  refine overData_concurs (fun _ _ => rfl) (fun _ => .refl _) fun replies moved => ?_
  exact .bind (Regardless.notifyFileList _) fun _ =>
    .bind (finishTransfer_concurs _ false replies) fun _ => .pure _

namespace Operation

/-- The operation only concerns who observes the client. -/
def registers : Operation → Bool
  | .addObserver _ | .removeObserver _ => true
  | _ => false

/-- The same operation without a transfer callback. -/
def unattended : Operation → Operation
  | .downloadFile path _ => .downloadFile path false
  | .uploadFile path uploadUnique _ => .uploadFile path uploadUnique false
  | .appendFile path _ => .appendFile path false
  | operation => operation

end Operation

private theorem invoke_concurs (operation : Operation) (stays : (!operation.registers) = true) :
    (invoke operation).Concurs listening Likewise (invoke operation.unattended) := by
  have command {Value : Type} (command : Bytes) (out : Reply → Value) :
      Regardless (processCommand command >>= fun reply => pure (out reply)) :=
    .bind (Regardless.processCommand command) fun _ => .pure _
  cases operation with
  | addObserver | removeObserver => exact absurd stays Bool.false_ne_true
  | connect hostname port username password =>
    exact .bind (Regardless.connect hostname port username password) fun _ => .pure _
  | isConnected => exact Regardless.get (fun _ _ => rfl) fun _ => .pure _
  | login username password =>
    exact .bind (.bind (Regardless.processLogin username password _) fun ⟨_, _⟩ => .pure _)
      fun _ => .pure _
  | logout => exact .bind Regardless.logout fun _ => .pure _
  | downloadFile path callback =>
    exact .bind (processDownload_concurs path callback) fun _ => .pure _
  | uploadFile path uploadUnique callback =>
    exact .bind (processUpload_concurs _ path callback) fun _ => .pure _
  | appendFile path callback =>
    exact .bind (processUpload_concurs _ path callback) fun _ => .pure _
  | getFileList path onlyNames => exact .bind (getFileList_concurs path onlyNames) fun _ => .pure _
  | rename fromPath toPath =>
    refine .bind (.bind (Regardless.processCommandInto _ _) fun ⟨_, _⟩ => .ite ?_ (.pure _))
      fun _ => .pure _
    exact .bind (Regardless.processCommandInto _ _) fun ⟨_, _⟩ => .pure _
  | disconnect graceful => exact .bind (Regardless.disconnect graceful) fun _ => .pure _
  | setTransferType type => exact .bind (Regardless.setTransferType type) fun _ => .pure _
  | setTransferMode mode => exact .bind (Regardless.modify _ fun _ _ => rfl) fun _ => .pure _
  | setRfc2428Support support => exact .bind (Regardless.modify _ fun _ _ => rfl) fun _ => .pure _
  | getTransferMode => exact Regardless.get (fun _ _ => rfl) fun _ => .pure _
  | getTransferType => exact Regardless.get (fun _ _ => rfl) fun _ => .pure _
  | getRfc2428Support => exact Regardless.get (fun _ _ => rfl) fun _ => .pure _
  | getFileSize path => exact .bind (command _ _) fun _ => .pure _
  | getFileModifiedTime path => exact .bind (command _ _) fun _ => .pure _
  | _ => exact command _ _

private theorem invoke_skips (fuel : Nat) (operation : Operation)
    (registers : (!operation.registers) = false) (client other : Client) (likewise : Likewise client other) :
    ∃ output after, invoke operation fuel client = .done (.ok output, after) ∧ Likewise after other := by
  obtain ⟨observers, rfl⟩ := likewise
  cases operation with
  | addObserver observer => exact ⟨_, _, rfl, _, rfl⟩
  | removeObserver observer => exact ⟨_, _, rfl, _, rfl⟩
  | _ => exact absurd registers.symm Bool.false_ne_true

/-- Take a session with any observers and callbacks, where what they are told moves nothing
outside and no callback cancels. Every other operation ends as it does for a client that nobody
observes, called without callbacks, and apart from what the listeners are told it exchanges
the same. -/
theorem listeners_only_listen (host : Host boundary World) (unmoved : host.Unmoved listening)
    (fuel : Nat) (operations : List Operation) (client : Client) (world : World) :
    List.Forall₂ (Record.Concurs listening Likewise Operation.unattended)
      ((session invoke host fuel operations client world).filter (!·.operation.registers))
      (session invoke host fuel
        ((operations.filter (!·.registers)).map Operation.unattended)
        { client with observers := [] } world) :=
  session_concurs unmoved fuel (!·.registers) invoke_concurs (invoke_skips fuel) operations client
    { client with observers := [] } world ⟨client.observers, rfl⟩

section Cases

/-- The scripted surroundings, with a callback that never cancels. -/
private def reticent : Host boundary Script where
  respond query script := match query with
    | .isCancelled => (false, script)
    | query => Script.host.respond query script

private theorem reticent_unmoved : reticent.Unmoved listening := by
  intro query script asked
  cases query with
  | notifyConnected | notifyRequest | notifyReply | notifyFileList => exact ⟨trivial, rfl⟩
  | transferBegin | transferNotify | transferEnd => exact ⟨trivial, rfl⟩
  | isCancelled => exact ⟨rfl, rfl⟩
  | _ => exact absurd asked Bool.false_ne_true

private def watched : List Operation :=
  [.addObserver 1, .connect (text "h") 21 none [], .downloadFile (text "f") true, .removeObserver 1]

private def serving : Script :=
  { Script.ofReplies [text "220 r\r\n", text "229 e (|||2021|)\r\n", text "150 s\r\n",
      text "226 d\r\n"] with data := [text "ab", text "c"] }

theorem listeners_only_listen_download :
    List.Forall₂ (Record.Concurs listening Likewise Operation.unattended)
      ((session invoke reticent 9 watched (.new .passive .binary false true) serving).filter
        (!·.operation.registers))
      (session invoke reticent 9 [.connect (text "h") 21 none [], .downloadFile (text "f") false]
        (.new .passive .binary false true) serving) :=
  listeners_only_listen reticent reticent_unmoved 9 watched (.new .passive .binary false true) serving

example : (session invoke reticent 9 watched (.new .passive .binary false true) serving).map
    (·.outcome.isOk) = [true, true, true, true] := by decide +kernel

end Cases

end Client

end LibFtp
