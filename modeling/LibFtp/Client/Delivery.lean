import LibFtp.Client.ControlOnly
import LibFtp.Client.Haul

/-! What the transfers of a client deliver, whatever the server, the caller's streams and
the callback do, and what a file that went up becomes when it comes down again. -/

namespace LibFtp

open Effect Ascii DataConnection

namespace Haul

/-- Questions that move nothing. -/
private abbrev Unladen (query : Boundary.Query) : Prop :=
  ∀ haul answer, Still haul (haul.advance ⟨query, answer⟩)

/-- Questions that do not make a data connection either, and are no reply to a command. -/
private abbrev Idle : Boundary.Query → Prop := Program.Ignored advance

private theorem link_idle (layer : Layer) (query : Boundary.Query) (link : Link layer query) :
    Idle query := by
  intro haul answer
  cases link with
  | closing closing => cases closing <;> rfl
  | _ => rfl

private theorem plumbing_idle (query : Boundary.Query) (plumbing : Plumbing query) : Idle query := by
  intro haul answer
  cases plumbing <;> rfl

private theorem Idle.unladen {query : Boundary.Query} (idle : Idle query) : Unladen query := by
  intro haul answer
  rw [idle haul answer]
  exact ⟨rfl, id⟩

/-- Nothing moves before the main command is answered, nor behind the data. -/
private theorem unladen_negotiating : Client.Negotiating Unladen where
  link layer query link := (link_idle layer query link).unladen
  written _ _ _ _ := ⟨rfl, id⟩
  missed _ _ _ _ := ⟨rfl, id⟩
  requested _ _ _ _ := ⟨rfl, id⟩
  heard _ _ _ _ := ⟨rfl, id⟩
  plumbing query plumbing := (plumbing_idle query plumbing).unladen
  dialled _ _ answer := by cases answer <;> exact ⟨rfl, id⟩
  accepts _ answer := by cases answer <;> exact ⟨rfl, id⟩
  localEndpoint _ _ := ⟨rfl, id⟩
  remoteEndpoint _ _ := ⟨rfl, id⟩

/-- What is said about the payload holds whatever the callback reports and whatever becomes of
the connection. -/
def Settled (kept : Haul → Prop) : Prop := ∀ haul after, haul.Still after → kept haul → kept after

private theorem unladen_step {start haul after : Haul} {event : BoundaryEvent}
    (unladen : Unladen event.query) (still : start.Still haul) (step : hauls.step haul event after) :
    start.Still after := by
  rw [show after = haul.advance event from step]
  exact still.trans (unladen haul event.answer)

end Haul

namespace Client

open Haul

section Carriers
variable {fuel : Nat}

/-- A reply is an answer to what was offered. -/
private theorem processCommandInto_carrier (command : Bytes) (replies : Replies) (client : Client)
    (haul : Haul) :
    (processCommandInto command replies).wp hauls fuel
      (fun out _ last => last.carrier = haul.carrier.answer out.1) (fun _ _ _ => True) client
      haul := by
  have steady : Steady hauls client.control.socket.layer (·.carrier = haul.carrier) := by
    intro ghost event after link same step
    rw [show after = ghost.advance event from step, link_idle _ _ link ghost event.answer]
    exact same
  rw [processCommandInto_eq, Program.wp_bind, processCommand, Program.wp_bind]
  apply send_rule
  · intro requested after _ announced written
    have announced : requested = haul := announced
    have written : after = requested := written
    apply recv_rule client after steady (by rw [written, announced])
    · intro reply control middle last _ same told
      have told : last = { middle with carrier := middle.carrier.answer reply } := told
      rw [Program.wp_pure, told, ← same]
    · exact fun _ _ _ _ _ => trivial
  · exact fun _ _ _ _ _ _ => trivial
  · exact fun _ _ _ _ _ _ => trivial

/-- Without a connection there is nothing to answer. -/
private theorem processCommandInto_absent (command : Bytes) (replies : Replies) :
    Program.Triple hauls fuel (fun _ haul => haul.carrier = .absent)
      (processCommandInto command replies) (fun _ _ haul => haul.carrier = .absent)
      (fun _ _ _ => True) := by
  intro client haul absent
  refine Program.wp_mono (processCommandInto_carrier command replies client haul) ?_ fun _ _ _ => id
  intro out _ last same
  rw [same, absent]
  rfl

private theorem idle_absent {State Value : Type} {program : Method State Value}
    (asks : program.Asks Idle) :
    Program.Triple hauls fuel (fun _ haul => haul.carrier = .absent) program
      (fun _ _ haul => haul.carrier = .absent) (fun _ _ _ => True) := by
  have still : program.Keeps hauls (fun _ haul => haul.carrier = .absent)
      (fun _ haul => haul.carrier = .absent) := asks.ignored
  exact fun state haul absent =>
    Program.wp_mono (still fuel state haul absent) (fun _ _ _ => id) fun _ _ _ _ => trivial

private theorem connect_offers (endpoint : Endpoint) (connection : DataConnection) (haul : Haul) :
    (DataConnection.connect endpoint).wp hauls fuel (fun _ _ last => last.carrier = .offered)
      (fun _ _ _ => True) connection haul := by
  simp only [DataConnection.connect, Program.wp_bind, wp_call]
  intro answer after step
  cases answer with
  | none =>
    have step : after = { haul with carrier := .offered } := step
    rw [step]
    exact rfl
  | some ec =>
    simp only [Program.wp_bind]
    exact Program.wp_always _ (fun _ _ _ => Program.wp_always _ (fun _ _ _ => trivial)
      fun _ _ _ => trivial) fun _ _ _ => trivial

private theorem connectText_offers (ip : Bytes) (port : UInt16) (connection : DataConnection)
    (haul : Haul) :
    (DataConnection.connectText ip port).wp hauls fuel (fun _ _ last => last.carrier = .offered)
      (fun _ _ _ => True) connection haul := by
  simp only [DataConnection.connectText, Program.wp_bind, wp_call, wp_valueOrThrow]
  intro answer after _
  cases answer with
  | error ec => exact trivial
  | ok address => exact connect_offers _ connection after

/-- What a negotiation has come to. An acceptor is not a connection yet. -/
private def Found (negotiated : Option Negotiated) (haul : Haul) : Prop :=
  match negotiated with
  | none => haul.carrier = .absent
  | some negotiated => haul.carrier = if negotiated.accepting then .absent else .offered

private theorem negotiateEpsv_carrier (replies : Replies) :
    Program.Triple hauls fuel (fun _ haul => haul.carrier = .absent) (negotiateEpsv replies)
      (fun out _ => Found out.1) (fun _ _ _ => True) := by
  refine (processCommandInto_absent _ replies).bind fun ⟨reply, replies⟩ client haul absent => ?_
  rw [Program.wp_ite]
  split
  · exact absent
  · cases tryParseEpsvReply reply with
    | none => exact trivial
    | some remotePort =>
      rw [Program.wp_bind]
      refine Program.wp_always _ (fun remoteEndpoint client haul => ?_) fun _ _ _ => trivial
      simp only [Program.wp_bind, Program.wp_on, Program.wp_pure]
      exact Program.wp_mono (connect_offers _ _ haul) (fun _ _ _ => id) fun _ _ _ => id

private theorem negotiatePasv_carrier (replies : Replies) :
    Program.Triple hauls fuel (fun _ haul => haul.carrier = .absent) (negotiatePasv replies)
      (fun out _ => Found out.1) (fun _ _ _ => True) := by
  refine (processCommandInto_absent _ replies).bind fun ⟨reply, replies⟩ client haul absent => ?_
  rw [Program.wp_ite]
  split
  · exact absent
  · cases tryParsePasvReply reply with
    | none => exact trivial
    | some remote =>
      simp only [Program.wp_bind, Program.wp_on, Program.wp_pure]
      exact Program.wp_mono (connectText_offers _ _ _ haul) (fun _ _ _ => id) fun _ _ _ => id

private theorem negotiateActive_carrier (makeEndpointCommand : Endpoint → Bytes) (replies : Replies) :
    Program.Triple hauls fuel (fun _ haul => haul.carrier = .absent)
      (negotiateActive makeEndpointCommand replies) (fun out _ => Found out.1)
      (fun _ _ _ => True) := by
  refine (idle_absent (.zoom (.bind (.ask fun _ _ => rfl) fun _ => valueOrThrow_asks _ _))).bind
    fun _ => ?_
  refine (idle_absent (.on ((listen_plumbing _).mono plumbing_idle))).bind fun _ => ?_
  refine (idle_absent (.on (getListenEndpoint_plumbing.mono plumbing_idle))).bind fun _ => ?_
  refine (processCommandInto_absent _ replies).bind fun ⟨reply, replies⟩ client haul absent => ?_
  rw [Program.wp_ite]
  split
  · exact absent
  · exact absent

private theorem negotiate_carrier (replies : Replies) :
    Program.Triple hauls fuel (fun _ haul => haul.carrier = .absent) (negotiate replies)
      (fun out _ => Found out.1) (fun _ _ _ => True) := by
  intro client haul absent
  simp only [negotiate, Program.wp_bind, Program.wp_get]
  cases client.transferMode <;> cases client.rfc2428Support
  · exact negotiatePasv_carrier replies client haul absent
  · exact negotiateEpsv_carrier replies client haul absent
  · exact negotiateActive_carrier makePortCommand replies client haul absent
  · exact negotiateActive_carrier makeEprtCommand replies client haul absent

/-- Where no connection is handed out, there is none, or the server has refused to use it. -/
private theorem createDataConnection_carrier (command : Bytes) (replies : Replies) :
    Program.Triple hauls fuel (fun _ haul => haul.carrier = .absent)
      (createDataConnection command replies)
      (fun out _ haul => out.1 = none → haul.carrier = .absent ∨ haul.carrier = .refused)
      (fun _ _ _ => True) := by
  rw [createDataConnection_eq]
  refine (negotiate_carrier replies).bind fun ⟨negotiated, replies⟩ client haul found => ?_
  cases negotiated with
  | none => exact fun _ => .inl found
  | some negotiated =>
    simp only [openMain, Program.wp_bind]
    refine Program.wp_mono (processCommandInto_carrier command replies client haul) ?_
      fun _ _ _ => id
    intro ⟨reply, replies⟩ client last same
    have same : last.carrier = haul.carrier.answer reply := same
    rw [show haul.carrier = _ from found] at same
    have ready (connection : DataConnection) (client : Client) (last : Haul) :
        (do
          let connection ← readyConnection connection
          return (some connection, replies) :
          Method Client (Option DataConnection × Replies)).wp hauls fuel
          (fun out _ haul => out.1 = none → haul.carrier = .absent ∨ haul.carrier = .refused)
          (fun _ _ _ => True) client last := by
      rw [Program.wp_bind]
      exact Program.wp_always _ (fun _ _ _ => nofun) fun _ _ _ => trivial
    unfold answerMain
    by_cases negative : reply.isNegative = true
    · simp only [if_pos negative]
      split
      · rename_i accepting
        rw [if_pos accepting] at same
        exact fun _ => .inl same
      · rename_i passive
        rw [if_neg passive, Carrier.answer, if_pos negative] at same
        have closing : (DataConnection.disconnect true).Asks Idle :=
          (disconnect_plumbing true).mono plumbing_idle
        have still : (DataConnection.disconnect true).Keeps hauls
            (fun _ haul => haul.carrier = .refused) (fun _ haul => haul.carrier = .refused) :=
          closing.ignored
        rw [Program.wp_bind, Program.wp_on]
        exact Program.wp_mono (still fuel negotiated.connection last same)
          (fun _ _ _ refused _ => .inr refused) fun _ _ _ _ => trivial
    · simp only [if_neg negative]
      split
      · rw [Program.wp_bind]
        exact Program.wp_always _ (fun _ _ _ => ready _ _ _) fun _ _ _ => trivial
      · exact ready _ client last

end Carriers

section Frame
variable {fuel : Nat} {type : TransferType} {kept : Haul → Prop}

private theorem disconnect_unladen (connection : DataConnection) (graceful : Bool) :
    (Program.on connection (DataConnection.disconnect graceful) : Method Client _).Asks Unladen :=
  .on ((disconnect_plumbing graceful).mono unladen_negotiating.plumbing)

private theorem finishTransfer_unladen (connection : DataConnection) (callback : Bool)
    (replies : Replies) : (finishTransfer connection callback replies).Asks Unladen := by
  have rest (cancelled : Bool) : (endTransfer connection replies cancelled).Asks Unladen := by
    refine .ite ?_ ?_
    · exact .bind (unladen_negotiating.processAbort replies) fun _ =>
        .bind (disconnect_unladen _ _) fun _ => .pure _
    · exact .bind (disconnect_unladen _ _) fun _ =>
        .bind (unladen_negotiating.recvInto _) fun _ => .pure _
  have asking : (call .isCancelled : Method Client Bool).Asks Unladen :=
    .ask fun haul answer => ⟨rfl, fun set => by simp [advance, set]⟩
  rw [finishTransfer_eq]
  exact .ite (.bind asking rest) (.bind (.pure _) rest)

/-- A transfer is what its data phase is: in front of it nothing has moved, and the type is
still that of the client. -/
private theorem overData_hauls {command : Bytes} {Moved : Type}
    {moves : Client → Method DataConnection Moved} {client : Client} {begun : Haul → Prop}
    (data : ∀ after connection haul, after.transferType = client.transferType →
      Haul.empty.Still haul → (moves after).wp hauls fuel (fun _ _ last => kept last)
        (fun _ _ last => begun last) connection haul)
    (settled : Settled kept) (nothing : ∀ haul, Haul.empty.Still haul → begun haul)
    (weaker : ∀ haul, kept haul → begun haul) (callback : Bool) :
    (overData command moves id fun replies moved => finishTransfer moved.2 callback replies).wp
      hauls fuel (fun _ _ last => kept last ∨ last.Unused) (fun _ _ last => begun last) client
      .empty := by
  have carries : Carries hauls (fun after _ => after.transferType = client.transferType)
      (fun after _ => after.transferType = client.transferType) (fun _ => True) :=
    settings_carries fun _ _ same => same
  have keepsType : (createDataConnection command Replies.empty).Keeps hauls
      (fun after _ => after.transferType = client.transferType)
      (fun after _ => after.transferType = client.transferType) :=
    carries.createDataConnection (fun _ _ => trivial) trivial Replies.empty
  have asks : (createDataConnection command Replies.empty).Asks Unladen :=
    unladen_negotiating.createDataConnection (fun _ _ => ⟨rfl, id⟩) command Replies.empty
  have unmoved : (createDataConnection command Replies.empty).Keeps hauls
      (fun _ => Haul.empty.Still) (fun _ => Haul.empty.Still) :=
    asks.keeps fun _ _ _ => unladen_step
  simp only [overData, Program.wp_bind]
  refine Program.wp_mono (Program.wp_and (keepsType fuel client .empty rfl)
    (Program.wp_and (unmoved fuel client .empty ⟨rfl, id⟩)
      (createDataConnection_carrier command Replies.empty client .empty rfl))) ?_ ?_
  · intro ⟨connection, replies⟩ after last ⟨same, still, carrier⟩
    cases connection with
    | none =>
      have bare : last.received = [] ∧ last.written = [] ∧ last.taken = [] ∧ last.sent = [] := by
        rw [still.only]
        exact ⟨rfl, rfl, rfl, rfl⟩
      exact .inr ⟨carrier rfl, bare⟩
    | some connection =>
      simp only [Program.wp_bind, Program.wp_get, Program.wp_on]
      refine Program.wp_mono (data after connection last same still) ?_ fun _ _ _ => id
      intro moved connection' last holds
      have finished : (finishTransfer connection' callback replies).Keeps hauls (fun _ => kept)
          (fun _ => kept) :=
        (finishTransfer_unladen connection' callback replies).keeps fun haul event after unladen holds
          step => settled haul after (unladen_step unladen ⟨rfl, id⟩ step) holds
      exact Program.wp_mono (finished fuel after last holds) (fun _ _ _ => .inl)
        fun _ _ last => weaker last
  · exact fun _ _ last ends => nothing last ends.2.1

end Frame

/-- The payload of one call. -/
def haul {World : Type} (record : Record boundary Operation Client FtpException Output World) : Haul :=
  record.events.foldl Haul.advance .empty

/-- The call has sent the beginning of what it took from its source, encoded for the type.
Where it returns, the callback has cancelled it, all of the source is out, or there was no
data connection to use. -/
structure Uploaded {World : Type} (type : TransferType)
    (record : Record boundary Operation Client FtpException Output World) : Prop where
  begun : (haul record).sent <+: encoded type (haul record).taken
  whole : record.Normal →
    (haul record).cancelled = true ∨ Sent type (haul record) ∨ (haul record).Unused

/-- The same with what the call received and what it gave to its destination. A cancelled
download has delivered all that it received as well. -/
structure Downloaded {World : Type} (type : TransferType)
    (record : Record boundary Operation Client FtpException Output World) : Prop where
  begun : (haul record).written <+: decoded type (haul record).received
  whole : record.Normal → Delivered type (haul record) ∨ (haul record).Unused

section Transfers
variable {World : Type} (host : Host boundary World) (fuel : Nat) (client : Client) (world : World)

private theorem perform_downloads (path : Bytes) (callback : Bool) :
    Downloaded client.transferType
      (perform invoke host fuel (.downloadFile path callback) client world) := by
  have settled : Settled (Delivered client.transferType) := by
    intro haul after still delivered
    rw [still.only]
    exact ⟨delivered.whole, delivered.complete.imp_left still.cancelled⟩
  have moves : (processDownload path callback).wp hauls fuel
      (fun _ _ last => Delivered client.transferType last ∨ last.Unused)
      (fun _ _ last => last.written <+: decoded client.transferType last.received) client .empty := by
    rw [processDownload_eq]
    refine overData_hauls (fun after connection haul same still => ?_) settled ?_ ?_ callback
    · rw [createOutputStream, same]
      exact recv_hauls callback connection still
    · intro haul still
      rw [still.only]
      exact List.nil_prefix
    · exact fun haul delivered => delivered.whole ▸ List.prefix_refl _
  have invoked : (invoke (.downloadFile path callback)).wp hauls fuel
      (fun _ _ last => Delivered client.transferType last ∨ last.Unused)
      (fun _ _ last => last.written <+: decoded client.transferType last.received) client .empty := by
    simp only [invoke, Program.wp_bind, Program.wp_pure]
    exact moves
  have drives := Monitor.fold_drives Haul.advance .empty
    (perform invoke host fuel (.downloadFile path callback) client world).events
  constructor
  · rcases Program.wp_run invoked host world drives with ⟨_, _, delivered | unused⟩ | ⟨_, _, begun⟩
    · exact delivered.whole ▸ List.prefix_refl _
    · have written : (haul _).written = [] := unused.2.2.1
      rw [written]
      exact List.nil_prefix
    · exact begun
  · intro normal
    obtain ⟨_, _, delivered⟩ := perform_normal invoked drives normal
    exact delivered

/-- The file reaches the caller's stream decoded, in order and without a gap, whatever the
server and the stream do. -/
theorem downloadFile_delivers (path : Bytes) (callback : Bool) :
    Downloaded client.transferType
      (perform invoke host fuel (.downloadFile path callback) client world) :=
  perform_downloads host fuel client world path callback

/-- What an upload has sent where it returns. -/
private def Out (type : TransferType) (haul : Haul) : Prop :=
  haul.sent <+: encoded type haul.taken ∧ (haul.cancelled = true ∨ Sent type haul)

private theorem processUpload_sends (remoteCommand : String) (path : Bytes) (callback : Bool) :
    (processUpload remoteCommand path callback).wp hauls fuel
      (fun _ _ last => Out client.transferType last ∨ last.Unused)
      (fun _ _ last => last.sent <+: encoded client.transferType last.taken) client .empty := by
  have settled : Settled (Out client.transferType) := by
    intro haul after still ⟨begun, whole⟩
    rw [still.only]
    exact ⟨begun, whole.imp still.cancelled fun sent => ⟨sent.whole, sent.ended⟩⟩
  rw [processUpload_eq]
  refine overData_hauls (fun after connection haul same still => ?_) settled ?_ (fun _ => And.left)
    callback
  · unfold createInputStream
    rw [same]
    cases client.transferType with
    | binary => exact send_hauls callback .binary connection rfl (fun _ => rfl) still
    | ascii =>
      have fresh (rest : Bytes) : (InputStream.ascii (AsciiIstream.new 8192)).owed rest =
          encoded .ascii rest := AsciiIstream.owed_new 8192 rest
      have typed : Typed .ascii (InputStream.ascii (AsciiIstream.new 8192)) := rfl
      exact send_hauls callback _ connection typed fresh still
  · intro haul still
    rw [still.only]
    exact List.nil_prefix

private theorem perform_uploads (operation : Operation)
    (invoked : (invoke operation).wp hauls fuel
      (fun _ _ last => Out client.transferType last ∨ last.Unused)
      (fun _ _ last => last.sent <+: encoded client.transferType last.taken) client .empty) :
    Uploaded client.transferType (perform invoke host fuel operation client world) := by
  have drives := Monitor.fold_drives Haul.advance .empty
    (perform invoke host fuel operation client world).events
  constructor
  · rcases Program.wp_run invoked host world drives with ⟨_, _, out | unused⟩ | ⟨_, _, begun⟩
    · exact out.1
    · have sent : (haul _).sent = [] := unused.2.2.2.2
      rw [sent]
      exact List.nil_prefix
    · exact begun
  · intro normal
    obtain ⟨_, _, out | unused⟩ := perform_normal invoked drives normal
    · exact out.2.imp_right .inl
    · exact .inr (.inr unused)

private theorem uploadFile_uploads (path : Bytes) (uploadUnique callback : Bool) :
    Uploaded client.transferType
      (perform invoke host fuel (.uploadFile path uploadUnique callback) client world) := by
  refine perform_uploads host fuel client world _ ?_
  simp only [invoke, Program.wp_bind, Program.wp_pure]
  exact processUpload_sends fuel client _ path callback

/-- The file reaches the server encoded, in order and without a gap, whatever the server
and the caller's stream do. -/
theorem upload_sends (path : Bytes) (uploadUnique callback : Bool) :
    Uploaded client.transferType
        (perform invoke host fuel (.uploadFile path uploadUnique callback) client world) ∧
      Uploaded client.transferType
        (perform invoke host fuel (.appendFile path callback) client world) := by
  refine ⟨uploadFile_uploads host fuel client world path uploadUnique callback, ?_⟩
  refine perform_uploads host fuel client world _ ?_
  simp only [invoke, Program.wp_bind, Program.wp_pure]
  exact processUpload_sends fuel client _ path callback

end Transfers

/-- Nothing is the encoding and the decoding of nothing. -/
private theorem Unused.coded {haul : Haul} (unused : haul.Unused) (type : TransferType) :
    haul.sent = encoded type haul.taken ∧ haul.written = decoded type haul.received := by
  obtain ⟨_, received, written, taken, sent⟩ := unused
  rw [received, written, taken, sent]
  cases type <;> exact ⟨rfl, rfl⟩

/-- What a file is once it went up in one type and came down in another: in binary type the
bytes are those of the other side. -/
def restored (up down : TransferType) (data : Bytes) : Bytes :=
  match up, down with
  | .binary, .binary => data
  | .ascii, .binary => withLineEnds crlf data
  | .binary, .ascii => joinCrlf data
  | .ascii, .ascii => withLineEnds [lf] data

private theorem decoded_encoded (up down : TransferType) (data : Bytes) :
    decoded down (encoded up data) = restored up down data := by
  cases up <;> cases down
  · rfl
  · rfl
  · rfl
  · exact joinCrlf_withLineEnds data

/-- A file that the server has stored as it was sent comes back as the types of the two
transfers say, to whichever client: in equal types as it was, when it has no CR. -/
theorem stored_file_returns {World World' : Type} (host : Host boundary World)
    (host' : Host boundary World') (fuel fuel' : Nat) (sender receiver : Client) (world : World)
    (world' : World') (path path' : Bytes) (uploadUnique callback callback' : Bool) :
    let stored := perform invoke host fuel (.uploadFile path uploadUnique callback) sender world
    let fetched := perform invoke host' fuel' (.downloadFile path' callback') receiver world'
    stored.Normal → (haul stored).cancelled = false → fetched.Normal →
    (haul fetched).received = (haul stored).sent →
    (haul fetched).written =
        restored sender.transferType receiver.transferType (haul stored).taken ∧
      (sender.transferType = receiver.transferType → cr ∉ (haul stored).taken →
        (haul fetched).written = (haul stored).taken) := by
  intro stored fetched returned going came same
  have sent : (haul stored).sent = encoded sender.transferType (haul stored).taken := by
    have uploaded := (uploadFile_uploads host fuel sender world path uploadUnique callback).whole returned
    rcases uploaded with cancelled | sent | unused
    · rw [going] at cancelled
      cases cancelled
    · exact sent.whole
    · exact (Unused.coded unused _).1
  have whole : (haul fetched).written = decoded receiver.transferType (haul fetched).received := by
    have downloaded := (perform_downloads host' fuel' receiver world' path' callback').whole came
    rcases downloaded with delivered | unused
    · exact delivered.whole
    · exact (Unused.coded unused _).2
  have written : (haul fetched).written =
      restored sender.transferType receiver.transferType (haul stored).taken := by
    rw [whole, same, sent, decoded_encoded]
  refine ⟨written, fun equal noCr => written.trans ?_⟩
  rw [← equal]
  cases sender.transferType with
  | binary => rfl
  | ascii => exact withLineEnds_lf_eq noCr

/-- A text that goes up in ASCII type and comes down in it again. -/
theorem stored_file_returns_text :
    let client : Client := { Client.new .passive .ascii false true with
      control := ⟨[], ⟨.plain, true⟩⟩ }
    let replies := [text "229 (|||2021|)\r\n", text "150 o\r\n", text "226 d\r\n"]
    let fetched := perform invoke Script.host 9 (.downloadFile (text "f") false) client
      ⟨replies, [text "a\r", text "\nb"], [], [], fun _ => none⟩
    (haul fetched).written = restored .ascii .ascii (text "a\nb") ∧
      (TransferType.ascii = .ascii → cr ∉ text "a\nb" → (haul fetched).written = text "a\nb") := by
  intro client replies fetched
  have returned : (perform invoke Script.host 9 (.uploadFile (text "f") false false) client
      ⟨replies, [], [text "a\nb"], [], fun _ => none⟩).outcome.isOk = true := by decide +kernel
  have came : fetched.outcome.isOk = true := by decide +kernel
  have taken : (haul (perform invoke Script.host 9 (.uploadFile (text "f") false false) client
      ⟨replies, [], [text "a\nb"], [], fun _ => none⟩)).taken = text "a\nb" := by decide +kernel
  rw [← taken]
  exact stored_file_returns Script.host Script.host 9 9 client client
    ⟨replies, [], [text "a\nb"], [], fun _ => none⟩
    ⟨replies, [text "a\r", text "\nb"], [], [], fun _ => none⟩ (text "f") (text "f") false false false
    (all_normal (by simpa using returned) _ (List.mem_singleton_self _)) (by decide +kernel)
    (all_normal (by simpa using came) _ (List.mem_singleton_self _)) (by decide +kernel)

end Client

end LibFtp
