import LibFtp.Client.ControlOnly
import LibFtp.Detail.DataTraffic
import LibFtp.Detail.Script

/-! The payload of a client with an SSL context. However a transfer was negotiated, its
data connection is upgraded before it is handed out, and a failed handshake ends the
operation. -/

namespace LibFtp

open Effect

namespace Client

/-- What the payload has met so far: whether the data connection in use has a handshake
behind it, whether payload was exchanged without one, whether any was exchanged, and
whether a handshake has failed. -/
structure Shield where
  secured : Bool
  exposed : Bool
  moved : Bool
  failed : Bool
  deriving DecidableEq, Repr

namespace Shield

def start : Shield := ⟨false, false, false, false⟩

/-- Payload over a data connection in the given mode. -/
def carry (shield : Shield) (layer : Layer) : Shield :=
  { shield with moved := true, exposed := shield.exposed || !(layer = .ssl && shield.secured) }

/-- A new socket has no handshake behind it. -/
def advance (shield : Shield) : BoundaryEvent → Shield
  | ⟨.connectData _, _⟩ | ⟨.acceptorAccept, _⟩ | ⟨.setSsl .data _, _⟩ =>
    { shield with secured := false }
  | ⟨.handshake .data, none⟩ => { shield with secured := true }
  | ⟨.handshake .data, some _⟩ => { shield with secured := false, failed := true }
  | ⟨.write .data layer _, _⟩ | ⟨.readSome .data layer _, _⟩ => shield.carry layer
  | _ => shield

/-- No payload was exposed, and no handshake has failed. -/
def Sound (shield : Shield) : Prop := shield.exposed = false ∧ shield.failed = false

/-- No payload was exchanged either. -/
def Clear (shield : Shield) : Prop := shield.Sound ∧ shield.moved = false

/-- The data connection in use has a handshake behind it. -/
def Covers (shield : Shield) : Prop := shield.Sound ∧ shield.secured = true

end Shield

/-- Questions that neither exchange payload nor perform the handshake of a data connection. -/
def Harmless : Boundary.Query → Prop
  | .write .data .. | .readSome .data .. | .handshake .data => False
  | _ => True

private abbrev shields : Monitor boundary Shield := Monitor.fold Shield.advance

section Footprints

private theorem harmless_link (layer : Layer) (query : Boundary.Query) (link : Link layer query) :
    Harmless query := by
  cases link with
  | closing closing => cases closing <;> trivial
  | _ => trivial

private theorem harmless_plumbing (query : Boundary.Query) (plumbing : Plumbing query) :
    Harmless query := by
  cases plumbing <;> trivial

private theorem on_harmless {Part : Type} {object : Part} {program : Method Part Value}
    (plumbing : program.Asks Plumbing) :
    (Program.on object program : Method Client _).Asks Harmless :=
  .on (plumbing.mono harmless_plumbing)

private theorem harmless : Negotiating Harmless where
  link := harmless_link
  written _ _ := trivial
  missed _ _ := trivial
  requested _ _ := trivial
  heard _ _ := trivial
  plumbing := harmless_plumbing
  dialled _ := trivial
  accepts := trivial
  localEndpoint := trivial
  remoteEndpoint := trivial

private theorem harmless_controlling : Controlling Harmless where
  toConversing := harmless.toConversing
  switched _ := trivial
  greeted _ _ _ := trivial

private theorem finishTransfer_harmless (connection : DataConnection) (callback : Bool)
    (replies : Replies) : (finishTransfer connection callback replies).Asks Harmless := by
  have rest (cancelled : Bool) : (endTransfer connection replies cancelled).Asks Harmless := by
    refine .ite ?_ ?_
    · exact .bind (harmless.processAbort _) fun _ =>
        .bind (on_harmless (DataConnection.disconnect_plumbing _)) fun _ => .pure _
    · exact .bind (on_harmless (DataConnection.disconnect_plumbing _)) fun _ =>
        .bind (harmless.recvInto _) fun _ => .pure _
  rw [finishTransfer_eq]
  exact .ite (.bind (.ask trivial) rest) (.bind (.pure _) rest)

end Footprints

section Transfers
variable {fuel : Nat}

/-- The operation stopped before any payload was exposed; a failed handshake was followed
by no payload at all. -/
private def Unharmed (stop : Stop FtpException) (_ : Client) (shield : Shield) : Prop :=
  shield.exposed = false ∧
    (shield.failed = true → shield.moved = false ∧ ∃ error, stop = .raised error)

private theorem sound_unharmed (sound : shield.Sound) (stop : Stop FtpException) (client : Client) :
    Unharmed stop client shield :=
  ⟨sound.1, fun failed => absurd failed (by simp [sound.2])⟩

private theorem advance_harmless {query : Boundary.Query} (answer : Boundary.Answer query)
    (shield : Shield) (harmless : Harmless query) :
    (shield.advance ⟨query, answer⟩).exposed = shield.exposed ∧
      (shield.advance ⟨query, answer⟩).moved = shield.moved ∧
      (shield.advance ⟨query, answer⟩).failed = shield.failed := by
  cases query with
  | write channel layer data | readSome channel layer maxSize | handshake channel =>
    cases channel with
    | data => exact False.elim harmless
    | control => exact ⟨rfl, rfl, rfl⟩
  | setSsl channel layer => cases channel <;> exact ⟨rfl, rfl, rfl⟩
  | _ => exact ⟨rfl, rfl, rfl⟩

private theorem sound_undisturbed (shield : Shield) (event : BoundaryEvent) (after : Shield)
    (harmless : Harmless event.query) (sound : shield.Sound) (step : shields.step shield event after) :
    after.Sound := by
  obtain ⟨exposed, _, failed⟩ := advance_harmless event.answer shield harmless
  rw [show after = shield.advance event from step]
  exact ⟨exposed.trans sound.1, failed.trans sound.2⟩

private theorem clear_undisturbed (shield : Shield) (event : BoundaryEvent) (after : Shield)
    (harmless : Harmless event.query) (clear : shield.Clear) (step : shields.step shield event after) :
    after.Clear := by
  have moved := (advance_harmless event.answer shield harmless).2.1
  refine ⟨sound_undisturbed shield event after harmless clear.1 step, ?_⟩
  rw [show after = shield.advance event from step]
  exact moved.trans clear.2

/-- A transfer over a connection in SSL mode keeps its handshake. -/
private theorem covers_undisturbed (shield : Shield) (event : BoundaryEvent) (after : Shield)
    (moving : Moving .ssl event.query) (covers : shield.Covers)
    (step : shields.step shield event after) : after.Covers := by
  obtain ⟨query, answer⟩ := event
  have step : after = shield.advance ⟨query, answer⟩ := step
  have carried : (shield.carry .ssl).Covers :=
    ⟨⟨by simp [Shield.carry, covers.1.1, covers.2], covers.1.2⟩, covers.2⟩
  subst step
  cases moving with
  | write | readSome => exact carried
  | streaming streaming => cases streaming <;> exact covers
  | _ => exact covers

private theorem harmless_sound {program : Method Client Value} (asks : program.Asks Harmless) :
    program.Keeps shields (fun _ => Shield.Sound) (fun _ => Shield.Sound) :=
  asks.keeps sound_undisturbed

/-- The client has its context, and no payload was exchanged. -/
private def Before (client : Client) (shield : Shield) : Prop :=
  client.sslContext = true ∧ shield.Clear

private theorem before_harmless {program : Method Client Value} (asks : program.Asks Harmless)
    (contextual : program.Keeps shields Contextual Contextual) (client : Client) (shield : Shield)
    (before : Before client shield) {post : Value → Client → Shield → Prop}
    (done : ∀ value state after, Before state after → post value state after) :
    program.wp shields fuel post Unharmed client shield := by
  have clear : program.Keeps shields (fun _ => Shield.Clear) (fun _ => Shield.Clear) :=
    asks.keeps clear_undisturbed
  apply Program.wp_mono (Program.wp_and (contextual fuel client shield before.1)
    (clear fuel client shield before.2))
  · exact fun value state after both => done value state after both
  · exact fun stop state _ both => sound_unharmed both.2.1 stop state

/-- What a negotiation hands out: nothing, or a connection in SSL mode with its handshake
behind it. -/
private def Handed (connection : Option DataConnection) (shield : Shield) : Prop :=
  match connection with
  | none => shield.Sound
  | some connection => connection.socket.layer = .ssl ∧ shield.Covers

private theorem readyConnection_shields (connection : DataConnection) (client : Client)
    (shield : Shield) (before : Before client shield) :
    (readyConnection connection).wp shields fuel
      (fun connection _ => Handed (some connection)) Unharmed client shield := by
  obtain ⟨context, ⟨exposed, unfailed⟩, moved⟩ := before
  simp only [readyConnection, sslHandshakeDataConnection, DataConnection.setSsl,
    DataConnection.sslHandshake, DataConnection.onSocket, Program.wp_bind, Program.wp_get,
    Program.wp_ite, Program.wp_on, Program.wp_zoom, Socket.wp_setSsl, Socket.wp_sslHandshake,
    wp_throwIf, Program.wp_pure]
  rw [if_pos context]
  intro _ upgraded switched
  have switched : upgraded = { shield with secured := false } := switched
  subst switched
  rw [if_pos trivial]
  intro answer after step
  cases answer with
  | none =>
    have step : after = { shield with secured := true } := step
    subst step
    exact ⟨rfl, ⟨exposed, unfailed⟩, rfl⟩
  | some error =>
    have step : after = { shield with secured := false, failed := true } := step
    subst step
    exact ⟨exposed, fun _ => ⟨moved, _, rfl⟩⟩

private theorem answerMain_shields (negotiated : Negotiated) (reply : Reply) (replies : Replies)
    (client : Client) (shield : Shield) (before : Before client shield) :
    (answerMain negotiated reply replies).wp shields fuel (fun out _ => Handed out.1) Unharmed
      client shield := by
  have carries : Carries shields Contextual Contextual fun _ => True :=
    contextual_upholds.toCarries
  have ready (connection : DataConnection) (state : Client) (after : Shield)
      (before : Before state after) :
      (readyConnection connection).wp shields fuel
        (fun connection => (pure (some connection, replies) :
          Method Client (Option DataConnection × Replies)).wp shields fuel
            (fun out _ => Handed out.1) Unharmed) Unharmed state after :=
    readyConnection_shields connection state after before
  unfold answerMain
  rw [Program.wp_ite]
  split
  · rw [Program.wp_ite]
    split
    · exact before.2.1
    · rw [Program.wp_bind]
      apply before_harmless (.on (DataConnection.accept_asks trivial))
        (carries.on DataConnection.accept_quiet) client shield before
      intro ⟨_, connection⟩ state after before
      rw [Program.wp_bind]
      exact ready connection state after before
  · rw [Program.wp_ite]
    split
    · rw [Program.wp_bind]
      apply before_harmless (on_harmless (DataConnection.disconnect_plumbing _))
        (carries.on (DataConnection.disconnect_quiet _)) client shield before
      exact fun _ _ _ before => before.2.1
    · rw [Program.wp_bind]
      exact ready negotiated.connection client shield before

private theorem createDataConnection_shields (command : Bytes) (replies : Replies)
    (client : Client) (shield : Shield) (before : Before client shield) :
    (createDataConnection command replies).wp shields fuel (fun out _ => Handed out.1) Unharmed
      client shield := by
  have carries : Carries shields Contextual Contextual fun _ => True :=
    contextual_upholds.toCarries
  rw [createDataConnection_eq, Program.wp_bind]
  apply before_harmless (harmless.negotiate replies)
    (carries.negotiate (fun _ _ => trivial) replies) client shield before
  intro ⟨negotiated, replies⟩ state after before
  cases negotiated with
  | none => exact before.2.1
  | some negotiated =>
    simp only [openMain, Program.wp_bind]
    apply before_harmless (harmless.processCommandInto command replies)
      (carries.processCommandInto trivial replies) state after before
    exact fun ⟨reply, replies⟩ state after before =>
      answerMain_shields negotiated reply replies state after before

/-- The transfer over the connection that was handed out, and what follows it. -/
private theorem transfer_shields {Out : Type} {connection : DataConnection}
    {transfer : Method DataConnection Out} {rest : Out × DataConnection → Method Client Value}
    (stays : transfer.Keeps shields (DataConnection.Stays .ssl Shield.Covers)
      (DataConnection.Stays .ssl Shield.Covers))
    (harmless : ∀ out, (rest out).Asks Harmless) (client : Client) (shield : Shield)
    (handed : Handed (some connection) shield) :
    (Program.on connection transfer >>= rest).wp shields fuel (fun _ _ => Shield.Sound) Unharmed
      client shield := by
  rw [Program.wp_bind, Program.wp_on]
  apply (stays fuel).apply handed
  · intro value connection after covers
    apply (harmless_sound (harmless (value, connection)) fuel).apply covers.2.1
    · exact fun _ _ _ => id
    · exact fun stop state _ sound => sound_unharmed sound stop state
  · exact fun stop _ _ covers => sound_unharmed covers.2.1 stop client

private theorem overData_shields {Moved : Type} {moves : Client → Method DataConnection Moved}
    {refused : Replies → Value} {rest : Replies → Moved × DataConnection → Method Client Value}
    (stays : ∀ client, (moves client).Keeps shields (DataConnection.Stays .ssl Shield.Covers)
      (DataConnection.Stays .ssl Shield.Covers))
    (harmless : ∀ replies moved, (rest replies moved).Asks Harmless) (command : Bytes)
    (client : Client) (shield : Shield) (before : Before client shield) :
    (overData command moves refused rest).wp shields fuel (fun _ _ => Shield.Sound) Unharmed client
      shield := by
  rw [overData, Program.wp_bind]
  apply Program.wp_mono (createDataConnection_shields _ _ client shield before)
  · intro ⟨connection, replies⟩ state after handed
    cases connection with
    | none => exact handed
    | some connection => exact transfer_shields (stays state) (harmless replies) state after handed
  · exact fun _ _ _ => id

private theorem finishFileList_harmless (replies : Replies) (moved : OutputStream × DataConnection) :
    (finishFileList replies moved).Asks Harmless :=
  .bind (.bind .get fun _ => .ask trivial) fun _ =>
    .bind (finishTransfer_harmless _ _ _) fun _ => .pure _

private theorem invoke_shields (operation : Operation) (client : Client)
    (context : client.sslContext = true) :
    (invoke operation).wp shields fuel (fun _ _ => Shield.Sound) Unharmed client .start := by
  have before : Before client .start := ⟨context, ⟨rfl, rfl⟩, rfl⟩
  by_cases plain : operation.mainCommand = none
  · apply (harmless_sound (harmless_controlling.invoke operation plain) fuel).apply before.2.1
    · exact fun _ _ _ => id
    · exact fun stop state _ sound => sound_unharmed sound stop state
  · cases operation with
    | downloadFile path callback =>
      simp only [invoke, processDownload_eq, Program.wp_bind, Program.wp_pure]
      exact overData_shields (fun _ => DataConnection.recv_stays covers_undisturbed _ _)
        (fun _ _ => finishTransfer_harmless _ _ _) _ client .start before
    | uploadFile path uploadUnique callback =>
      simp only [invoke, processUpload_eq, Program.wp_bind, Program.wp_pure]
      exact overData_shields (fun _ => DataConnection.send_stays covers_undisturbed _ _)
        (fun _ _ => finishTransfer_harmless _ _ _) _ client .start before
    | appendFile path callback =>
      simp only [invoke, processUpload_eq, Program.wp_bind, Program.wp_pure]
      exact overData_shields (fun _ => DataConnection.send_stays covers_undisturbed _ _)
        (fun _ _ => finishTransfer_harmless _ _ _) _ client .start before
    | getFileList path onlyNames =>
      simp only [invoke, getFileList_eq, Program.wp_bind, Program.wp_pure]
      exact overData_shields (fun _ => DataConnection.recv_stays covers_undisturbed _ _)
        finishFileList_harmless _ client .start before
    | _ => exact absurd rfl plain

end Transfers

/-- On a client with a context, in every session: payload crosses a data connection only
when its socket is an SSL socket with a successful handshake behind it, and where a
handshake fails the operation throws before any payload has crossed. -/
theorem payload_protected (mode : TransferMode) (type : TransferType) (support : Bool)
    (host : Host boundary World) (fuel : Nat) (world : World) (operations : List Operation) :
    ∀ record ∈ session invoke host fuel operations (Client.new mode type true support) world,
      let shield := record.events.foldl Shield.advance .start
      shield.exposed = false ∧
        (shield.failed = true →
          shield.moved = false ∧ ∃ error, record.outcome = .error (.raised error)) := by
  intro record member
  refine (session_invariant (fun client => client.sslContext = true) (fun _ => True)
    (fun record =>
      (record.events.foldl Shield.advance .start).exposed = false ∧
        ((record.events.foldl Shield.advance .start).failed = true →
          (record.events.foldl Shield.advance .start).moved = false ∧
            ∃ error, record.outcome = .error (.raised error)))
    ?_ operations _ world rfl (fun _ _ => trivial) record member).2
  intro operation client world context _
  constructor
  · exact perform_settled (contextual_upholds.invoke operation (fun _ _ => trivial) fuel client []
      context) (Monitor.history_drives [] _)
  · have drives := Monitor.fold_drives Shield.advance .start
      (perform invoke host fuel operation client world).events
    rcases Program.wp_run (invoke_shields operation client context) host world drives with
      ⟨_, _, sound⟩ | ⟨stop, stopped, exposed, failed⟩
    · exact ⟨sound.1, fun failed => absurd failed (by simp [sound.2])⟩
    · refine ⟨exposed, fun failure => ?_⟩
      obtain ⟨still, error, raised⟩ := failed failure
      exact ⟨still, error, stopped.trans (congrArg Except.error raised)⟩

/-- An upload whose payload crosses the data connection behind the handshake. -/
theorem payload_protected_append :
    let script : Script :=
      ⟨[text "220 r\r\n", text "234 t\r\n", text "229 (|||6446|)\r\n", text "150 o\r\n",
        text "226 c\r\n"], [], [text "x"], [], fun _ => none⟩
    let records := session invoke Script.host 9
      [.connect (text "h") 21 none [], .appendFile (text "f") false]
      (Client.new .passive .binary true true) script
    ∃ record ∈ records, (record.events.foldl Shield.advance .start).moved = true ∧
      (record.events.foldl Shield.advance .start).exposed = false := by
  intro script records
  have carried : (records.any fun record =>
      (record.events.foldl Shield.advance .start).moved) = true := by
    decide +kernel
  obtain ⟨record, member, moved⟩ := List.any_eq_true.mp carried
  exact ⟨record, member, moved,
    (payload_protected .passive .binary true Script.host 9 script _ record member).1⟩

end Client

end LibFtp
