import LibFtp.Client.ControlOnly
import LibFtp.Client.Course
import LibFtp.Client.EpsvReply
import LibFtp.Client.PasvReply
import LibFtp.Effect.Temporal

/-! Where a data connection goes. In passive mode the client connects to the endpoint that the
last reply advertises, and under RFC 2428 to no other address than that of its control
connection; in active mode it listens at its own end of the control connection. -/

namespace LibFtp

open Effect

/-- Where the address of an endpoint comes from. -/
inductive Origin where
  | peer (address : Address)
  | own (address : Address)
  | named (ip : Bytes) (address : Address)
  deriving DecidableEq, Repr

/-- The last reply and the last address that the client has learnt. -/
structure Learnt where
  reply : Option Reply
  origin : Option Origin
  deriving DecidableEq, Repr

namespace Learnt

def start : Learnt := ⟨none, none⟩

def advance (learnt : Learnt) : BoundaryEvent → Learnt
  | ⟨.notifyReply _ reply, _⟩ => { learnt with reply := some reply }
  | ⟨.remoteEndpoint, .ok endpoint⟩ => { learnt with origin := some (.peer endpoint.address) }
  | ⟨.localEndpoint, .ok endpoint⟩ => { learnt with origin := some (.own endpoint.address) }
  | ⟨.makeAddress ip, .ok address⟩ => { learnt with origin := some (.named ip address) }
  | _ => learnt

/-- The last reply announces the endpoint: under RFC 2428 a port of the peer, between four
equal delimiters, and otherwise six decimal numbers of 8 bits. Nothing is said of the replies
that are misread. -/
def Announces (spelled : Bytes → Prop) (make : Bytes → Except ErrorCode Address) (support : Bool)
    (learnt : Learnt) (endpoint : Endpoint) : Prop :=
  ∃ reply, learnt.reply = some reply ∧
    if support then
      learnt.origin = some (.peer endpoint.address) ∧
        (¬ Client.Misdelimited reply.statusString →
          Client.Delimited reply.statusString endpoint.port)
    else ¬ Client.Misread make reply.statusString →
      Client.Advertises spelled reply.statusString endpoint

/-- A call that opens or binds a socket for data is directed by what was learnt. -/
def Directs (mode : TransferMode) (announces : Learnt → Endpoint → Prop) (learnt : Learnt)
    (event : BoundaryEvent) : Prop :=
  match event.query with
  | .connectData endpoint => mode = .passive ∧ announces learnt endpoint
  | .acceptorBind endpoint =>
    mode = .active ∧ learnt.origin = some (.own endpoint.address) ∧ endpoint.port = 0
  | _ => True

/-- What the client makes of the last reply. -/
private def Parses (support : Bool) (learnt : Learnt) (endpoint : Endpoint) : Prop :=
  ∃ reply, learnt.reply = some reply ∧
    if support then
      learnt.origin = some (.peer endpoint.address) ∧
        Client.tryParseEpsvReply reply = some endpoint.port
    else ∃ ip, learnt.origin = some (.named ip endpoint.address) ∧
      Client.tryParsePasvReply reply = some (ip, endpoint.port)

/-- Addresses are made by the given function. -/
def namedBy (make : Bytes → Except ErrorCode Address) : BoundaryEvent → Bool
  | ⟨.makeAddress ip, answer⟩ => answer = make ip
  | _ => true

/-- A name that was learnt has been asked for. -/
private theorem origin_named (events : List BoundaryEvent) {ip : Bytes} {address : Address}
    (named : (events.foldl advance start).origin = some (.named ip address)) :
    (⟨.makeAddress ip, .ok address⟩ : BoundaryEvent) ∈ events := by
  induction events using List.reverseRecOn with
  | nil => cases named
  | append_singleton events event ih =>
    rw [List.foldl_append, List.foldl_cons, List.foldl_nil] at named
    have kept (same : (events.foldl advance start).origin = some (.named ip address)) :
        (⟨.makeAddress ip, .ok address⟩ : BoundaryEvent) ∈ events ++ [event] :=
      List.mem_append_left _ (ih same)
    obtain ⟨query, answer⟩ := event
    cases query with
    | makeAddress asked =>
      cases answer with
      | error ec => exact kept named
      | ok made =>
        cases named
        exact List.mem_append_right _ (List.mem_singleton_self _)
    | remoteEndpoint | localEndpoint =>
      cases answer with
      | error ec => exact kept named
      | ok endpoint => cases named
    | _ => exact kept named

/-- What the client makes of a reply is what the reply announces. -/
private theorem parses_announces {spelled : Bytes → Prop} {make : Bytes → Except ErrorCode Address}
    (makes : Client.MakesAddress spelled make) (events : List BoundaryEvent)
    (named : ∀ event ∈ events, namedBy make event = true) {support : Bool} {endpoint : Endpoint}
    (parses : (events.foldl advance start).Parses support endpoint) :
    (events.foldl advance start).Announces spelled make support endpoint := by
  obtain ⟨reply, heard, parsed⟩ := parses
  refine ⟨reply, heard, ?_⟩
  cases support with
  | true =>
    refine ⟨parsed.1, fun uniform => ?_⟩
    exact Client.delimited_of_parsed uniform parsed.2
  | false =>
    obtain ⟨ip, origin, parsed⟩ := parsed
    have made : .ok endpoint.address = make ip := by
      simpa [namedBy] using named _ (origin_named events origin)
    have target : Client.pasvTarget make reply = some endpoint := by
      rw [Client.target_of_parsed parsed, ← made]
      rfl
    exact fun read => (Client.target_cases makes reply target).resolve_right read

end Learnt

variable {mode : TransferMode} {support : Bool} {fuel : Nat}

private abbrev directions (mode : TransferMode) (support : Bool) : Monitor boundary (Learnt × Prop) :=
  watch Learnt.advance (Learnt.Directs mode (Learnt.Parses support))

/-- A question that opens and binds nothing. -/
private abbrev Aimless (query : Boundary.Query) : Prop :=
  ∀ mode announces learnt answer, Learnt.Directs mode announces learnt ⟨query, answer⟩

private theorem aimless_step {moment after : Learnt × Prop} {query : Boundary.Query}
    {answer : Boundary.Answer query} (aimless : Aimless query) (holds : moment.2)
    (step : (directions mode support).step moment ⟨query, answer⟩ after) : after.2 := by
  have step : after = watching Learnt.advance (Learnt.Directs mode (Learnt.Parses support)) moment
      ⟨query, answer⟩ := step
  subst step
  exact ⟨holds, aimless mode _ moment.1 answer⟩

private abbrev Directed {State : Type} (_ : State) (moment : Learnt × Prop) : Prop := moment.2

private theorem aimless_keeps {State Value : Type} {program : Method State Value}
    (asks : program.Asks Aimless) :
    program.Keeps (directions mode support) Directed Directed :=
  asks.keeps fun _ _ _ aimless holds step => aimless_step aimless holds step

private theorem aimless_controlling : Client.Controlling Aimless where
  link layer query link := by
    intro _ _ _ answer
    cases link with
    | closing closing => cases closing <;> trivial
    | _ => trivial
  written _ _ _ _ _ _ := trivial
  missed _ _ _ _ _ _ := trivial
  requested _ _ _ _ _ _ := trivial
  heard _ _ _ _ _ _ := trivial
  switched _ _ _ _ _ := trivial
  greeted _ _ _ _ _ _ _ := trivial

namespace DataConnection

private theorem close_aimless : (Socket.close .data).Asks Aimless :=
  .bind .get fun _ => .ite
    (.bind (.ask fun _ _ _ _ => trivial) fun _ => .bind (.modify _) fun _ => .pure _)
    (.bind (.ask fun _ _ _ _ => trivial) fun _ => .pure _)

private theorem disconnect_aimless (graceful : Bool) : (disconnect graceful).Asks Aimless := by
  have sslShutdown : (Socket.sslShutdown .data).Asks Aimless := by
    refine .bind .get fun socket => ?_
    cases socket.layer with
    | plain => exact .pure none
    | ssl => exact .ask fun _ _ _ _ => trivial
  have shutdown : (Socket.shutdown .data).Asks Aimless :=
    .bind .get fun _ => .ite (.ask fun _ _ _ _ => trivial)
      (.bind (.ask fun _ _ _ _ => trivial) fun _ => .pure _)
  refine .bind ?_ fun _ => .bind ?_ fun _ => .bind ?_ fun _ => ?_
  · exact .bind .get fun _ => .ite (.bind (.zoom sslShutdown) fun _ => throwUnless_asks _ _ _) (.pure _)
  · exact .ite (.bind (.zoom shutdown) fun _ => throwUnless_asks _ _ _) (.pure _)
  · exact .bind (.zoom close_aimless) fun _ => throwIf_asks _ _
  · exact .bind .get fun _ => .ite (.bind (.ask fun _ _ _ _ => trivial) fun _ =>
      .bind (.modify _) fun _ => throwIf_asks _ _) (.pure _)

private theorem connect_directed (endpoint : Endpoint) (connection : DataConnection)
    (moment : Learnt × Prop) (holds : moment.2) (announced : moment.1.Parses support endpoint) :
    (connect endpoint).wp (directions .passive support) fuel (fun _ => Directed) (fun _ => Directed)
      connection moment := by
  rw [connect, Program.wp_bind, wp_call]
  intro answer after step
  have directed : after.2 := by
    have step : after = watching Learnt.advance (Learnt.Directs .passive (Learnt.Parses support)) moment
      ⟨.connectData endpoint, answer⟩ := step
    subst step
    exact ⟨holds, rfl, announced⟩
  have fails (ec : ErrorCode) : Program.Asks Aimless (do
      Program.modify setOpen
      let _ignored ← onSocket (Socket.close .data)
      throwCode ec "Cannot open data connection" : Method DataConnection Unit) :=
    .bind (.modify _) fun _ => .bind (.zoom close_aimless) fun _ => .raise _
  cases answer with
  | none => exact directed
  | some ec => exact aimless_keeps (fails ec) fuel connection after directed

private theorem connectText_directed (ip : Bytes) (port : UInt16) (connection : DataConnection)
    (moment : Learnt × Prop) (holds : moment.2) (reply : Reply)
    (heard : moment.1.reply = some reply)
    (parsed : Client.tryParsePasvReply reply = some (ip, port)) :
    (connectText ip port).wp (directions .passive false) fuel (fun _ => Directed)
      (fun _ => Directed) connection moment := by
  simp only [connectText, Program.wp_bind, wp_call]
  intro answer after step
  have step : after = watching Learnt.advance (Learnt.Directs .passive (Learnt.Parses false)) moment
    ⟨.makeAddress ip, answer⟩ := step
  subst step
  cases answer with
  | error ec => exact ⟨holds, trivial⟩
  | ok address =>
    refine connect_directed ⟨address, port⟩ connection _ ⟨holds, trivial⟩ ⟨reply, heard, ?_⟩
    exact ⟨ip, rfl, parsed⟩

private theorem listen_directed (address : Address) (connection : DataConnection)
    (moment : Learnt × Prop) (holds : moment.2) (own : moment.1.origin = some (.own address)) :
    (listen ⟨address, 0⟩).wp (directions .active support) fuel (fun _ => Directed)
      (fun _ => Directed) connection moment := by
  simp only [listen, Program.wp_bind, wp_call, wp_throwIf, Program.wp_modify]
  intro opened after step
  have step : after = watching Learnt.advance (Learnt.Directs .active (Learnt.Parses support)) moment
    ⟨.acceptorOpen, opened⟩ := step
  subst step
  cases opened with
  | some ec => exact ⟨holds, trivial⟩
  | none =>
    intro bound after step
    have directed : after.2 := by
      rw [step]
      exact ⟨⟨holds, trivial⟩, rfl, own, rfl⟩
    cases bound with
    | some ec => exact directed
    | none =>
      intro listening last step
      have aimless : Aimless .acceptorListen := fun _ _ _ _ => trivial
      have directed := aimless_step aimless directed step
      cases listening with
      | some ec => exact directed
      | none => exact directed

end DataConnection

namespace Client

open DataConnection

/-- The reply of an exchange is the last that was heard. -/
private theorem exchange_heard (command : Bytes) (replies : Replies) (client : Client)
    (moment : Learnt × Prop) (holds : moment.2) :
    (processCommandInto command replies).wp (directions mode support) fuel
      (fun out _ after => after.2 ∧ after.1.reply = some out.1) (fun _ => Directed) client moment := by
  simp only [processCommandInto, recvInto, notifyReply, Program.wp_bind, Program.wp_get, wp_call,
    Program.wp_pure]
  refine Program.wp_mono (aimless_keeps (aimless_controlling.send command) fuel client moment holds)
    ?_ fun _ _ _ => id
  intro _ client between directed
  have received : (onControl ControlConnection.recv).Keeps (directions mode support) Directed
      Directed := aimless_keeps (.zoom (ControlConnection.recv_asks aimless_controlling.link))
  refine Program.wp_mono (received fuel client between directed) ?_ fun _ _ _ => id
  intro reply client middle directed answer after step
  have step : after = watching Learnt.advance (Learnt.Directs mode (Learnt.Parses support)) middle
    ⟨.notifyReply client.observers reply, answer⟩ := step
  subst step
  exact ⟨⟨directed, trivial⟩, rfl⟩

section Negotiations
variable (replies : Replies) (client : Client) (moment : Learnt × Prop) (holds : moment.2)

include holds

private theorem negotiatePasv_directed :
    (negotiatePasv replies).wp (directions .passive false) fuel (fun _ => Directed)
      (fun _ => Directed) client moment := by
  simp only [negotiatePasv, Program.wp_bind]
  refine Program.wp_mono (exchange_heard _ replies client moment holds) ?_ fun _ _ _ => id
  intro ⟨reply, replies⟩ client after ⟨directed, heard⟩
  rw [Program.wp_ite]
  split
  · exact directed
  · cases parsed : tryParsePasvReply reply with
    | none => exact directed
    | some remote =>
      obtain ⟨ip, port⟩ := remote
      simp only [Program.wp_bind, Program.wp_on, Program.wp_pure]
      exact connectText_directed ip port _ after directed reply heard parsed

private theorem negotiateEpsv_directed :
    (negotiateEpsv replies).wp (directions .passive true) fuel (fun _ => Directed)
      (fun _ => Directed) client moment := by
  simp only [negotiateEpsv, Program.wp_bind]
  refine Program.wp_mono (exchange_heard _ replies client moment holds) ?_ fun _ _ _ => id
  intro ⟨reply, replies⟩ client after ⟨directed, heard⟩
  rw [Program.wp_ite]
  split
  · exact directed
  · cases parsed : tryParseEpsvReply reply with
    | none => exact directed
    | some port =>
      simp only [onControl, ControlConnection.getRemoteEndpoint, Program.wp_bind, Program.wp_zoom,
        wp_call, Program.wp_on, Program.wp_pure]
      intro answer last step
      have step : last = watching Learnt.advance (Learnt.Directs .passive (Learnt.Parses true)) after
        ⟨.remoteEndpoint, answer⟩ := step
      subst step
      cases answer with
      | error ec => exact ⟨directed, trivial⟩
      | ok remote =>
        refine connect_directed ⟨remote.address, port⟩ _ _ ⟨directed, trivial⟩ ⟨reply, heard, ?_⟩
        exact ⟨rfl, parsed⟩

private theorem negotiateActive_directed (makeEndpointCommand : Endpoint → Bytes) :
    (negotiateActive makeEndpointCommand replies).wp (directions .active support) fuel
      (fun _ => Directed) (fun _ => Directed) client moment := by
  simp only [negotiateActive, onControl, ControlConnection.getLocalEndpoint, Program.wp_bind,
    Program.wp_zoom, wp_call]
  intro answer after step
  have step : after = watching Learnt.advance (Learnt.Directs .active (Learnt.Parses support)) moment
    ⟨.localEndpoint, answer⟩ := step
  subst step
  cases answer with
  | error ec => exact ⟨holds, trivial⟩
  | ok own =>
    simp only [valueOrThrow, Program.wp_pure, Program.wp_on]
    refine Program.wp_mono (listen_directed own.address _ _ ⟨holds, trivial⟩ rfl) ?_ fun _ _ _ => id
    intro _ connection last directed
    have endpoint : getListenEndpoint.Asks Aimless :=
      .bind (.ask fun _ _ _ _ => trivial) fun _ => valueOrThrow_asks _ _
    refine Program.wp_mono (aimless_keeps endpoint fuel connection last directed) ?_ fun _ _ _ => id
    intro listenEndpoint connection last directed
    refine Program.wp_mono (exchange_heard _ replies _ last directed) ?_ fun _ _ _ => id
    intro _ _ last directed
    rw [Program.wp_ite]
    split
    · exact directed.1
    · exact directed.1

end Negotiations

/-- The client still has the settings of the call. -/
private def Set (mode : TransferMode) (support : Bool) (client : Client) : Prop :=
  client.transferMode = mode ∧ client.rfc2428Support = support

private theorem negotiate_directed (replies : Replies) :
    (negotiate replies).Keeps (directions mode support)
      (fun client moment => Set mode support client ∧ moment.2) Directed := by
  have carries : Carries (directions mode support) (fun client _ => Set mode support client)
      (fun client _ => Set mode support client) fun _ => True :=
    settings_carries fun _ _ set => set
  intro fuel client moment ⟨set, holds⟩
  have still := carries.negotiate (fun _ _ => trivial) replies fuel client moment set
  refine Program.wp_mono (Program.wp_and still ?_) (fun _ _ _ => id) fun _ _ _ => And.right
  obtain ⟨rfl, rfl⟩ := set
  simp only [negotiate, Program.wp_bind, Program.wp_get]
  cases client.transferMode <;> cases client.rfc2428Support
  · exact negotiatePasv_directed replies client moment holds
  · exact negotiateEpsv_directed replies client moment holds
  · exact negotiateActive_directed replies client moment holds makePortCommand
  · exact negotiateActive_directed replies client moment holds makeEprtCommand

private theorem disconnect_directed (connection : DataConnection) (graceful : Bool) :
    (Program.on connection (DataConnection.disconnect graceful) : Method Client _).Asks Aimless :=
  .on (disconnect_aimless graceful)

private theorem directed_course (main : Bytes) (callback : Bool) :
    Course (directions mode support) main callback
      (fun client moment => Set mode support client ∧ moment.2) Directed Directed Directed
      Directed where
  negotiates := negotiate_directed
  declines _ _ holds := holds.2
  exchanges replies fuel client moment holds := by
    refine Program.wp_mono (exchange_heard main replies client moment holds.2) ?_ fun _ _ _ => id
    intro answer client after directed
    split
    · exact directed.1
    · exact directed.1
  refuses connection := aimless_keeps (disconnect_directed connection true)
  concludes _ _ := id
  works query answer _ _ _ working holds step := by
    refine aimless_step (fun _ _ _ _ => ?_) holds step
    cases working with
    | transferring transferring =>
      cases transferring with
      | streaming streaming => cases streaming <;> trivial
      | _ => trivial
    | _ => trivial
  stops _ _ := id
  finishes connection replies fuel client moment holds := by
    have rest (cancelled : Bool) : (endTransfer connection replies cancelled).Asks Aimless := by
      refine .ite ?_ ?_
      · exact .bind (aimless_controlling.processAbort replies) fun _ =>
          .bind (disconnect_directed _ _) fun _ => .pure _
      · exact .bind (disconnect_directed _ _) fun _ =>
          .bind (aimless_controlling.recvInto _) fun _ => .pure _
    have asks : (finishTransfer connection callback replies).Asks Aimless := by
      rw [finishTransfer_eq]
      exact .ite (.bind (.ask fun _ _ _ _ => trivial) rest) (.bind (.pure _) rest)
    exact aimless_keeps asks fuel client moment holds

/-- In every call, whatever the server says, a data connection is opened in passive mode only
and to the endpoint that the last reply announces, which under RFC 2428 is a port of the peer of
the control connection; a socket for the server is bound in active mode only, at the client's
own address. -/
theorem data_endpoint_directed {World : Type} {spelled : Bytes → Prop}
    {make : Bytes → Except ErrorCode Address} (makes : MakesAddress spelled make)
    (host : Host boundary World) (fuel : Nat) (operation : Operation) (client : Client) (world : World)
    (named : ∀ event ∈ (perform invoke host fuel operation client world).events,
      Learnt.namedBy make event = true) :
    Always Learnt.advance (Learnt.Directs client.transferMode
      (Learnt.Announces spelled make client.rfc2428Support)) .start
      (perform invoke host fuel operation client world).events := by
  have ends : (invoke operation).wp (directions client.transferMode client.rfc2428Support) fuel
      (fun _ => Directed) (fun _ => Directed) client (.start, True) := by
    by_cases plain : operation.mainCommand = none
    · exact aimless_keeps (aimless_controlling.invoke operation plain) fuel client _ trivial
    · obtain ⟨main, transfers⟩ := Option.ne_none_iff_exists'.mp plain
      exact (directed_course main operation.callback).invoke operation transfers rfl fuel client _
        ⟨⟨rfl, rfl⟩, trivial⟩
  have directed := perform_settled ends (Monitor.fold_drives _ _
    (perform invoke host fuel operation client world).events)
  rw [foldl_watching] at directed
  intro front event back split
  have directs := directed front event back split
  obtain ⟨query, answer⟩ := event
  cases query with
  | connectData endpoint =>
    refine ⟨directs.1, Learnt.parses_announces makes front (fun event member => ?_) directs.2⟩
    exact named event (by simp [split, member])
  | acceptorBind endpoint => exact directs
  | _ => trivial

/-- A download from a server that answers PASV with an endpoint. -/
private def directedRun :=
  perform invoke Script.host 9 (.downloadFile (text "f") false)
    { Client.new .passive .binary false false with control := ⟨[], ⟨.plain, true⟩⟩ }
    (Script.ofReplies [text "227 Ok (127,0,0,1,7,229)\r\n", text "150 o\r\n", text "226 d\r\n"])

theorem data_endpoint_directed_passive :
    Always Learnt.advance (Learnt.Directs .passive (Learnt.Announces Spelled dottedOnly false))
        .start directedRun.events ∧
      ⟨.connectData ⟨.v4 127 0 0 1, 2021⟩, none⟩ ∈ directedRun.events := by
  have named : ∀ event ∈ directedRun.events, Learnt.namedBy dottedOnly event = true := by
    decide +kernel
  exact ⟨data_endpoint_directed dottedOnly_makes Script.host 9 _ _ _ named, by decide +kernel⟩

end Client

end LibFtp
