import LibFtp.Client.ControlOnly
import LibFtp.Client.FileListing
import LibFtp.Detail.LoopRules

/-! The life of a data connection: opened towards the server or accepted from it, upgraded
where the client has an SSL context, used in one direction, and closed in order. A call
that fails ends it, but for the close of a socket whose connect was refused. -/

namespace LibFtp

open Effect

/-- The direction of the payload. -/
inductive Flow where
  | none
  | receives
  | sends
  deriving DecidableEq, Repr

def Client.Operation.flow : Client.Operation → Flow
  | .downloadFile .. | .getFileList .. => .receives
  | .uploadFile .. | .appendFile .. => .sends
  | _ => .none

/-- Where the data side of a call stands. `accepted` says that the socket comes from an
acceptor that is still open, `drained` that the server has ended the data. -/
inductive Stage where
  | fresh
  | refused
  | opened
  | bound
  | listening
  | announced
  | connected (layer : Layer) (accepted drained : Bool)
  | upgraded (accepted : Bool)
  | sslDown (accepted : Bool)
  | down (accepted : Bool)
  | closed
  | released
  | failed
  deriving DecidableEq, Repr

namespace Stage

/-- One call of the acceptor, which has its place. -/
def pass (stage source target : Stage) (ec : Option ErrorCode) : Option Stage :=
  if stage = source then some (if ec.isNone then target else .failed) else none

/-- A closing call, with the error code that does not matter. -/
def past (target : Stage) (tolerated : ErrorCode) (ec : Option ErrorCode) : Stage :=
  if ec = none ∨ ec = some tolerated then target else .failed

/-- The socket is closed, and the acceptor remains where there is one. -/
def shut (accepted : Bool) (ec : Option ErrorCode) : Stage :=
  if ec.isNone then if accepted then .closed else .released else .failed

/-- The mode in which payload may cross. -/
def mode (secure : Bool) : Layer := if secure then .ssl else .plain

/-- What may happen next, and where it leads; `none` for a call out of order. -/
def next (secure : Bool) (flow : Flow) (stage : Stage) : BoundaryEvent → Option Stage
  | ⟨.connectData _, ec⟩ =>
    if stage = .fresh then some (if ec.isNone then .connected .plain false false else .refused)
    else none
  | ⟨.acceptorOpen, ec⟩ => stage.pass .fresh .opened ec
  | ⟨.acceptorBind _, ec⟩ => stage.pass .opened .bound ec
  | ⟨.acceptorListen, ec⟩ => stage.pass .bound .listening ec
  | ⟨.acceptorEndpoint, answer⟩ =>
    if stage = .listening then some (if answer.isOk then .announced else .failed) else none
  | ⟨.acceptorAccept, ec⟩ => stage.pass .announced (.connected .plain true false) ec
  | ⟨.setSsl .data layer, _⟩ =>
    match stage with
    | .connected .plain accepted false =>
      if secure ∧ layer = .ssl then some (.upgraded accepted) else none
    | _ => none
  | ⟨.handshake .data, ec⟩ =>
    match stage with
    | .upgraded accepted => some (if ec.isNone then .connected .ssl accepted false else .failed)
    | _ => none
  | ⟨.readSome .data layer _, answer⟩ =>
    match stage with
    | .connected current accepted false =>
      if flow = .receives ∧ layer = current ∧ current = mode secure then
        match answer with
        | .ok _ => some stage
        | .error ec => some (if ec = .eof then .connected current accepted true else .failed)
      else none
    | _ => none
  | ⟨.write .data layer _, ec⟩ =>
    match stage with
    | .connected current _ false =>
      if flow = .sends ∧ layer = current ∧ current = mode secure then
        some (if ec.isNone then stage else .failed)
      else none
    | _ => none
  | ⟨.sslShutdown .data, ec⟩ =>
    match stage with
    | .connected .ssl accepted _ => some (past (.sslDown accepted) .eof ec)
    | _ => none
  | ⟨.shutdown .data, ec⟩ =>
    match stage with
    | .connected .plain accepted _ | .sslDown accepted =>
      some (past (.down accepted) .notConnected ec)
    | _ => none
  | ⟨.close .data, ec⟩ =>
    match stage with
    | .refused => some .failed
    | .connected .plain accepted _ | .sslDown accepted | .down accepted => some (shut accepted ec)
    | _ => none
  | ⟨.acceptorClose, ec⟩ => stage.pass .closed .released ec
  | ⟨.unopened .data .., _⟩ => none
  | _ => some stage

/-- The stage behind an event; `none` once a call was out of order. -/
def advance (secure : Bool) (flow : Flow) (stage : Option Stage) (event : BoundaryEvent) :
    Option Stage :=
  stage.bind (next secure flow · event)

/-- Where a call that returns leaves its data side: untouched, with an acceptor to which the
server was not to connect, or closed. -/
def Settled (stage : Stage) : Prop := stage = .fresh ∨ stage = .announced ∨ stage = .released

end Stage

abbrev stages (secure : Bool) (flow : Flow) : Monitor boundary (Option Stage) :=
  Monitor.fold (Stage.advance secure flow)

variable {secure : Bool} {flow : Flow} {fuel : Nat}

private abbrev Elsewhere (secure : Bool) (flow : Flow) : Boundary.Query → Prop :=
  Program.Ignored (Stage.advance secure flow)

private theorem elsewhere_streaming (query : Boundary.Query) (streaming : Streaming query) :
    Elsewhere secure flow query := by
  intro stage answer
  cases stage <;> cases streaming <;> rfl

private theorem elsewhere_controlling : Client.Controlling (Elsewhere secure flow) where
  link layer query link := by
    intro stage answer
    cases stage <;> cases link with
    | closing closing => cases closing <;> rfl
    | _ => rfl
  written _ _ stage _ := by cases stage <;> rfl
  missed _ _ stage _ := by cases stage <;> rfl
  requested _ _ stage _ := by cases stage <;> rfl
  heard _ _ stage _ := by cases stage <;> rfl
  switched _ stage _ := by cases stage <;> rfl
  greeted _ _ _ stage _ := by cases stage <;> rfl

private theorem elsewhere_unmoved {kept : Option Stage → Prop} :
    Unmoved (stages secure flow) kept where
  begins stage _ after holds step := by
    have step : after = stage := step.trans (by cases stage <;> rfl)
    exact step ▸ holds
  counts stage _ _ after holds step := by
    have step : after = stage := step.trans (by cases stage <;> rfl)
    exact step ▸ holds
  asks stage _ after holds step := by
    have step : after = stage := step.trans (by cases stage <;> rfl)
    exact step ▸ holds
  ends stage _ after holds step := by
    have step : after = stage := step.trans (by cases stage <;> rfl)
    exact step ▸ holds

namespace DataConnection

open Stage

private theorem connect_stages (endpoint : Endpoint) :
    (connect endpoint).wp (stages secure flow) fuel
      (fun _ after last =>
        after = ⟨⟨.plain, true⟩, false⟩ ∧ last = some (.connected .plain false false))
      (fun _ _ last => last.isSome = true) new (some .fresh) := by
  simp only [connect, onSocket, Program.wp_bind, wp_call]
  intro answer after step
  cases answer with
  | none => exact ⟨rfl, step⟩
  | some ec =>
    have step : after = some .refused := step
    subst after
    simp only [Program.wp_bind, Program.wp_modify, Program.wp_zoom, Socket.wp_close, throwCode,
      Program.wp_raise, setOpen, if_true]
    intro answer after step
    have step : after = some .failed := step
    rw [step]
    rfl

private theorem connectText_stages (ip : Bytes) (port : UInt16) :
    (connectText ip port).wp (stages secure flow) fuel
      (fun _ after last =>
        after = ⟨⟨.plain, true⟩, false⟩ ∧ last = some (.connected .plain false false))
      (fun _ _ last => last.isSome = true) new (some .fresh) := by
  simp only [connectText, Program.wp_bind, wp_call]
  intro answer after step
  have step : after = some .fresh := step
  subst step
  cases answer with
  | ok address => exact connect_stages _
  | error ec => exact rfl

/-- An acceptor that listens at an address that is known. -/
private theorem listen_stages (endpoint : Endpoint) :
    (listen endpoint).wp (stages secure flow) fuel
      (fun _ after last => after = ⟨⟨.plain, false⟩, true⟩ ∧ last = some .listening)
      (fun _ _ last => last.isSome = true) new (some .fresh) := by
  simp only [listen, Program.wp_bind, wp_call, wp_throwIf, Program.wp_modify]
  intro answer opened step
  have step : opened = Stage.pass .fresh .fresh .opened answer := step
  subst step
  cases answer with
  | some ec => exact rfl
  | none =>
    intro answer bound step
    have step : bound = Stage.pass .opened .opened .bound answer := step
    subst step
    cases answer with
    | some ec => exact rfl
    | none =>
      intro answer listening step
      have step : listening = Stage.pass .bound .bound .listening answer := step
      subst step
      cases answer with
      | some ec => exact rfl
      | none => exact ⟨rfl, rfl⟩

private theorem getListenEndpoint_stages (connection : DataConnection) :
    getListenEndpoint.wp (stages secure flow) fuel
      (fun _ after last => after = connection ∧ last = some .announced)
      (fun _ _ last => last.isSome = true) connection (some .listening) := by
  simp only [getListenEndpoint, Program.wp_bind, wp_call]
  intro answer after step
  cases answer with
  | ok endpoint => exact ⟨rfl, step⟩
  | error ec =>
    have step : after = some .failed := step
    rw [step]
    exact rfl

private theorem accept_stages :
    accept.wp (stages secure flow) fuel
      (fun _ after last =>
        after = ⟨⟨.plain, true⟩, true⟩ ∧ last = some (.connected .plain true false))
      (fun _ _ last => last.isSome = true) ⟨⟨.plain, false⟩, true⟩ (some .announced) := by
  simp only [accept, Program.wp_bind, wp_call, wp_throwIf, Program.wp_modify]
  intro answer after step
  have step : after = Stage.pass .announced .announced (.connected .plain true false) answer := step
  subst step
  cases answer with
  | some ec => exact rfl
  | none => exact ⟨rfl, rfl⟩

/-- A stage behind the end of the SSL layer, in front of the end of the TCP layer, and in
front of the close. -/
private inductive Stripped (accepted : Bool) : Stage → Prop where
  | plain : Stripped accepted (.connected .plain accepted drained)
  | ssl : Stripped accepted (.sslDown accepted)

private inductive Resting (accepted : Bool) : Stage → Prop where
  | stripped (stripped : Stripped accepted stage) : Resting accepted stage
  | down : Resting accepted (.down accepted)

private theorem shutdownSsl_stages (layer : Layer) (accepted drained : Bool) :
    shutdownSsl.wp (stages secure flow) fuel
      (fun _ after last => after = ⟨⟨layer, true⟩, accepted⟩ ∧
        ∃ stage, Stripped accepted stage ∧ last = some stage)
      (fun _ _ last => last.isSome = true) ⟨⟨layer, true⟩, accepted⟩
      (some (.connected layer accepted drained)) := by
  cases layer with
  | plain =>
    simp only [shutdownSsl, Program.wp_bind, Program.wp_get, Socket.hasSslSupport]
    exact ⟨rfl, _, .plain, rfl⟩
  | ssl =>
    simp only [shutdownSsl, onSocket, Program.wp_bind, Program.wp_get, Program.wp_zoom,
      Socket.wp_sslShutdown, Socket.hasSslSupport, decide_true, if_true, wp_throwUnless]
    intro answer after step
    have step : after = some (past (.sslDown accepted) .eof answer) := step
    subst step
    cases answer with
    | none => exact ⟨rfl, _, .ssl, rfl⟩
    | some ec =>
      by_cases eof : ec = .eof
      · subst eof
        exact ⟨rfl, _, .ssl, rfl⟩
      · simp only [if_neg eof]
        exact rfl

private theorem shutdownTcp_stages (graceful : Bool) (connection : DataConnection)
    (opened : connection.socket.isOpen = true) (accepted : Bool) (stage : Stage)
    (stripped : Stripped accepted stage) :
    (shutdownTcp graceful).wp (stages secure flow) fuel
      (fun _ after last => after = connection ∧ ∃ stage, Resting accepted stage ∧ last = some stage)
      (fun _ _ last => last.isSome = true) connection (some stage) := by
  cases graceful with
  | false => exact ⟨rfl, stage, .stripped stripped, rfl⟩
  | true =>
    simp only [shutdownTcp, onSocket, Program.wp_bind, Program.wp_zoom, Socket.wp_shutdown, if_true,
      wp_throwUnless, if_pos opened]
    intro answer after step
    have step : after = some (past (.down accepted) .notConnected answer) := by
      cases stripped <;> exact step
    subst step
    cases answer with
    | none => exact ⟨rfl, _, .down, rfl⟩
    | some ec =>
      by_cases tolerated : ec = .notConnected
      · subst tolerated
        exact ⟨rfl, _, .down, rfl⟩
      · simp only [if_neg tolerated]
        exact rfl

private theorem closeSocket_stages (layer : Layer) (accepted : Bool) (stage : Stage)
    (resting : Resting accepted stage) :
    closeSocket.wp (stages secure flow) fuel
      (fun _ after last => after = ⟨⟨layer, false⟩, accepted⟩ ∧ last = some (shut accepted none))
      (fun _ _ last => last.isSome = true) ⟨⟨layer, true⟩, accepted⟩ (some stage) := by
  simp only [closeSocket, onSocket, Program.wp_bind, Program.wp_zoom, Socket.wp_close, if_true,
    wp_throwIf]
  intro answer after step
  have step : after = some (shut accepted answer) := by
    cases resting with
    | stripped stripped => cases stripped <;> exact step
    | down => exact step
  subst step
  cases answer with
  | none => exact ⟨rfl, rfl⟩
  | some ec => exact rfl

/-- Closing a connection in the mode of its stage, whatever it was used for. -/
private theorem disconnect_stages (graceful : Bool) (layer : Layer) (accepted drained : Bool) :
    (disconnect graceful).wp (stages secure flow) fuel (fun _ _ last => last = some .released)
      (fun _ _ last => last.isSome = true) ⟨⟨layer, true⟩, accepted⟩
      (some (.connected layer accepted drained)) := by
  simp only [disconnect, Program.wp_bind]
  refine Program.wp_mono (shutdownSsl_stages layer accepted drained) ?_ fun _ _ _ => id
  intro _ connection last ⟨same, stage, stripped, at_stage⟩
  subst connection last
  refine Program.wp_mono (shutdownTcp_stages graceful _ rfl accepted stage stripped) ?_
    fun _ _ _ => id
  intro _ connection last ⟨same, stage, resting, at_stage⟩
  subst connection last
  refine Program.wp_mono (closeSocket_stages layer accepted stage resting) ?_ fun _ _ _ => id
  intro _ connection last ⟨same, at_stage⟩
  subst connection last
  cases accepted with
  | false => exact rfl
  | true =>
    simp only [closeAcceptor, Program.wp_bind, Program.wp_get, if_true, wp_call,
      Program.wp_modify, wp_throwIf]
    intro answer after step
    have step : after = Stage.pass .closed .closed .released answer := step
    subst step
    cases answer with
    | none => exact rfl
    | some ec => exact rfl

/-- The stage of a transfer that goes on, or that its loop has ended. -/
private def Carries (secure accepted : Bool) (stage : Option Stage) : Prop :=
  ∃ drained, stage = some (.connected (mode secure) accepted drained)

private theorem Carries.isSome {accepted : Bool} {stage : Option Stage}
    (carries : Carries secure accepted stage) : stage.isSome = true := by
  obtain ⟨_, rfl⟩ := carries
  rfl

private theorem streaming_keeps {Stream : Type} {program : Method Stream Value}
    (asks : program.Asks Streaming) (stage : Option Stage) (stream : Stream) :
    program.wp (stages secure flow) fuel (fun _ _ last => last = stage)
      (fun _ _ last => last = stage) stream stage :=
  (asks.mono elsewhere_streaming).ignored fuel stream stage rfl

/-- Payload is received until the server ends it; any other error ends the call. -/
private theorem recv_stages (stream : OutputStream) (callback accepted : Bool) :
    (recv stream callback).wp (stages secure .receives) fuel
      (fun _ after last => after = ⟨⟨mode secure, true⟩, accepted⟩ ∧ Carries secure accepted last)
      (fun _ _ last => last.isSome = true) ⟨⟨mode secure, true⟩, accepted⟩
      (some (.connected (mode secure) accepted false)) := by
  have going (ghost : Option Stage) (same : ghost = some (.connected (mode secure) accepted false)) :
      Carries secure accepted ghost := ⟨false, same⟩
  have receives : Receives (stages secure .receives) fuel callback
      ⟨⟨mode secure, true⟩, accepted⟩
      (fun _ ghost => ghost = some (.connected (mode secure) accepted false))
      (fun _ ec ghost => ghost.isSome = true ∧
        (ec = none ∨ ec = some .eof → Carries secure accepted ghost))
      (fun ghost => ghost.isSome = true) := by
    constructor
    · exact fun _ ghost same => (going ghost same).isSome
    · exact fun _ _ _ _ _ never => Bool.noConfusion never
    · intro _ ghost ec after same _ step
      subst same
      have step : after = some (if ec = .eof then .connected (mode secure) accepted true
          else .failed) := by
        rw [step]
        simp [Stage.advance, Stage.next]
      subst step
      refine ⟨rfl, fun tolerated => ?_⟩
      rcases tolerated with never | eof
      · cases never
      · rw [if_pos (Option.some.inj eof)]
        exact ⟨true, rfl⟩
    · intro stream ghost chunk after same _ step
      subst same
      have step : after = some (.connected (mode secure) accepted false) := by
        rw [step]
        simp [Stage.advance, Stage.next]
      subst step
      refine Program.wp_mono (streaming_keeps (OutputStream.write_streaming _) _ stream) ?_ ?_
      · intro _ _ last same
        refine elsewhere_unmoved.counted same fun ghost same => ?_
        exact ⟨(going ghost same).isSome, fun _ => going ghost same⟩
      · exact fun _ _ last same => (going last same).isSome
  refine receives.recv (fun _ => Carries secure accepted) stream _ ?_ ?_ ?_
  · exact elsewhere_unmoved.framed rfl going
  · exact fun _ _ _ _ ended => ended.1
  · intro stream ec ghost tolerated ended
    refine Program.wp_mono (streaming_keeps OutputStream.flush_streaming ghost stream) ?_ ?_
    · intro _ _ last same
      rw [same]
      exact elsewhere_unmoved.ended (ended.2 tolerated)
    · intro _ _ last same
      rw [same]
      exact ended.1

private theorem send_stages (stream : InputStream) (callback accepted : Bool) :
    (send stream callback).wp (stages secure .sends) fuel
      (fun _ after last => after = ⟨⟨mode secure, true⟩, accepted⟩ ∧ Carries secure accepted last)
      (fun _ _ last => last.isSome = true) ⟨⟨mode secure, true⟩, accepted⟩
      (some (.connected (mode secure) accepted false)) := by
  have going (ghost : Option Stage) (same : ghost = some (.connected (mode secure) accepted false)) :
      Carries secure accepted ghost := ⟨false, same⟩
  have sends : Sends (stages secure .sends) fuel callback ⟨⟨mode secure, true⟩, accepted⟩
      (fun _ ghost => ghost = some (.connected (mode secure) accepted false))
      (fun _ _ ghost => ghost = some (.connected (mode secure) accepted false))
      (fun _ => Carries secure accepted) (fun ghost => ghost.isSome = true) := by
    constructor
    · exact fun _ ghost same => (going ghost same).isSome
    · intro stream ghost same
      refine Program.wp_mono (streaming_keeps (InputStream.read_streaming _) ghost stream) ?_ ?_
      · intro block _ last still
        split
        · exact going last (still.trans same)
        · exact still.trans same
      · exact fun _ _ last still => (going last (still.trans same)).isSome
    · exact fun _ _ _ _ _ _ never => Bool.noConfusion never
    · intro _ _ ghost ec after same _ step
      subst same
      have step : after = some .failed := by
        rw [step]
        simp [Stage.advance, Stage.next]
      rw [step]
      rfl
    · intro _ _ ghost after same _ step
      subst same
      refine elsewhere_unmoved.counted ?_ going
      rw [step]
      simp [Stage.advance, Stage.next]
  refine sends.send (fun _ => Carries secure accepted) stream _ ?_ ?_
  · exact elsewhere_unmoved.framed rfl going
  · exact fun _ _ carries => elsewhere_unmoved.ended carries

end DataConnection

namespace Client

open DataConnection Stage

/-- The client has its context or not, and the data side is at the stage. -/
private def At (secure : Bool) (stage : Stage) (client : Client) (ghost : Option Stage) : Prop :=
  client.sslContext = secure ∧ ghost = some stage

private abbrev Stopped (_ : Client) (ghost : Option Stage) : Prop := ghost.isSome = true

private theorem at_carries : Carries (stages secure flow) (fun client _ => client.sslContext = secure)
    (fun client _ => client.sslContext = secure) fun _ => True :=
  settings_carries fun _ _ same => same

/-- What goes over the control connection leaves the stage as it is. -/
private theorem elsewhere_at {program : Method Client Value} {stage : Stage}
    (asks : program.Asks (Elsewhere secure flow))
    (settings : program.Keeps (stages secure flow) (fun client _ => client.sslContext = secure)
      (fun client _ => client.sslContext = secure)) :
    program.Keeps (stages secure flow) (At secure stage) Stopped := by
  intro fuel client ghost holds
  have still : program.Keeps (stages secure flow) (fun _ => (· = some stage))
      (fun _ => (· = some stage)) := asks.ignored
  refine Program.wp_mono (Program.wp_and (settings fuel client ghost holds.1)
    (still fuel client ghost holds.2)) (fun _ _ _ => id) ?_
  intro _ _ last both
  rw [both.2]
  rfl

private theorem processCommandInto_at (command : Bytes) (replies : Replies) (stage : Stage) :
    (processCommandInto command replies).Keeps (stages secure flow) (At secure stage) Stopped :=
  elsewhere_at (elsewhere_controlling.processCommandInto command replies)
    (at_carries.processCommandInto trivial replies)

/-- What a negotiation has come to. -/
private def Offers (secure : Bool) (negotiated : Option Negotiated) (client : Client)
    (ghost : Option Stage) : Prop :=
  match negotiated with
  | none => ∃ stage, At secure stage client ghost ∧ stage.Settled
  | some ⟨connection, false⟩ =>
    connection = ⟨⟨.plain, true⟩, false⟩ ∧ At secure (.connected .plain false false) client ghost
  | some ⟨connection, true⟩ =>
    connection = ⟨⟨.plain, false⟩, true⟩ ∧ At secure .announced client ghost

private theorem refused_offers {stage : Stage} (settled : stage.Settled) {client : Client}
    {ghost : Option Stage} (holds : At secure stage client ghost) :
    Offers secure none client ghost := ⟨stage, holds, settled⟩

section Negotiations
variable (replies : Replies) (client : Client) (context : client.sslContext = secure)

include context

private theorem negotiateEpsv_stages :
    (negotiateEpsv replies).wp (stages secure flow) fuel (fun out => Offers secure out.1)
      (fun _ => Stopped) client (some .fresh) := by
  simp only [negotiateEpsv, Program.wp_bind]
  refine Program.wp_mono (processCommandInto_at _ replies .fresh fuel client _ ⟨context, rfl⟩) ?_
    fun _ _ _ => id
  intro ⟨reply, replies⟩ client ghost holds
  rw [Program.wp_ite]
  split
  · exact refused_offers (.inl rfl) holds
  · cases tryParseEpsvReply reply with
    | none =>
      rw [holds.2]
      exact rfl
    | some remotePort =>
      have endpoint : (onControl ControlConnection.getRemoteEndpoint).Keeps (stages secure flow)
          (At secure .fresh) Stopped :=
        elsewhere_at (.zoom (.bind (.ask fun stage _ => by cases stage <;> rfl)
          fun _ => valueOrThrow_asks _ _)) at_carries.getRemoteEndpoint
      simp only [Program.wp_bind]
      refine Program.wp_mono (endpoint fuel client ghost holds) ?_ fun _ _ _ => id
      intro remoteEndpoint client ghost ⟨context, same⟩
      subst same
      simp only [Program.wp_on, Program.wp_pure]
      refine Program.wp_mono (connect_stages _) ?_ fun _ _ _ => id
      exact fun _ connection last both => ⟨both.1, context, both.2⟩

private theorem negotiatePasv_stages :
    (negotiatePasv replies).wp (stages secure flow) fuel (fun out => Offers secure out.1)
      (fun _ => Stopped) client (some .fresh) := by
  simp only [negotiatePasv, Program.wp_bind]
  refine Program.wp_mono (processCommandInto_at _ replies .fresh fuel client _ ⟨context, rfl⟩) ?_
    fun _ _ _ => id
  intro ⟨reply, replies⟩ client ghost holds
  rw [Program.wp_ite]
  split
  · exact refused_offers (.inl rfl) holds
  · cases tryParsePasvReply reply with
    | none =>
      rw [holds.2]
      exact rfl
    | some remote =>
      obtain ⟨context, same⟩ := holds
      subst same
      simp only [Program.wp_bind, Program.wp_on, Program.wp_pure]
      refine Program.wp_mono (connectText_stages _ _) ?_ fun _ _ _ => id
      exact fun _ connection last both => ⟨both.1, context, both.2⟩

private theorem negotiateActive_stages (makeEndpointCommand : Endpoint → Bytes) :
    (negotiateActive makeEndpointCommand replies).wp (stages secure flow) fuel
      (fun out => Offers secure out.1) (fun _ => Stopped) client (some .fresh) := by
  have endpoint : (onControl ControlConnection.getLocalEndpoint).Keeps (stages secure flow)
      (At secure .fresh) Stopped :=
    elsewhere_at (.zoom (.bind (.ask fun stage _ => by cases stage <;> rfl)
      fun _ => valueOrThrow_asks _ _)) at_carries.getLocalEndpoint
  simp only [negotiateActive, Program.wp_bind]
  refine Program.wp_mono (endpoint fuel client _ ⟨context, rfl⟩) ?_ fun _ _ _ => id
  intro localEndpoint client ghost ⟨context, same⟩
  subst same
  simp only [Program.wp_on]
  refine Program.wp_mono (listen_stages _) ?_ fun _ _ _ => id
  intro _ connection last ⟨same, at_stage⟩
  subst connection last
  refine Program.wp_mono (getListenEndpoint_stages _) ?_ fun _ _ _ => id
  intro listenEndpoint connection last ⟨same, at_stage⟩
  subst connection last
  refine Program.wp_mono (processCommandInto_at _ replies .announced fuel client _ ⟨context, rfl⟩)
    ?_ fun _ _ _ => id
  intro ⟨reply, replies⟩ client ghost holds
  rw [Program.wp_ite]
  split
  · exact refused_offers (.inr (.inl rfl)) holds
  · exact ⟨rfl, holds⟩

private theorem negotiate_stages :
    (negotiate replies).wp (stages secure flow) fuel (fun out => Offers secure out.1)
      (fun _ => Stopped) client (some .fresh) := by
  simp only [negotiate, Program.wp_bind, Program.wp_get]
  cases client.transferMode <;> cases client.rfc2428Support
  · exact negotiatePasv_stages replies client context
  · exact negotiateEpsv_stages replies client context
  · exact negotiateActive_stages replies client context makePortCommand
  · exact negotiateActive_stages replies client context makeEprtCommand

end Negotiations

/-- What is handed out for the data: a connection in the mode of the client, or nothing. -/
private def Hands (secure : Bool) (connection : Option DataConnection) (client : Client)
    (ghost : Option Stage) : Prop :=
  match connection with
  | none => ∃ stage, At secure stage client ghost ∧ stage.Settled
  | some connection => ∃ accepted, connection = ⟨⟨mode secure, true⟩, accepted⟩ ∧
      At secure (.connected (mode secure) accepted false) client ghost

private theorem readyConnection_stages (client : Client) (context : client.sslContext = secure)
    (accepted : Bool) :
    (readyConnection ⟨⟨.plain, true⟩, accepted⟩).wp (stages secure flow) fuel
      (fun connection => Hands secure (some connection)) (fun _ => Stopped) client
      (some (.connected .plain accepted false)) := by
  simp only [readyConnection, Program.wp_bind, Program.wp_get, Program.wp_ite, Program.wp_pure]
  cases secure with
  | false =>
    rw [if_neg (by simp [context])]
    exact ⟨accepted, rfl, context, rfl⟩
  | true =>
    rw [if_pos context]
    simp only [sslHandshakeDataConnection, DataConnection.setSsl, DataConnection.sslHandshake,
      onSocket, Program.wp_bind, Program.wp_on, Program.wp_zoom, Socket.wp_setSsl,
      Socket.wp_sslHandshake, wp_throwIf, Program.wp_pure, if_true]
    intro _ after step answer last handshake
    have step : after = some (.upgraded accepted) := step
    subst step
    cases answer with
    | none => exact ⟨accepted, rfl, context, handshake⟩
    | some ec =>
      have handshake : last = some .failed := handshake
      rw [handshake]
      exact rfl

private theorem answerMain_stages (negotiated : Negotiated) (reply : Reply) (replies : Replies)
    (client : Client) (ghost : Option Stage) (offers : Offers secure (some negotiated) client ghost) :
    (answerMain negotiated reply replies).wp (stages secure flow) fuel
      (fun out => Hands secure out.1) (fun _ => Stopped) client ghost := by
  obtain ⟨connection, accepting⟩ := negotiated
  cases accepting with
  | true =>
    obtain ⟨rfl, context, rfl⟩ := offers
    simp only [answerMain, if_true, Program.wp_ite]
    split
    · exact ⟨.announced, ⟨context, rfl⟩, .inr (.inl rfl)⟩
    · simp only [Program.wp_bind, Program.wp_on, Program.wp_pure]
      refine Program.wp_mono accept_stages ?_ fun _ _ _ => id
      intro _ connection last ⟨same, at_stage⟩
      subst connection last
      exact readyConnection_stages client context true
  | false =>
    obtain ⟨rfl, context, rfl⟩ := offers
    simp only [answerMain, Bool.false_eq_true, if_false, Program.wp_ite]
    split
    · simp only [Program.wp_bind, Program.wp_on, Program.wp_pure]
      refine Program.wp_mono (disconnect_stages true .plain false false) ?_ fun _ _ _ => id
      exact fun _ _ last released => ⟨.released, ⟨context, released⟩, .inr (.inr rfl)⟩
    · simp only [Program.wp_bind, Program.wp_pure]
      exact readyConnection_stages client context false

private theorem createDataConnection_stages (command : Bytes) (replies : Replies) (client : Client)
    (context : client.sslContext = secure) :
    (createDataConnection command replies).wp (stages secure flow) fuel
      (fun out => Hands secure out.1) (fun _ => Stopped) client (some .fresh) := by
  rw [createDataConnection_eq, Program.wp_bind]
  refine Program.wp_mono (negotiate_stages replies client context) ?_ fun _ _ _ => id
  intro ⟨negotiated, replies⟩ client ghost offers
  cases negotiated with
  | none => exact offers
  | some negotiated =>
    have kept : (processCommandInto command replies).Keeps (stages secure flow)
        (Offers secure (some negotiated)) Stopped := by
      obtain ⟨connection, accepting⟩ := negotiated
      intro fuel client ghost offers
      cases accepting with
      | true =>
        refine Program.wp_mono (processCommandInto_at command replies .announced fuel client ghost
          offers.2) (fun _ _ _ holds => ⟨offers.1, holds⟩) fun _ _ _ => id
      | false =>
        refine Program.wp_mono (processCommandInto_at command replies (.connected .plain false false)
          fuel client ghost offers.2) (fun _ _ _ holds => ⟨offers.1, holds⟩) fun _ _ _ => id
    simp only [openMain, Program.wp_bind]
    refine Program.wp_mono (kept fuel client ghost offers) ?_ fun _ _ _ => id
    exact fun out client ghost offers => answerMain_stages negotiated out.1 out.2 client ghost offers

/-- What follows the data closes the connection. -/
private theorem finishTransfer_stages (accepted drained callback : Bool) (replies : Replies)
    (client : Client) (context : client.sslContext = secure) :
    (finishTransfer ⟨⟨mode secure, true⟩, accepted⟩ callback replies).wp (stages secure flow) fuel
      (fun _ _ last => last = some .released) (fun _ => Stopped) client
      (some (.connected (mode secure) accepted drained)) := by
  have rest (cancelled : Bool) :
      (endTransfer ⟨⟨mode secure, true⟩, accepted⟩ replies cancelled).wp (stages secure flow) fuel
        (fun _ _ last => last = some .released) (fun _ => Stopped) client
        (some (.connected (mode secure) accepted drained)) := by
    have closes (graceful : Bool) := @disconnect_stages secure flow fuel graceful (mode secure)
      accepted drained
    cases cancelled with
    | true =>
      have abort : (processAbort replies).Keeps (stages secure flow)
          (At secure (.connected (mode secure) accepted drained)) Stopped :=
        elsewhere_at (elsewhere_controlling.processAbort replies)
          (at_carries.processAbort (fun _ _ => trivial) replies)
      simp only [endTransfer, if_true, Program.wp_bind]
      refine Program.wp_mono (abort fuel client _ ⟨context, rfl⟩) ?_ fun _ _ _ => id
      intro _ client ghost ⟨_, same⟩
      subst same
      simp only [Program.wp_on, Program.wp_pure]
      exact closes false
    | false =>
      simp only [endTransfer, Bool.false_eq_true, if_false, Program.wp_bind, Program.wp_on]
      refine Program.wp_mono (closes true) ?_ fun _ _ _ => id
      intro _ _ last released
      subst released
      have received : (recvInto replies).Keeps (stages secure flow) (At secure .released) Stopped :=
        elsewhere_at (elsewhere_controlling.recvInto replies) (at_carries.recvInto replies)
      refine Program.wp_mono (received fuel client _ ⟨context, rfl⟩) ?_ fun _ _ _ => id
      exact fun _ _ _ holds => holds.2
  rw [finishTransfer_eq]
  cases callback with
  | false => exact rest false
  | true =>
    simp only [if_true, Program.wp_bind, wp_call]
    intro cancelled after step
    have step : after = some (.connected (mode secure) accepted drained) := step
    rw [step]
    exact rest cancelled

/-- A transfer with its data phase and its end. -/
private theorem overData_stages {Moved Value : Type} {command : Bytes}
    {moves : Client → Method DataConnection Moved} {refusal : Replies → Value}
    {rest : Replies → Moved × DataConnection → Method Client Value}
    (data : ∀ after accepted, (moves after).wp (stages secure flow) fuel
      (fun _ connection last => connection = ⟨⟨mode secure, true⟩, accepted⟩ ∧
        DataConnection.Carries secure accepted last)
      (fun _ _ last => last.isSome = true) ⟨⟨mode secure, true⟩, accepted⟩
      (some (.connected (mode secure) accepted false)))
    (ends : ∀ replies moved accepted drained client, client.sslContext = secure →
      (rest replies (moved, ⟨⟨mode secure, true⟩, accepted⟩)).wp (stages secure flow) fuel
        (fun _ _ last => last = some .released) (fun _ => Stopped) client
        (some (.connected (mode secure) accepted drained)))
    (client : Client) (context : client.sslContext = secure) :
    (overData command moves refusal rest).wp (stages secure flow) fuel
      (fun _ _ last => ∃ stage, last = some stage ∧ stage.Settled) (fun _ => Stopped) client
      (some .fresh) := by
  simp only [overData, Program.wp_bind]
  refine Program.wp_mono (createDataConnection_stages command _ client context) ?_ fun _ _ _ => id
  intro ⟨connection, replies⟩ client ghost hands
  cases connection with
  | none =>
    obtain ⟨stage, holds, settled⟩ := hands
    exact ⟨stage, holds.2, settled⟩
  | some connection =>
    obtain ⟨accepted, rfl, context, rfl⟩ := hands
    simp only [Program.wp_bind, Program.wp_get, Program.wp_on]
    refine Program.wp_mono (data client accepted) ?_ fun _ _ _ => id
    intro moved connection last ⟨same, drained, at_stage⟩
    subst connection last
    refine Program.wp_mono (ends replies moved accepted drained client context) ?_ fun _ _ _ => id
    exact fun _ _ last released => ⟨.released, released, .inr (.inr rfl)⟩

private theorem finishFileList_stages (replies : Replies) (stream : OutputStream)
    (accepted drained : Bool) (client : Client) (context : client.sslContext = secure) :
    (finishFileList replies (stream, ⟨⟨mode secure, true⟩, accepted⟩)).wp (stages secure flow) fuel
      (fun _ _ last => last = some .released) (fun _ => Stopped) client
      (some (.connected (mode secure) accepted drained)) := by
  simp only [finishFileList, notifyFileList, Program.wp_bind, Program.wp_get, wp_call,
    Program.wp_pure]
  intro _ after step
  have step : after = some (.connected (mode secure) accepted drained) := step
  subst step
  exact finishTransfer_stages accepted drained false replies client context

private theorem invoke_stages (operation : Operation) (client : Client) :
    (invoke operation).wp (stages client.sslContext operation.flow) fuel
      (fun _ _ last => ∃ stage, last = some stage ∧ stage.Settled) (fun _ => Stopped) client
      (some .fresh) := by
  by_cases plain : operation.mainCommand = none
  · have still : (invoke operation).Keeps (stages client.sslContext operation.flow)
        (fun _ => (· = some .fresh)) (fun _ => (· = some .fresh)) :=
      (elsewhere_controlling.invoke operation plain).ignored
    refine Program.wp_mono (still fuel client _ rfl) ?_ ?_
    · exact fun _ _ last same => ⟨.fresh, same, .inl rfl⟩
    · intro _ _ last same
      rw [same]
      exact rfl
  · cases operation with
    | downloadFile path callback =>
      simp only [invoke, processDownload_eq, Program.wp_bind, Program.wp_pure]
      exact overData_stages (fun _ accepted => recv_stages _ callback accepted)
        (fun replies _ accepted drained client context =>
          finishTransfer_stages accepted drained callback replies client context) client rfl
    | uploadFile path uploadUnique callback =>
      simp only [invoke, processUpload_eq, Program.wp_bind, Program.wp_pure]
      exact overData_stages (fun _ accepted => send_stages _ callback accepted)
        (fun replies _ accepted drained client context =>
          finishTransfer_stages accepted drained callback replies client context) client rfl
    | appendFile path callback =>
      simp only [invoke, processUpload_eq, Program.wp_bind, Program.wp_pure]
      exact overData_stages (fun _ accepted => send_stages _ callback accepted)
        (fun replies _ accepted drained client context =>
          finishTransfer_stages accepted drained callback replies client context) client rfl
    | getFileList path onlyNames =>
      simp only [invoke, getFileList_eq, Program.wp_bind, Program.wp_pure]
      exact overData_stages (fun _ accepted => recv_stages _ false accepted)
        (fun replies stream accepted drained client context =>
          finishFileList_stages replies stream accepted drained client context) client rfl
    | _ => exact absurd rfl plain

/-- In every operation, whatever the server and the network do, no call on the data side is out
of order: payload crosses an established connection only, in the mode of the client and in
the direction of the operation. Behind a call that failed, or the end of the closing, nothing
follows, except that the socket is closed behind a connect that was refused, and that the
closing goes on behind the errors that it tolerates. An operation that returns has closed its
connection. -/
theorem data_channel_in_order {World : Type} (host : Host boundary World) (fuel : Nat)
    (operation : Operation) (client : Client) (world : World) :
    let record := perform invoke host fuel operation client world
    ∃ stage, record.events.foldl (Stage.advance client.sslContext operation.flow) (some .fresh) =
        some stage ∧ (record.Normal → stage.Settled) := by
  intro record
  have drives := Monitor.fold_drives (Stage.advance client.sslContext operation.flow)
    (some .fresh) record.events
  rcases Program.wp_run (invoke_stages operation client) host world drives with
    ⟨_, _, stage, same, settled⟩ | ⟨_, stopped, kept⟩
  · exact ⟨stage, same, fun _ => settled⟩
  · obtain ⟨stage, same⟩ := Option.isSome_iff_exists.mp kept
    refine ⟨stage, same, fun normal => ?_⟩
    obtain ⟨_, returned⟩ := normal
    cases returned.symm.trans stopped

end Client

end LibFtp
