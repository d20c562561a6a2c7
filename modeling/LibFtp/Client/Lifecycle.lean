import LibFtp.Client.Course
import LibFtp.Detail.Script
import LibFtp.Effect.Temporal

/-! The life of the control connection over a whole session. Its socket is used only
between the call that opens it and the one that closes it, and not once a 421 reply was
heard; `is_connected` tells where it stands. Nothing in the client looks at the socket before
a command is sent, so a command may find it closed, but nothing else ever does. -/

namespace LibFtp

open Effect

/-- Calls that need an open control socket. -/
def UsesControl : Boundary.Query → Prop
  | .write .control .. | .readSome .control .. | .handshake .control | .sslShutdown .control
  | .shutdown .control | .close .control => True
  | _ => False

/-- The observers hear of a 421 reply. -/
def Tells421 (event : BoundaryEvent) : Prop :=
  ∃ observers reply, reply.code = 421 ∧ event.query = .notifyReply observers reply

/-- The observers were told of a 421 reply, and the socket was not opened since. -/
def HungUp : List BoundaryEvent → Prop := Since Tells421 (·.query = .connectControl)

/-- The same two facts, followed event by event. -/
structure Station where
  live : Bool
  hung : Bool
  deriving DecidableEq, Repr

namespace Station

def start : Station := ⟨false, false⟩

def advance (station : Station) : BoundaryEvent → Station
  | ⟨.connectControl, _⟩ => ⟨true, false⟩
  | ⟨.close .control, _⟩ => { station with live := false }
  | ⟨.notifyReply _ reply, _⟩ => { station with hung := station.hung || reply.code = 421 }
  | _ => station

/-- The socket is used where it is there to be used, and finding it closed happens to a
command only. -/
def Serves (station : Station) (event : BoundaryEvent) : Prop :=
  (UsesControl event.query → station.live = true ∧ station.hung = false) ∧
    ∀ layer request, event.query = .unopened .control layer request →
      station.live = false ∧ ∃ data, request = .write data

private theorem foldl_hung (events : List BoundaryEvent) :
    (events.foldl advance start).hung = true ↔ HungUp events := by
  apply foldl_since (fun station : Station => station.hung = true) advance start nofun
  intro station event
  obtain ⟨query, answer⟩ := event
  cases query with
  | close channel => cases channel <;> simp [advance, Tells421]
  | notifyReply observers reply =>
    have told : Tells421 ⟨.notifyReply observers reply, answer⟩ ↔ reply.code = 421 := by
      constructor
      · rintro ⟨_, other, code, same⟩
        obtain ⟨_, rfl⟩ := Boundary.Query.notifyReply.inj same
        exact code
      · exact fun code => ⟨observers, reply, code, rfl⟩
    rw [told]
    simp [advance, or_comm]
  | _ => simp [advance, Tells421]

/-- A question that the station takes no notice of. -/
def Ignores (query : Boundary.Query) : Prop :=
  ¬ UsesControl query ∧ (∀ layer request, query ≠ .unopened .control layer request) ∧
    ∀ station answer, advance station ⟨query, answer⟩ = station

private theorem ignores_quiet (quiet : Quiet query) : Ignores query := by
  cases quiet <;> exact ⟨id, nofun, fun _ _ => rfl⟩

/-- A socket is open where the station says so, and closed where the server has hung up. -/
def Follows (isOpen : Bool) (station : Station) : Prop :=
  isOpen = station.live ∧ (station.hung = true → isOpen = false)

private abbrev stations : Monitor boundary (Station × Prop) := watch advance Serves

private theorem ignored {isOpen : Bool} {query : Boundary.Query} {answer : Boundary.Answer query}
    {moment after : Station × Prop} (holds : Follows isOpen moment.1 ∧ moment.2)
    (step : stations.step moment ⟨query, answer⟩ after) (ignores : Ignores query) :
    Follows isOpen after.1 ∧ after.2 := by
  have step : after = watching advance Serves moment ⟨query, answer⟩ := step
  subst step
  refine ⟨?_, holds.2, fun uses => absurd uses ignores.1,
    fun layer request same => absurd same (ignores.2.1 layer request)⟩
  rw [watching, ignores.2.2]
  exact holds.1

end Station

namespace Socket

private abbrev Stationed : Socket → Station × Prop → Prop :=
  Watched fun socket station => Station.Follows socket.isOpen station

/-- The socket is open besides. -/
private def Serving (socket : Socket) (moment : Station × Prop) : Prop :=
  Stationed socket moment ∧ socket.isOpen = true

private theorem serves_standing {socket : Socket} {query : Boundary.Query}
    {answer : Boundary.Answer query} {moment : Station × Prop} (standing : Serving socket moment)
    (uses : UsesControl query) : moment.1.Serves ⟨query, answer⟩ := by
  obtain ⟨⟨⟨live, hung⟩, _⟩, isOpen⟩ := standing
  refine ⟨fun _ => ⟨live.symm.trans isOpen, ?_⟩, ?_⟩
  · cases gone : moment.1.hung with
    | true => exact absurd (hung gone) (by simp [isOpen])
    | false => rfl
  · rintro layer request rfl
    exact uses.elim

private theorem uses_standing {socket : Socket} {query : Boundary.Query}
    {answer : Boundary.Answer query} {moment after : Station × Prop}
    (standing : Serving socket moment)
    (step : Station.stations.step moment ⟨query, answer⟩ after) (uses : UsesControl query)
    (still : ∀ station, Station.advance station ⟨query, answer⟩ = station) :
    Serving socket after := by
  have step : after = watching Station.advance Station.Serves moment ⟨query, answer⟩ := step
  subst step
  refine ⟨⟨?_, standing.1.2, serves_standing standing uses⟩, standing.2⟩
  rw [watching, still]
  exact standing.1.1

private theorem readSome_standing (maxSize : Nat) :
    (readSome .control maxSize).Keeps Station.stations Serving Serving := by
  intro fuel socket moment standing
  simp only [wp_readSome, if_pos standing.2]
  exact fun answer after step => uses_standing standing step trivial fun _ => rfl

private theorem shutdown_standing :
    (shutdown .control).Keeps Station.stations Serving Serving := by
  intro fuel socket moment standing
  simp only [wp_shutdown, if_pos standing.2]
  exact fun answer after step => uses_standing standing step trivial fun _ => rfl

private theorem sslShutdown_standing :
    (sslShutdown .control).Keeps Station.stations Serving Serving := by
  intro fuel socket moment standing
  simp only [wp_sslShutdown]
  split
  · exact fun answer after step => uses_standing standing step trivial fun _ => rfl
  · exact standing

private theorem sslHandshake_standing :
    (sslHandshake .control).Keeps Station.stations Serving Serving := by
  intro fuel socket moment standing
  simp only [wp_sslHandshake]
  split
  · exact fun answer after step => uses_standing standing step trivial fun _ => rfl
  · exact standing

private theorem setSsl_standing (layer : Layer) :
    (setSsl .control layer).Keeps Station.stations Serving Serving := by
  intro fuel socket moment standing
  simp only [wp_setSsl]
  exact fun answer after step =>
    ⟨Station.ignored standing.1 step ⟨id, nofun, fun _ _ => rfl⟩, standing.2⟩

/-- Closing leaves a socket that nothing reads from. -/
private theorem close_closes (fuel : Nat) :
    Program.Triple Station.stations fuel Serving (close .control)
      (fun _ socket moment => Stationed socket moment ∧ socket.isOpen = false) (fun _ => Stationed) := by
  intro socket moment standing
  simp only [wp_close, if_pos standing.2]
  intro answer after step
  have step : after = watching Station.advance Station.Serves moment ⟨.close .control, answer⟩ := step
  subst step
  exact ⟨⟨⟨rfl, fun _ => rfl⟩, standing.1.2, serves_standing standing trivial⟩, trivial⟩

/-- A write that succeeds has found the socket open. -/
private theorem write_stationed (data : Bytes) (fuel : Nat) :
    Program.Triple Station.stations fuel Stationed (write .control data)
      (fun ec socket moment => Stationed socket moment ∧ (ec = none → socket.isOpen = true))
      (fun _ => Stationed) := by
  intro socket moment stationed
  simp only [wp_write]
  split
  · rename_i isOpen
    intro answer after step
    have standing := uses_standing ⟨stationed, isOpen⟩ step trivial fun _ => rfl
    exact ⟨standing.1, fun _ => isOpen⟩
  · rename_i closed
    intro ec after step
    have step : after = watching Station.advance Station.Serves moment
      ⟨.unopened .control socket.layer (.write data), ec⟩ := step
    subst step
    refine ⟨⟨stationed.1, stationed.2, False.elim, ?_⟩, nofun⟩
    rintro layer request same
    injection same with _ _ request
    exact ⟨stationed.1.1.symm.trans (by simpa using closed), data, request.symm⟩

end Socket

namespace ControlConnection

private abbrev Stationed (connection : ControlConnection) : Station × Prop → Prop :=
  connection.socket.Stationed

private abbrev Serving (connection : ControlConnection) : Station × Prop → Prop :=
  connection.socket.Serving

private theorem onSocket_standing {program : Method Socket Value}
    (keeps : program.Keeps Station.stations Socket.Serving Socket.Serving) :
    (onSocket program).Keeps Station.stations Serving Stationed :=
  .zoom (fun _ => keeps.mono fun _ _ standing => standing.1) fun _ => rfl

/-- The closing steps behind an open socket. -/
private theorem closeSteps_closes (fuel : Nat) :
    Program.Triple Station.stations fuel Serving closeSteps
      (fun _ connection moment => Stationed connection moment ∧ connection.socket.isOpen = false)
      (fun _ => Stationed) := by
  have stops (connection : ControlConnection) (moment : Station × Prop)
      (standing : Serving connection moment) : Stationed connection moment := standing.1
  have ssl : shutdownSsl.Keeps Station.stations Serving Stationed :=
    .bind .get fun _ => .ite (.bind (onSocket_standing Socket.sslShutdown_standing)
      fun _ => throwUnless_keeps stops _ _ _) (.pure _)
  have tcp : shutdownTcp.Keeps Station.stations Serving Stationed :=
    .bind (onSocket_standing Socket.shutdown_standing) fun _ => throwUnless_keeps stops _ _ _
  refine (ssl fuel).bind fun _ => (tcp fuel).bind fun _ => ?_
  intro connection moment standing
  simp only [closeSocket, onSocket, Program.wp_bind, Program.wp_zoom, wp_throwIf]
  refine (Socket.close_closes fuel).apply standing ?_ fun _ _ _ => id
  intro ec socket after closed
  cases ec with
  | none => exact closed
  | some ec => exact closed.1

private theorem recv_standing (fuel : Nat) :
    Program.Triple Station.stations fuel Serving recv
      (fun reply connection moment =>
        if reply.code = 421 then Stationed connection moment ∧ connection.socket.isOpen = false
        else Serving connection moment)
      (fun _ => Stationed) :=
  recv_triple Socket.readSome_standing (fun _ _ standing => standing.1) closeSteps_closes fuel

private theorem send_stationed (command : Bytes) (fuel : Nat) :
    Program.Triple Station.stations fuel Stationed (send command) (fun _ => Serving)
      (fun _ => Stationed) := by
  intro connection moment stationed
  simp only [send, onSocket, Program.wp_bind, Program.wp_zoom, wp_throwIf]
  refine (Socket.write_stationed _ fuel).apply stationed ?_ fun _ _ _ => id
  rintro ec socket after ⟨stationed, opened⟩
  cases ec with
  | none => exact ⟨stationed, opened rfl⟩
  | some ec => exact stationed

/-- Opening sets the station anew; a failed call is followed by the closing of the socket. -/
private theorem connect_stationed (hostname : Bytes) (port : UInt16) (fuel : Nat) :
    Program.Triple Station.stations fuel Stationed (connect hostname port) (fun _ => Serving)
      (fun _ => Stationed) := by
  intro connection moment stationed
  simp only [connect, Program.wp_bind, wp_call, wp_throwIf]
  intro resolved between step
  have ignores : Station.Ignores (.resolve hostname port) := by
    refine ⟨id, ?_, fun _ _ => rfl⟩
    rintro _ _ ⟨⟩
  have stationed := Station.ignored stationed step ignores
  cases resolved with
  | some ec => exact stationed
  | none =>
    intro connected opened step
    have step : opened = watching Station.advance Station.Serves between ⟨.connectControl, connected⟩ :=
      step
    subst step
    have opens (layer : Layer) : Socket.Serving ⟨layer, true⟩
        (watching Station.advance Station.Serves between ⟨.connectControl, connected⟩) := by
      refine ⟨⟨⟨rfl, fun hung => absurd hung Bool.false_ne_true⟩, stationed.2, False.elim, ?_⟩, rfl⟩
      rintro _ _ ⟨⟩
    cases connected with
    | none => exact opens _
    | some ec =>
      simp only [Program.wp_bind, Program.wp_modify, onSocket, Program.wp_zoom, wp_throwCode]
      exact (Socket.close_closes fuel).apply (opens _) (fun _ _ _ closed => closed.1)
        fun _ _ _ => id

private theorem setSsl_stationed (layer : Layer) :
    (setSsl layer).Keeps Station.stations Stationed Stationed := by
  intro fuel connection moment stationed
  simp only [setSsl, onSocket, Program.wp_zoom, Socket.wp_setSsl]
  have ignores : Station.Ignores (.setSsl .control layer) := by
    refine ⟨id, ?_, fun _ _ => rfl⟩
    rintro _ _ ⟨⟩
  exact fun answer after step => Station.ignored stationed step ignores

private theorem sslHandshake_standing :
    sslHandshake.Keeps Station.stations Serving Stationed :=
  .bind (onSocket_standing Socket.sslHandshake_standing) fun _ =>
    throwIf_keeps (fun _ _ standing => standing.1) _ _

private theorem sslShutdown_standing :
    sslShutdown.Keeps Station.stations Serving Stationed :=
  .bind (onSocket_standing Socket.sslShutdown_standing) fun _ =>
    throwIf_keeps (fun _ _ standing => standing.1) _ _

end ControlConnection

namespace Client

private abbrev Stationed (client : Client) : Station × Prop → Prop := client.control.Stationed

private abbrev Serving (client : Client) : Station × Prop → Prop := client.control.Serving

/-- What a reply leaves: an open socket, unless it is a 421. -/
private def Replying (reply : Reply) (client : Client) (moment : Station × Prop) : Prop :=
  Stationed client moment ∧ (reply.code ≠ 421 → client.control.socket.isOpen = true)

private theorem Replying.standing (answered : Replying reply client moment)
    (positive : reply.isNegative = false) : Serving client moment :=
  ⟨answered.1, answered.2 (reply.not_unavailable positive)⟩

private theorem onControl_triple {pre : ControlConnection → Station × Prop → Prop}
    {post : Value → ControlConnection → Station × Prop → Prop} {program : Method ControlConnection Value}
    {fuel : Nat} (triple : Program.Triple Station.stations fuel pre program post
      (fun _ => ControlConnection.Stationed)) :
    Program.Triple Station.stations fuel (fun client => pre client.control) (onControl program)
      (fun value client => post value client.control) (fun _ => Stationed) := by
  intro client moment holds
  simp only [onControl, Program.wp_zoom]
  exact triple.apply holds (fun _ _ _ => id) fun _ _ _ => id

/-- A 421 reply has closed the socket before the observers hear of it. -/
private theorem recv_answered (fuel : Nat) :
    Program.Triple Station.stations fuel Serving recv Replying (fun _ => Stationed) := by
  refine (onControl_triple (ControlConnection.recv_standing fuel)).bind fun reply => ?_
  intro client moment received
  simp only [notifyReply, Program.wp_bind, Program.wp_get, wp_call, Program.wp_pure]
  intro answer after step
  have step : after = watching Station.advance Station.Serves moment
    ⟨.notifyReply client.observers reply, answer⟩ := step
  subst step
  have serves : moment.1.Serves ⟨.notifyReply client.observers reply, answer⟩ := by
    refine ⟨False.elim, ?_⟩
    rintro _ _ ⟨⟩
  split at received
  · rename_i unavailable
    obtain ⟨stationed, closed⟩ := received
    exact ⟨⟨⟨stationed.1.1, fun _ => closed⟩, stationed.2, serves⟩,
      fun available => absurd unavailable available⟩
  · rename_i available
    refine ⟨⟨⟨received.1.1.1, fun hung => ?_⟩, received.1.2, serves⟩, fun _ => received.2⟩
    have hung : (moment.1.hung || decide (reply.code = 421)) = true := hung
    rw [decide_eq_false available, Bool.or_false] at hung
    exact received.1.1.2 hung

private theorem recvInto_answered (replies : Replies) (fuel : Nat) :
    Program.Triple Station.stations fuel Serving (recvInto replies)
      (fun answer => Replying answer.1) (fun _ => Stationed) := by
  rw [recvInto_eq]
  exact (recv_answered fuel).bind fun _ _ _ answered => answered

private theorem processCommand_answered (command : Bytes) (fuel : Nat) :
    Program.Triple Station.stations fuel Stationed (processCommand command) Replying
      (fun _ => Stationed) := by
  have announced : (notifyRequest command).Keeps Station.stations Stationed Stationed :=
    .bind .get fun client => .ask fun state moment answer after stationed step =>
      Station.ignored stationed step ⟨id, nofun, fun _ _ => rfl⟩
  have sent : Program.Triple Station.stations fuel Stationed (send command) (fun _ => Serving)
      (fun _ => Stationed) :=
    (announced fuel).bind fun _ => onControl_triple (ControlConnection.send_stationed command fuel)
  exact sent.bind fun _ => recv_answered fuel

private theorem processCommandInto_answered (command : Bytes) (replies : Replies) (fuel : Nat) :
    Program.Triple Station.stations fuel Stationed (processCommandInto command replies)
      (fun answer => Replying answer.1) (fun _ => Stationed) := by
  rw [processCommandInto_eq]
  exact (processCommand_answered command fuel).bind fun _ _ _ answered => answered

private theorem stationed_converses :
    Converses Station.stations Stationed Stationed (fun _ => True) where
  stops _ _ stationed := stationed
  quiet _ _ _ _ _ quiet stationed step := Station.ignored stationed step (Station.ignores_quiet quiet)
  exchange command _ fuel _ _ stationed :=
    (processCommand_answered command fuel).apply stationed (fun _ _ _ answered => answered.1)
      fun _ _ _ => id

section Transfers

private theorem quiet_standing {query : Boundary.Query} {answer : Boundary.Answer query}
    {client : Client} {moment after : Station × Prop} (quiet : Quiet query)
    (standing : Serving client moment) (step : Station.stations.step moment ⟨query, answer⟩ after) :
    Serving client after :=
  ⟨Station.ignored standing.1 step (Station.ignores_quiet quiet), standing.2⟩

private theorem closed_standing (connection : DataConnection) (graceful : Bool) :
    Program.Keeps Station.stations Serving Stationed
      (Program.on connection (DataConnection.disconnect graceful) : Method Client _) := by
  refine .on fun client => ?_
  have kept : (DataConnection.disconnect graceful).Keeps Station.stations
      (fun _ => Serving client) (fun _ => Serving client) :=
    (DataConnection.disconnect_quiet graceful).keeps fun _ _ _ quiet standing step =>
      quiet_standing quiet standing step
  exact kept.mono fun _ _ standing => standing.1

/-- The reply behind an ABOR or behind the data comes over the socket that the main command
was accepted on. -/
private theorem finishTransfer_stationed (connection : DataConnection) (callback : Bool)
    (replies : Replies) (fuel : Nat) :
    Program.Triple Station.stations fuel Serving (finishTransfer connection callback replies)
      (fun _ => Stationed) (fun _ => Stationed) := by
  have aborted : Program.Triple Station.stations fuel Serving (processAbort replies)
      (fun _ => Stationed) (fun _ => Stationed) := by
    have issued : Program.Triple Station.stations fuel Serving
        (processCommandInto (makeCommand "ABOR" none) replies) (fun answer => Replying answer.1)
        (fun _ => Stationed) :=
      fun client moment standing =>
        processCommandInto_answered (makeCommand "ABOR" none) replies fuel client moment standing.1
    refine issued.bind ?_
    intro answer client moment answered
    simp only [Program.wp_ite, Program.wp_pure]
    split
    · rename_i code
      refine (recvInto_answered answer.2 fuel).apply ⟨answered.1, answered.2 ?_⟩
        (fun _ _ _ further => further.1) fun _ _ _ => id
      rw [code]
      decide
    · exact answered.1
  have closed : Program.Keeps Station.stations Stationed Stationed
      (Program.on connection (DataConnection.disconnect false) : Method Client _) :=
    stationed_converses.on (DataConnection.disconnect_quiet false)
  have rest (cancelled : Bool) : Program.Triple Station.stations fuel Serving
      (endTransfer connection replies cancelled) (fun _ => Stationed) (fun _ => Stationed) := by
    cases cancelled with
    | true => exact aborted.bind fun _ => (closed fuel).bind fun _ _ _ stationed => stationed
    | false =>
      exact (closed_standing connection true fuel).bind fun _ =>
        (recvInto_answered replies fuel).bind fun _ _ _ answered => answered.1
  rw [finishTransfer_eq]
  cases callback with
  | false => exact rest false
  | true =>
    have asked : (call .isCancelled : Method Client Bool).Keeps Station.stations Serving Stationed :=
      .ask fun _ _ _ _ standing step => quiet_standing .isCancelled standing step
    exact (asked fuel).bind rest

private theorem standing_course (main : Bytes) (callback : Bool) :
    Course Station.stations main callback Stationed Serving Stationed Stationed Stationed where
  negotiates := stationed_converses.negotiate fun _ _ => trivial
  declines _ _ stationed := stationed
  exchanges replies fuel client moment stationed := by
    refine (processCommandInto_answered main replies fuel).apply stationed ?_ fun _ _ _ => id
    intro answer state after answered
    split
    · exact answered.1
    · rename_i positive
      exact answered.standing (by simpa using positive)
  refuses connection := stationed_converses.on (DataConnection.disconnect_quiet true)
  concludes _ _ stationed := stationed
  works _ _ _ _ _ working standing step := quiet_standing working.quiet standing step
  stops _ _ standing := standing.1
  finishes connection replies fuel := finishTransfer_stationed connection callback replies fuel

end Transfers

section Link

private theorem greet_stationed (hostname : Bytes) (port : UInt16) (fuel : Nat) :
    Program.Triple Station.stations fuel Stationed (greet hostname port)
      (fun _ => Stationed) (fun _ => Stationed) := by
  have announced : (notifyConnected hostname port).Keeps Station.stations Serving Stationed :=
    .bind .get fun _ => .ask fun _ _ _ _ standing step => quiet_standing .notifyConnected standing step
  refine (onControl_triple (ControlConnection.connect_stationed hostname port fuel)).bind fun _ =>
    (announced fuel).bind fun _ => (recvInto_answered _ fuel).bind fun answer => ?_
  intro client moment answered
  simp only [secure, Program.wp_ite, Program.wp_bind, Program.wp_get, Program.wp_pure]
  split
  · exact answered.1
  · beta_reduce
    split
    · refine (processCommandInto_answered _ _ fuel).apply answered.1 ?_ fun _ _ _ => id
      intro agreed state after answered
      split
      · exact answered.1
      · rename_i positive
        have standing := answered.standing (by simpa using positive)
        have switched : (ControlConnection.setSsl .ssl).Keeps Station.stations
            ControlConnection.Serving ControlConnection.Stationed :=
          ControlConnection.onSocket_standing (Socket.setSsl_standing .ssl)
        refine (onControl_triple (switched fuel)).apply standing ?_ fun _ _ _ => id
        intro _ state after standing
        exact (onControl_triple (ControlConnection.sslHandshake_standing fuel)).apply standing
          (fun _ _ _ standing => standing.1) fun _ _ _ => id
    · exact answered.1

private theorem connect_stationed (hostname : Bytes) (port : UInt16) (username : Option Bytes)
    (password : Bytes) (fuel : Nat) :
    Program.Triple Station.stations fuel Stationed (connect hostname port username password)
      (fun _ => Stationed) (fun _ => Stationed) := by
  rw [connect_eq]
  refine (greet_stationed hostname port fuel).bind fun outcome => ?_
  cases outcome with
  | error replies => exact fun _ _ stationed => stationed
  | ok replies =>
    exact stationed_converses.connectLogin username password replies (fun _ _ _ _ => trivial) fuel

private theorem logout_stationed (fuel : Nat) :
    Program.Triple Station.stations fuel Stationed logout (fun _ => Stationed) (fun _ => Stationed) := by
  refine (processCommand_answered _ fuel).bind fun reply => ?_
  intro client moment answered
  simp only [Program.wp_bind, Program.wp_get, Program.wp_ite, Program.wp_pure]
  split
  · rename_i positive
    refine (onControl_triple (ControlConnection.sslShutdown_standing fuel)).apply
      (answered.standing (reply.not_negative positive.1)) ?_ fun _ _ _ => id
    intro _ state after standing
    exact (onControl_triple (ControlConnection.setSsl_stationed .plain fuel)).apply standing.1
      (fun _ _ _ => id) fun _ _ _ => id
  · exact answered.1

/-- What is open is closed; what is closed is not closed again. -/
private theorem disconnect_stationed (graceful : Bool) (fuel : Nat) :
    Program.Triple Station.stations fuel Stationed (disconnect graceful) (fun _ => Stationed)
      (fun _ => Stationed) := by
  have quit : (quit graceful).Keeps Station.stations Stationed Stationed := by
    cases graceful with
    | true => exact .bind (stationed_converses.exchange _ trivial) fun _ => .pure _
    | false => exact .pure none
  have closed : Program.Triple Station.stations fuel Stationed closeControl (fun _ => Stationed)
      (fun _ => Stationed) := by
    intro client moment stationed
    simp only [closeControl, Program.wp_bind, Program.wp_get, Program.wp_ite, Program.wp_pure]
    split
    · rename_i isOpen
      exact (onControl_triple (ControlConnection.closeSteps_closes fuel)).apply ⟨stationed, isOpen⟩
        (fun _ _ _ closed => closed.1) fun _ _ _ => id
    · exact stationed
  have reset : resetSsl.Keeps Station.stations Stationed Stationed :=
    .bind .get fun _ => .ite
      (fun fuel => onControl_triple (ControlConnection.setSsl_stationed .plain fuel)) (.pure _)
  exact (quit fuel).bind fun _ => closed.bind fun _ => (reset fuel).bind fun _ _ _ stationed => stationed

end Link

private theorem invoke_stationed (operation : Operation) :
    (invoke operation).Keeps Station.stations Stationed Stationed := by
  have setting (change : Client → Client) (output : Output)
      (same : ∀ client, (change client).control = client.control) :
      Program.Keeps Station.stations Stationed Stationed (do
        Program.modify change
        return output : Method Client Output) :=
    .bind (.modify fun client _ stationed => by
      rw [Stationed, same]
      exact stationed) fun _ => .pure _
  by_cases stays : operation.Reconnects
  · cases operation with
    | connect hostname port username password =>
      exact .bind (connect_stationed hostname port username password) fun _ => .pure _
    | logout => exact .bind logout_stationed fun _ => .pure _
    | disconnect graceful => exact .bind (disconnect_stationed graceful) fun _ => .pure _
    | _ => exact stays.elim
  by_cases keeps : operation.Adjusts
  · cases operation with
    | setTransferType type =>
      have assigned : (Program.modify fun client : Client => { client with transferType := type } :
          Method Client Unit).Keeps Station.stations Stationed Stationed :=
        .modify fun _ _ stationed => stationed
      exact .bind (.bind (stationed_converses.exchange _ trivial) fun _ =>
        .ite (.bind assigned fun _ => .pure _) (.pure _)) fun _ => .pure _
    | setTransferMode | addObserver | removeObserver | setRfc2428Support =>
      exact setting _ _ fun _ => rfl
    | _ => exact keeps.elim
  refine stationed_converses.invoke operation stays keeps (fun _ _ => trivial) fun transfers fuel => ?_
  obtain ⟨main, same⟩ : ∃ main, operation.mainCommand = some main := by
    cases operation with
    | downloadFile | uploadFile | appendFile | getFileList => exact ⟨_, rfl⟩
    | _ => exact transfers.elim
  exact (standing_course main operation.callback).invoke operation same rfl fuel

section Unserved

/-- What goes on without a server: an active client listens for one before it sends a command,
and a socket may become a plain one again. -/
inductive Offline : Boundary.Query → Prop where
  | localEndpoint : Offline .localEndpoint
  | acceptorOpen : Offline .acceptorOpen
  | acceptorBind : Offline (.acceptorBind endpoint)
  | acceptorListen : Offline .acceptorListen
  | acceptorEndpoint : Offline .acceptorEndpoint
  | setSsl : Offline (.setSsl .control .plain)

/-- An operation without a connection exchanges nothing with a server. Its first command finds the
socket closed, and the error of that is what it throws; it returns only where it has no command. -/
def Unserved (operation : Operation) (outcome : Except (Stop FtpException) Output)
    (events : List BoundaryEvent) : Prop :=
  ∃ setup, (∀ event ∈ setup, Offline event.query) ∧
    (events = setup ∧ (outcome.isOk = true → ∀ command, ¬ operation.Issues command) ∨
      ∃ observers command layer ec, operation.Issues command ∧
        events = setup ++ [⟨.notifyRequest observers command, ()⟩,
          ⟨.unopened .control layer (.write (command ++ crlf)), ec⟩] ∧
        outcome = .error (.raised (.ofCode ec "Cannot send data over control connection")))

private abbrev Missed (operation : Operation) (stop : Stop FtpException) (_ : Client)
    (after : List BoundaryEvent) : Prop :=
  Unserved operation (.error stop) after

private def Untouched (client state : Client) (past : List BoundaryEvent) : Prop :=
  state = client ∧ ∀ event ∈ past, Offline event.query

private theorem Untouched.missed {operation : Operation} {stop : Stop FtpException}
    (set : Untouched client state past) : Missed operation stop state past :=
  ⟨past, set.2, .inl ⟨rfl, fun returned => absurd returned Bool.false_ne_true⟩⟩

variable {fuel : Nat} {client state : Client} {past : List BoundaryEvent} {operation : Operation}
  (closed : client.control.socket.isOpen = false) (set : Untouched client state past)

include closed set

end Unserved

section Sessions
variable (mode : TransferMode) (type : TransferType) (context support : Bool)
  (host : Host boundary World) (fuel : Nat) (world : World) (operations : List Operation)

private theorem initially_follows :
    Station.Follows (Client.new mode type context support).control.socket.isOpen .start :=
  ⟨rfl, fun _ => rfl⟩

/-- Once the observers have heard of a 421 reply, nothing is sent or read over the control
connection until the next connect, and the client is not connected. -/
theorem unavailable_is_final :
    (∀ front event back,
      exchanged (session invoke host fuel operations (Client.new mode type context support) world) =
        front ++ event :: back → HungUp front → ¬ UsesControl event.query) ∧
    ∀ front record back,
      session invoke host fuel operations (Client.new mode type context support) world =
        front ++ record :: back →
      HungUp (exchanged (front ++ [record])) → record.after.control.isConnected = false := by
  have initial := initially_follows mode type context support
  constructor
  · intro front event back split hungUp uses
    have serves := session_always host fuel invoke_stationed operations _ world _ initial
      front event back split
    exact absurd ((Station.foldl_hung front).mpr hungUp) (by simp [(serves.1 uses).2])
  · intro front record back split hungUp
    have after := (session_watched host fuel invoke_stationed operations _ world _ initial
      front record back split).2
    exact after.2 ((Station.foldl_hung _).mpr hungUp)

end Sessions

section Cases

/-- A server that greets the client and answers its first command with 421. -/
private def leaving :=
  session invoke Script.host 9 [.connect (text "h") 21 none [], .sendNoop]
    (Client.new .passive .binary false true) (Script.ofReplies [text "220 r\r\n", text "421 u\r\n"])

theorem unavailable_is_final_noop :
    ∃ front record, leaving = front ++ [record] ∧ HungUp (exchanged (front ++ [record])) ∧
      record.after.control.isConnected = false := by
  have some' : leaving.getLast?.isSome = true := by decide +kernel
  obtain ⟨record, last⟩ := Option.isSome_iff_exists.mp some'
  have split : leaving.dropLast ++ [record] = leaving := List.dropLast_append_getLast? record last
  have parts : exchanged leaving = (exchanged leaving).take 10 ++
      [⟨.notifyReply [] ⟨421, text "421 u"⟩, ()⟩] := by
    decide +kernel
  have hungUp : HungUp (exchanged (leaving.dropLast ++ [record])) := by
    rw [split, parts]
    exact ⟨_, _, [], rfl, ⟨_, _, rfl, rfl⟩, fun _ member => absurd member List.not_mem_nil⟩
  refine ⟨_, record, split.symm, hungUp, ?_⟩
  exact (unavailable_is_final .passive .binary false true Script.host 9 _ _).2 _ record []
    split.symm hungUp

end Cases

end Client

end LibFtp
