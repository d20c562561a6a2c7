import LibFtp.Detail.DataConnection
import LibFtp.Effect.Footprint

/-! The data side asks nothing of the control connection, whatever the transfer
does and however it ends. -/

namespace LibFtp

open Effect

/-- Questions that concern neither the control connection nor the replies read
from it. -/
inductive Quiet : Boundary.Query → Prop where
  | connectData : Quiet (.connectData endpoint)
  | makeAddress : Quiet (.makeAddress ip)
  | setSsl : Quiet (.setSsl .data layer)
  | handshake : Quiet (.handshake .data)
  | sslShutdown : Quiet (.sslShutdown .data)
  | shutdown : Quiet (.shutdown .data)
  | close : Quiet (.close .data)
  | write : Quiet (.write .data layer data)
  | readSome : Quiet (.readSome .data layer maxSize)
  | unopened : Quiet (.unopened .data layer request)
  | localEndpoint : Quiet .localEndpoint
  | remoteEndpoint : Quiet .remoteEndpoint
  | acceptorOpen : Quiet .acceptorOpen
  | acceptorBind : Quiet (.acceptorBind endpoint)
  | acceptorListen : Quiet .acceptorListen
  | acceptorEndpoint : Quiet .acceptorEndpoint
  | acceptorAccept : Quiet .acceptorAccept
  | acceptorClose : Quiet .acceptorClose
  | notifyConnected : Quiet (.notifyConnected observers hostname port)
  | notifyFileList : Quiet (.notifyFileList observers fileList)
  | transferBegin : Quiet .transferBegin
  | transferNotify : Quiet (.transferNotify size)
  | transferEnd : Quiet .transferEnd
  | isCancelled : Quiet .isCancelled
  | sourceRead : Quiet (.sourceRead maxSize)
  | sinkWrite : Quiet (.sinkWrite data)
  | sinkFlush : Quiet .sinkFlush

/-- The questions around a data connection: nothing is transferred by them, and neither a
connection nor the handshake comes about. -/
inductive Plumbing : Boundary.Query → Prop where
  | makeAddress : Plumbing (.makeAddress ip)
  | setSsl : Plumbing (.setSsl .data layer)
  | sslShutdown : Plumbing (.sslShutdown .data)
  | shutdown : Plumbing (.shutdown .data)
  | close : Plumbing (.close .data)
  | missedShutdown : Plumbing (.unopened .data layer .shutdown)
  | missedClose : Plumbing (.unopened .data layer .close)
  | acceptorOpen : Plumbing .acceptorOpen
  | acceptorBind : Plumbing (.acceptorBind endpoint)
  | acceptorListen : Plumbing .acceptorListen
  | acceptorEndpoint : Plumbing .acceptorEndpoint
  | acceptorClose : Plumbing .acceptorClose

theorem Plumbing.quiet {query : Boundary.Query} (plumbing : Plumbing query) : Quiet query := by
  cases plumbing <;> constructor

/-- The questions among them that go to the caller's streams. -/
inductive Streaming : Boundary.Query → Prop where
  | sourceRead : Streaming (.sourceRead maxSize)
  | sinkWrite : Streaming (.sinkWrite data)
  | sinkFlush : Streaming .sinkFlush

theorem Streaming.quiet {query : Boundary.Query} (streaming : Streaming query) : Quiet query := by
  cases streaming <;> constructor

/-- The questions of the two transfer loops. The callback is only asked where there is one. -/
inductive Transferring (callback : Bool) : Boundary.Query → Prop where
  | write : Transferring callback (.write .data layer data)
  | readSome : Transferring callback (.readSome .data layer maxSize)
  | missedWrite : Transferring callback (.unopened .data layer (.write data))
  | missedRead : Transferring callback (.unopened .data layer (.readSome maxSize))
  | transferBegin : Transferring callback .transferBegin
  | transferNotify : Transferring callback (.transferNotify size)
  | transferEnd : Transferring callback .transferEnd
  | isCancelled (given : callback = true) : Transferring callback .isCancelled
  | streaming (streaming : Streaming query) : Transferring callback query

theorem Transferring.quiet {callback : Bool} {query : Boundary.Query}
    (transferring : Transferring callback query) : Quiet query := by
  cases transferring with
  | streaming streaming => exact streaming.quiet
  | _ => constructor

section Calls
variable {State Value : Type} {allowed : Boundary.Query → Prop}

theorem call_plumbing {query : Boundary.Query} (plumbing : Plumbing query) :
    (call query : Method State _).Asks Plumbing :=
  .ask plumbing

theorem throwIf_asks (ec : Option ErrorCode) (fmt : String) :
    (throwIf ec fmt : Method State Unit).Asks allowed := by
  cases ec with
  | none => exact .pure ()
  | some ec => exact .raise _

theorem throwUnless_asks (tolerated : ErrorCode) (ec : Option ErrorCode) (fmt : String) :
    (throwUnless tolerated ec fmt : Method State Unit).Asks allowed := by
  cases ec with
  | none => exact .pure ()
  | some ec => exact .ite (.pure ()) (.raise _)

theorem valueOrThrow_asks (answer : Except ErrorCode Value) (fmt : String) :
    (valueOrThrow answer fmt : Method State Value).Asks allowed := by
  cases answer with
  | ok value => exact .pure value
  | error ec => exact .raise _

end Calls

namespace Socket

theorem setSsl_plumbing (layer : Layer) : (setSsl .data layer).Asks Plumbing :=
  .bind (call_plumbing .setSsl) fun _ => .modify _

theorem sslHandshake_asks {allowed : Boundary.Query → Prop} (asked : allowed (.handshake .data)) :
    (sslHandshake .data).Asks allowed := by
  refine .bind .get fun socket => ?_
  cases socket.layer with
  | plain => exact .pure none
  | ssl => exact .ask asked

theorem sslShutdown_plumbing : (sslShutdown .data).Asks Plumbing := by
  refine .bind .get fun socket => ?_
  cases socket.layer with
  | plain => exact .pure none
  | ssl => exact call_plumbing .sslShutdown

theorem write_transferring (callback : Bool) (data : Bytes) :
    (write .data data).Asks (Transferring callback) :=
  .bind .get fun _ => .ite (.ask .write) (.bind (.ask .missedWrite) fun _ => .pure _)

theorem readSome_transferring (callback : Bool) (maxSize : Nat) :
    (readSome .data maxSize).Asks (Transferring callback) :=
  .bind .get fun _ => .ite (.ask .readSome) (.bind (.ask .missedRead) fun _ => .pure _)

theorem shutdown_plumbing : (shutdown .data).Asks Plumbing :=
  .bind .get fun _ => .ite (call_plumbing .shutdown)
    (.bind (call_plumbing .missedShutdown) fun _ => .pure _)

theorem close_plumbing : (close .data).Asks Plumbing :=
  .bind .get fun _ => .ite
    (.bind (call_plumbing .close) fun _ => .bind (.modify _) fun _ => .pure _)
    (.bind (call_plumbing .missedClose) fun _ => .pure _)

end Socket

section Streams
variable {State : Type}

theorem readSource_streaming (maxSize : Nat) :
    (readSource maxSize : Method State Bytes).Asks Streaming := by
  refine .bind (Program.Asks.ask .sourceRead) fun answer => ?_
  cases answer with
  | ok block => exact .pure _
  | error error => exact .raise _

/-- One round of the loop, with what was read from the source. -/
private theorem fillRound_streaming {size fuel : Nat}
    (later : ∀ buf, (AsciiIstream.fill size fuel buf).Asks Streaming) (stream : AsciiIstream)
    (buf internal : Bytes) : Program.Asks Streaming (do
      if internal.isEmpty then return buf
      else
        let (stream, buf) := AsciiIstream.convert size internal stream buf
        Program.modify fun _ => stream
        AsciiIstream.fill size fuel buf) :=
  .ite (.pure _) (.bind (.modify _) fun _ => later _)

private theorem fill_streaming (size fuel : Nat) (buf : Bytes) :
    (AsciiIstream.fill size fuel buf).Asks Streaming := by
  induction fuel generalizing buf with
  | zero => exact .spin
  | succ fuel ih =>
    refine .ite (.pure _) (.bind .get fun stream => ?_)
    split
    · exact .bind (readSource_streaming _) (fillRound_streaming ih stream buf)
    · exact .bind (.pure _) (fillRound_streaming ih stream buf)

theorem InputStream.read_streaming (size : Nat) : (InputStream.read size).Asks Streaming := by
  refine .bind .get fun stream => ?_
  cases stream with
  | binary => exact readSource_streaming size
  | ascii stream =>
    refine .bind (.on (.bind .get fun _ => ?_)) fun _ => .bind (.modify _) fun _ => .pure _
    exact .ite (.bind (.modify _) fun _ => .loop fun fuel => fill_streaming size fuel _)
      (.loop fun fuel => fill_streaming size fuel _)

private theorem destinationWrite_streaming (data : Bytes) :
    (Destination.write data).Asks Streaming := by
  refine .bind .get fun dst => ?_
  cases dst with
  | memory content => exact .modify _
  | caller =>
    refine .bind (Program.Asks.ask .sinkWrite) fun answer => ?_
    cases answer with
    | none => exact .pure _
    | some error => exact .raise _

private theorem destinationFlush_streaming : Destination.flush.Asks Streaming := by
  refine .bind .get fun dst => ?_
  cases dst with
  | memory content => exact .pure _
  | caller =>
    refine .bind (Program.Asks.ask .sinkFlush) fun answer => ?_
    cases answer with
    | none => exact .pure _
    | some error => exact .raise _

theorem OutputStream.write_streaming (data : Bytes) : (OutputStream.write data).Asks Streaming := by
  refine .bind .get fun stream => ?_
  cases stream.type with
  | binary => exact .zoom (destinationWrite_streaming _)
  | ascii => exact .bind (.modify _) fun _ => .zoom (destinationWrite_streaming _)

theorem OutputStream.flush_streaming : OutputStream.flush.Asks Streaming := by
  refine .bind .get fun stream => ?_
  have rest : (onDestination Destination.flush).Asks Streaming := .zoom destinationFlush_streaming
  split
  · exact .bind (.zoom (destinationWrite_streaming _)) fun _ => .bind (.modify _) fun _ => rest
  · exact rest

end Streams

namespace DataConnection

theorem connect_asks {allowed : Boundary.Query → Prop} (endpoint : Endpoint)
    (opens : allowed (.connectData endpoint)) (plumbing : ∀ query, Plumbing query → allowed query) :
    (connect endpoint).Asks allowed := by
  refine .bind (.ask opens) fun answer => ?_
  cases answer with
  | none => exact .modify _
  | some ec =>
    exact .bind (.modify _) fun _ => .bind (.zoom (Socket.close_plumbing.mono plumbing)) fun _ =>
      .raise _

theorem connectText_asks {allowed : Boundary.Query → Prop} (ip : Bytes) (port : UInt16)
    (opens : ∀ endpoint, allowed (.connectData endpoint))
    (plumbing : ∀ query, Plumbing query → allowed query) :
    (connectText ip port).Asks allowed :=
  .bind (.ask (plumbing _ .makeAddress)) fun _ => .bind (valueOrThrow_asks _ _) fun _ =>
    connect_asks _ (opens _) plumbing

theorem listen_plumbing (endpoint : Endpoint) : (listen endpoint).Asks Plumbing :=
  .bind (call_plumbing .acceptorOpen) fun _ => .bind (throwIf_asks _ _) fun _ =>
    .bind (.modify _) fun _ => .bind (call_plumbing .acceptorBind) fun _ =>
      .bind (throwIf_asks _ _) fun _ => .bind (call_plumbing .acceptorListen) fun _ =>
        throwIf_asks _ _

theorem getListenEndpoint_plumbing : getListenEndpoint.Asks Plumbing :=
  .bind (call_plumbing .acceptorEndpoint) fun _ => valueOrThrow_asks _ _

theorem accept_asks {allowed : Boundary.Query → Prop} (asked : allowed .acceptorAccept) :
    accept.Asks allowed :=
  .bind (.ask asked) fun _ => .bind (throwIf_asks _ _) fun _ => .modify _

theorem setSsl_plumbing (layer : Layer) : (setSsl layer).Asks Plumbing := by
  unfold setSsl onSocket
  exact .zoom (Socket.setSsl_plumbing layer)

theorem connect_quiet (endpoint : Endpoint) : (connect endpoint).Asks Quiet :=
  connect_asks endpoint .connectData fun _ => Plumbing.quiet

theorem connectText_quiet (ip : Bytes) (port : UInt16) : (connectText ip port).Asks Quiet :=
  connectText_asks ip port (fun _ => .connectData) fun _ => Plumbing.quiet

theorem listen_quiet (endpoint : Endpoint) : (listen endpoint).Asks Quiet :=
  (listen_plumbing endpoint).mono fun _ => Plumbing.quiet

theorem getListenEndpoint_quiet : getListenEndpoint.Asks Quiet :=
  getListenEndpoint_plumbing.mono fun _ => Plumbing.quiet

theorem accept_quiet : accept.Asks Quiet :=
  accept_asks .acceptorAccept

theorem setSsl_quiet (layer : Layer) : (setSsl layer).Asks Quiet :=
  (setSsl_plumbing layer).mono fun _ => Plumbing.quiet

theorem sslHandshake_asks {allowed : Boundary.Query → Prop} (asked : allowed (.handshake .data)) :
    sslHandshake.Asks allowed :=
  .bind (.zoom (Socket.sslHandshake_asks asked)) fun _ => throwIf_asks _ _

theorem sslHandshake_quiet : sslHandshake.Asks Quiet := sslHandshake_asks .handshake

private theorem sendLoop_transferring (callback : Bool) (fuel : Nat) (stream : InputStream) :
    (sendLoop callback fuel stream).Asks (Transferring callback) := by
  induction fuel generalizing stream with
  | zero => exact .spin
  | succ fuel ih =>
    refine .bind (.on ((InputStream.read_streaming _).mono fun _ => .streaming)) ?_
    intro ⟨buf, stream⟩
    refine .ite (.pure _) ?_
    refine .bind (.zoom (Socket.write_transferring callback buf)) fun _ =>
      .bind (throwIf_asks _ _) fun _ => ?_
    cases callback with
    | true =>
      exact .bind (.ask .transferNotify) fun _ => .bind (.ask (.isCancelled rfl)) fun _ =>
        .ite (.pure _) (ih stream)
    | false => exact ih stream

theorem send_transferring (stream : InputStream) (callback : Bool) :
    (send stream callback).Asks (Transferring callback) := by
  have loop : (Program.loop fun fuel => sendLoop callback fuel stream).Asks (Transferring callback) :=
    .loop fun fuel => sendLoop_transferring callback fuel stream
  cases callback with
  | false => exact loop
  | true =>
    refine .bind (.ask (.isCancelled rfl)) fun _ => .ite (.pure _) ?_
    exact .bind (.ask .transferBegin) fun _ => .bind loop fun _ => .bind (.ask .transferEnd) fun _ =>
      .pure _

theorem send_quiet (stream : InputStream) (callback : Bool) : (send stream callback).Asks Quiet :=
  (send_transferring stream callback).mono fun _ => Transferring.quiet

private theorem recvLoop_transferring (callback : Bool) (fuel : Nat) (stream : OutputStream) :
    (recvLoop callback fuel stream).Asks (Transferring callback) := by
  induction fuel generalizing stream with
  | zero => exact .spin
  | succ fuel ih =>
    refine .bind (.zoom (Socket.readSome_transferring callback _)) fun answer => ?_
    cases answer with
    | error ec => exact .pure _
    | ok chunk =>
      refine .bind (.on ((OutputStream.write_streaming _).mono fun _ => .streaming)) ?_
      intro ⟨_, stream⟩
      cases callback with
      | true =>
        exact .bind (.ask .transferNotify) fun _ => .bind (.ask (.isCancelled rfl)) fun _ =>
          .ite (.pure _) (ih stream)
      | false => exact ih stream

private theorem recvTail_transferring (callback : Bool) (stream : OutputStream)
    (ec : Option ErrorCode) : (recvTail stream ec).Asks (Transferring callback) :=
  .bind (throwUnless_asks _ _ _) fun _ => .bind
    (.on (OutputStream.flush_streaming.mono fun _ => .streaming)) fun _ => .pure _

theorem recv_transferring (stream : OutputStream) (callback : Bool) :
    (recv stream callback).Asks (Transferring callback) := by
  have loop : (Program.loop fun fuel => recvLoop callback fuel stream).Asks (Transferring callback) :=
    .loop fun fuel => recvLoop_transferring callback fuel stream
  cases callback with
  | false => exact .bind loop fun ⟨stream, ec⟩ => recvTail_transferring false stream ec
  | true =>
    refine .bind (.ask (.isCancelled rfl)) fun _ => .ite (.pure _) ?_
    exact .bind (.ask .transferBegin) fun _ => .bind loop fun ⟨stream, ec⟩ =>
      .bind (recvTail_transferring true stream ec) fun _ => .bind (.ask .transferEnd) fun _ => .pure _

theorem recv_quiet (stream : OutputStream) (callback : Bool) : (recv stream callback).Asks Quiet :=
  (recv_transferring stream callback).mono fun _ => Transferring.quiet

private theorem shutdownSsl_plumbing : shutdownSsl.Asks Plumbing :=
  .bind .get fun _ => .ite
    (.bind (.zoom Socket.sslShutdown_plumbing) fun _ => throwUnless_asks _ _ _) (.pure _)

private theorem shutdownTcp_plumbing (graceful : Bool) : (shutdownTcp graceful).Asks Plumbing :=
  .ite (.bind (.zoom Socket.shutdown_plumbing) fun _ => throwUnless_asks _ _ _) (.pure _)

private theorem closeSocket_plumbing : closeSocket.Asks Plumbing :=
  .bind (.zoom Socket.close_plumbing) fun _ => throwIf_asks _ _

private theorem closeAcceptor_plumbing : closeAcceptor.Asks Plumbing :=
  .bind .get fun _ => .ite
    (.bind (call_plumbing .acceptorClose) fun _ => .bind (.modify _) fun _ => throwIf_asks _ _)
    (.pure _)

theorem disconnect_plumbing (graceful : Bool) : (disconnect graceful).Asks Plumbing :=
  .bind shutdownSsl_plumbing fun _ => .bind (shutdownTcp_plumbing graceful) fun _ =>
    .bind closeSocket_plumbing fun _ => closeAcceptor_plumbing

theorem disconnect_quiet (graceful : Bool) : (disconnect graceful).Asks Quiet :=
  (disconnect_plumbing graceful).mono fun _ => Plumbing.quiet

end DataConnection

end LibFtp
