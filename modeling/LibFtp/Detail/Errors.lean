import LibFtp.Detail.ControlConnection
import LibFtp.Detail.DataConnection
import LibFtp.Effect.Causes

/-! Where exceptions come from. One with an error code names the call that has reported the
code; the others quote what could not be parsed, or are those of the caller's streams. The
control connection is left out: what it reads is looked at where it is read. -/

namespace LibFtp

open Effect

/-- The error code that a call has reported. -/
def reported : BoundaryEvent → Option ErrorCode
  | ⟨.resolve .., ec⟩ | ⟨.connectControl, ec⟩ | ⟨.connectData _, ec⟩ => ec
  | ⟨.handshake _, ec⟩ | ⟨.sslShutdown _, ec⟩ | ⟨.shutdown _, ec⟩ | ⟨.close _, ec⟩ => ec
  | ⟨.write .., ec⟩ | ⟨.acceptorOpen, ec⟩ | ⟨.acceptorBind _, ec⟩ | ⟨.acceptorListen, ec⟩ => ec
  | ⟨.acceptorAccept, ec⟩ | ⟨.acceptorClose, ec⟩ => ec
  | ⟨.makeAddress _, .error ec⟩ | ⟨.readSome .., .error ec⟩ | ⟨.localEndpoint, .error ec⟩ => some ec
  | ⟨.remoteEndpoint, .error ec⟩ | ⟨.acceptorEndpoint, .error ec⟩ => some ec
  | ⟨.unopened _ _ (.write _), ec⟩ | ⟨.unopened _ _ (.readSome _), ec⟩ => some ec
  | ⟨.unopened _ _ .shutdown, _⟩ => some .badDescriptor
  | _ => none

/-- What a stream of the caller has thrown. -/
def thrown : BoundaryEvent → Option FtpException
  | ⟨.sourceRead _, .error error⟩ => some error
  | ⟨.sinkWrite _, error⟩ | ⟨.sinkFlush, error⟩ => error
  | _ => none

/-- What exceptions say of a call that failed. -/
def complaints : Boundary.Query → List String
  | .resolve .. | .connectControl => ["Cannot open control connection"]
  | .handshake _ => ["Cannot perform SSL/TLS handshake"]
  | .sslShutdown .control => ["Cannot perform SSL/TLS shutdown", "Cannot close control connection"]
  | .shutdown .control | .close .control => ["Cannot close control connection"]
  | .write .control .. => ["Cannot send data over control connection"]
  | .readSome .control .. => ["Cannot receive data over control connection"]
  | .localEndpoint => ["Cannot get local endpoint"]
  | .remoteEndpoint => ["Cannot get remote endpoint"]
  | .makeAddress _ => ["Cannot get IP address"]
  | .connectData _ => ["Cannot open data connection"]
  | .acceptorOpen => ["Cannot open socket acceptor"]
  | .acceptorBind _ => ["Cannot bind socket acceptor"]
  | .acceptorListen => ["Cannot listen socket acceptor"]
  | .acceptorEndpoint => ["Cannot get listen endpoint"]
  | .acceptorAccept => ["Cannot accept data connection"]
  | .write .data .. => ["Cannot send data over data connection"]
  | .readSome .data .. => ["Cannot receive data over data connection"]
  | .sslShutdown .data | .shutdown .data | .close .data | .acceptorClose =>
    ["Cannot close data connection"]
  | .unopened .control _ (.write _) => ["Cannot send data over control connection"]
  | .unopened .control _ (.readSome _) => ["Cannot receive data over control connection"]
  | .unopened .control _ .shutdown => ["Cannot close control connection"]
  | .unopened .data _ (.write _) => ["Cannot send data over data connection"]
  | .unopened .data _ (.readSome _) => ["Cannot receive data over data connection"]
  | .unopened .data _ .shutdown => ["Cannot close data connection"]
  | _ => []

/-- A call has failed, and exceptions say so of it. -/
def Failure (events : List BoundaryEvent) (ec : ErrorCode) (fmt : String) : Prop :=
  ∃ event ∈ events, reported event = some ec ∧ fmt ∈ complaints event.query

theorem Failure.mono {ec : ErrorCode} {fmt : String} (failure : Failure events ec fmt)
    (longer : events ⊆ others) : Failure others ec fmt := by
  obtain ⟨event, member, reports, names⟩ := failure
  exact ⟨event, longer member, reports, names⟩

/-- What counts as the cause of an exception, wherever else exceptions may come from. -/
structure Traced (cause : List BoundaryEvent → FtpException → Prop) : Prop where
  failure : ∀ events ec fmt, Failure events ec fmt → cause events (.ofCode ec fmt)
  thrown : ∀ events event error, event ∈ events → thrown event = some error → cause events error

/-- The query reads from the control connection. -/
def ReadsControl : Boundary.Query → Prop
  | .readSome .control .. => True
  | _ => False

/-- What is kept does not depend on anything but what the control connection has read. -/
def Detached (kept : List BoundaryEvent → Prop) : Prop :=
  ∀ past event, ¬ ReadsControl event.query → kept past → kept (past ++ [event])

/-- Every exception of the program has a cause. -/
def Honest (kept : State → List BoundaryEvent → Prop)
    (cause : List BoundaryEvent → FtpException → Prop) (program : Method State Value) : Prop :=
  ∀ past, program.Accounts kept cause past fun _ _ => True

variable {State Part Other Value : Type} {cause : List BoundaryEvent → FtpException → Prop}
  {past : List BoundaryEvent}

namespace Honest
variable {kept : State → List BoundaryEvent → Prop}

theorem pure (value : Value) : Honest kept cause (pure value : Method State Value) :=
  fun _ => .pure trivial

theorem spin : Honest kept cause (Program.spin : Method State Value) := fun _ => .spin

theorem get : Honest kept cause (Program.get : Method State State) := fun _ => .get

theorem modify {change : State → State}
    (still : ∀ state events, kept state events → kept (change state) events) :
    Honest kept cause (Program.modify change) :=
  fun _ => .modify still

theorem call {query : Boundary.Query} (apart : ¬ ReadsControl query)
    (detached : ∀ state, Detached (kept state)) : Honest kept cause (call query : Method State _) :=
  fun past => .ask (fun state answer => detached state past ⟨query, answer⟩ apart) fun _ => trivial

theorem bind {first : Method State Other} {rest : Other → Method State Value}
    (head : Honest kept cause first) (tail : ∀ value, Honest kept cause (rest value)) :
    Honest kept cause (first >>= rest) :=
  fun past => (head past).bind fun value after _ _ => tail value after

theorem ite {condition : Prop} [Decidable condition] {yes no : Method State Value}
    (left : Honest kept cause yes) (right : Honest kept cause no) :
    Honest kept cause (if condition then yes else no) :=
  fun past => .ite (fun _ => left past) fun _ => right past

theorem loop {body : Nat → Method State Value} (honest : ∀ fuel, Honest kept cause (body fuel)) :
    Honest kept cause (Program.loop body) := fun past => .loop fun fuel => honest fuel past

theorem zoom {view : State → Part} {put : State → Part → State} {program : Method Part Value}
    (honest : ∀ state, Honest (fun part => kept (put state part)) cause program)
    (same : ∀ state, put state (view state) = state) :
    Honest kept cause (Program.zoom view put program) :=
  fun past => .zoom (fun state => honest state past) same

theorem on {object : Part} {program : Method Part Value}
    (honest : ∀ state, Honest (fun _ => kept state) cause program) :
    Honest kept cause (Program.on object program : Method State _) :=
  fun past => .on fun state => honest state past

end Honest

/-- The code that a call has left is one of those that the exception may name. -/
def Blames (fmt : String) (ec : Option ErrorCode) (events : List BoundaryEvent) : Prop :=
  ∀ code, ec = some code → Failure events code fmt

section Throws
variable {kept : State → List BoundaryEvent → Prop} (traced : Traced cause)

include traced

theorem throwIf_accounts {ec : Option ErrorCode} {fmt : String} (blames : Blames fmt ec past) :
    (throwIf ec fmt : Method State Unit).Accounts kept cause past fun _ _ => True := by
  cases ec with
  | none => exact .pure trivial
  | some code => exact .raise (traced.failure _ _ _ (blames code rfl))

theorem throwUnless_accounts (tolerated : ErrorCode) {ec : Option ErrorCode} {fmt : String}
    (blames : Blames fmt ec past) :
    (throwUnless tolerated ec fmt : Method State Unit).Accounts kept cause past fun _ _ => True := by
  cases ec with
  | none => exact .pure trivial
  | some code =>
    exact .ite (fun _ => .pure trivial) fun _ => .raise (traced.failure _ _ _ (blames code rfl))

theorem throwIf_honest {program : Method State (Option ErrorCode)} {fmt : String}
    (blames : ∀ past, program.Accounts kept cause past (Blames fmt)) :
    Honest kept cause (do throwIf (← program) fmt) :=
  fun past => .bind (blames past) fun _ _ _ blames => throwIf_accounts traced blames

theorem throwUnless_honest (tolerated : ErrorCode) {program : Method State (Option ErrorCode)}
    {fmt : String} (blames : ∀ past, program.Accounts kept cause past (Blames fmt)) :
    Honest kept cause (do throwUnless tolerated (← program) fmt) :=
  fun past => .bind (blames past) fun _ _ _ blames => throwUnless_accounts traced tolerated blames

theorem valueOrThrow_accounts {answer : Except ErrorCode Value} {fmt : String}
    (blames : ∀ ec, answer = .error ec → Failure past ec fmt) :
    (valueOrThrow answer fmt : Method State Value).Accounts kept cause past fun _ _ => True := by
  cases answer with
  | ok value => exact .pure trivial
  | error ec => exact .raise (traced.failure _ _ _ (blames ec rfl))

end Throws

section Calls
variable {kept : State → List BoundaryEvent → Prop} (detached : ∀ state, Detached (kept state))

include detached

theorem call_noted {query : Boundary.Query} (apart : ¬ ReadsControl query) :
    (call query : Method State _).Accounts kept cause past fun answer after =>
      (⟨query, answer⟩ : BoundaryEvent) ∈ after :=
  .ask (fun state answer => detached state past ⟨query, answer⟩ apart)
    fun _ => List.mem_append_right _ (List.mem_singleton_self _)

/-- A call blames itself. -/
theorem call_blames {query : Boundary.Query} {fmt : String} (apart : ¬ ReadsControl query)
    (code : Boundary.Answer query → Option ErrorCode)
    (same : ∀ answer, reported ⟨query, answer⟩ = code answer) (names : fmt ∈ complaints query) :
    (call query : Method State _).Accounts kept cause past fun answer => Blames fmt (code answer) :=
  (call_noted detached apart).mono fun answer _ _ noted _ reports =>
    ⟨_, noted, (same answer).trans reports, names⟩

end Calls

variable {kept : List BoundaryEvent → Prop} (detached : Detached kept)

namespace Socket

variable {channel : Channel} {fmt : String}

include detached

theorem write_accounts (names : ∀ layer data, fmt ∈ complaints (.write channel layer data))
    (missed : ∀ layer data, fmt ∈ complaints (.unopened channel layer (.write data))) (data : Bytes) :
    (write channel data).Accounts (fun _ => kept) cause past (Blames fmt) := by
  refine .bind .get fun socket after _ _ => .ite (fun _ => ?_) fun _ => ?_
  · exact call_blames (fun _ => detached) id (fun ec => ec) (fun _ => rfl) (names _ _)
  · refine .bind (call_noted (fun _ => detached) id) fun ec _ _ noted => .pure ?_
    rintro code same
    exact ⟨_, noted, same, missed _ _⟩

theorem readSome_accounts (names : ∀ layer maxSize, fmt ∈ complaints (.readSome .data layer maxSize))
    (missed : ∀ layer maxSize, fmt ∈ complaints (.unopened .data layer (.readSome maxSize)))
    (maxSize : Nat) : (readSome .data maxSize).Accounts (fun _ => kept) cause past
      fun answer after => ∀ ec, answer = .error ec → Failure after ec fmt := by
  refine .bind .get fun socket after _ _ => .ite (fun _ => ?_) fun _ => ?_
  · refine (call_noted (fun _ => detached) id).mono fun answer _ _ noted ec same => ?_
    subst same
    exact ⟨_, noted, rfl, names _ _⟩
  · refine .bind (call_noted (fun _ => detached) id) fun ec _ _ noted => .pure ?_
    intro code same
    cases same
    exact ⟨_, noted, rfl, missed _ _⟩

theorem shutdown_accounts (names : fmt ∈ complaints (.shutdown channel))
    (missed : ∀ layer, fmt ∈ complaints (.unopened channel layer .shutdown)) :
    (shutdown channel).Accounts (fun _ => kept) cause past (Blames fmt) := by
  refine .bind .get fun socket after _ _ => .ite (fun _ => ?_) fun _ => ?_
  · exact call_blames (fun _ => detached) id (fun ec => ec) (fun _ => rfl) names
  · refine .bind (call_noted (fun _ => detached) id) fun _ _ _ noted => .pure ?_
    exact fun code same => ⟨_, noted, same, missed _⟩

theorem close_accounts (names : fmt ∈ complaints (.close channel)) :
    (close channel).Accounts (fun _ => kept) cause past (Blames fmt) := by
  refine .bind .get fun socket after _ _ => .ite (fun _ => ?_) fun _ => ?_
  · refine .bind (call_blames (fun _ => detached) id (fun ec => ec) (fun _ => rfl) names)
      fun ec after _ blames => ?_
    exact .bind (.modify fun _ _ => id) fun _ last longer _ =>
      .pure fun code same => (blames code same).mono longer
  · refine .bind (call_noted (fun _ => detached) id) fun _ _ _ _ => .pure fun code same => ?_
    cases same

theorem sslShutdown_accounts (names : fmt ∈ complaints (.sslShutdown channel)) :
    (sslShutdown channel).Accounts (fun _ => kept) cause past (Blames fmt) := by
  refine .bind .get fun socket after _ _ => ?_
  cases socket.layer with
  | plain => exact .pure fun code same => by cases same
  | ssl => exact call_blames (fun _ => detached) id (fun ec => ec) (fun _ => rfl) names

theorem sslHandshake_accounts (names : fmt ∈ complaints (.handshake channel)) :
    (sslHandshake channel).Accounts (fun _ => kept) cause past (Blames fmt) := by
  refine .bind .get fun socket after _ _ => ?_
  cases socket.layer with
  | plain => exact .pure fun code same => by cases same
  | ssl => exact call_blames (fun _ => detached) id (fun ec => ec) (fun _ => rfl) names

theorem setSsl_honest (layer : Layer) : Honest (fun _ => kept) cause (setSsl channel layer) :=
  .bind (.call id fun _ => detached) fun _ => .modify fun _ _ => id

end Socket

variable (traced : Traced cause)

include detached traced

section Streams

theorem readSource_honest (maxSize : Nat) :
    Honest (fun _ => kept) cause (readSource maxSize : Method State Bytes) := by
  refine fun past => .bind (call_noted (fun _ => detached) id) fun answer after _ noted => ?_
  cases answer with
  | ok block => exact .pure trivial
  | error error => exact .raise (traced.thrown _ _ _ noted rfl)

private theorem fill_honest (size rounds : Nat) (buf : Bytes) :
    Honest (fun _ => kept) cause (AsciiIstream.fill size rounds buf) := by
  induction rounds generalizing buf with
  | zero => exact .spin
  | succ rounds ih =>
    have next (stream : AsciiIstream) (internal : Bytes) : Honest (fun _ => kept) cause
        (if internal.isEmpty then pure buf
        else do
          Program.modify fun _ => (AsciiIstream.convert size internal stream buf).1
          AsciiIstream.fill size rounds (AsciiIstream.convert size internal stream buf).2 :
          Method AsciiIstream Bytes) :=
      .ite (.pure _) (.bind (.modify fun _ _ => id) fun _ => ih _)
    refine .ite (.pure _) (.bind .get fun stream => .ite ?_ ?_)
    · exact .bind (readSource_honest detached traced _) (next stream)
    · exact .bind (.pure _) (next stream)

private theorem asciiRead_honest (size : Nat) :
    Honest (fun _ => kept) cause (AsciiIstream.read size) := by
  refine .bind .get fun stream => .ite (.bind (.modify fun _ _ => id) fun _ => ?_) ?_
  · exact .loop fun fuel => fill_honest detached traced size fuel _
  · exact .loop fun fuel => fill_honest detached traced size fuel _

private theorem read_honest (size : Nat) : Honest (fun _ => kept) cause (InputStream.read size) := by
  refine .bind .get fun stream => ?_
  cases stream with
  | binary => exact readSource_honest detached traced size
  | ascii stream =>
    exact .bind (.on fun _ => asciiRead_honest detached traced size) fun _ =>
      .bind (.modify fun _ _ => id) fun _ => .pure _

private theorem sinkWrite_honest (data : Bytes) :
    Honest (fun _ => kept) cause (Destination.write data) := by
  refine .bind .get fun dst => ?_
  cases dst with
  | memory content => exact .modify fun _ _ => id
  | caller =>
    refine fun past => .bind (call_noted (fun _ => detached) id) fun answer after _ noted => ?_
    cases answer with
    | none => exact .pure trivial
    | some error => exact .raise (traced.thrown _ _ _ noted rfl)

private theorem sinkFlush_honest : Honest (fun _ => kept) cause Destination.flush := by
  refine .bind .get fun dst => ?_
  cases dst with
  | memory content => exact .pure _
  | caller =>
    refine fun past => .bind (call_noted (fun _ => detached) id) fun answer after _ noted => ?_
    cases answer with
    | none => exact .pure trivial
    | some error => exact .raise (traced.thrown _ _ _ noted rfl)

private theorem outputWrite_honest (data : Bytes) :
    Honest (fun _ => kept) cause (OutputStream.write data) := by
  have write (data : Bytes) :
      Honest (fun _ => kept) cause (OutputStream.onDestination (Destination.write data)) :=
    .zoom (fun _ => sinkWrite_honest detached traced data) fun _ => rfl
  unfold OutputStream.write
  refine .bind .get fun stream => ?_
  cases stream.type with
  | binary => exact write data
  | ascii => exact .bind (.modify fun _ _ => id) fun _ => write _

private theorem outputFlush_honest : Honest (fun _ => kept) cause OutputStream.flush := by
  have flush : Honest (fun _ => kept) cause (OutputStream.onDestination Destination.flush) :=
    .zoom (fun _ => sinkFlush_honest detached traced) fun _ => rfl
  unfold OutputStream.flush
  refine .bind .get fun stream => ?_
  split
  · exact .bind (.zoom (fun _ => sinkWrite_honest detached traced _) fun _ => rfl) fun _ =>
      .bind (.modify fun _ _ => id) fun _ => flush
  · exact flush

end Streams

namespace DataConnection

omit traced in
/-- A call that leaves an error code. -/
private theorem call_accounts {query : Boundary.Query} {fmt : String} (apart : ¬ ReadsControl query)
    (code : Boundary.Answer query → Option ErrorCode)
    (same : ∀ answer, reported ⟨query, answer⟩ = code answer) (names : fmt ∈ complaints query)
    {past : List BoundaryEvent} :
    (call query : Method DataConnection _).Accounts (fun _ => kept) cause past fun answer =>
      Blames fmt (code answer) :=
  call_blames (fun _ => detached) apart code same names

omit traced in
private theorem call_honest {query : Boundary.Query} (apart : ¬ ReadsControl query) :
    Honest (fun _ => kept) cause (call query : Method DataConnection _) := .call apart fun _ => detached

omit detached traced in
private theorem onSocket_accounts {program : Method Socket Value} {past : List BoundaryEvent}
    {post : Value → List BoundaryEvent → Prop}
    (accounts : program.Accounts (fun _ => kept) cause past post) :
    (onSocket program).Accounts (fun _ => kept) cause past post :=
  .zoom (fun _ => accounts) fun _ => rfl

theorem connect_honest (endpoint : Endpoint) : Honest (fun _ => kept) cause (connect endpoint) := by
  intro past
  refine .bind (call_accounts detached id (fun ec => ec) (fun _ => rfl) (.head _))
    fun ec after _ blames => ?_
  cases ec with
  | none => exact .modify fun _ _ => id
  | some ec =>
    refine .bind (.modify fun _ _ => id) fun _ middle longer _ => ?_
    refine .bind (onSocket_accounts (Socket.close_accounts detached (.head _)))
      fun _ final further _ => ?_
    have failure : Failure after ec "Cannot open data connection" := blames ec rfl
    exact .raise (traced.failure _ _ _ (failure.mono (List.Subset.trans longer further)))

theorem connectText_honest (ip : Bytes) (port : UInt16) :
    Honest (fun _ => kept) cause (connectText ip port) := by
  refine fun past => .bind (call_noted (fun _ => detached) id) fun answer after _ noted => ?_
  refine .bind (valueOrThrow_accounts traced fun ec failed => ?_) fun _ _ _ _ =>
    connect_honest detached traced _ _
  subst answer
  exact ⟨_, noted, rfl, .head _⟩

theorem accept_honest : Honest (fun _ => kept) cause accept :=
  fun _ => .bind (call_accounts detached id (fun ec => ec) (fun _ => rfl) (.head _)) fun _ _ _ blames =>
    .bind (throwIf_accounts traced blames) fun _ _ _ _ => .modify fun _ _ => id

theorem listen_honest (endpoint : Endpoint) : Honest (fun _ => kept) cause (listen endpoint) := by
  intro past
  refine .bind (call_accounts detached id (fun ec => ec) (fun _ => rfl) (.head _)) fun _ _ _ opening =>
    .bind (throwIf_accounts traced opening) fun _ _ _ _ =>
      .bind (.modify fun _ _ => id) fun _ _ _ _ => ?_
  refine .bind (call_accounts detached id (fun ec => ec) (fun _ => rfl) (.head _)) fun _ _ _ binding =>
    .bind (throwIf_accounts traced binding) fun _ _ _ _ => ?_
  exact .bind (call_accounts detached id (fun ec => ec) (fun _ => rfl) (.head _)) fun _ _ _ listening =>
    throwIf_accounts traced listening

omit traced in
theorem setSsl_honest (layer : Layer) : Honest (fun _ => kept) cause (setSsl layer) := by
  unfold setSsl onSocket
  exact Honest.zoom (fun _ => Socket.setSsl_honest detached layer) fun _ => rfl

theorem sslHandshake_honest : Honest (fun _ => kept) cause sslHandshake :=
  throwIf_honest traced fun _ => onSocket_accounts (Socket.sslHandshake_accounts detached (.head _))

theorem getListenEndpoint_honest : Honest (fun _ => kept) cause getListenEndpoint := by
  refine fun past => .bind (call_noted (fun _ => detached) id) fun answer after _ noted =>
    valueOrThrow_accounts traced fun ec failed => ?_
  subst answer
  exact ⟨_, noted, rfl, .head _⟩

theorem disconnect_honest (graceful : Bool) : Honest (fun _ => kept) cause (disconnect graceful) := by
  refine .bind (.bind .get fun _ => .ite ?_ (.pure _)) fun _ => .bind (.ite ?_ (.pure _)) fun _ =>
    .bind ?_ fun _ => .bind .get fun _ => .ite (fun _ => ?_) (.pure _)
  · exact throwUnless_honest traced _ fun _ => onSocket_accounts
      (Socket.sslShutdown_accounts detached (.head _))
  · exact throwUnless_honest traced _ fun _ => onSocket_accounts
      (Socket.shutdown_accounts detached (.head _) fun _ => .head _)
  · exact throwIf_honest traced fun _ => onSocket_accounts (Socket.close_accounts detached (.head _))
  · refine .bind (call_accounts detached id (fun ec => ec) (fun _ => rfl) (.head _))
      fun ec after _ blames =>
      .bind (.modify fun _ _ => id) fun _ last longer _ => throwIf_accounts traced fun code same => ?_
    exact (blames code same).mono longer

private theorem sendLoop_honest (callback : Bool) (rounds : Nat) (stream : InputStream) :
    Honest (fun _ => kept) cause (sendLoop callback rounds stream) := by
  induction rounds generalizing stream with
  | zero => exact .spin
  | succ rounds ih =>
    refine .bind (.on fun _ => read_honest detached traced bufSize) fun block => .ite (.pure _) ?_
    have next (stream : InputStream) : Honest (fun _ => kept) cause
        (if callback then do
          call (.transferNotify block.1.length)
          if ← call .isCancelled then return stream
          else sendLoop callback rounds stream
        else sendLoop callback rounds stream) :=
      .ite (.bind (call_honest detached id) fun _ => .bind (call_honest detached id) fun _ =>
        .ite (.pure _) (ih _)) (ih _)
    exact fun _ => .bind (onSocket_accounts
      (Socket.write_accounts detached (fun _ _ => .head _) (fun _ _ => .head _) _)) fun _ _ _ blames =>
      .bind (throwIf_accounts traced blames) fun _ after _ _ => next block.2 after

theorem send_honest (stream : InputStream) (callback : Bool) :
    Honest (fun _ => kept) cause (send stream callback) := by
  have loop : Honest (fun _ => kept) cause (Program.loop fun fuel => sendLoop callback fuel stream) :=
    .loop fun fuel => sendLoop_honest detached traced callback fuel stream
  refine .ite (.bind (call_honest detached id) fun _ => .ite (.pure _) ?_) loop
  exact .bind (call_honest detached id) fun _ => .bind loop fun _ =>
    .bind (call_honest detached id) fun _ => .pure _

/-- The loop does not throw the error code it ends with. -/
private theorem recvLoop_accounts (callback : Bool) (rounds : Nat) (stream : OutputStream)
    (past : List BoundaryEvent) :
    (recvLoop callback rounds stream).Accounts (fun _ => kept) cause past fun ended after =>
      Blames "Cannot receive data over data connection" ended.2 after := by
  induction rounds generalizing stream past with
  | zero => exact .spin
  | succ rounds ih =>
    refine .bind (onSocket_accounts
      (Socket.readSome_accounts detached (fun _ _ => .head _) (fun _ _ => .head _) _))
      fun answer after _ blames => ?_
    cases answer with
    | error ec =>
      refine .pure fun code same => ?_
      cases same
      exact blames ec rfl
    | ok chunk =>
      refine .bind (.on fun _ => outputWrite_honest detached traced chunk.data _) fun _ _ _ _ =>
        .ite (fun _ => ?_) fun _ => ih _ _
      refine .bind (call_honest detached id _) fun _ _ _ _ =>
        .bind (call_honest detached id _) fun _ _ _ _ => ?_
      exact .ite (fun _ => .pure nofun) fun _ => ih _ _

theorem recv_honest (stream : OutputStream) (callback : Bool) :
    Honest (fun _ => kept) cause (recv stream callback) := by
  have loop (past : List BoundaryEvent) :
      (Program.loop fun fuel => recvLoop callback fuel stream).Accounts (fun _ => kept) cause past
        fun ended after =>
        Blames "Cannot receive data over data connection" ended.2 after :=
    .loop fun fuel => recvLoop_accounts detached traced callback fuel stream past
  have tail (stream : OutputStream) (ec : Option ErrorCode) (past : List BoundaryEvent)
      (blames : Blames "Cannot receive data over data connection" ec past) :
      (recvTail stream ec).Accounts (fun _ => kept) cause past fun _ _ => True :=
    .bind (throwUnless_accounts traced _ blames) fun _ _ _ _ =>
      .bind (.on fun _ => outputFlush_honest detached traced _) fun _ _ _ _ => .pure trivial
  refine .ite (.bind (call_honest detached id) fun _ => .ite (.pure _) ?_) ?_
  · refine .bind (call_honest detached id) fun _ past => .bind (loop past) fun ended _ _ blames => ?_
    exact .bind (tail _ _ _ blames) fun _ _ _ _ =>
      .bind (call_honest detached id _) fun _ _ _ _ => .pure trivial
  · exact fun past => .bind (loop past) fun ended _ _ blames => tail _ _ _ blames

end DataConnection

end LibFtp
