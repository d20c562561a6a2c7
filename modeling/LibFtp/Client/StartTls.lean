import LibFtp.Client.Layering
import LibFtp.Client.ReplyStream
import LibFtp.Control.Leftover

/-! The switch to TLS. The receive buffer belongs to the control connection and
not to the socket that `set_ssl` replaces, so it survives the handshake. -/

namespace LibFtp

open Effect Text

namespace Client

/-- The client without the bytes in its receive buffer. -/
def emptied (client : Client) : Client :=
  { client with control := { client.control with buffer := [] } }

/-- What the TLS stream of the control connection has delivered. -/
def tlsBytes (events : List BoundaryEvent) : Bytes :=
  events.flatMap fun event => match event with
    | ⟨.readSome .control .ssl _, .ok chunk⟩ => chunk.data
    | _ => []

/-- The socket of the control connection is replaced. -/
def Switches (event : BoundaryEvent) : Prop := ∃ layer, event.query = .setSsl .control layer

/-- Until the socket is replaced, everything is read from the TLS stream, and each reply that
is told is worded by bytes of that stream, behind those of the replies told before. -/
structure BuiltOnTls (events : List BoundaryEvent) : Prop where
  reads : ∀ front event back, events = front ++ event :: back → (∀ other ∈ front, ¬ Switches other) →
    ∀ layer maxSize, event.query = .readSome .control layer maxSize → layer = .ssl
  replies : ∀ front observers reply back,
    events = front ++ ⟨.notifyReply observers reply, ()⟩ :: back →
    (∀ other ∈ front, ¬ Switches other) →
    ∃ taken piece rest, tlsBytes front = taken ++ piece ++ rest ∧
      Strewn True Wording taken (Intake.of front).told ∧ Wording piece reply

/-- What is exchanged behind a handshake: the login, and then any operations. -/
def behind (host : Host boundary World) (fuel : Nat) (client : Client) (world : World)
    (username : Option Bytes) (password : Bytes) (replies : Replies) (operations : List Operation) :
    List BoundaryEvent :=
  let login := (connectLogin username password replies).run host fuel client world
  login.events ++ exchanged (session invoke host fuel operations login.value.2 login.world)

/-- No byte in the receive buffer contributes to the replies that follow: the rest
of `connect` and all later operations give what they give without these bytes. -/
structure IgnoresBuffer (client : Client) : Prop where
  login : ∀ (World : Type) (host : Host boundary World) (fuel : Nat) (world : World)
    (username : Option Bytes) (password : Bytes) (replies : Replies),
    ((connectLogin username password replies).run host fuel client world).value.1 =
      ((connectLogin username password replies).run host fuel client.emptied world).value.1
  later : ∀ (World : Type) (host : Host boundary World) (fuel : Nat) (world : World)
    (operations : List Operation),
    (session invoke host fuel operations client world).map Record.outcome =
      (session invoke host fuel operations client.emptied world).map Record.outcome

/-- The replies that follow a handshake come from the TLS stream alone, whatever follows it. -/
structure TlsOnly (client : Client) : Prop where
  built : ∀ (World : Type) (host : Host boundary World) (fuel : Nat) (world : World)
    (username : Option Bytes) (password : Bytes) (replies : Replies) (operations : List Operation),
    BuiltOnTls (behind host fuel client world username password replies operations)
  ignores : client.IgnoresBuffer

variable {fuel : Nat}

/-- While the socket stays and is read through TLS, what is received is what TLS delivers. -/
private theorem received_tls (events : List BoundaryEvent)
    (through : Always layerAfter ReadsThrough .ssl events) (still : ∀ other ∈ events, ¬ Switches other) :
    events.foldl layerAfter .ssl = .ssl ∧ (Intake.of events).received = tlsBytes events := by
  induction events using List.reverseRecOn with
  | nil => exact ⟨rfl, rfl⟩
  | append_singleton events event ih =>
    obtain ⟨before, reads⟩ := always_snoc.mp through
    obtain ⟨same, received⟩ := ih before fun other member => still other (by simp [member])
    rw [same] at reads
    have stays : ¬ Switches event := still event (by simp)
    simp only [Intake.of, tlsBytes, List.foldl_append, List.flatMap_append, List.foldl_cons,
      List.foldl_nil, List.flatMap_singleton] at received ⊢
    rw [same, ← received]
    obtain ⟨query, answer⟩ := event
    cases query with
    | setSsl channel layer =>
      cases channel with
      | control => exact (stays ⟨layer, rfl⟩).elim
      | data => exact ⟨rfl, (List.append_nil _).symm⟩
    | readSome channel layer maxSize =>
      cases channel with
      | control =>
        obtain rfl := reads layer maxSize rfl
        cases answer with
        | ok chunk => exact ⟨rfl, rfl⟩
        | error ec => exact ⟨rfl, (List.append_nil _).symm⟩
      | data => exact ⟨rfl, (List.append_nil _).symm⟩
    | _ => exact ⟨rfl, (List.append_nil _).symm⟩

/-- Without a leftover everything behind the handshake is built on the TLS stream. -/
private theorem clean_built (host : Host boundary World) (fuel : Nat) (client : Client) (world : World)
    (username : Option Bytes) (password : Bytes) (replies : Replies) (operations : List Operation)
    (ssl : client.control.socket.layer = .ssl) (clean : client.control.buffer = []) :
    BuiltOnTls (behind host fuel client world username password replies operations) := by
  have layers : Always layerAfter ReadsThrough .ssl
      (behind host fuel client world username password replies operations) :=
    run_session_always host fuel
      (layered_upholds.connectLogin username password replies fun _ _ _ _ => trivial)
      (fun operation => layered_upholds.invoke operation fun _ _ => trivial) operations client world
      .ssl ssl
  have login : (connectLogin username password replies).Keeps Intake.intakes
      (Watched fun client => Strung True client.control.buffer)
      (Watched fun client => Strung True client.control.buffer) :=
    reads_upholds.connectLogin username password replies fun _ _ _ _ => trivial
  have worded : Always Intake.advance Intake.Worded .empty
      (behind host fuel client world username password replies operations) :=
    run_session_always host fuel login
      (fun operation => reads_upholds.invoke operation fun _ _ => trivial) operations client world
      .empty ⟨[], by rw [clean]; rfl, .nil⟩
  have front_tls (front back : List BoundaryEvent)
      (split : behind host fuel client world username password replies operations = front ++ back)
      (still : ∀ other ∈ front, ¬ Switches other) :
      front.foldl layerAfter .ssl = .ssl ∧ (Intake.of front).received = tlsBytes front :=
    received_tls front (always_append.mp (split ▸ layers)).1 still
  constructor
  · intro front event back split still layer maxSize reads
    have through := layers front event back split
    rw [(front_tls front _ split still).1] at through
    exact through layer maxSize reads
  · intro front observers reply back split still
    obtain ⟨taken, piece, rest, received, strewn, wording⟩ :=
      worded front _ back split observers reply rfl
    refine ⟨taken, piece, rest, ?_, strewn, wording⟩
    rw [← (front_tls front _ split still).2]
    exact received

private theorem noop_code (client : Client) (left : Bytes) :
    (invoke .sendNoop).wp deliver fuel
      (fun output _ _ => ∃ reply, output = .reply reply ∧
        frontCode (client.control.buffer ++ left) = some reply.code)
      (fun _ _ _ => True) client left := by
  simp only [invoke, sendNoop, processCommand, send, recv, notifyRequest, notifyReply, onControl,
    ControlConnection.send, ControlConnection.onSocket, Program.wp_bind, Program.wp_get, wp_call,
    Program.wp_zoom, Socket.wp_write, wp_throwIf, Program.wp_pure]
  intro _ between still
  have same : between = left := still
  subst between
  have read : ControlConnection.recv.wp deliver fuel
      (fun value part ghost => ∀ (answer : Unit) (after : Bytes),
        deliver.step ghost ⟨.notifyReply client.observers value, answer⟩ after →
        ∃ reply, Output.reply value = .reply reply ∧
          frontCode (client.control.buffer ++ left) = some reply.code)
      (fun _ _ _ => True) client.control left := by
    apply Program.wp_mono (ControlConnection.recv_code client.control left)
    · exact fun reply _ _ code _ _ _ => ⟨reply, rfl, code⟩
    · exact fun _ _ _ _ => trivial
  split
  · intro answer after step
    have same : after = left := step
    subst after
    cases answer with
    | none => exact read
    | some ec => trivial
  · exact fun _ _ _ => trivial

private theorem noop_probe (client : Client) (layer : Layer)
    (same : client.control = ⟨[], ⟨layer, true⟩⟩) (member : probe ∈ probes) :
    ∃ reply, frontCode probe = some reply.code ∧
      ((invoke .sendNoop).run Network.full 0 client probe).value.1 = .ok (.reply reply) := by
  obtain ⟨reply, code, _, received⟩ := ControlConnection.recv_probe layer member
  refine ⟨reply, code, Program.run_only ?_⟩
  simp only [invoke, sendNoop, processCommand, send, recv, notifyRequest, notifyReply, onControl,
    ControlConnection.send, ControlConnection.onSocket, Program.wp_bind, Program.wp_get, wp_call,
    Program.wp_zoom, Socket.wp_write, wp_throwIf, Program.wp_pure, same, if_true]
  intro _ between notified
  cases notified
  intro _ after written
  cases written
  exact received fun _ _ _ => rfl

/-- Over the buffer of an open connection one of the probes gives a wrong reply. -/
private theorem leftover_shows (client : Client) (layer : Layer)
    (socket : client.control.socket = ⟨layer, true⟩) (ignores : client.IgnoresBuffer) :
    client.control.buffer = [] := by
  by_contra leftover
  obtain ⟨probe, member, differs⟩ := probe_tells leftover
  have same := ignores.later Bytes Network.full 0 probe [.sendNoop]
  obtain ⟨reply, code, fresh⟩ := noop_probe client.emptied layer (by simp [emptied, socket]) member
  simp only [session_one, List.map_cons, List.map_nil, List.cons.injEq, and_true, perform, fresh] at same
  rcases Program.wp_run (noop_code client probe) Network.full probe
    (Network.full_network.drives _ probe) with ⟨output, ended, other, told, shown⟩ | ⟨stop, ended, _⟩
  · rw [ended] at same
    cases told
    cases same
    exact differs (shown.trans code.symm)
  · rw [ended] at same
    cases same

theorem emptied_eq (client : Client) (clean : client.control.buffer = []) : client.emptied = client := by
  obtain ⟨mode, type, context, support, ⟨buffer, socket⟩, observers⟩ := client
  simp only at clean
  subst buffer
  rfl

/-- When the handshake of a `connect` is done, the replies that follow come from the
TLS stream alone exactly when no byte was left in the receive buffer at `set_ssl`. -/
theorem connect_tls_only_iff (client : Client) (context : client.sslContext = true)
    (host : Host boundary World) (fuel : Nat) (world : World) (hostname : Bytes) (port : UInt16)
    (username : Option Bytes) (password : Bytes) (replies : Replies) (middle : Client)
    (secured : ((greet hostname port).run host fuel client world).value = (.ok (.ok replies), middle)) :
    (connect hostname port username password).run host fuel client world =
      (let start := (greet hostname port).run host fuel client world
       let rest := (connectLogin username password replies).run host fuel middle start.world
       ⟨rest.value, rest.world, start.events ++ rest.events⟩) ∧
    (middle.TlsOnly ↔ middle.control.buffer = []) := by
  have socket : middle.control.socket = ⟨.ssl, true⟩ := by
    have drives := Monitor.history_drives [] ((greet hostname port).run host fuel client world).events
    rcases Program.wp_run (greet_spec client context hostname port []) host world drives with
      ⟨outcome, ended, established⟩ | ⟨stop, ended, _⟩
    · rw [secured] at ended established
      cases ended
      exact established replies rfl
    · rw [secured] at ended
      cases ended
  constructor
  · rw [connect_eq, Program.run_bind]
    simp only [secured]
  · constructor
    · exact fun tlsOnly => leftover_shows middle .ssl socket tlsOnly.ignores
    · intro clean
      have same := middle.emptied_eq clean
      refine ⟨?_, ?_, ?_⟩
      · intro World host fuel world username password replies operations
        exact clean_built host fuel middle world username password replies operations
          (congrArg Socket.layer socket) clean
      · intro World host fuel world username password replies
        rw [same]
      · intro World host fuel world operations
        rw [same]

theorem connect_tls_only_iff_agreed :
    let client := Client.new .passive .binary true true
    let script := Script.ofReplies [text "220 a\r\n", text "234 b\r\n"]
    let start := (greet (text "host") 21).run Script.host 9 client script
    let replies := (Replies.empty.append ⟨220, text "220 a"⟩).append ⟨234, text "234 b"⟩
    let middle := { client with control := ⟨[], ⟨.ssl, true⟩⟩ }
    (connect (text "host") 21 none []).run Script.host 9 client script =
      (let rest := (connectLogin none [] replies).run Script.host 9 middle start.world
       ⟨rest.value, rest.world, start.events ++ rest.events⟩) ∧
    (middle.TlsOnly ↔ middle.control.buffer = []) :=
  connect_tls_only_iff (Client.new .passive .binary true true) rfl Script.host 9
    (.ofReplies [text "220 a\r\n", text "234 b\r\n"]) (text "host") 21 none [] _ _
    (by decide +kernel)

/-- Two runs of `connect` and NOOP that differ in what was received behind the reply
to AUTH TLS, and in nothing else. -/
theorem injected_reply_survives_handshake :
    ((session invoke Script.host 9 [.connect (text "host") 21 none [], .sendNoop]
        (Client.new .passive .binary true true)
        (.ofReplies [text "220 a\r\n", text "234 b\r\n", text "200 c\r\n"])).map
      Record.outcome).getLast? = some (.ok (.reply ⟨200, text "200 c"⟩)) ∧
    ((session invoke Script.host 9 [.connect (text "host") 21 none [], .sendNoop]
        (Client.new .passive .binary true true)
        (.ofReplies [text "220 a\r\n", text "234 b\r\n530 x\r\n", text "200 c\r\n"])).map
      Record.outcome).getLast? = some (.ok (.reply ⟨530, text "530 x"⟩)) := by
  decide +kernel

end Client

end LibFtp
