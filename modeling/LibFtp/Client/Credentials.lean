import LibFtp.Client.Arguments
import LibFtp.Detail.Script

/-! Where user names and passwords may leave the client in plain text. `login` asks
whether a context was configured, not in which mode the connection is. -/

namespace LibFtp

open Effect

namespace Client

variable {fuel : Nat}

/-- A USER or PASS command. -/
def isCredential (data : Bytes) : Bool :=
  (text "USER ").isPrefixOf data || (text "PASS ").isPrefixOf data

/-- A USER or PASS command is written in non-SSL mode. -/
def exposes : BoundaryEvent → Bool
  | ⟨.write .control .plain data, _⟩ => isCredential data
  | _ => false

private def Unexposed (events : List BoundaryEvent) : Prop :=
  ∀ event ∈ events, exposes event = false

private theorem unexposed_snoc (unexposed : Unexposed past) (safe : exposes event = false) :
    Unexposed (past ++ [event]) := by
  intro other member
  rcases List.mem_append.mp member with early | last
  · exact unexposed other early
  · exact List.mem_singleton.mp last ▸ safe

private theorem unexposed_steady (layer : Layer) : Steady Monitor.history layer Unexposed := by
  intro past event after link unexposed step
  obtain ⟨query, answer⟩ := event
  have safe : exposes ⟨query, answer⟩ = false := by
    cases link with
    | closing closing => cases closing <;> rfl
    | _ => rfl
  rw [show after = past ++ [⟨query, answer⟩] from step]
  exact unexposed_snoc unexposed safe

private theorem unexposed_step {query : Boundary.Query} {answer : Boundary.Answer query}
    (unexposed : Unexposed past) (step : Monitor.history.step past ⟨query, answer⟩ after)
    (safe : exposes ⟨query, answer⟩ = false) : Unexposed after := by
  rw [show after = past ++ [⟨query, answer⟩] from step]
  exact unexposed_snoc unexposed safe

section Commands

/-- A beginning that is not the beginning of a credential. -/
private def Differs (front : Bytes) : Prop :=
  front.length ≤ 5 ∧ front.isPrefixOf (text "USER ") = false ∧ front.isPrefixOf (text "PASS ") = false
  deriving Decidable

private theorem not_credential (rest : Bytes) (differs : Differs front) :
    isCredential (front ++ rest) = false := by
  obtain ⟨short, user, pass⟩ := differs
  have other (verb : Bytes) (long : verb.length = 5) (no : front.isPrefixOf verb = false) :
      verb.isPrefixOf (front ++ rest) = false := by
    rw [Bool.eq_false_iff] at no ⊢
    intro found
    refine no (List.isPrefixOf_iff_prefix.mpr ?_)
    exact List.prefix_of_prefix_length_le (List.prefix_append front rest)
      (List.isPrefixOf_iff_prefix.mp found) (long ▸ short)
  rw [isCredential, other _ (by decide) user, other _ (by decide) pass, Bool.or_self]

/-- Only a login issues a credential. -/
private theorem explained_safe (operation : Operation) (stays : ¬ operation.LogsIn)
    (explained : operation.Explains command) : isCredential (command ++ crlf) = false := by
  have verbs : ∀ verb ∈ plainVerbs, Differs (text verb) := by decide
  have commands : ∀ command ∈ fixedCommands, isCredential (text command ++ crlf) = false := by
    decide
  rcases explained with ⟨verb, argument, passes, same⟩ | own
  · rcases passes.verb_mem with plain | ⟨_, logsIn⟩
    · rw [same, makeCommand, List.append_assoc, List.append_assoc]
      exact not_credential _ (verbs verb plain)
    · exact (stays logsIn).elim
  · cases own with
    | fixed member => exact commands _ member
    | eprt endpoint =>
      simp only [makeEprtCommand, List.append_assoc]
      exact not_credential _ (by decide)
    | port endpoint =>
      simp only [makePortCommand, List.append_assoc]
      exact not_credential _ (by decide)

end Commands

/-- Nothing is exposed, and the context stays. -/
private def Guarded (client : Client) (events : List BoundaryEvent) : Prop :=
  client.sslContext = true ∧ Unexposed events

/-- In SSL mode besides. -/
private def Encrypted (client : Client) (events : List BoundaryEvent) : Prop :=
  client.control.socket.layer = .ssl ∧ Guarded client events

/-- Still unexposed, with the same context and in the same mode. -/
private def Remains (client state : Client) (events : List BoundaryEvent) : Prop :=
  state.sslContext = client.sslContext ∧
    state.control.socket.layer = client.control.socket.layer ∧ Unexposed events

private theorem remains_guarded (remains : Remains client state events)
    (context : client.sslContext = true) : Guarded state events :=
  ⟨remains.1.trans context, remains.2.2⟩

private theorem quiet_safe {query : Boundary.Query} (answer : Boundary.Answer query)
    (quiet : Quiet query) : exposes ⟨query, answer⟩ = false := by
  cases quiet <;> rfl

private theorem recv_remains (client : Client) (past : List BoundaryEvent)
    (unexposed : Unexposed past) :
    recv.wp Monitor.history fuel (fun _ => Remains client) (fun _ => Remains client) client past := by
  apply recv_rule client past (unexposed_steady _) unexposed
  · intro reply control middle after socket unexposed step
    refine ⟨rfl, ?_, unexposed_step unexposed step rfl⟩
    rw [socket]
    split
    · rfl
    · rfl
  · intro stop control after socket unexposed
    refine ⟨rfl, ?_, unexposed⟩
    rcases socket with socket | socket
    · rw [socket]
    · rw [socket, ControlConnection.closed]

private theorem send_remains (command : Bytes) (client : Client) (past : List BoundaryEvent)
    (unexposed : Unexposed past)
    (safe : client.control.socket.layer = .plain → isCredential (command ++ crlf) = false) :
    (send command).wp Monitor.history fuel (fun _ state after => state = client ∧ Unexposed after)
      (fun _ => Remains client) client past := by
  have unseen (answer : Option ErrorCode) :
      exposes ⟨.write .control client.control.socket.layer (command ++ crlf), answer⟩ = false := by
    revert safe
    generalize client.control.socket.layer = layer
    intro safe
    cases layer with
    | plain => exact safe rfl
    | ssl => rfl
  apply send_rule
  · intro requested after _ heard written
    exact ⟨rfl, unexposed_step (unexposed_step unexposed heard rfl) written (unseen _)⟩
  · intro error requested after _ heard written
    exact ⟨rfl, rfl, unexposed_step (unexposed_step unexposed heard rfl) written (unseen _)⟩
  · intro ec requested after _ heard refused
    exact ⟨rfl, rfl, unexposed_step (unexposed_step unexposed heard rfl) refused rfl⟩

private theorem processCommand_remains (command : Bytes) (client : Client)
    (past : List BoundaryEvent) (unexposed : Unexposed past)
    (safe : client.control.socket.layer = .plain → isCredential (command ++ crlf) = false) :
    (processCommand command).wp Monitor.history fuel (fun _ => Remains client)
      (fun _ => Remains client) client past := by
  rw [processCommand, Program.wp_bind]
  apply Program.wp_mono (send_remains command client past unexposed safe)
  · intro _ state middle both
    obtain ⟨same, unexposed⟩ := both
    subst state
    exact recv_remains client middle unexposed
  · exact fun _ _ _ => id

private theorem encrypted_upholds : Upholds Monitor.history Encrypted Guarded (fun _ => True) where
  stops _ _ encrypted := encrypted.2
  quiet query answer _ _ _ quiet encrypted step :=
    ⟨encrypted.1, encrypted.2.1, unexposed_step encrypted.2.2 step (quiet_safe answer quiet)⟩
  settings _ _ _ _ _ _ encrypted := encrypted
  exchange command _ fuel client past := by
    intro ⟨ssl, context, unexposed⟩
    apply Program.wp_mono (processCommand_remains command client past unexposed fun plain => ?_)
    · exact fun _ _ _ remains => ⟨remains.2.1.trans ssl, remains_guarded remains context⟩
    · exact fun _ _ _ remains => remains_guarded remains context
    · rw [ssl] at plain
      cases plain
  receive fuel client past := by
    intro ⟨ssl, context, unexposed⟩
    apply Program.wp_mono (recv_remains client past unexposed)
    · exact fun _ _ _ remains => ⟨remains.2.1.trans ssl, remains_guarded remains context⟩
    · exact fun _ _ _ remains => remains_guarded remains context

private theorem onControl_guarded {program : Method ControlConnection Value}
    (stays : ∀ layer, program.Keeps Monitor.history (ControlConnection.Stays layer Unexposed)
      (ControlConnection.Stays layer Unexposed)) :
    (onControl program).Keeps Monitor.history Guarded Guarded := by
  intro fuel client past ⟨context, unexposed⟩
  apply onControl_rule client past (stays _) unexposed
    (Program.wp_always program (fun _ _ _ => trivial) (fun _ _ _ => trivial))
  · exact fun _ _ _ _ unexposed => ⟨context, unexposed⟩
  · exact fun _ _ _ _ unexposed => ⟨context, unexposed⟩

/-- Commands that are no credentials expose nothing in either mode. -/
private theorem guarded_upholds : UpholdsLink Monitor.history Guarded Guarded
    (fun command => isCredential (command ++ crlf) = false) where
  stops _ _ guarded := guarded
  quiet query answer _ _ _ quiet guarded step :=
    ⟨guarded.1, unexposed_step guarded.2 step (quiet_safe answer quiet)⟩
  settings _ _ _ _ _ _ guarded := guarded
  exchange command safe fuel client past := by
    intro ⟨context, unexposed⟩
    apply Program.wp_mono (processCommand_remains command client past unexposed fun _ => safe)
    · exact fun _ _ _ remains => remains_guarded remains context
    · exact fun _ _ _ remains => remains_guarded remains context
  receive fuel client past := by
    intro ⟨context, unexposed⟩
    apply Program.wp_mono (recv_remains client past unexposed)
    · exact fun _ _ _ remains => remains_guarded remains context
    · exact fun _ _ _ remains => remains_guarded remains context
  opens hostname port := onControl_guarded fun layer =>
    ControlConnection.connect_stays (unexposed_steady layer) hostname port
  switches layer := by
    intro fuel client past ⟨context, unexposed⟩
    simp only [onControl, ControlConnection.setSsl, ControlConnection.onSocket, Program.wp_zoom,
      Socket.wp_setSsl]
    exact fun _ _ step => ⟨context, unexposed_step unexposed step rfl⟩
  handshakes := onControl_guarded fun layer =>
    ControlConnection.sslHandshake_stays (unexposed_steady layer)
  shutsDown := onControl_guarded fun layer =>
    ControlConnection.sslShutdown_stays (unexposed_steady layer)
  closes := onControl_guarded fun layer =>
    ControlConnection.closeSteps_stays (unexposed_steady layer)

/-- `connect` logs in behind the handshake only. -/
private theorem connect_guarded (hostname : Bytes) (port : UInt16) (username : Option Bytes)
    (password : Bytes) (client : Client) (past : List BoundaryEvent) (guarded : Guarded client past) :
    (connect hostname port username password).wp Monitor.history fuel (fun _ => Guarded)
      (fun _ => Guarded) client past := by
  rw [connect_eq, Program.wp_bind]
  have greeted := guarded_upholds.greet hostname port (by decide) fuel client past guarded
  apply Program.wp_mono (Program.wp_and (greet_spec client guarded.1 hostname port past) greeted)
  · intro outcome state after ⟨established, guarded⟩
    cases outcome with
    | error replies => exact guarded
    | ok replies =>
      have ssl : state.control.socket.layer = .ssl := by rw [established replies rfl]
      apply Program.wp_mono (encrypted_upholds.connectLogin username password replies
        (fun _ _ _ _ => trivial) fuel state after ⟨ssl, guarded⟩)
      · exact fun _ _ _ encrypted => encrypted.2
      · exact fun _ _ _ => id
  · exact fun _ _ _ both => both.2

/-- Every operation, but for a `login` in non-SSL mode. -/
private theorem invoke_guarded (operation : Operation) (client : Client)
    (context : client.sslContext = true)
    (sealed : ∀ username password, operation = .login username password →
      client.control.isSsl = true) :
    (invoke operation).wp Monitor.history fuel (fun _ => Guarded) (fun _ => Guarded) client [] := by
  have guarded : Guarded client [] := ⟨context, fun _ member => absurd member List.not_mem_nil⟩
  by_cases logsIn : operation.LogsIn
  · cases operation with
    | connect hostname port username password =>
      simp only [invoke, Program.wp_bind, Program.wp_pure]
      exact connect_guarded hostname port username password client [] guarded
    | login username password =>
      have ssl : client.control.socket.layer = .ssl := by
        simpa [ControlConnection.isSsl, Socket.hasSslSupport] using sealed username password rfl
      apply Program.wp_mono (encrypted_upholds.invoke (.login username password) id
        (fun _ _ => trivial) fuel client [] ⟨ssl, guarded⟩)
      · exact fun _ _ _ encrypted => encrypted.2
      · exact fun _ _ _ => id
    | _ => exact logsIn.elim
  · exact guarded_upholds.invoke operation
      (fun command issues => explained_safe operation logsIn issues.explained) fuel client [] guarded

/-- On a client with a context, in every session, a USER or PASS command is written in
non-SSL mode by a `login` that was called in non-SSL mode, and by nothing else. -/
theorem exposed_by_login_only (mode : TransferMode) (type : TransferType) (support : Bool)
    (host : Host boundary World) (fuel : Nat) (world : World) (operations : List Operation) :
    ∀ record ∈ session invoke host fuel operations (Client.new mode type true support) world,
      ∀ event ∈ record.events, exposes event = true →
        (∃ username password, record.operation = .login username password) ∧
          record.before.control.isSsl = false := by
  intro record member
  refine (session_invariant (fun client => client.sslContext = true) (fun _ => True)
    (fun record => ∀ event ∈ record.events, exposes event = true →
      (∃ username password, record.operation = .login username password) ∧
        record.before.control.isSsl = false)
    ?_ operations _ world rfl (fun _ _ => trivial) record member).2
  intro operation client world context _
  constructor
  · exact perform_settled (contextual_upholds.invoke operation (fun _ _ => trivial) fuel client []
      context) (Monitor.history_drives [] _)
  · intro event member exposed
    by_contra other
    have sealed (username password : Bytes) (same : operation = .login username password) :
        client.control.isSsl = true := by
      by_contra clear
      exact other ⟨⟨username, password, same⟩, Bool.eq_false_iff.mpr clear⟩
    have guarded : Guarded (perform invoke host fuel operation client world).after
        (perform invoke host fuel operation client world).events :=
      perform_settled (invoke_guarded operation client context sealed) (Monitor.history_drives [] _)
    exact absurd exposed (Bool.eq_false_iff.mp (guarded.2 event member))

private theorem any_exposed {records : List (Record boundary Operation Client FtpException Output World)}
    (found : (records.any fun record => record.events.any exposes) = true) :
    ∃ record ∈ records, ∃ event ∈ record.events, exposes event = true := by
  obtain ⟨record, member, exposed⟩ := List.any_eq_true.mp found
  exact ⟨record, member, List.any_eq_true.mp exposed⟩

theorem exposed_by_login_only_refused :
    let records := session invoke Script.host 9
      [.connect (text "host") 21 none [], .login (text "u") (text "p")]
      (Client.new .passive .binary true true)
      (.ofReplies [text "220 a\r\n", text "500 b\r\n", text "530 c\r\n"])
    ∃ record ∈ records, (∃ username password, record.operation = .login username password) ∧
      record.before.control.isSsl = false := by
  intro records
  have clear : (records.any fun record => record.events.any exposes) = true := by decide +kernel
  obtain ⟨record, member, event, found, exposed⟩ := any_exposed clear
  exact ⟨record, member,
    exposed_by_login_only .passive .binary true Script.host 9 _ _ record member event found exposed⟩

/-- A refused AUTH TLS and an accepted REIN both leave a plain connection, over which
`login` sends the user name and the password. -/
theorem login_exposes_password :
    let start := Client.new .passive .binary true true
    let refused := session invoke Script.host 9
      [.connect (text "host") 21 none [], .login (text "u") (text "p")] start
      (.ofReplies [text "220 a\r\n", text "500 b\r\n", text "331 c\r\n", text "230 d\r\n",
        text "200 e\r\n", text "200 f\r\n", text "200 g\r\n"])
    let loggedOut := session invoke Script.host 9
      [.connect (text "host") 21 none [], .logout, .login (text "u") (text "p")] start
      (.ofReplies [text "220 a\r\n", text "234 b\r\n", text "220 c\r\n", text "331 d\r\n",
        text "230 e\r\n", text "200 f\r\n", text "200 g\r\n", text "200 h\r\n"])
    (¬ ∀ record ∈ refused, ∀ event ∈ record.events, exposes event = false) ∧
      ¬ ∀ record ∈ loggedOut, ∀ event ∈ record.events, exposes event = false := by
  intro start refused loggedOut
  have first : (refused.any fun record => record.events.any exposes) = true := by decide +kernel
  have second : (loggedOut.any fun record => record.events.any exposes) = true := by decide +kernel
  constructor
  · intro hidden
    obtain ⟨record, member, event, found, exposed⟩ := any_exposed first
    exact Bool.eq_false_iff.mp (hidden record member event found) exposed
  · intro hidden
    obtain ⟨record, member, event, found, exposed⟩ := any_exposed second
    exact Bool.eq_false_iff.mp (hidden record member event found) exposed

end Client

end LibFtp
