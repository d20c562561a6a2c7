import LibFtp.Client.Arguments
import LibFtp.Control.Reference

/-! The turns of one call: the commands that are sent, the replies to them, and what else
decides over the next command. -/

namespace LibFtp

open Effect

namespace Client

/-- A command is sent with the bytes that are written to the control connection. -/
inductive Turn where
  | said (line : Bytes)
  | heard (reply : Reply)
  | opened (endpoint : Endpoint)
  | polled (cancelled : Bool)
  deriving DecidableEq, Repr

def Turn.ofEvent : BoundaryEvent → Option Turn
  | ⟨.write .control _ line, _⟩ => some (.said line)
  | ⟨.notifyReply _ reply, _⟩ => some (.heard reply)
  | ⟨.connectData endpoint, none⟩ => some (.opened endpoint)
  | ⟨.isCancelled, cancelled⟩ => some (.polled cancelled)
  | _ => none

def turns (events : List BoundaryEvent) : List Turn := events.filterMap Turn.ofEvent

/-- The replies among the turns. -/
def heardIn (turns : List Turn) : List Reply :=
  turns.filterMap fun turn => match turn with
    | .heard reply => some reply
    | _ => none

abbrev speech : Monitor boundary (List Turn) := Monitor.collect Turn.ofEvent

variable {fuel : Nat}

theorem speech_step {query : Boundary.Query} {answer : Boundary.Answer query}
    (step : speech.step past ⟨query, answer⟩ after) :
    after = past ++ (Turn.ofEvent ⟨query, answer⟩).toList := step

/-- A question that no turn comes of. -/
def Unspoken (query : Boundary.Query) : Prop := ∀ answer, Turn.ofEvent ⟨query, answer⟩ = none

theorem unspoken_step {query : Boundary.Query} {answer : Boundary.Answer query}
    (unspoken : Unspoken query) (step : speech.step past ⟨query, answer⟩ after) : after = past := by
  rw [speech_step step, unspoken answer]
  exact List.append_nil past

theorem plumbing_unspoken (query : Boundary.Query) (plumbing : Plumbing query) : Unspoken query := by
  cases plumbing <;> exact fun _ => rfl

theorem link_unspoken (layer : Layer) (query : Boundary.Query) (link : Link layer query) :
    Unspoken query := by
  cases link with
  | closing closing => cases closing <;> exact fun _ => rfl
  | _ => exact fun _ => rfl

theorem speech_steady (layer : Layer) (past : List Turn) : Steady speech layer (· = past) :=
  fun _ event _ link same step => (unspoken_step (link_unspoken layer event.query link) step).trans same

/-- A program that asks unspoken questions leaves the turns alone. -/
theorem unspoken_wp {State Error : Type} {program : Program boundary State Error Value}
    (unspoken : program.Asks Unspoken) (state : State) (past : List Turn)
    {post : Value → State → List Turn → Prop} {fail : Stop Error → State → List Turn → Prop}
    (done : ∀ value last, post value last past) (stops : ∀ stop last, fail stop last past) :
    program.wp speech fuel post fail state past := by
  have keeps : program.Keeps speech (fun _ => (· = past)) (fun _ => (· = past)) :=
    unspoken.keeps fun _ _ _ member same step => (unspoken_step member step).trans same
  apply (keeps fuel).apply rfl
  · intro value last after same
    rw [same]
    exact done value last
  · intro stop last after same
    rw [same]
    exact stops stop last

/-- The same for a data connection. -/
theorem on_unspoken {Part : Type} {object : Part} {program : Method Part Value}
    (asks : program.Asks Unspoken) (client : Client) (past : List Turn)
    {post : Value × Part → Client → List Turn → Prop}
    {fail : Stop FtpException → Client → List Turn → Prop}
    (done : ∀ value part, post (value, part) client past) (stops : ∀ stop, fail stop client past) :
    (Program.on object program).wp speech fuel post fail client past := by
  rw [Program.wp_on]
  exact unspoken_wp asks object past (fun value part => done value part)
    fun stop _ => stops stop

/-- A data connection to the server is a turn when it comes about. -/
theorem connect_turns (endpoint : Endpoint) (connection : DataConnection) (past : List Turn)
    {post : Unit → DataConnection → List Turn → Prop}
    {fail : Stop FtpException → DataConnection → List Turn → Prop}
    (opened : ∀ state, post () state (past ++ [.opened endpoint]))
    (stops : ∀ stop state, fail stop state past) :
    (DataConnection.connect endpoint).wp speech fuel post fail connection past := by
  simp only [DataConnection.connect, Program.wp_bind, wp_call]
  intro answer after step
  rw [speech_step step]
  cases answer with
  | none => exact opened _
  | some ec =>
    have closes : (DataConnection.onSocket (Socket.close .data)).Asks Unspoken :=
      .zoom (Socket.close_plumbing.mono plumbing_unspoken)
    simp only [Program.wp_bind, Program.wp_modify]
    rw [show (Turn.ofEvent ⟨.connectData endpoint, some ec⟩).toList = [] from rfl, List.append_nil]
    exact unspoken_wp closes _ past (fun _ _ => stops _ _) fun stop state => stops stop state

theorem connectText_turns (ip : Bytes) (port : UInt16) (connection : DataConnection)
    (past : List Turn) {post : Unit → DataConnection → List Turn → Prop}
    {fail : Stop FtpException → DataConnection → List Turn → Prop}
    (opened : ∀ address state, post () state (past ++ [.opened ⟨address, port⟩]))
    (stops : ∀ stop state, fail stop state past) :
    (DataConnection.connectText ip port).wp speech fuel post fail connection past := by
  simp only [DataConnection.connectText, Program.wp_bind, wp_call, wp_valueOrThrow]
  intro answer after step
  rw [unspoken_step (fun _ => rfl) step]
  cases answer with
  | ok address => exact connect_turns _ _ _ (opened address) stops
  | error ec => exact stops _ _

/-- Steps of the control connection that neither send nor receive. -/
theorem onControl_unspoken {program : Method ControlConnection Value}
    (unspoken : program.Asks Unspoken) (client : Client) (past : List Turn)
    {post : Value → Client → List Turn → Prop}
    {fail : Stop FtpException → Client → List Turn → Prop}
    (done : ∀ value control, post value { client with control } past)
    (stops : ∀ stop control, fail stop { client with control } past) :
    (onControl program).wp speech fuel post fail client past := by
  simp only [onControl, Program.wp_zoom]
  exact unspoken_wp unspoken client.control past (fun value control => done value control)
    fun stop control => stops stop control

/-- The two methods that only ask for an endpoint of the control connection. -/
private theorem endpoint_turns (query : Boundary.Query) (unspoken : Unspoken query)
    (read : Boundary.Answer query → Except ErrorCode Endpoint) (fmt : String) (client : Client)
    (past : List Turn) {post : Endpoint → Client → List Turn → Prop}
    {fail : Stop FtpException → Client → List Turn → Prop}
    (done : ∀ endpoint, post endpoint client past) (stops : ∀ stop, fail stop client past) :
    (onControl (do valueOrThrow (read (← call query)) fmt)).wp speech fuel post fail client past := by
  simp only [onControl, Program.wp_bind, Program.wp_zoom, wp_call, wp_valueOrThrow]
  intro answer after step
  rw [unspoken_step unspoken step]
  cases read answer with
  | ok endpoint => exact done endpoint
  | error ec => exact stops _

theorem getLocalEndpoint_turns (client : Client) (past : List Turn)
    {post : Endpoint → Client → List Turn → Prop}
    {fail : Stop FtpException → Client → List Turn → Prop}
    (done : ∀ endpoint, post endpoint client past) (stops : ∀ stop, fail stop client past) :
    (onControl ControlConnection.getLocalEndpoint).wp speech fuel post fail client past :=
  endpoint_turns .localEndpoint (fun _ => rfl) id _ client past done stops

theorem getRemoteEndpoint_turns (client : Client) (past : List Turn)
    {post : Endpoint → Client → List Turn → Prop}
    {fail : Stop FtpException → Client → List Turn → Prop}
    (done : ∀ endpoint, post endpoint client past) (stops : ∀ stop, fail stop client past) :
    (onControl ControlConnection.getRemoteEndpoint).wp speech fuel post fail client past :=
  endpoint_turns .remoteEndpoint (fun _ => rfl) id _ client past done stops

section Exchanges
variable (client : Client) (past : List Turn)

theorem recv_turns {post : Reply → Client → List Turn → Prop}
    {fail : Stop FtpException → Client → List Turn → Prop}
    (heard : ∀ reply (control : ControlConnection), reply.code.toNat < 1000 →
      (reply.isNegative = false → control.socket = client.control.socket) →
      post reply { client with control } (past ++ [.heard reply]))
    (stops : ∀ stop state, fail stop state past) :
    recv.wp speech fuel post fail client past := by
  have digits : recv.wp speech fuel (fun reply _ _ => reply.code.toNat < 1000)
      (fun _ _ _ => True) client past := by
    simp only [recv, onControl, notifyReply, Program.wp_bind, Program.wp_zoom, Program.wp_get,
      wp_call, Program.wp_pure]
    apply Program.wp_mono (ControlConnection.recv_digits client.control past)
    · exact fun _ _ _ digits _ _ _ => digits
    · exact fun _ _ _ _ => trivial
  have turn : recv.wp speech fuel
      (fun reply state after => ∃ control : ControlConnection, state = { client with control } ∧
        (reply.isNegative = false → control.socket = client.control.socket) ∧
        after = past ++ [.heard reply])
      (fun _ _ after => after = past) client past := by
    apply recv_rule client past (speech_steady _ _) rfl
    · intro reply control middle after socket same step
      refine ⟨control, rfl, fun positive => ?_, ?_⟩
      · rw [socket, if_neg (reply.not_unavailable positive)]
      · rw [speech_step step, same]
        rfl
    · exact fun _ _ _ _ same => same
  apply Program.wp_mono (Program.wp_and digits turn)
  · intro reply state after parts
    obtain ⟨digits, control, same, still, turn⟩ := parts
    subst same turn
    exact heard reply control digits still
  · intro stop state after both
    obtain ⟨_, same⟩ := both
    subst same
    exact stops stop state

theorem recvInto_turns (replies : Replies) {post : Reply × Replies → Client → List Turn → Prop}
    {fail : Stop FtpException → Client → List Turn → Prop}
    (heard : ∀ reply (control : ControlConnection), reply.code.toNat < 1000 →
      (reply.isNegative = false → control.socket = client.control.socket) →
      post (reply, replies.append reply) { client with control } (past ++ [.heard reply]))
    (stops : ∀ stop state, fail stop state past) :
    (recvInto replies).wp speech fuel post fail client past := by
  rw [recvInto_eq, Program.wp_bind]
  exact recv_turns client past heard stops

/-- One command and its reply. Over a closed connection nothing is sent. -/
theorem processCommand_turns (command : Bytes) {post : Reply → Client → List Turn → Prop}
    {fail : Stop FtpException → Client → List Turn → Prop}
    (closed : client.control.socket.isOpen = false → ∀ stop, fail stop client past)
    (heard : ∀ reply (control : ControlConnection), reply.code.toNat < 1000 →
      (reply.isNegative = false → control.socket.isOpen = true) →
      post reply { client with control } (past ++ [.said (command ++ crlf), .heard reply]))
    (stops : ∀ stop state, fail stop state (past ++ [.said (command ++ crlf)])) :
    (processCommand command).wp speech fuel post fail client past := by
  rw [processCommand, Program.wp_bind]
  apply send_rule
  · intro requested after isOpen announced written
    have same : requested = past := unspoken_step (fun _ => rfl) announced
    rw [speech_step written, same]
    apply recv_turns
    · intro reply control digits still
      rw [List.append_assoc]
      exact heard reply control digits fun positive => (still positive).symm ▸ isOpen
    · exact fun stop state => stops stop state
  · intro error requested after _ announced written
    have same : requested = past := unspoken_step (fun _ => rfl) announced
    rw [speech_step written, same]
    exact stops _ client
  · intro ec requested after isClosed announced refused
    have same : requested = past := unspoken_step (fun _ => rfl) announced
    rw [unspoken_step (fun _ => rfl) refused, same]
    exact closed isClosed _

theorem processCommandInto_turns (command : Bytes) (replies : Replies)
    {post : Reply × Replies → Client → List Turn → Prop}
    {fail : Stop FtpException → Client → List Turn → Prop}
    (closed : client.control.socket.isOpen = false → ∀ stop, fail stop client past)
    (heard : ∀ reply (control : ControlConnection), reply.code.toNat < 1000 →
      (reply.isNegative = false → control.socket.isOpen = true) →
      post (reply, replies.append reply) { client with control }
        (past ++ [.said (command ++ crlf), .heard reply]))
    (stops : ∀ stop state, fail stop state (past ++ [.said (command ++ crlf)])) :
    (processCommandInto command replies).wp speech fuel post fail client past := by
  rw [processCommandInto_eq, Program.wp_bind]
  exact processCommand_turns client past command closed heard stops

end Exchanges

end Client

end LibFtp
