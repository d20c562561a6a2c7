import LibFtp.Client.Closing
import LibFtp.Client.Frame
import LibFtp.Detail.Script

/-! The mode of a closed control connection. `disconnect` and `logout` leave SSL mode;
the closing steps behind a 421 reply do not. -/

namespace LibFtp

open Effect

namespace Client

variable {fuel : Nat}

/-- The mode of the control connection along an exchange, and whether a 421 reply has
met it in SSL mode. -/
structure Mode where
  layer : Layer
  struck : Bool
  deriving DecidableEq, Repr

def Mode.advance (mode : Mode) : BoundaryEvent → Mode
  | ⟨.setSsl .control layer, _⟩ => { mode with layer }
  | ⟨.notifyReply _ reply, _⟩ =>
    { mode with struck := mode.struck || (mode.layer = .ssl && reply.code = 421) }
  | _ => mode

/-- A 421 reply came while the control connection was in SSL mode. -/
def struck (client : Client) (events : List BoundaryEvent) : Bool :=
  (events.foldl Mode.advance ⟨client.control.socket.layer, false⟩).struck

/-- The operation is a `disconnect`, or no 421 reply met it in SSL mode. -/
def Spared (record : Record boundary Operation Client FtpException Output World) : Prop :=
  (∃ graceful, record.operation = .disconnect graceful) ∨
    struck record.before record.events = false

/-- Questions that only make sense once TLS is on. -/
inductive Sealed : Boundary.Query → Prop where
  | handshake : Sealed (.handshake .control)
  | readSome : Sealed (.readSome .control .ssl maxSize)

def isReply : BoundaryEvent → Bool
  | ⟨.notifyReply _ _, _⟩ => true
  | _ => false

/-- The first reply was read in plain text and before any handshake. -/
def GreetedInClear (events : List BoundaryEvent) : Prop :=
  ∀ event ∈ events.takeWhile (!isReply ·), ¬ Sealed event.query

/-- If the connection is closed, it is in non-SSL mode, and the next `connect` reads
the greeting in plain text. -/
def ClosedInClear (client : Client) : Prop :=
  client.control.isConnected = false → client.control.isSsl = false ∧
    ∀ (World : Type) (host : Host boundary World) (fuel : Nat) (world : World) (hostname : Bytes)
      (port : UInt16) (username : Option Bytes) (password : Bytes),
      GreetedInClear ((connect hostname port username password).run host fuel client world).events

private def Clear (events : List BoundaryEvent) : Prop :=
  ∀ event ∈ events, isReply event = false ∧ ¬ Sealed event.query

private theorem clear_snoc (past : List BoundaryEvent) (event : BoundaryEvent) (clear : Clear past)
    (unreplied : isReply event = false) (unsealed : ¬ Sealed event.query) : Clear (past ++ [event]) := by
  intro other member
  rcases List.mem_append.mp member with early | last
  · exact clear other early
  · exact List.mem_singleton.mp last ▸ ⟨unreplied, unsealed⟩

private theorem clear_steady : Steady Monitor.history .plain Clear := by
  intro past event after link clear step
  have step : after = past ++ [event] := step
  subst after
  obtain ⟨query, answer⟩ := event
  cases link with
  | handshake ssl => cases ssl
  | closing closing =>
    cases closing with
    | sslShutdown => exact clear_snoc _ _ clear rfl nofun
    | shutdown => exact clear_snoc _ _ clear rfl nofun
    | close => exact clear_snoc _ _ clear rfl nofun
    | missedShutdown => exact clear_snoc _ _ clear rfl nofun
    | missedClose => exact clear_snoc _ _ clear rfl nofun
  | resolve => exact clear_snoc _ _ clear rfl nofun
  | connect => exact clear_snoc _ _ clear rfl nofun
  | readSome => exact clear_snoc _ _ clear rfl nofun
  | missedRead => exact clear_snoc _ _ clear rfl nofun

private theorem clear_greeted (clear : Clear past) : GreetedInClear past :=
  fun _ member => (clear _ ((List.takeWhile_prefix _).subset member)).2

private theorem reply_greeted (past more : List BoundaryEvent) (observers : List ObserverId)
    (reply : Reply) (clear : Clear past) :
    GreetedInClear (past ++ [⟨.notifyReply observers reply, ()⟩] ++ more) := by
  intro event member
  rw [List.append_assoc, List.takeWhile_append_of_pos] at member
  · simp only [List.cons_append, List.takeWhile_cons, isReply, Bool.not_true, Bool.false_eq_true,
      if_false, List.append_nil] at member
    exact (clear event member).2
  · intro other early
    simp [(clear other early).1]

private theorem recv_in_clear (client : Client) (plain : client.control.socket.layer = .plain)
    (past : List BoundaryEvent) (clear : Clear past) :
    recv.wp Monitor.history fuel
      (fun _ _ after => ∀ more, GreetedInClear (after ++ more)) (fun _ _ => GreetedInClear)
      client past := by
  apply recv_rule client past (plain ▸ clear_steady) clear
  · intro reply _ middle after _ clear step more
    rw [show after = middle ++ [⟨.notifyReply client.observers reply, ()⟩] from step]
    exact reply_greeted middle more _ reply clear
  · exact fun _ _ _ _ clear => clear_greeted clear

private theorem connect_in_clear (hostname : Bytes) (port : UInt16) (username : Option Bytes)
    (password : Bytes) (client : Client) (plain : client.control.socket.layer = .plain) :
    (connect hostname port username password).wp Monitor.history fuel
      (fun _ _ => GreetedInClear) (fun _ _ => GreetedInClear) client [] := by
  rw [connect_eq, Program.wp_bind]
  simp only [greet, Program.wp_bind]
  apply onControl_rule client []
    (ControlConnection.connect_stays (plain ▸ clear_steady) hostname port)
    (fun _ member => absurd member List.not_mem_nil)
    (ControlConnection.connect_socket hostname port client.control _)
  · intro _ control past opened clear
    have started : Clear (past ++ [⟨.notifyConnected client.observers hostname port, ()⟩]) := by
      refine clear_snoc past _ clear rfl fun sealed => ?_
      cases sealed
    subst control
    simp only [notifyConnected, recvInto_eq, Program.wp_bind, Program.wp_get, wp_call, Program.wp_pure]
    intro _ notified step
    rw [show notified = past ++ [⟨.notifyConnected client.observers hostname port, ()⟩] from step]
    apply Program.wp_mono (recv_in_clear _ (by exact plain) _ started)
    · intro reply state after greeted
      apply Program.wp_history
      · intro outcome last more
        apply Program.wp_history
        · intro _ _ rest
          rw [List.append_assoc]
          exact greeted _
        · intro _ _ rest
          rw [List.append_assoc]
          exact greeted _
      · exact fun _ _ more => greeted more
    · exact fun _ _ _ => id
  · exact fun _ _ _ _ clear => clear_greeted clear

theorem closedInClear_iff (client : Client) :
    client.ClosedInClear ↔ client.control.socket ≠ ⟨.ssl, false⟩ := by
  constructor
  · intro clear same
    have plain := (clear (by rw [ControlConnection.isConnected, same])).1
    simp [ControlConnection.isSsl, Socket.hasSslSupport, same] at plain
  · intro other isClosed
    have plain : client.control.socket.layer = .plain := by
      obtain ⟨_, _, _, _, ⟨_, ⟨layer, isOpen⟩⟩, _⟩ := client
      have isClosed : isOpen = false := isClosed
      subst isOpen
      cases layer with
      | plain => rfl
      | ssl => exact (other rfl).elim
    refine ⟨by simp [ControlConnection.isSsl, Socket.hasSslSupport, plain], ?_⟩
    intro World host fuel world hostname port username password
    rcases Program.wp_run (connect_in_clear hostname port username password client plain) host world
      (Monitor.history_drives [] _) with ⟨_, _, greeted⟩ | ⟨_, _, greeted⟩
    · exact greeted
    · exact greeted

private def Tracks (client : Client) (mode : Mode) : Prop :=
  client.control.socket.layer = mode.layer ∧
    (mode.struck = true ↔ client.control.socket = ⟨.ssl, false⟩)

private theorem mode_steady (mode : Mode) (layer : Layer) :
    Steady (Monitor.fold Mode.advance) layer (· = mode) :=
  steady_fold mode fun _ ⟨_, _⟩ link => by
    cases link with
    | closing closing => cases closing <;> rfl
    | _ => rfl

private theorem tracks_other (client : Client) (mode : Mode) (reply : Reply)
    (control : ControlConnection) (tracks : Tracks client mode)
    (socket : control.socket =
      if reply.code = 421 then client.control.closed.socket else client.control.socket) :
    Tracks { client with control }
      { mode with struck := mode.struck || (mode.layer = .ssl && reply.code = 421) } := by
  obtain ⟨layer, strikes⟩ := tracks
  by_cases unavailable : reply.code = 421
  · rw [if_pos unavailable] at socket
    refine ⟨?_, ?_⟩
    · simp only [socket, ControlConnection.closed, layer]
    · cases same : mode.layer with
      | ssl => simp [socket, ControlConnection.closed, layer, same, unavailable]
      | plain =>
        have other : client.control.socket ≠ ⟨.ssl, false⟩ := by
          intro equal
          rw [equal, same] at layer
          cases layer
        simp [socket, ControlConnection.closed, layer, same, unavailable, strikes, other]
  · rw [if_neg unavailable] at socket
    refine ⟨?_, ?_⟩
    · simp only [socket, layer]
    · simp only [socket, unavailable, decide_false, Bool.and_false, Bool.or_false]
      exact strikes

private abbrev modes : Monitor boundary Mode := Monitor.fold Mode.advance

/-- A reply that is not negative changes neither the socket nor the mode. -/
private theorem recv_tracks (client : Client) (mode : Mode) (tracks : Tracks client mode) :
    recv.wp modes fuel
      (fun reply state after => Tracks state after ∧ (reply.isNegative = false →
        state.control.socket = client.control.socket ∧ after = mode))
      (fun _ _ _ => True) client mode := by
  apply recv_rule client mode (mode_steady mode _) rfl
  · intro reply control middle after socket same step
    have step : after = Mode.advance middle ⟨.notifyReply client.observers reply, ()⟩ := step
    subst middle after
    refine ⟨tracks_other client mode reply control tracks socket, fun positive => ?_⟩
    have available := reply.not_unavailable positive
    refine ⟨?_, ?_⟩
    · exact socket.trans (if_neg available)
    · simp [Mode.advance, available]
  · exact fun _ _ _ _ _ => trivial

private theorem send_tracks (command : Bytes) (client : Client) (mode : Mode) :
    (send command).wp modes fuel (fun _ state after => state = client ∧ after = mode)
      (fun _ _ _ => True) client mode := by
  apply send_rule
  · intro requested after _ heard written
    have heard : requested = mode := heard
    have written : after = requested := written
    exact ⟨rfl, written.trans heard⟩
  · exact fun _ _ _ _ _ _ => trivial
  · exact fun _ _ _ _ _ _ => trivial

private theorem processCommand_tracks (command : Bytes) (client : Client) (mode : Mode)
    (tracks : Tracks client mode) :
    (processCommand command).wp modes fuel
      (fun reply state after => Tracks state after ∧ (reply.isNegative = false →
        state.control.socket = client.control.socket ∧ after = mode))
      (fun _ _ _ => True) client mode := by
  unfold processCommand
  rw [Program.wp_bind]
  apply Program.wp_mono (send_tracks command client mode)
  · intro _ state after ⟨same, still⟩
    subst state after
    exact recv_tracks client mode tracks
  · exact fun _ _ _ _ => trivial

private theorem mode_upholds : Upholds modes Tracks (fun _ _ => True) (fun _ => True) where
  stops _ _ _ := trivial
  quiet query answer state mode after quiet tracks step := by
    have step : after = Mode.advance mode ⟨query, answer⟩ := step
    have same : Mode.advance mode ⟨query, answer⟩ = mode := by cases quiet <;> rfl
    rw [step, same]
    exact tracks
  settings _ _ _ _ _ _ tracks := tracks
  exchange command _ _ client mode tracks :=
    Program.wp_mono (processCommand_tracks command client mode tracks) (fun _ _ _ both => both.1)
      (fun _ _ _ _ => trivial)
  receive _ client mode tracks :=
    Program.wp_mono (recv_tracks client mode tracks) (fun _ _ _ both => both.1)
      (fun _ _ _ _ => trivial)

private theorem secure_tracks (replies : Replies) (reply : Reply) (client : Client) (mode : Mode)
    (layer : Layer) (tracks : Tracks client mode)
    (greeted : reply.isNegative = false →
      client.control.socket = ⟨layer, true⟩ ∧ mode = ⟨layer, false⟩) :
    (secure reply replies).wp modes fuel (fun _ => Tracks) (fun _ _ _ => True) client mode := by
  unfold secure
  split
  · exact tracks
  · rename_i positive
    obtain ⟨isOpen, unstruck⟩ := greeted (by simpa using positive)
    subst mode
    simp only [processCommandInto_eq, Program.wp_bind, Program.wp_get, Program.wp_ite, Program.wp_pure]
    split
    · apply Program.wp_mono (processCommand_tracks _ client _ tracks)
      · intro reply state after ⟨tracked, agreed⟩
        split
        · exact tracked
        · rename_i positive
          obtain ⟨socket, same⟩ := agreed (by simpa using positive)
          simp only [onControl, ControlConnection.setSsl, ControlConnection.sslHandshake,
            ControlConnection.onSocket, Program.wp_bind, Program.wp_zoom, Socket.wp_setSsl,
            Socket.wp_sslHandshake, wp_throwIf, if_true]
          intro _ switched step answer done shaken
          have step : switched = { after with layer := .ssl } := step
          have shaken : done = switched := shaken
          cases answer with
          | some ec => trivial
          | none =>
            rw [shaken, step, same]
            refine ⟨rfl, ?_⟩
            simp only [socket, isOpen]
            decide
      · exact fun _ _ _ _ => trivial
    · exact tracks

private theorem greet_tracks (hostname : Bytes) (port : UInt16) (client : Client) (layer : Layer)
    (same : client.control.socket.layer = layer) :
    (greet hostname port).wp modes fuel (fun _ => Tracks) (fun _ _ _ => True) client
      ⟨layer, false⟩ := by
  simp only [greet, Program.wp_bind]
  apply onControl_rule client _ (ControlConnection.connect_stays (mode_steady _ _) hostname port) rfl
    (ControlConnection.connect_socket hostname port client.control _)
  · intro _ control after opened still
    subst control after
    simp only [notifyConnected, recvInto_eq, Program.wp_bind, Program.wp_get, wp_call, Program.wp_pure]
    intro _ notified still
    rw [show notified = ⟨layer, false⟩ from still]
    apply Program.wp_mono (recv_tracks _ _ (by simp [Tracks, same]))
    · intro reply state after both
      obtain ⟨tracked, greeted⟩ := both
      apply secure_tracks _ reply state after layer tracked
      intro positive
      obtain ⟨socket, unstruck⟩ := greeted positive
      exact ⟨by simp only [socket, same], unstruck⟩
    · exact fun _ _ _ _ => trivial
  · exact fun _ _ _ _ _ => trivial

private theorem connect_tracks (hostname : Bytes) (port : UInt16) (username : Option Bytes)
    (password : Bytes) (client : Client) :
    (connect hostname port username password).wp modes fuel (fun _ => Tracks) (fun _ _ _ => True)
      client ⟨client.control.socket.layer, false⟩ := by
  rw [connect_eq, Program.wp_bind]
  apply Program.wp_mono (greet_tracks hostname port client _ rfl)
  · intro outcome state after tracks
    cases outcome with
    | error replies => exact tracks
    | ok replies =>
      exact mode_upholds.connectLogin username password replies (fun _ _ _ _ => trivial) fuel state
        after tracks
  · exact fun _ _ _ _ => trivial

private theorem logout_tracks (client : Client) (mode : Mode) (tracks : Tracks client mode)
    (unstruck : mode.struck = false) :
    logout.wp modes fuel (fun _ => Tracks) (fun _ _ _ => True) client mode := by
  simp only [logout, Program.wp_bind, Program.wp_get, Program.wp_ite, Program.wp_pure]
  apply Program.wp_mono (processCommand_tracks _ client mode tracks)
  · intro reply state after ⟨tracked, answered⟩
    split
    · rename_i positive
      obtain ⟨_, same⟩ := answered (reply.not_negative positive.1)
      apply onControl_rule state after
        (ControlConnection.sslShutdown_stays (mode_steady after _)) rfl
        (Program.wp_always _ (fun _ _ _ => trivial) (fun _ _ _ => trivial))
      · intro _ control between _ still
        subst between
        simp only [onControl, ControlConnection.setSsl, ControlConnection.onSocket,
          Program.wp_zoom, Socket.wp_setSsl]
        intro _ switched step
        have step : switched = { after with layer := .plain } := step
        rw [step, same]
        simp [Tracks, unstruck]
      · exact fun _ _ _ _ _ => trivial
    · exact tracked
  · exact fun _ _ _ _ => trivial

/-- Every operation but `disconnect`, from an unstruck connection. -/
private theorem invoke_tracks (operation : Operation) (client : Client)
    (proper : client.control.socket ≠ ⟨.ssl, false⟩)
    (stays : ∀ graceful, operation ≠ .disconnect graceful) :
    (invoke operation).wp modes fuel (fun _ => Tracks) (fun _ _ _ => True) client
      ⟨client.control.socket.layer, false⟩ := by
  have tracks : Tracks client ⟨client.control.socket.layer, false⟩ := by simp [Tracks, proper]
  by_cases reconnects : operation.Reconnects
  · cases operation with
    | connect hostname port username password =>
      simp only [invoke, Program.wp_bind, Program.wp_pure]
      exact connect_tracks hostname port username password client
    | logout =>
      simp only [invoke, Program.wp_bind, Program.wp_pure]
      exact logout_tracks client _ tracks rfl
    | disconnect graceful => exact (stays graceful rfl).elim
    | _ => exact reconnects.elim
  · exact mode_upholds.invoke operation reconnects (fun _ _ => trivial) fuel client _ tracks

/-- One operation that returns keeps the invariant exactly when it is spared. -/
private theorem spared_step (host : Host boundary World) (operation : Operation) (client : Client)
    (world : World) (proper : client.ClosedInClear)
    (normal : (perform invoke host fuel operation client world).Normal) :
    (perform invoke host fuel operation client world).after.ClosedInClear ↔
      Spared (perform invoke host fuel operation client world) := by
  rw [closedInClear_iff] at proper ⊢
  by_cases leaves : ∃ graceful, operation = .disconnect graceful
  · obtain ⟨graceful, same⟩ := leaves
    have released := disconnect_releases graceful host operation client world same normal
    constructor
    · exact fun _ => .inl ⟨graceful, same⟩
    · intro _ stuck
      rw [released] at stuck
      cases stuck
  · have stays (graceful : Bool) : operation ≠ .disconnect graceful :=
      fun same => leaves ⟨graceful, same⟩
    obtain ⟨_, _, _, strikes⟩ := perform_normal (invoke_tracks operation client proper stays)
      (Monitor.fold_drives _ _ _) normal
    constructor
    · intro unstuck
      exact .inr (Bool.eq_false_iff.mpr fun hit => unstuck (strikes.mp hit))
    · intro spared stuck
      rcases spared with left | spared
      · exact leaves left
      · exact Bool.false_ne_true (spared.symm.trans (strikes.mpr stuck))

/-- Along a run of operations that all return, a closed connection is always in
non-SSL mode exactly when no operation but `disconnect` receives a 421 reply in SSL
mode. -/
theorem closed_in_clear_iff (mode : TransferMode) (type : TransferType) (context support : Bool)
    (host : Host boundary World) (fuel : Nat) (world : World) (operations : List Operation)
    (normal : ∀ record ∈ session invoke host fuel operations (Client.new mode type context support)
      world, record.Normal) :
    (∀ record ∈ session invoke host fuel operations (Client.new mode type context support) world,
      record.after.ClosedInClear) ↔
    ∀ record ∈ session invoke host fuel operations (Client.new mode type context support) world,
      Spared record := by
  have start : (Client.new mode type context support).ClosedInClear := by
    rw [closedInClear_iff]
    nofun
  constructor
  · intro proper record member
    refine (session_invariant ClosedInClear
      (fun record => record.Normal ∧ record.after.ClosedInClear) Spared ?_ operations _ world start
      (fun record member => ⟨normal record member, proper record member⟩) record member).2
    intro operation client world proper ⟨normal, left⟩
    exact ⟨left, (spared_step host operation client world proper normal).mp left⟩
  · intro spared record member
    refine (session_invariant ClosedInClear (fun record => record.Normal ∧ Spared record)
      (fun _ => True) ?_ operations _ world start
      (fun record member => ⟨normal record member, spared record member⟩) record member).1
    intro operation client world proper ⟨normal, spared⟩
    exact ⟨(spared_step host operation client world proper normal).mpr spared, trivial⟩

theorem closed_in_clear_iff_quit :
    let records := session invoke Script.host 9
      [.connect (text "host") 21 none [], .disconnect true] (Client.new .passive .binary true true)
      (.ofReplies [text "220 a\r\n", text "234 b\r\n", text "421 c\r\n"])
    (∀ record ∈ records, record.after.ClosedInClear) ↔ ∀ record ∈ records, Spared record :=
  closed_in_clear_iff .passive .binary true true Script.host 9 _ _
    (all_normal (by decide +kernel))

/-- NOOP answered with 421 over TLS closes the connection and leaves it in SSL mode:
the next `connect` puts the greeting through TLS without a handshake. -/
theorem unavailable_leaves_ssl :
    let records := session invoke Script.host 9
      [.connect (text "host") 21 none [], .sendNoop] (Client.new .passive .binary true true)
      (.ofReplies [text "220 a\r\n", text "234 b\r\n", text "421 c\r\n"])
    (∀ record ∈ records, record.Normal) ∧ ¬ ∀ record ∈ records, record.after.ClosedInClear := by
  intro records
  refine ⟨all_normal (by decide +kernel), fun proper => ?_⟩
  have last : (records.getLast?.map fun record => record.after.control.socket) =
      some ⟨.ssl, false⟩ := by
    decide +kernel
  obtain ⟨record, found, stuck⟩ := Option.map_eq_some_iff.mp last
  exact (closedInClear_iff record.after).mp (proper record (List.mem_of_getLast? found)) stuck

end Client

end LibFtp
