import LibFtp.Control.Line

/-! The closing steps of the control connection: which of them can fail, and
what each failure leaves behind. -/

namespace LibFtp

open Effect

/-- The calls made while the control connection is closed. -/
inductive Closing : Boundary.Query → Prop where
  | sslShutdown : Closing (.sslShutdown .control)
  | shutdown : Closing (.shutdown .control)
  | close : Closing (.close .control)
  | missedShutdown : Closing (.unopened .control layer .shutdown)
  | missedClose : Closing (.unopened .control layer .close)

/-- The calls that read a line. -/
inductive ReadsLine : Boundary.Query → Prop where
  | readSome : ReadsLine (.readSome .control layer maxSize)
  | unopened : ReadsLine (.unopened .control layer (.readSome maxSize))

/-- A closing call reports an error that the code does not tolerate. -/
inductive Refuses : (query : Boundary.Query) → Boundary.Answer query → Prop where
  | sslShutdown (fatal : ec ≠ .eof) : Refuses (.sslShutdown .control) (some ec)
  | shutdown (fatal : ec ≠ .notConnected) : Refuses (.shutdown .control) (some ec)
  | close : Refuses (.close .control) (some ec)

namespace ControlConnection

def closed (connection : ControlConnection) : ControlConnection :=
  { connection with socket := { connection.socket with isOpen := false } }

@[simp] theorem closed_buffer (connection : ControlConnection) :
    connection.closed.buffer = connection.buffer := rfl

@[simp] theorem closed_isOpen (connection : ControlConnection) :
    connection.closed.socket.isOpen = false := rfl

@[simp] theorem closed_layer (connection : ControlConnection) :
    connection.closed.socket.layer = connection.socket.layer := rfl

/-- Where the closing steps stop early: at a shutdown, which leaves the socket as
it is and always fails on one that is not open, or at the close call, which has
released the socket. -/
inductive ClosingFailure {Ghost : Type} (connection : ControlConnection) (Calm : Ghost → Prop)
    (Broken : Boundary.Query → Ghost → Prop) : ControlConnection → Ghost → Prop where
  | shut (closed : connection.socket.isOpen = false) (calm : Calm after) :
      ClosingFailure connection Calm Broken connection after
  | sslShutdown (ssl : connection.socket.layer = .ssl)
      (broken : Broken (.sslShutdown .control) after) :
      ClosingFailure connection Calm Broken connection after
  | shutdown (open' : connection.socket.isOpen = true) (broken : Broken (.shutdown .control) after) :
      ClosingFailure connection Calm Broken connection after
  | close (open' : connection.socket.isOpen = true) (broken : Broken (.close .control) after) :
      ClosingFailure connection Calm Broken connection.closed after

variable {Ghost : Type} {monitor : Monitor boundary Ghost} {fuel : Nat} {Calm : Ghost → Prop}
  {Broken : Boundary.Query → Ghost → Prop}

def ClosingDone (connection : ControlConnection) (Calm : Ghost → Prop) (_ : Unit)
    (state : ControlConnection) (after : Ghost) : Prop :=
  connection.socket.isOpen = true ∧ state = connection.closed ∧ Calm after

def ClosingStopped (connection : ControlConnection) (Calm : Ghost → Prop)
    (Broken : Boundary.Query → Ghost → Prop) (stop : Stop FtpException)
    (state : ControlConnection) (after : Ghost) : Prop :=
  (∃ error, stop = .raised error) ∧ ClosingFailure connection Calm Broken state after

section Steps
variable (connection : ControlConnection)
  (calm : ∀ query answer ghost after, Closing query → ¬ Refuses query answer → Calm ghost →
    monitor.step ghost ⟨query, answer⟩ after → Calm after)
  (breaks : ∀ query answer ghost after, Refuses query answer → Calm ghost →
    monitor.step ghost ⟨query, answer⟩ after → Broken query after)

include calm breaks in
private theorem shutdownSsl_spec :
    Program.Triple monitor fuel (fun state ghost => state = connection ∧ Calm ghost) shutdownSsl
      (fun _ state after => state = connection ∧ Calm after)
      (ClosingStopped connection Calm Broken) := by
  rintro state ghost ⟨same, holds⟩
  subst state
  simp only [shutdownSsl, Program.wp_bind, Program.wp_get, Program.wp_ite, Program.wp_pure]
  split
  · rename_i isSsl
    have ssl : connection.socket.layer = .ssl := by
      simpa [ControlConnection.isSsl, Socket.hasSslSupport] using isSsl
    simp only [onSocket, Program.wp_zoom, Socket.wp_sslShutdown, if_pos ssl, wp_throwUnless]
    intro answer after step
    cases answer with
    | none => exact ⟨rfl, calm _ _ _ _ .sslShutdown (by rintro ⟨⟩) holds step⟩
    | some ec =>
      by_cases fatal : ec ≠ .eof
      · simp only [if_neg fatal]
        exact ⟨⟨_, rfl⟩, .sslShutdown ssl (breaks _ _ _ _ (.sslShutdown fatal) holds step)⟩
      · simp only [not_not.mp fatal, if_true]
        refine ⟨True.intro, calm _ _ _ _ .sslShutdown ?_ holds step⟩
        intro refuses
        cases refuses with
        | sslShutdown other => exact fatal other
  · exact ⟨rfl, holds⟩

include calm breaks in
private theorem shutdownTcp_spec :
    Program.Triple monitor fuel (fun state ghost => state = connection ∧ Calm ghost) shutdownTcp
      (fun _ state after => connection.socket.isOpen = true ∧ state = connection ∧ Calm after)
      (ClosingStopped connection Calm Broken) := by
  rintro state ghost ⟨same, holds⟩
  subst state
  simp only [shutdownTcp, Program.wp_bind, onSocket, Program.wp_zoom, Socket.wp_shutdown,
    wp_throwUnless]
  split
  · rename_i isOpen
    intro answer after step
    cases answer with
    | none => exact ⟨isOpen, rfl, calm _ _ _ _ .shutdown (by rintro ⟨⟩) holds step⟩
    | some ec =>
      by_cases fatal : ec ≠ .notConnected
      · simp only [if_neg fatal]
        exact ⟨⟨_, rfl⟩, .shutdown isOpen (breaks _ _ _ _ (.shutdown fatal) holds step)⟩
      · simp only [not_not.mp fatal, if_true]
        refine ⟨isOpen, True.intro, calm _ _ _ _ .shutdown ?_ holds step⟩
        intro refuses
        cases refuses with
        | shutdown other => exact fatal other
  · rename_i closed
    intro _ after step
    simp only [reduceCtorEq, if_false]
    have calm := calm _ _ _ _ .missedShutdown (by rintro ⟨⟩) holds step
    exact ⟨⟨_, rfl⟩, .shut (by simpa using closed) calm⟩

include calm breaks in
private theorem closeSocket_spec :
    Program.Triple monitor fuel
      (fun state ghost => connection.socket.isOpen = true ∧ state = connection ∧ Calm ghost)
      closeSocket (ClosingDone connection Calm) (ClosingStopped connection Calm Broken) := by
  rintro state ghost ⟨isOpen, same, holds⟩
  subst state
  simp only [closeSocket, Program.wp_bind, onSocket, Program.wp_zoom, Socket.wp_close,
    if_pos isOpen, wp_throwIf]
  intro answer after step
  cases answer with
  | some ec => exact ⟨⟨_, rfl⟩, .close isOpen (breaks _ _ _ _ .close holds step)⟩
  | none => exact ⟨isOpen, rfl, calm _ _ _ _ .close (by rintro ⟨⟩) holds step⟩

include calm breaks in
theorem closeSteps_spec :
    Program.Triple monitor fuel (fun state ghost => state = connection ∧ Calm ghost) closeSteps
      (ClosingDone connection Calm) (ClosingStopped connection Calm Broken) :=
  (shutdownSsl_spec connection calm breaks).bind fun _ =>
    (shutdownTcp_spec connection calm breaks).bind fun _ =>
      closeSocket_spec connection calm breaks

end Steps

/-- The same for the connection alone. -/
theorem closeSteps_state (connection : ControlConnection) (ghost : Ghost) :
    closeSteps.wp monitor fuel
      (fun _ state _ => connection.socket.isOpen = true ∧ state = connection.closed)
      (fun stop state _ => (∃ error, stop = .raised error) ∧
        (state = connection ∨ state = connection.closed)) connection ghost := by
  have calm (query answer) (ghost after : Ghost) (_ : Closing query) (_ : ¬ Refuses query answer)
      (_ : True) (_ : monitor.step ghost ⟨query, answer⟩ after) : True := trivial
  have breaks (query answer) (ghost after : Ghost) (_ : Refuses query answer) (_ : True)
      (_ : monitor.step ghost ⟨query, answer⟩ after) : True := trivial
  refine (closeSteps_spec connection calm breaks).apply ⟨rfl, trivial⟩ ?_ ?_
  · exact fun _ _ _ done => ⟨done.1, done.2.1⟩
  · intro stop state after ⟨raised, failure⟩
    refine ⟨raised, ?_⟩
    cases failure with
    | shut _ _ => exact .inl rfl
    | sslShutdown _ _ => exact .inl rfl
    | shutdown _ _ => exact .inl rfl
    | close _ _ => exact .inr rfl

/-- The socket is the one that the connection started with, under a ghost condition. -/
private def Reading (connection : ControlConnection) (held : Ghost → Prop) (socket : Socket)
    (ghost : Ghost) : Prop :=
  socket = connection.socket ∧ held ghost

private theorem readSome_reading (connection : ControlConnection) {held : Ghost → Prop}
    (reads : ∀ query answer ghost after, ReadsLine query → held ghost →
      monitor.step ghost ⟨query, answer⟩ after → held after)
    (maxSize : Nat) :
    (Socket.readSome .control maxSize).Keeps monitor (Reading connection held)
      (Reading connection held) := by
  intro fuel socket ghost ⟨same, holds⟩
  simp only [Socket.wp_readSome]
  split
  · exact fun answer after step => ⟨same, reads _ _ _ _ .readSome holds step⟩
  · exact fun ec after step => ⟨same, reads _ _ _ _ .unopened holds step⟩

/-- Receiving reads first and closes then, behind a 421 only. -/
theorem recv_phases (connection : ControlConnection) (ghost : Ghost) {held : Ghost → Prop}
    (reads : ∀ query answer ghost after, ReadsLine query → held ghost →
      monitor.step ghost ⟨query, answer⟩ after → held after)
    (holds : held ghost) (turns : ∀ ghost, held ghost → Calm ghost)
    (calm : ∀ query answer ghost after, Closing query → ¬ Refuses query answer → Calm ghost →
      monitor.step ghost ⟨query, answer⟩ after → Calm after)
    (breaks : ∀ query answer ghost after, Refuses query answer → Calm ghost →
      monitor.step ghost ⟨query, answer⟩ after → Broken query after)
    {post : Reply → ControlConnection → Ghost → Prop}
    {fail : Stop FtpException → ControlConnection → Ghost → Prop}
    (received : ∀ reply state after, reply.code ≠ 421 → state.socket = connection.socket →
      held after → post reply state after)
    (closes : ∀ reply state after, reply.code = 421 →
      state.socket = connection.closed.socket → Calm after → post reply state after)
    (stops : ∀ stop state after, state.socket = connection.socket → held after →
      fail stop state after)
    (stuck : ∀ stop middle state after, middle.socket = connection.socket →
      ClosingFailure middle Calm Broken state after → fail stop state after) :
    recv.wp monitor fuel post fail connection ghost := by
  have finish (code : UInt16) (statusString : Bytes) (state : ControlConnection) (after : Ghost)
      (reading : Reading connection held state.socket after) :
      (do
        closeIfUnavailable code
        return (⟨code, stripEol statusString⟩ : Reply) : Method ControlConnection Reply).wp monitor
        fuel post fail state after := by
    obtain ⟨same, holds⟩ := reading
    simp only [closeIfUnavailable, Program.wp_bind, Program.wp_ite, Program.wp_pure]
    split
    · rename_i unavailable
      refine (closeSteps_spec state calm breaks).apply ⟨rfl, turns _ holds⟩ ?_ ?_
      · rintro _ last left ⟨-, closed, calm⟩
        exact closes _ last left unavailable (by rw [closed, ControlConnection.closed, same]; rfl) calm
      · rintro stop last left ⟨-, failure⟩
        exact stuck stop state last left same failure
    · rename_i available
      exact received _ state after available same holds
  unfold recv
  rw [Program.wp_bind]
  have readSome := readSome_reading connection reads
  refine (readLine_keeps readSome fuel).apply ⟨rfl, holds⟩ ?_ fun stop state after reading =>
    stops stop state after reading.1 reading.2
  intro line state after reading
  cases tryParseStatusCode line with
  | none => exact stops _ state after reading.1 reading.2
  | some code =>
    by_cases multi : getElem? line 3 = some hyphen
    · simp only [if_pos multi]
      rw [Program.wp_bind, Program.wp_loop]
      refine (recvLines_keeps readSome code fuel line fuel).apply reading ?_
        fun stop last left reading => stops stop last left reading.1 reading.2
      exact fun statusString last left reading => finish code statusString last left reading
    · simp only [if_neg multi]
      rw [Program.wp_bind, Program.wp_pure]
      exact finish code line state after reading

/-- What receiving a reply does to the socket: a 421 closes it, in whatever mode it is. -/
theorem recv_socket (connection : ControlConnection) (ghost : Ghost) :
    recv.wp monitor fuel
      (fun reply state _ => state.socket =
        if reply.code = 421 then connection.closed.socket else connection.socket)
      (fun _ state _ => state.socket = connection.socket ∨ state.socket = connection.closed.socket)
      connection ghost := by
  have calm (query answer) (ghost after : Ghost) (_ : Closing query) (_ : ¬ Refuses query answer)
      (_ : True) (_ : monitor.step ghost ⟨query, answer⟩ after) : True := trivial
  have breaks (query answer) (ghost after : Ghost) (_ : Refuses query answer) (_ : True)
      (_ : monitor.step ghost ⟨query, answer⟩ after) : True := trivial
  have reads (query answer) (ghost after : Ghost) (_ : ReadsLine query) (_ : True)
      (_ : monitor.step ghost ⟨query, answer⟩ after) : True := trivial
  apply recv_phases connection ghost reads trivial (fun _ _ => trivial) calm breaks
  · intro reply state after available same _
    rw [if_neg available]
    exact same
  · intro reply state after unavailable same _
    rw [if_pos unavailable]
    exact same
  · exact fun _ _ _ same _ => .inl same
  · intro stop middle state after same failure
    cases failure with
    | shut _ _ => exact .inl same
    | sslShutdown _ _ => exact .inl same
    | shutdown _ _ => exact .inl same
    | close _ _ => exact .inr (by rw [ControlConnection.closed, ControlConnection.closed, same])

theorem connect_socket (hostname : Bytes) (port : UInt16) (connection : ControlConnection)
    (ghost : Ghost) :
    (connect hostname port).wp monitor fuel
      (fun _ state _ => state = { connection with socket := ⟨connection.socket.layer, true⟩ })
      (fun _ state _ => state = connection ∨ state = connection.closed) connection ghost := by
  simp only [connect, Program.wp_bind, wp_call, wp_throwIf]
  intro resolved _ _
  cases resolved with
  | some ec => exact .inl rfl
  | none =>
    intro connected _ _
    cases connected with
    | none => exact rfl
    | some ec =>
      simp only [Program.wp_bind, Program.wp_modify, onSocket, Program.wp_zoom, Socket.wp_close,
        if_true, wp_throwCode]
      exact fun _ _ _ => .inr rfl

theorem send_state (command : Bytes) (connection : ControlConnection) (ghost : Ghost) :
    (send command).wp monitor fuel (fun _ state _ => state = connection)
      (fun _ state _ => state = connection) connection ghost := by
  simp only [send, onSocket, Program.wp_bind, Program.wp_zoom, Socket.wp_write, wp_throwIf]
  split
  · intro answer _ _
    cases answer with
    | none => exact rfl
    | some ec => exact rfl
  · exact fun _ _ _ => trivial

end ControlConnection

end LibFtp
