import LibFtp.Client.Course
import LibFtp.Detail.DataClosing
import LibFtp.Detail.Script

/-! A transfer that fails behind the answer to its main command. The reply that the server
still owes for it is read by then, or it is left to the next command. -/

namespace LibFtp

open Effect

/-- What has become of a transfer: whether its main command was written, the answer to it,
whether a reply behind the answer was read, whether an ABOR was written behind it and a 426
was read behind that, and the channel of the last call where that refused to close. -/
structure Fate where
  asked : Bool
  answer : Option Reply
  followed : Bool
  aborted : Bool
  interrupted : Bool
  refused : Option Channel
  deriving DecidableEq, Repr

namespace Fate

def start : Fate := ⟨false, none, false, false, false, none⟩

/-- A reply is read when the observers hear of it, or when the control connection is closed,
which happens behind a 421 only. -/
def advance (main : Bytes) (fate : Fate) (event : BoundaryEvent) : Fate :=
  let fate := { fate with refused := refusal event }
  match event with
  | ⟨.write .control _ line, none⟩ =>
    { fate with
      asked := fate.asked || line = main ++ crlf
      aborted := fate.aborted || (fate.answer.isSome && line = text "ABOR\r\n") }
  | ⟨.notifyReply _ reply, _⟩ =>
    if fate.answer.isSome then
      { fate with
        followed := true
        interrupted := fate.interrupted || (fate.aborted && reply.code = 426) }
    else { fate with answer := if fate.asked then some reply else none }
  | ⟨.sslShutdown .control, _⟩ | ⟨.shutdown .control, _⟩ | ⟨.close .control, _⟩ =>
    { fate with followed := fate.followed || fate.answer.isSome }
  | _ => fate

/-- The last call refused to close the control connection; or a 426 has answered the ABOR; or
behind an ABOR, the last call refused to close the data connection. -/
def Late (fate : Fate) : Prop :=
  fate.refused = some .control ∨ fate.interrupted = true ∨
    fate.aborted = true ∧ fate.refused = some .data

instance (fate : Fate) : Decidable fate.Late := inferInstanceAs (Decidable (_ ∨ _))

/-- The fate of the transfer that the main command opens. -/
def ofEvents (main : Bytes) (events : List BoundaryEvent) : Fate := events.foldl (advance main) start

end Fate

namespace Client

variable {main : Bytes} {fuel : Nat}

private abbrev fates (main : Bytes) : Monitor boundary Fate := Monitor.fold (Fate.advance main)

/-- The main command was not written yet. -/
private def Unasked (fate : Fate) : Prop := ∃ refused, fate = { Fate.start with refused }

/-- Its answer is the last reply that was read. -/
private def accepted (answer : Reply) : Fate := ⟨true, some answer, false, false, false, none⟩

/-- An ABOR was written behind it. -/
private def aborting (answer : Reply) : Fate := ⟨true, some answer, false, true, false, none⟩

/-- A reply was read behind that. -/
private def answered (answer : Reply) (interrupted : Bool) : Fate :=
  ⟨true, some answer, true, true, interrupted, none⟩

private def Agreed (client : Client) (fate : Fate) : Prop :=
  client.control.socket.isOpen = true ∧ ∃ answer : Reply, answer.isNegative = false ∧
    fate = accepted answer

private def Denied (_ : Client) (fate : Fate) : Prop :=
  ∃ answer : Reply, answer.isNegative = true ∧ fate.answer = some answer

/-- Behind a main command that was accepted, the control connection is closed or a further
reply was read just where the failure comes late. -/
private def Judged (client : Client) (fate : Fate) : Prop :=
  ∀ answer, fate.answer = some answer → answer.isNegative = false →
    (client.control.socket.isOpen = false ∨ fate.followed = true ↔ fate.Late)

private theorem judged_unanswered {client : Client} {fate : Fate} (unanswered : fate.answer = none) :
    Judged client fate := by
  intro answer same
  rw [unanswered] at same
  cases same

private theorem judged_early {client : Client} {fate : Fate}
    (isOpen : client.control.socket.isOpen = true) (unread : fate.followed = false)
    (early : ¬ fate.Late) : Judged client fate := by
  refine fun _ _ _ => iff_of_false ?_ early
  rw [isOpen, unread]
  exact nofun

private theorem judged_late {client : Client} {fate : Fate} (followed : fate.followed = true)
    (late : fate.Late) : Judged client fate :=
  fun _ _ _ => iff_of_true (.inr followed) late

private theorem accepted_judged {client : Client} {fate : Fate} (holds : Agreed client fate) :
    Judged client fate := by
  obtain ⟨isOpen, answer, _, rfl⟩ := holds
  exact judged_early isOpen rfl (by simp [Fate.Late, accepted])

section Before

private theorem unasked_steady (layer : Layer) : Steady (fates main) layer Unasked := by
  rintro _ ⟨query, answer⟩ after link ⟨refused, rfl⟩ step
  have step : after = Fate.advance main { Fate.start with refused } ⟨query, answer⟩ := step
  rw [step]
  cases link with
  | closing closing => cases closing <;> exact ⟨_, rfl⟩
  | _ => exact ⟨_, rfl⟩

private theorem unasked_quiet {query : Boundary.Query} {answer : Boundary.Answer query}
    {fate after : Fate} (quiet : Quiet query) (unasked : Unasked fate)
    (step : (fates main).step fate ⟨query, answer⟩ after) : Unasked after := by
  obtain ⟨refused, rfl⟩ := unasked
  have step : after = Fate.advance main { Fate.start with refused } ⟨query, answer⟩ := step
  rw [step]
  cases quiet <;> exact ⟨_, rfl⟩

private theorem unasked_judged {client : Client} {fate : Fate} (unasked : Unasked fate) :
    Judged client fate := by
  obtain ⟨refused, rfl⟩ := unasked
  exact judged_unanswered rfl

private theorem recv_unasked :
    recv.Keeps (fates main) (fun _ => Unasked) Judged := by
  intro fuel client fate unasked
  apply recv_rule client fate (unasked_steady _) unasked
  · rintro reply control _ after - ⟨refused, rfl⟩ step
    exact ⟨none, step⟩
  · exact fun _ _ _ _ unasked => unasked_judged unasked

/-- An exchange before the main command. -/
private theorem exchange_unasked (command : Bytes) (other : command ≠ main) :
    (processCommand command).Keeps (fates main) (fun _ => Unasked) Judged := by
  have apart : command ++ crlf ≠ main ++ crlf := fun same => other (List.append_cancel_right same)
  intro fuel client fate ⟨refused, started⟩
  subst started
  rw [processCommand, Program.wp_bind]
  apply send_rule
  · intro requested after _ requests written
    have requests : requested = Fate.start := requests
    subst requests
    have written : after = { Fate.start with asked := decide (command ++ crlf = main ++ crlf) } :=
      written
    rw [decide_eq_false apart] at written
    exact recv_unasked fuel client after ⟨none, written⟩
  · intro error requested after _ requests failed
    have requests : requested = Fate.start := requests
    subst requests
    exact unasked_judged ⟨none, failed⟩
  · intro ec requested after _ requests failed
    have requests : requested = Fate.start := requests
    subst requests
    exact unasked_judged ⟨none, failed⟩

private theorem unasked_carries :
    Carries (fates main) (fun _ => Unasked) Judged (· ≠ main) where
  stops _ _ unasked := unasked_judged unasked
  quiet _ _ _ _ _ quiet unasked step := unasked_quiet quiet unasked step
  exchange := exchange_unasked
  receive := recv_unasked

end Before

section Calls
variable (client : Client) (fate : Fate) (quiet : fate.refused = none)
  (isOpen : client.control.socket.isOpen = true)

private theorem refuses_refusal {query : Boundary.Query} {answer : Boundary.Answer query}
    (refuses : Refuses query answer) : refusal ⟨query, answer⟩ = some .control := by
  cases refuses with
  | sslShutdown fatal => exact if_neg fatal
  | shutdown fatal => exact if_neg fatal
  | close => rfl

private theorem tolerated_refusal {query : Boundary.Query} {answer : Boundary.Answer query}
    (closing : Closing query) (tolerated : ¬ Refuses query answer) :
    refusal ⟨query, answer⟩ = none := by
  cases closing with
  | sslShutdown =>
    cases answer with
    | none => rfl
    | some ec => exact if_pos (not_not.mp fun fatal => tolerated (.sslShutdown fatal))
  | shutdown =>
    cases answer with
    | none => rfl
    | some ec => exact if_pos (not_not.mp fun fatal => tolerated (.shutdown fatal))
  | close =>
    cases answer with
    | none => rfl
    | some ec => exact absurd .close tolerated
  | missedShutdown | missedClose => rfl

/-- The closing steps come behind a reply, or too late for anything. -/
private theorem advance_closing {query : Boundary.Query} (closing : Closing query)
    (answer : Boundary.Answer query) :
    fate.advance main ⟨query, answer⟩ = { fate with refused := refusal ⟨query, answer⟩ } ∨
      fate.advance main ⟨query, answer⟩ =
        { fate with
          refused := refusal ⟨query, answer⟩
          followed := fate.followed || fate.answer.isSome } := by
  cases closing with
  | missedShutdown | missedClose => exact .inl rfl
  | _ => exact .inr rfl

private theorem advance_refuses {query : Boundary.Query} {answer : Boundary.Answer query}
    (refuses : Refuses query answer) :
    fate.advance main ⟨query, answer⟩ =
      { fate with
        refused := some .control
        followed := fate.followed || fate.answer.isSome } := by
  rw [← refuses_refusal refuses]
  cases refuses <;> rfl

include quiet isOpen

/-- What receiving a reply does over a socket that is open. -/
private theorem recv_fate {post : Reply → Client → Fate → Prop}
    {fail : Stop FtpException → Client → Fate → Prop}
    (received : ∀ (reply : Reply) (control : ControlConnection),
      (reply.code ≠ 421 → control.socket = client.control.socket) →
      post reply { client with control }
        (fate.advance main ⟨.notifyReply client.observers reply, ()⟩))
    (stops : ∀ stop (control : ControlConnection), control.socket = client.control.socket →
      fail stop { client with control } fate)
    (stuck : ∀ stop (control : ControlConnection), fail stop { client with control }
      { fate with refused := some .control, followed := fate.followed || fate.answer.isSome }) :
    recv.wp (fates main) fuel post fail client fate := by
  let behind : Fate := { fate with followed := fate.followed || fate.answer.isSome }
  have same : { fate with refused := none } = fate := by rw [← quiet]
  have reads (query answer) (ghost after : Fate) (reading : ReadsLine query) (holds : ghost = fate)
      (step : (fates main).step ghost ⟨query, answer⟩ after) : after = fate := by
    subst holds
    cases reading <;> exact Eq.trans step same
  have calm (query answer) (ghost after : Fate) (closing : Closing query)
      (tolerated : ¬ Refuses query answer) (holds : ghost = fate ∨ ghost = behind)
      (step : (fates main).step ghost ⟨query, answer⟩ after) : after = fate ∨ after = behind := by
    have step : after = ghost.advance main ⟨query, answer⟩ := step
    have silent := tolerated_refusal closing tolerated
    rcases advance_closing ghost closing answer with still | followed
    · rw [step, still, silent]
      rcases holds with rfl | rfl
      · exact .inl same
      · exact .inr (by simp [behind, quiet])
    · rw [step, followed, silent]
      rcases holds with rfl | rfl
      · exact .inr (by rw [← quiet])
      · exact .inr (by simp [behind, quiet])
  have breaks (query answer) (ghost after : Fate) (refuses : Refuses query answer)
      (holds : ghost = fate ∨ ghost = behind)
      (step : (fates main).step ghost ⟨query, answer⟩ after) :
      after = { behind with refused := some .control } := by
    have step : after = ghost.advance main ⟨query, answer⟩ := step
    rw [step, advance_refuses ghost refuses]
    rcases holds with rfl | rfl
    · rfl
    · simp [behind]
  have heard (reply : Reply) (control : ControlConnection) (middle : Fate)
      (holds : middle = fate ∨ middle = behind)
      (kept : reply.code ≠ 421 → control.socket = client.control.socket) :
      (notifyReply reply >>= fun _ => pure reply : Method Client Reply).wp (fates main) fuel post
        fail { client with control } middle := by
    simp only [notifyReply, Program.wp_bind, Program.wp_get, wp_call, Program.wp_pure]
    intro _ after step
    have step : after = middle.advance main ⟨.notifyReply client.observers reply, ()⟩ := step
    rw [step]
    rcases holds with rfl | rfl
    · exact received reply control kept
    · have further := received reply control kept
      cases told : fate.answer <;> simpa [behind, Fate.advance, told] using further
  simp only [recv, onControl, Program.wp_bind, Program.wp_zoom]
  apply ControlConnection.recv_phases client.control fate reads rfl (fun _ => .inl) calm breaks
  · intro reply state after _ socket holds
    have ends := heard reply state after (.inl holds) fun _ => socket
    rwa [Program.wp_bind] at ends
  · intro reply state after unavailable _ holds
    have ends := heard reply state after holds fun available => absurd unavailable available
    rwa [Program.wp_bind] at ends
  · intro stop state after socket holds
    subst holds
    exact stops stop state socket
  · intro stop middle state after socket failure
    cases failure with
    | shut closed _ => rw [socket, isOpen] at closed; cases closed
    | sslShutdown _ broken => subst broken; exact stuck stop _
    | shutdown _ broken => subst broken; exact stuck stop _
    | close _ broken => subst broken; exact stuck stop _

omit isOpen in
/-- Closing the data connection. -/
private theorem close_fate (connection : DataConnection) (graceful : Bool)
    {post : Unit × DataConnection → Client → Fate → Prop}
    {fail : Stop FtpException → Client → Fate → Prop}
    (done : ∀ value, post value client fate)
    (refused : ∀ stop, fail stop client { fate with refused := some .data })
    (stops : graceful = true → ∀ stop, fail stop client fate) :
    (Program.on connection (DataConnection.disconnect graceful)).wp (fates main) fuel post fail
      client fate := by
  have still (query answer) (ghost : Fate) (plumbing : Plumbing query) :
      ghost.advance main ⟨query, answer⟩ = { ghost with refused := refusal ⟨query, answer⟩ } := by
    cases plumbing <;> rfl
  have calm (query answer) (ghost after : Fate) (plumbing : Plumbing query)
      (tolerated : refusal ⟨query, answer⟩ = none) (holds : ghost = fate)
      (step : (fates main).step ghost ⟨query, answer⟩ after) : after = fate := by
    have step : after = ghost.advance main ⟨query, answer⟩ := step
    rw [step, still query answer ghost plumbing, tolerated, holds, ← quiet]
  have breaks (query answer) (ghost after : Fate) (plumbing : Plumbing query)
      (refuses : refusal ⟨query, answer⟩ = some .data) (holds : ghost = fate)
      (step : (fates main).step ghost ⟨query, answer⟩ after) :
      after = { fate with refused := some .data } := by
    have step : after = ghost.advance main ⟨query, answer⟩ := step
    rw [step, still query answer ghost plumbing, refuses, holds]
  rw [Program.wp_on]
  refine (DataConnection.disconnect_spec calm breaks graceful).apply rfl ?_ ?_
  · intro value closed after same
    subst same
    exact done (value, closed)
  · rintro stop _ after (same | ⟨isGraceful, same⟩)
    · subst same
      exact refused stop
    · subst same
      exact stops isGraceful stop

end Calls

section Behind

/-- The main command and the answer to it. -/
private theorem main_fate (replies : Replies) :
    Program.Triple (fates main) fuel (fun _ => Unasked) (processCommandInto main replies)
      (fun answer => if answer.1.isNegative then Denied else Agreed) (fun _ => Judged) := by
  rintro client fate ⟨refused, rfl⟩
  rw [processCommandInto_eq, Program.wp_bind, processCommand, Program.wp_bind]
  apply send_rule
  · intro requested after isOpen requests written
    have requests : requested = Fate.start := requests
    subst requests
    have written : after = { Fate.start with asked := decide (main ++ crlf = main ++ crlf) } :=
      written
    rw [decide_eq_true rfl] at written
    subst written
    apply recv_fate client _ rfl isOpen
    · intro reply control kept
      rw [Program.wp_pure]
      cases negative : reply.isNegative with
      | true => exact ⟨reply, negative, rfl⟩
      | false =>
        refine ⟨?_, reply, negative, rfl⟩
        rw [kept (reply.not_unavailable negative)]
        exact isOpen
    · exact fun _ _ _ => judged_unanswered rfl
    · exact fun _ _ => judged_unanswered rfl
  · intro error requested after _ requests failed
    have requests : requested = Fate.start := requests
    subst requests
    exact unasked_judged ⟨none, failed⟩
  · intro ec requested after _ requests failed
    have requests : requested = Fate.start := requests
    subst requests
    exact unasked_judged ⟨none, failed⟩

/-- The ABOR and the replies that are read behind it. -/
private theorem processAbort_fate (replies : Replies) :
    Program.Triple (fates main) fuel Agreed (processAbort replies)
      (fun _ _ fate => ∃ answer interrupted, fate = answered answer interrupted)
      (fun _ => Judged) := by
  rintro client fate ⟨isOpen, answer, positive, rfl⟩
  rw [processAbort, Program.wp_bind, processCommandInto_eq, Program.wp_bind, processCommand,
    Program.wp_bind]
  apply send_rule
  · intro requested after _ requests written
    have requests : requested = accepted answer := requests
    subst requests
    have written : after = aborting answer := written
    subst written
    apply recv_fate client _ rfl isOpen
    · intro reply control kept
      simp only [Program.wp_pure, Program.wp_ite]
      split
      · rename_i code
        have other : reply.code ≠ 421 := by
          rw [code]
          decide
        have fate : (aborting answer).advance main ⟨.notifyReply client.observers reply, ()⟩ =
            answered answer true := by
          simp [Fate.advance, aborting, answered, code, refusal]
        rw [fate, recvInto_eq, Program.wp_bind]
        apply recv_fate _ _ rfl ((congrArg Socket.isOpen (kept other)).trans isOpen)
        · exact fun _ _ _ => ⟨answer, true, rfl⟩
        · exact fun _ _ _ => judged_late rfl (.inr (.inl rfl))
        · exact fun _ _ => judged_late rfl (.inl rfl)
      · exact ⟨answer, _, rfl⟩
    · intro stop control same
      exact judged_early ((congrArg Socket.isOpen same).trans isOpen) rfl
        (by simp [Fate.Late, aborting])
    · exact fun _ _ => judged_late rfl (.inl rfl)
  · intro error requested after _ requests failed
    have requests : requested = accepted answer := requests
    subst requests
    exact accepted_judged ⟨isOpen, answer, positive, failed⟩
  · intro ec requested after _ requests failed
    have requests : requested = accepted answer := requests
    subst requests
    exact accepted_judged ⟨isOpen, answer, positive, failed⟩

private theorem finishTransfer_fate (connection : DataConnection) (callback : Bool)
    (replies : Replies) :
    Program.Triple (fates main) fuel Agreed (finishTransfer connection callback replies)
      (fun _ _ _ => True) (fun _ => Judged) := by
  have rest (cancelled : Bool) :
      Program.Triple (fates main) fuel Agreed (endTransfer connection replies cancelled)
        (fun _ _ _ => True) (fun _ => Judged) := by
    cases cancelled with
    | true =>
      refine (processAbort_fate replies).bind fun _ => ?_
      rintro client fate ⟨answer, interrupted, rfl⟩
      rw [Program.wp_bind]
      apply close_fate client _ rfl
      · exact fun _ => trivial
      · exact fun _ => judged_late rfl (.inr (.inr ⟨rfl, rfl⟩))
      · exact fun graceful => absurd graceful Bool.false_ne_true
    | false =>
      rintro client fate ⟨isOpen, answer, positive, rfl⟩
      rw [endTransfer, if_neg Bool.false_ne_true, Program.wp_bind]
      apply close_fate client _ rfl
      · intro _
        rw [Program.wp_bind, recvInto_eq, Program.wp_bind]
        apply recv_fate client _ rfl isOpen
        · exact fun _ _ _ => trivial
        · intro stop control same
          exact accepted_judged ⟨(congrArg Socket.isOpen same).trans isOpen, answer, positive, rfl⟩
        · exact fun _ _ => judged_late rfl (.inl rfl)
      · exact fun _ => judged_early isOpen rfl (by simp [Fate.Late, accepted])
      · exact fun _ _ => accepted_judged ⟨isOpen, answer, positive, rfl⟩
  rw [finishTransfer_eq]
  cases callback with
  | false => exact rest false
  | true =>
    have asks : (call .isCancelled : Method Client Bool).Keeps (fates main) Agreed Judged := by
      refine .ask ?_
      rintro _ _ _ _ ⟨isOpen, answer, positive, rfl⟩ step
      exact ⟨isOpen, answer, positive, step⟩
    exact (asks fuel).bind rest

private theorem denied_keeps (connection : DataConnection) :
    Program.Keeps (fates main) Denied Judged
      (Program.on connection (DataConnection.disconnect true) : Method Client _) := by
  have keeps : (DataConnection.disconnect true).Keeps (fates main)
      (fun _ fate => ∃ answer : Reply, answer.isNegative = true ∧ fate.answer = some answer)
      (fun _ fate => ∃ answer : Reply, answer.isNegative = true ∧ fate.answer = some answer) := by
    refine (DataConnection.disconnect_plumbing true).keeps ?_
    intro fate event after plumbing ⟨answer, negative, told⟩ step
    obtain ⟨query, response⟩ := event
    have same : after.answer = fate.answer := by
      rw [show after = fate.advance main ⟨query, response⟩ from step]
      cases plumbing <;> rfl
    exact ⟨answer, negative, same.trans told⟩
  refine .on fun client => keeps.mono fun _ fate ⟨answer, negative, told⟩ other same positive => ?_
  obtain rfl : answer = other := Option.some.inj (told.symm.trans same)
  rw [negative] at positive
  cases positive

private theorem working_accepted {callback : Bool} {query : Boundary.Query}
    {response : Boundary.Answer query} {fate after : Fate} {answer : Reply}
    (working : Working callback query) (same : fate = accepted answer)
    (step : (fates main).step fate ⟨query, response⟩ after) : after = accepted answer := by
  subst same
  have step : after = (accepted answer).advance main ⟨query, response⟩ := step
  rw [step]
  cases working with
  | transferring transferring =>
    cases transferring with
    | streaming streaming => cases streaming <;> rfl
    | _ => rfl
  | _ => rfl

private theorem failing_course {operation : Operation} (transfers : operation.mainCommand = some main)
    (callback : Bool) :
    Course (fates main) main callback (fun _ => Unasked) Agreed Denied (fun _ _ => True) Judged where
  negotiates := unasked_carries.negotiate fun _ negotiates => negotiates.ne_main transfers
  declines _ _ _ := trivial
  exchanges replies _ := main_fate replies
  refuses := denied_keeps
  concludes _ _ _ := trivial
  works _ _ _ _ _ working := fun ⟨isOpen, answer, positive, same⟩ step =>
    ⟨isOpen, answer, positive, working_accepted working same step⟩
  stops _ _ := accepted_judged
  finishes connection replies _ := finishTransfer_fate connection callback replies

end Behind

/-- A transfer that raises behind the acceptance of its main command has closed the control
connection or read the final reply, where there is one to come, just where it fails late. -/
theorem failed_transfer_settled_iff (host : Host boundary World) (fuel : Nat) (client : Client)
    (world : World) (operation : Operation) (main : Bytes) (answer : Reply) (error : FtpException)
    (transfers : operation.mainCommand = some main) :
    let record := perform invoke host fuel operation client world
    let fate := Fate.ofEvents main record.events
    record.outcome = .error (.raised error) → fate.answer = some answer →
      answer.isNegative = false →
      (record.after.control.isConnected = false ∨ (answer.IsPreliminary → fate.followed = true) ↔
        (answer.IsPreliminary → fate.Late)) := by
  intro record fate raised answered positive
  have ends := (failing_course transfers operation.callback).invoke operation transfers rfl fuel
    client Fate.start ⟨none, rfl⟩
  rcases Program.wp_run ends host world (Monitor.fold_drives _ _ _) with
    ⟨value, returned, _⟩ | ⟨stop, _, judged⟩
  · rw [show record.outcome = .ok value from returned] at raised
    cases raised
  · have settled : record.after.control.isConnected = false ∨ fate.followed = true ↔ fate.Late :=
      judged answer answered positive
    by_cases preliminary : answer.IsPreliminary
    · rw [imp_iff_right preliminary, imp_iff_right preliminary]
      exact settled
    · exact iff_of_true (.inr fun owed => absurd owed preliminary) fun owed => absurd owed preliminary

/-- An upload whose data connection refuses some calls. -/
private def stranded (operation : Operation) (cancelled : List Bool) (replies : List String)
    (fails : Boundary.Query → Option ErrorCode) :=
  perform invoke Script.host 9 operation
    { Client.new .passive .binary false true with control := ⟨[], ⟨.plain, true⟩⟩ }
    ⟨replies.map text, [], [text "x"], cancelled, fails⟩

private def unclosed : Boundary.Query → Option ErrorCode
  | .close .data => some (.other 5)
  | _ => none

private def unwritten : Boundary.Query → Option ErrorCode
  | .write .data _ _ => some (.other 104)
  | _ => none

/-- The reply to the ABOR is read before the data connection refuses to close. -/
theorem failed_transfer_settled_iff_aborted :
    let record := stranded (.uploadFile (text "f") false true) [false, true, true]
      ["229 (|||2021|)\r\n", "150 o\r\n", "225 a\r\n"] unclosed
    let fate := Fate.ofEvents (text "STOR f") record.events
    let answer : Reply := ⟨150, text "150 o"⟩
    record.after.control.isConnected = false ∨ (answer.IsPreliminary → fate.followed = true) ↔
      (answer.IsPreliminary → fate.Late) :=
  failed_transfer_settled_iff Script.host 9 _ _ (.uploadFile (text "f") false true) (text "STOR f")
    ⟨150, text "150 o"⟩ (.ofCode (.other 5) "Cannot close data connection") rfl (by decide +kernel)
    (by decide +kernel) (by decide)

/-- The server cuts an upload. Its final reply is taken for the reply to the next command. -/
theorem failed_upload_leaves_reply :
    let record := stranded (.uploadFile (text "f") false false) []
      ["229 (|||2021|)\r\n", "150 o\r\n", "426 c\r\n"] unwritten
    let fate := Fate.ofEvents (text "STOR f") record.events
    record.outcome =
        .error (.raised (.ofCode (.other 104) "Cannot send data over data connection")) ∧
      fate.answer = some ⟨150, text "150 o"⟩ ∧ fate.followed = false ∧
      record.after.control.isConnected = true ∧
      (perform invoke Script.host 9 .sendNoop record.after record.world).outcome =
        .ok (.reply ⟨426, text "426 c"⟩) := by
  decide +kernel

end Client

end LibFtp
