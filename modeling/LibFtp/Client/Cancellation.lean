import LibFtp.Client.Course
import LibFtp.Client.Service
import LibFtp.Detail.Script

/-! Cancelling a transfer. The server may complete the transfer at any time, also while the
callback becomes cancelled and while the ABOR is on its way. -/

namespace LibFtp

open Effect

/-- How far the server is with the transfer. It is overtaken by an ABOR that it handles
when the transfer has been completed. -/
inductive TransferPhase where
  | idle
  | running
  | completed
  | cut
  | overtaken
  deriving DecidableEq, Repr

/-- A server that answers the main command with one preliminary reply and, by itself, with
one final reply when the transfer is completed. An ABOR is answered by one reply, after a 426
that is the final reply of the transfer where it cuts it. Every other line has one reply. -/
def cancellable (main : Bytes) : Server TransferPhase where
  answers phase line replies next :=
    if line = main ++ crlf then
      next = .running ∧ ∃ reply : Reply, reply.IsPreliminary ∧ replies = [reply]
    else if line = text "ABOR\r\n" then
      ∃ reply : Reply, reply.IsCompletion ∧ match phase with
        | .running => next = .cut ∧ ∃ final : Reply, final.code = 426 ∧ replies = [final, reply]
        | .completed => next = .overtaken ∧ replies = [reply]
        | other => next = other ∧ replies = [reply]
    else next = phase ∧ ∃ reply, replies = [reply]
  turns phase replies next :=
    phase = .running ∧ next = .completed ∧ ∃ final : Reply, final.IsCompletion ∧ replies = [final]

/-- Nothing is on its way to the client or still to be sent for the transfer. -/
def Desk.Cleared (desk : Desk TransferPhase) : Prop := desk.unread = [] ∧ desk.phase ≠ .running

namespace Client

variable {main : Bytes} {fuel : Nat}

private def Unstarted (desk : Desk TransferPhase) : Prop := desk.phase = .idle ∧ desk.unread = []

/-- The final reply is still owed, or it is the last one on its way. -/
private def Owing (front : List Reply) (desk : Desk TransferPhase) : Prop :=
  desk.phase = .running ∧ desk.unread = front ∨
    desk.phase = .completed ∧ ∃ final : Reply, final.IsCompletion ∧ desk.unread = front ++ [final]

/-- What an ABOR leaves to be read. -/
private def Aborting (desk : Desk TransferPhase) : Prop :=
  ∃ first second : Reply, desk.unread = [first, second] ∧
    (desk.phase = .cut ∧ first.code = 426 ∨ desk.phase = .overtaken ∧ first.code ≠ 426)

private def Concluded (desk : Desk TransferPhase) : Prop :=
  desk.Cleared ↔ desk.phase ≠ .overtaken

private theorem closed_still {kept : Desk TransferPhase → Prop}
    (ended : ∀ desk, kept desk → desk.phase ≠ .running) : (cancellable main).Closed kept := by
  intro before after holds move
  cases move with
  | turn turns => exact absurd turns.1 (ended _ holds)

private theorem unstarted_closed : (cancellable main).Closed Unstarted :=
  closed_still fun desk holds same => by
    rw [holds.1] at same
    cases same

private theorem owing_closed (front : List Reply) : (cancellable main).Closed (Owing front) := by
  intro before after holds move
  cases move with
  | turn turns =>
    obtain ⟨running, completed, final, completion, sent⟩ := turns
    rcases holds with ⟨_, unread⟩ | ⟨ended, _⟩
    · exact .inr ⟨completed, final, completion, by rw [unread, sent]⟩
    · rw [running] at ended
      cases ended

/-- An exchange before the main command is one line and one reply. -/
private theorem unstarted_exchange (command : Bytes) (other : command ≠ main) :
    (processCommand command).Keeps (cancellable main).service (fun _ => Unstarted)
      (fun _ _ => True) := by
  intro fuel client desk holds
  rw [processCommand, Program.wp_bind]
  apply send_served unstarted_closed client desk holds command
  · exact fun _ holds => holds
  · intro before after replies both answers sent _
    obtain ⟨idle, unread⟩ := both
    have line : command ++ crlf ≠ main ++ crlf := fun same => other (List.append_cancel_right same)
    obtain ⟨still, reply, single⟩ : after.phase = .idle ∧ ∃ reply, replies = [reply] := by
      simp only [cancellable, if_neg line, idle] at answers
      split at answers
      · obtain ⟨reply, _, still, single⟩ := answers
        exact ⟨still, reply, single⟩
      · exact answers
    have waiting : after.phase = .idle ∧ after.unread = [reply] := by
      rw [sent, unread, single]
      exact ⟨still, rfl⟩
    have closed : (cancellable main).Closed fun desk => desk.phase = .idle ∧ desk.unread = [reply] := by
      refine closed_still fun desk holds same => ?_
      cases holds.1.symm.trans same
    apply recv_served closed client after waiting
    · intro heard control middle last _ held popped same _
      rw [held.2] at popped
      exact ⟨same.trans held.1, (List.cons.inj popped).2.symm⟩
    · exact fun _ _ _ _ => trivial
  · exact fun _ _ _ => trivial

private theorem unstarted_carries :
    Carries (cancellable main).service (fun _ => Unstarted) (fun _ _ => True) (· ≠ main) where
  stops _ _ _ := trivial
  quiet _ _ _ _ _ quiet holds step := unstarted_closed.quiet quiet holds step
  exchange := unstarted_exchange
  receive := by
    intro fuel client desk holds
    apply recv_served unstarted_closed client desk holds
    · intro reply control before after _ held popped _ _
      rw [held.2] at popped
      cases popped
    · exact fun _ _ _ _ => trivial

/-- The reply read first is the first of those that were on their way. -/
private theorem owing_read {front : List Reply} {before after : Desk TransferPhase}
    (owing : Owing (reply :: front) before) (popped : before.unread = heard :: after.unread)
    (same : after.phase = before.phase) : heard = reply ∧ Owing front after := by
  rcases owing with ⟨running, unread⟩ | ⟨completed, final, completion, unread⟩
  · obtain ⟨first, rest⟩ := List.cons.inj (popped.symm.trans unread)
    exact ⟨first, .inl ⟨same.trans running, rest⟩⟩
  · obtain ⟨first, rest⟩ := List.cons.inj (popped.symm.trans unread)
    exact ⟨first, .inr ⟨same.trans completed, final, completion, rest⟩⟩

private theorem main_exchange (replies : Replies) :
    Program.Triple (cancellable main).service fuel (fun _ => Unstarted)
      (processCommandInto main replies)
      (fun answer => if answer.1.isNegative then fun _ _ => False else fun _ => Owing [])
      (fun _ _ _ => True) := by
  intro client desk holds
  rw [processCommandInto_eq, Program.wp_bind, processCommand, Program.wp_bind]
  apply send_served unstarted_closed client desk holds main
  · exact fun _ holds => holds
  · intro before after sent both answers put _
    obtain ⟨_, unread⟩ := both
    obtain ⟨running, preliminary, isPreliminary, single⟩ :
        after.phase = .running ∧ ∃ reply : Reply, reply.IsPreliminary ∧ sent = [reply] := by
      simpa only [cancellable, if_true] using answers
    have owing : Owing [preliminary] after :=
      .inl ⟨running, by rw [put, unread, single]; rfl⟩
    apply recv_served (owing_closed [preliminary]) client after owing
    · intro heard control middle last _ held popped same _
      obtain ⟨first, rest⟩ := owing_read held popped same
      rw [Program.wp_pure, first, isPreliminary.accepts]
      exact rest
    · exact fun _ _ _ _ => trivial
  · exact fun _ _ _ => trivial

private theorem owing_on {Part : Type} (object : Part) {program : Method Part Value}
    {kept : Desk TransferPhase → Prop} (closed : (cancellable main).Closed kept)
    (asks : program.Asks Quiet) :
    (Program.on object program : Method Client _).Keeps (cancellable main).service (fun _ => kept)
      (fun _ _ => True) := by
  refine .on fun client => ?_
  have stays : program.Keeps (cancellable main).service (fun _ => kept) (fun _ => kept) :=
    asks.keeps fun _ _ _ quiet holds step => closed.quiet quiet holds step
  exact stays.mono fun _ _ _ => trivial

/-- Whatever the server had done when it handled the ABOR, two replies are behind it. -/
private theorem abor_answered {before after : Desk TransferPhase} {sent : List Reply}
    (apart : text "ABOR\r\n" ≠ main ++ crlf) (owing : Owing [] before)
    (answers : (cancellable main).answers before.phase (text "ABOR\r\n") sent after.phase)
    (put : after.unread = before.unread ++ sent) : Aborting after := by
  simp only [cancellable, if_neg apart, if_true] at answers
  obtain ⟨reply, completion, answers⟩ := answers
  rcases owing with ⟨running, unread⟩ | ⟨completed, final, ended, unread⟩
  · rw [running] at answers
    obtain ⟨cut, final, code, single⟩ := answers
    exact ⟨final, reply, by rw [put, unread, single]; rfl, .inl ⟨cut, code⟩⟩
  · rw [completed] at answers
    obtain ⟨overtaken, single⟩ := answers
    exact ⟨final, reply, by rw [put, unread, single]; rfl, .inr ⟨overtaken, ended.code_ne⟩⟩

/-- What an ABOR and the replies read behind it leave. -/
private def Aborted (desk : Desk TransferPhase) : Prop :=
  desk.phase = .cut ∧ desk.unread = [] ∨ desk.phase = .overtaken ∧ ∃ reply, desk.unread = [reply]

private theorem aborted_closed : (cancellable main).Closed Aborted :=
  closed_still fun desk holds same => by
    rcases holds with ⟨ended, _⟩ | ⟨ended, _⟩
    · rw [same] at ended
      cases ended
    · rw [same] at ended
      cases ended

private theorem aborting_closed : (cancellable main).Closed Aborting :=
  closed_still fun desk ⟨_, _, _, holds⟩ same => by
    rcases holds with ⟨ended, _⟩ | ⟨ended, _⟩
    · rw [same] at ended
      cases ended
    · rw [same] at ended
      cases ended

private theorem aborted_concluded {desk : Desk TransferPhase} (aborted : Aborted desk) :
    Concluded desk := by
  rcases aborted with ⟨cut, unread⟩ | ⟨overtaken, reply, unread⟩
  · exact iff_of_true ⟨unread, by rw [cut]; decide⟩ (by rw [cut]; decide)
  · refine iff_of_false (fun cleared => ?_) fun other => other overtaken
    rw [cleared.1] at unread
    cases unread

private theorem processAbort_aborted (apart : text "ABOR\r\n" ≠ main ++ crlf) (replies : Replies) :
    Program.Triple (cancellable main).service fuel (fun _ => Owing []) (processAbort replies)
      (fun _ _ => Aborted) (fun _ _ _ => True) := by
  intro client desk owing
  rw [processAbort, Program.wp_bind, processCommandInto_eq, Program.wp_bind, processCommand,
    Program.wp_bind]
  apply send_served (owing_closed []) client desk owing
  · exact fun _ holds => holds
  · intro before after sent held answers put _
    apply recv_served aborting_closed client after (abor_answered apart held answers put)
    · intro reply control middle last _ parts popped same _
      obtain ⟨first, second, unread, ended⟩ := parts
      obtain ⟨read, rest⟩ := List.cons.inj (popped.symm.trans unread)
      subst read
      simp only [Program.wp_pure, Program.wp_ite]
      split
      · rename_i code
        have cut : last.phase = .cut ∧ last.unread = [second] := by
          rcases ended with ⟨cut, _⟩ | ⟨_, other⟩
          · exact ⟨same.trans cut, rest⟩
          · exact absurd code other
        rw [recvInto_eq, Program.wp_bind]
        have closed : (cancellable main).Closed fun desk =>
            desk.phase = .cut ∧ desk.unread = [second] := by
          refine closed_still fun desk holds same => ?_
          cases holds.1.symm.trans same
        apply recv_served closed _ last cut
        · intro _ _ _ _ _ held popped same _
          rw [held.2] at popped
          exact .inl ⟨same.trans held.1, (List.cons.inj popped).2.symm⟩
        · exact fun _ _ _ _ => trivial
      · rename_i code
        rcases ended with ⟨_, cut⟩ | ⟨overtaken, _⟩
        · exact absurd cut code
        · exact .inr ⟨same.trans overtaken, second, rest⟩
    · exact fun _ _ _ _ => trivial
  · exact fun _ _ _ => trivial

private theorem finish_concludes (apart : text "ABOR\r\n" ≠ main ++ crlf)
    (connection : DataConnection) (callback : Bool) (replies : Replies) :
    Program.Triple (cancellable main).service fuel (fun _ => Owing [])
      (finishTransfer connection callback replies) (fun _ _ => Concluded) (fun _ _ _ => True) := by
  have closes (graceful : Bool) {kept : Desk TransferPhase → Prop}
      (closed : (cancellable main).Closed kept) :=
    owing_on connection closed (DataConnection.disconnect_quiet graceful) fuel
  have rest (cancelled : Bool) :
      Program.Triple (cancellable main).service fuel (fun _ => Owing [])
        (endTransfer connection replies cancelled) (fun _ _ => Concluded) (fun _ _ _ => True) := by
    cases cancelled with
    | true =>
      exact (processAbort_aborted apart replies).bind fun _ => (closes false aborted_closed).bind
        fun _ _ _ aborted => aborted_concluded aborted
    | false =>
      refine (closes true (owing_closed [])).bind fun _ client desk owing => ?_
      rw [recvInto_eq, Program.wp_bind, Program.wp_bind]
      apply recv_served (owing_closed []) client desk owing
      · intro _ _ before last _ held popped same _
        rcases held with ⟨_, unread⟩ | ⟨completed, final, _, unread⟩
        · rw [unread] at popped
          cases popped
        · rw [unread] at popped
          exact iff_of_true ⟨(List.cons.inj popped).2.symm, by rw [same, completed]; decide⟩
            (by rw [same, completed]; decide)
      · exact fun _ _ _ _ => trivial
  rw [finishTransfer_eq]
  cases callback with
  | false => exact rest false
  | true =>
    have asks : (call .isCancelled : Method Client Bool).Keeps (cancellable main).service
        (fun _ => Owing []) (fun _ _ => True) :=
      .ask fun _ _ _ _ holds step => (owing_closed []).quiet .isCancelled holds step
    exact (asks fuel).bind rest

private theorem cancellation_course {operation : Operation} (transfers : operation.mainCommand = some main)
    (callback : Bool) :
    Course (cancellable main).service main callback (fun _ => Unstarted) (fun _ => Owing [])
      (fun _ _ => False) (fun _ => Concluded) (fun _ _ => True) where
  negotiates := unstarted_carries.negotiate fun _ negotiates => negotiates.ne_main transfers
  declines _ _ holds :=
    iff_of_true ⟨holds.2, by rw [holds.1]; decide⟩ (by rw [holds.1]; decide)
  exchanges _ _ := main_exchange _
  refuses _ _ _ _ never := never.elim
  concludes _ _ never := never.elim
  works _ _ _ _ _ working owing step := (owing_closed []).quiet working.quiet owing step
  stops _ _ _ := trivial
  finishes connection replies fuel := by
    have apart : text "ABOR\r\n" ≠ main ++ crlf := fun same =>
      Negotiates.abor.ne_main transfers (List.append_cancel_right same)
    exact finish_concludes apart connection callback replies

/-- When a transfer returns, all that the server has sent for it and for the ABOR has been
read, and no more is to come, just where no ABOR has overtaken the completion of the transfer. -/
theorem cancelled_cleared_iff (host : Host boundary World) (fuel : Nat) (client : Client)
    (world : World) (operation : Operation) (main : Bytes) (last : Desk TransferPhase)
    (transfers : operation.mainCommand = some main)
    (drives : (cancellable main).service.Drives ⟨.idle, [], false⟩
      (perform invoke host fuel operation client world).events last)
    (normal : (perform invoke host fuel operation client world).Normal) :
    last.Cleared ↔ last.phase ≠ .overtaken := by
  have start : Unstarted ⟨.idle, [], false⟩ := ⟨rfl, rfl⟩
  have concludes := (cancellation_course transfers operation.callback).invoke operation transfers rfl
    fuel client _ start
  obtain ⟨_, _, concluded⟩ := perform_normal concludes drives normal
  exact concluded

/-- A download that is cancelled at its last piece. -/
private def raced : Operation := .downloadFile (text "f") true

private def racer : Client :=
  { Client.new .passive .binary false true with control := ⟨[], ⟨.plain, true⟩⟩ }

private def race (ends : Bytes) : Script :=
  ⟨[text "229 (|||2021|)\r\n", text "150 o\r\n", ends], [text "x"], [], [false, true, true],
    fun _ => none⟩

private def raceFront : List BoundaryEvent :=
  [⟨.notifyRequest [] (text "EPSV"), ()⟩, ⟨.write .control .plain (text "EPSV\r\n"), none⟩,
    ⟨.readSome .control .plain 8192, .ok ⟨text "229 (|||2021|)\r\n", by decide, by decide⟩⟩,
    ⟨.notifyReply [] ⟨229, text "229 (|||2021|)"⟩, ()⟩,
    ⟨.remoteEndpoint, .ok Script.endpoint⟩, ⟨.connectData Script.endpoint, none⟩,
    ⟨.notifyRequest [] (text "RETR f"), ()⟩, ⟨.write .control .plain (text "RETR f\r\n"), none⟩,
    ⟨.readSome .control .plain 8192, .ok ⟨text "150 o\r\n", by decide, by decide⟩⟩,
    ⟨.notifyReply [] ⟨150, text "150 o"⟩, ()⟩, ⟨.isCancelled, false⟩, ⟨.transferBegin, ()⟩,
    ⟨.readSome .data .plain 8192, .ok ⟨text "x", by decide, by decide⟩⟩,
    ⟨.sinkWrite (text "x"), none⟩, ⟨.transferNotify 1, ()⟩, ⟨.isCancelled, true⟩,
    ⟨.sinkFlush, none⟩, ⟨.transferEnd, ()⟩, ⟨.isCancelled, true⟩,
    ⟨.notifyRequest [] (text "ABOR"), ()⟩]

private theorem raceFront_drives :
    (cancellable (text "RETR f")).service.Drives ⟨.idle, [], false⟩ raceFront
      ⟨.running, [], false⟩ := by
  have epsv : (cancellable (text "RETR f")).answers .idle (text "EPSV\r\n")
      [⟨229, text "229 (|||2021|)"⟩] .idle := by
    have other : text "EPSV\r\n" ≠ text "RETR f" ++ crlf := by decide
    have unlike : text "EPSV\r\n" ≠ text "ABOR\r\n" := by decide
    simp only [cancellable, if_neg other, if_neg unlike]
    exact ⟨trivial, _, rfl⟩
  have retr : (cancellable (text "RETR f")).answers .idle (text "RETR f\r\n")
      [⟨150, text "150 o"⟩] .running := by
    have same : text "RETR f\r\n" = text "RETR f" ++ crlf := by decide
    simp only [cancellable, if_pos same]
    exact ⟨trivial, _, by decide, rfl⟩
  have still {phase : TransferPhase} {event : BoundaryEvent} {events : List BoundaryEvent}
      {last : Desk TransferPhase}
      (responds : (cancellable (text "RETR f")).Responds ⟨phase, [], false⟩ event ⟨phase, [], false⟩)
      (rest : (cancellable (text "RETR f")).service.Drives ⟨phase, [], false⟩ events last) :
      (cancellable (text "RETR f")).service.Drives ⟨phase, [], false⟩ (event :: events) last :=
    .cons ⟨_, .refl, responds⟩ rest
  refine still rfl (Server.drives_line epsv (.cons ⟨_, .refl, rfl⟩ (Server.drives_reply ?_)))
  refine still rfl (still rfl (still rfl (Server.drives_line retr ?_)))
  refine .cons ⟨_, .refl, rfl⟩ (Server.drives_reply ?_)
  exact still rfl (still rfl (still rfl (still rfl (still rfl (still rfl (still rfl (still rfl
    (still rfl (still rfl .nil)))))))))

private theorem abor_apart : text "ABOR\r\n" ≠ text "RETR f" ++ crlf := by decide

/-- The server cuts the transfer, and both of its replies are read. -/
theorem cancelled_cleared_iff_cut :
    let last : Desk TransferPhase := ⟨.cut, [], false⟩
    last.Cleared ↔ last.phase ≠ .overtaken := by
  intro last
  have abor : (cancellable (text "RETR f")).answers .running (text "ABOR\r\n")
      [⟨426, text "426 c"⟩, ⟨225, text "225 a"⟩] .cut := by
    simp only [cancellable, if_neg abor_apart, if_true]
    exact ⟨⟨225, text "225 a"⟩, by decide, trivial, ⟨426, text "426 c"⟩, rfl, rfl⟩
  have events : (perform invoke Script.host 9 raced racer (race (text "426 c\r\n225 a\r\n"))).events =
      raceFront ++ [⟨.write .control .plain (text "ABOR\r\n"), none⟩,
        ⟨.readSome .control .plain 8192, .ok ⟨text "426 c\r\n225 a\r\n", by decide, by decide⟩⟩,
        ⟨.notifyReply [] ⟨426, text "426 c"⟩, ()⟩, ⟨.notifyReply [] ⟨225, text "225 a"⟩, ()⟩,
        ⟨.close .data, none⟩] := by decide +kernel
  have drives : (cancellable (text "RETR f")).service.Drives ⟨.idle, [], false⟩
      (perform invoke Script.host 9 raced racer (race (text "426 c\r\n225 a\r\n"))).events last := by
    rw [events]
    refine raceFront_drives.append (Server.drives_line abor (.cons ⟨_, .refl, rfl⟩ ?_))
    exact Server.drives_reply (Server.drives_reply (.cons ⟨_, .refl, rfl⟩ .nil))
  have returned : (perform invoke Script.host 9 raced racer
      (race (text "426 c\r\n225 a\r\n"))).outcome.isOk = true := by decide +kernel
  have normal := all_normal (by simpa using returned) _ (List.mem_singleton_self _)
  exact cancelled_cleared_iff Script.host 9 racer _ raced (text "RETR f") last rfl drives normal

/-- The server has completed the download when the ABOR reaches it. Its reply to the ABOR is
taken for the reply to the next command. -/
theorem cancelled_download_leaves_reply :
    let last : Desk TransferPhase := ⟨.overtaken, [⟨225, text "225 a"⟩], false⟩
    let record := perform invoke Script.host 9 raced racer (race (text "226 d\r\n225 a\r\n"))
    record.Normal ∧
      (cancellable (text "RETR f")).service.Drives ⟨.idle, [], false⟩ record.events last ∧
      ¬ last.Cleared ∧
      (perform invoke Script.host 9 .sendNoop record.after record.world).outcome =
        .ok (.reply ⟨225, text "225 a"⟩) := by
  intro last
  have abor : (cancellable (text "RETR f")).answers .completed (text "ABOR\r\n")
      [⟨225, text "225 a"⟩] .overtaken := by
    simp only [cancellable, if_neg abor_apart, if_true]
    exact ⟨⟨225, text "225 a"⟩, by decide, trivial, rfl⟩
  have completes : (cancellable (text "RETR f")).Moves ⟨.running, [], false⟩
      ⟨.completed, [⟨226, text "226 d"⟩], false⟩ :=
    .turn ⟨rfl, rfl, ⟨226, text "226 d"⟩, by decide, rfl⟩
  have events : (perform invoke Script.host 9 raced racer (race (text "226 d\r\n225 a\r\n"))).events =
      raceFront ++ [⟨.write .control .plain (text "ABOR\r\n"), none⟩,
        ⟨.readSome .control .plain 8192, .ok ⟨text "226 d\r\n225 a\r\n", by decide, by decide⟩⟩,
        ⟨.notifyReply [] ⟨226, text "226 d"⟩, ()⟩, ⟨.close .data, none⟩] := by decide +kernel
  have returned : (perform invoke Script.host 9 raced racer
      (race (text "226 d\r\n225 a\r\n"))).outcome.isOk = true := by decide +kernel
  refine ⟨all_normal (by simpa using returned) _ (List.mem_singleton_self _), ?_, ?_, by decide +kernel⟩
  · rw [events]
    have aborts : (cancellable (text "RETR f")).service.step ⟨.running, [], false⟩
        ⟨.write .control .plain (text "ABOR\r\n"), none⟩
        ⟨.overtaken, [⟨226, text "226 d"⟩, ⟨225, text "225 a"⟩], false⟩ :=
      ⟨_, .single completes, _, abor, rfl, rfl⟩
    refine raceFront_drives.append (.cons aborts ?_)
    exact .cons ⟨_, .refl, rfl⟩ (Server.drives_reply (.cons ⟨_, .refl, rfl⟩ .nil))
  · intro cleared
    cases cleared.1

end Client

end LibFtp
