import LibFtp.Control.Footprint
import LibFtp.Client.Turns
import LibFtp.Client.Record
import LibFtp.Client.Service

/-! A server that is not ready yet says so with 120 replies before the final one, both
when a connection is opened and when it is asked to start over. The client reads one
reply. -/

namespace LibFtp

open Effect

/-- A server that answers REIN with some replies before the final one, and every other
line with one reply. -/
def waiting (waits : List Reply) (final : Reply) : Server Unit where
  answers _ line replies _ :=
    if line = text "REIN\r\n" then replies = waits ++ [final] else ∃ reply, replies = [reply]
  turns _ _ _ := False

namespace Client

/-- What the server has sent by itself when the operation starts to read. -/
def Operation.opening (waits : List Reply) (final : Reply) : Operation → Option (List Reply)
  | .connect .. => some (waits ++ [final])
  | .logout => some []
  | _ => none

def Turn.isSaid : Turn → Bool
  | .said _ => true
  | _ => false

/-- The last reply that is heard before the next command goes out or the call ends. -/
def judged (exchange : List Turn) : Option Reply :=
  (heardIn (exchange.takeWhile (!·.isSaid))).getLast?

/-- The reply on which the call bases its decision: `logout` judges what comes behind REIN. -/
def Operation.decision (operation : Operation) (events : List BoundaryEvent) : Option Reply :=
  match operation with
  | .logout => judged ((turns events).drop 1)
  | _ => judged (turns events)

variable {waits : List Reply} {final : Reply} {fuel : Nat}

/-- All that was sent has been read, and no command was issued before that. -/
private def Prompt (_ : Client) (desk : Desk Unit) : Prop :=
  desk.unread = [] ∧ desk.hasty = false

private def Patient (_ : Client) (desk : Desk Unit) : Prop := desk.hasty = false

private theorem waiting_closed (kept : Desk Unit → Prop) : (waiting waits final).Closed kept := by
  intro before after _ move
  cases move with
  | turn never => exact never.elim

private theorem processCommand_prompt (command : Bytes)
    (other : command ++ crlf ≠ text "REIN\r\n") :
    (processCommand command).Keeps (waiting waits final).service Prompt Patient := by
  intro fuel client desk prompt
  rw [processCommand, Program.wp_bind]
  apply send_served (waiting_closed fun desk => desk.unread = [] ∧ desk.hasty = false) client desk
    prompt command
  · intro desk both
    obtain ⟨unread, hasty⟩ := both
    exact ⟨unread, by simp [unread, hasty]⟩
  · intro before after replies both answers sent same
    obtain ⟨unread, hasty⟩ := both
    obtain ⟨reply, answered⟩ : ∃ reply, replies = [reply] := by
      simpa only [waiting, if_neg other] using answers
    have single : after.unread = [reply] ∧ after.hasty = false := by
      rw [sent, unread, answered, same]
      exact ⟨rfl, hasty⟩
    apply recv_served (waiting_closed fun desk => desk.unread = [reply] ∧ desk.hasty = false) client
      after single
    · intro other control middle last _ held popped _ still
      rw [held.1] at popped
      exact ⟨(List.cons.inj popped).2.symm, still.trans held.2⟩
    · exact fun _ _ _ held => held.2
  · exact fun _ _ held => held.2

private theorem recv_prompt : recv.Keeps (waiting waits final).service Prompt Patient := by
  intro fuel client desk prompt
  apply recv_served (waiting_closed fun desk => desk.unread = [] ∧ desk.hasty = false) client desk
    prompt
  · intro reply control before after _ held popped _ _
    rw [held.1] at popped
    cases popped
  · exact fun _ _ _ held => held.2

private theorem prompt_upholds : Upholds (waiting waits final).service Prompt Patient
    (fun command => command ++ crlf ≠ text "REIN\r\n") where
  stops _ _ prompt := prompt.2
  quiet _ _ _ _ _ quiet prompt step :=
    (waiting_closed fun desk => desk.unread = [] ∧ desk.hasty = false).quiet quiet prompt step
  settings _ _ _ _ _ _ prompt := prompt
  exchange command other := processCommand_prompt command other
  receive := recv_prompt

/-- What the control connection does without talking to the server. -/
private theorem onControl_same {program : Method ControlConnection Value}
    (stays : ∀ layer desk, program.Keeps (waiting waits final).service
      (ControlConnection.Stays layer (· = desk)) (ControlConnection.Stays layer (· = desk)))
    (client : Client) (desk : Desk Unit) :
    (onControl program).wp (waiting waits final).service fuel (fun _ _ after => after = desk)
      (fun _ _ after => after = desk) client desk := by
  apply onControl_rule client desk (stays _ desk) rfl
    (Program.wp_always program (fun _ _ _ => trivial) (fun _ _ _ => trivial))
  · exact fun _ _ _ _ same => same
  · exact fun _ _ _ _ same => same

private theorem steady_same (layer : Layer) (desk : Desk Unit) :
    Steady (waiting waits final).service layer (· = desk) :=
  (waiting_closed (· = desk)).steady layer

private theorem setSsl_same (layer : Layer) (client : Client) (desk : Desk Unit) :
    (onControl (ControlConnection.setSsl layer)).wp (waiting waits final).service fuel
      (fun _ _ after => after = desk) (fun _ _ after => after = desk) client desk := by
  simp only [onControl, ControlConnection.setSsl, ControlConnection.onSocket, Program.wp_zoom,
    Socket.wp_setSsl]
  intro _ after parts
  obtain ⟨middle, moves, same⟩ := parts
  have same : after = middle := same
  rw [same]
  exact (waiting_closed (· = desk)).all rfl moves

private theorem loginCommand_other (logsIn : LogsIn username password command) :
    command ++ crlf ≠ text "REIN\r\n" := by
  have first (ch : Byte) (rest : Bytes) (other : ch ≠ 82) : ch :: rest ≠ text "REIN\r\n" :=
    fun same => other (List.cons.inj same).1
  cases logsIn with
  | user => exact first 85 _ (by decide)
  | pass => exact first 80 _ (by decide)
  | pbsz => exact first 80 _ (by decide)
  | prot => exact first 80 _ (by decide)
  | type type =>
    cases type
    · exact first 84 _ (by decide)
    · exact first 84 _ (by decide)

private theorem secure_prompt (reply : Reply) (replies : Replies) :
    (secure reply replies).Keeps (waiting waits final).service Prompt Patient := by
  have control {program : Method ControlConnection Unit}
      (same : ∀ fuel client desk, (onControl program).wp (waiting waits final).service fuel
        (fun _ _ after => after = desk) (fun _ _ after => after = desk) client desk) :
      (onControl program).Keeps (waiting waits final).service Prompt Patient := by
    intro fuel client desk prompt
    refine Program.wp_mono (same fuel client desk) ?_ ?_
    · exact fun _ _ _ same => same ▸ prompt
    · exact fun _ _ _ same => same ▸ prompt.2
  refine .ite (.pure _) (.bind .get fun _ => .ite ?_ (.pure _))
  refine .bind (prompt_upholds.processCommandInto (by decide) _) fun _ => .ite (.pure _) ?_
  refine .bind (control fun _ => setSsl_same .ssl) fun _ => .bind (control fun _ => ?_) fun _ =>
    .pure _
  exact onControl_same fun layer desk =>
    ControlConnection.sslHandshake_stays (steady_same layer desk)

/-- Where the greeting is one reply, it is read before anything else happens. -/
private theorem connect_prompt (hostname : Bytes) (port : UInt16) (username : Option Bytes)
    (password : Bytes) (client : Client) :
    (connect hostname port username password).wp (waiting waits final).service fuel
      (fun _ => Prompt) (fun _ => Patient) client ⟨(), [final], false⟩ := by
  rw [connect_eq, Program.wp_bind]
  simp only [greet, Program.wp_bind]
  refine Program.wp_mono (onControl_same (fun layer desk =>
    ControlConnection.connect_stays (steady_same layer desk) hostname port) client _) ?_ ?_
  · intro _ opened desk same
    subst desk
    simp only [notifyConnected, recvInto_eq, Program.wp_bind, Program.wp_get, wp_call, Program.wp_pure]
    intro _ notified step
    have still := (waiting_closed (· = ⟨(), [final], false⟩)).quiet .notifyConnected rfl step
    subst notified
    apply recv_served (waiting_closed (· = ⟨(), [final], false⟩)) _ _ rfl
    · intro reply control before after _ same popped _ hasty
      subst before
      have prompt (state : Client) : Prompt state after := ⟨(List.cons.inj popped).2.symm, hasty⟩
      refine (secure_prompt reply _ fuel).apply (prompt _) ?_ fun _ _ _ => id
      intro outcome state last prompt
      cases outcome with
      | error replies => exact prompt
      | ok replies =>
        exact prompt_upholds.connectLogin username password replies
          (fun _ _ _ => loginCommand_other) fuel state last prompt
    · exact fun _ _ _ same => same ▸ rfl
  · exact fun _ _ _ same => same ▸ rfl

/-- Behind REIN one reply is read, however many there are. -/
private theorem logout_first (client : Client) :
    logout.wp (waiting waits final).service fuel
      (fun reply _ after => waits ++ [final] = reply :: after.unread ∧ after.hasty = false)
      (fun _ => Patient) client ⟨(), [], false⟩ := by
  rw [logout, Program.wp_bind, processCommand, Program.wp_bind]
  apply send_served (waiting_closed (· = ⟨(), [], false⟩)) client _ rfl
  · rintro desk rfl
    rfl
  · rintro before after replies rfl answers sent same
    have answered : replies = waits ++ [final] := by
      simpa only [waiting, if_pos (show makeCommand "REIN" none ++ crlf = text "REIN\r\n" by decide)]
        using answers
    have all : after.unread = waits ++ [final] ∧ after.hasty = false := by
      rw [sent, answered, same]
      exact ⟨rfl, rfl⟩
    apply recv_served (waiting_closed fun desk => desk.unread = waits ++ [final] ∧ desk.hasty = false)
      client after all
    · intro reply control middle last _ held popped _ still
      have first : waits ++ [final] = reply :: last.unread ∧ last.hasty = false :=
        ⟨held.1 ▸ popped, still.trans held.2⟩
      simp only [Program.wp_bind, Program.wp_get, Program.wp_ite, Program.wp_pure]
      split
      · refine Program.wp_mono (onControl_same (fun layer desk =>
          ControlConnection.sslShutdown_stays (steady_same layer desk)) _ _) ?_ ?_
        · rintro _ shut _ rfl
          refine Program.wp_mono (setSsl_same .plain shut _) ?_ ?_
          · rintro _ _ _ rfl
            exact first
          · rintro _ _ _ rfl
            exact first.2
        · rintro _ _ _ rfl
          exact first.2
      · exact first
    · exact fun _ _ _ held => held.2
  · rintro _ after rfl
    rfl

/-- What is heard of an opening before the next command goes out: one reply. -/
private inductive Greeted (reply : Reply) : List Turn → Prop where
  | ended : Greeted reply [.heard reply]
  | proceeded (line : Bytes) (rest : List Turn) :
      Greeted reply (.heard reply :: .said line :: rest)

private theorem Greeted.judges {exchange : List Turn} (greeted : Greeted reply exchange) :
    judged exchange = some reply := by
  cases greeted <;> rfl

private theorem Greeted.first {exchange : List Turn} (greeted : Greeted reply exchange) :
    ∃ later, heardIn exchange = reply :: later := by
  cases greeted with
  | ended => exact ⟨[], rfl⟩
  | proceeded line rest => exact ⟨heardIn rest, rfl⟩

private def Proceeded (reply : Reply) (exchange : List Turn) : Prop :=
  ∃ line rest, exchange = .heard reply :: .said line :: rest

private theorem Proceeded.greeted {exchange : List Turn} (proceeded : Proceeded reply exchange) :
    Greeted reply exchange := by
  obtain ⟨line, rest, rfl⟩ := proceeded
  exact .proceeded line rest

/-- Behind the next command it does not matter what is exchanged. -/
private theorem proceeded_keeps (program : Method Client Value) (reply : Reply) :
    program.Keeps speech (fun _ => Proceeded reply) (fun _ => Proceeded reply) := by
  refine (Program.Asks.any program).keeps fun past event after _ proceeded step => ?_
  obtain ⟨line, rest, rfl⟩ := proceeded
  exact ⟨line, rest ++ (Turn.ofEvent event).toList, speech_step step⟩

private theorem proceeds_command (command : Bytes) (reply : Reply) (replies : Replies)
    (rest : Reply × Replies → Method Client Value) (client : Client) :
    (processCommandInto command replies >>= rest).wp speech fuel (fun _ _ => Greeted reply)
      (fun _ _ _ => True) client [.heard reply] := by
  rw [Program.wp_bind]
  apply processCommandInto_turns
  · exact fun _ _ => trivial
  · intro answer control _ _
    have proceeded : Proceeded reply [.heard reply, .said (command ++ crlf), .heard answer] :=
      ⟨_, _, rfl⟩
    refine (proceeded_keeps (rest _) reply fuel).apply proceeded ?_ fun _ _ _ _ => trivial
    exact fun _ _ _ => Proceeded.greeted
  · exact fun _ _ => trivial

private theorem connectLogin_greeted (username : Option Bytes) (password : Bytes) (reply : Reply)
    (replies : Replies) (client : Client) :
    (connectLogin username password replies).wp speech fuel (fun _ _ => Greeted reply)
      (fun _ _ _ => True) client [.heard reply] := by
  cases username with
  | none => exact .ended
  | some username =>
    simp only [connectLogin, processLogin, bind_assoc]
    exact proceeds_command _ reply replies _ client

/-- `connect` reads one reply before it goes on. -/
private theorem connect_greeted (hostname : Bytes) (port : UInt16) (username : Option Bytes)
    (password : Bytes) (client : Client) :
    (connect hostname port username password).wp speech fuel
      (fun _ _ exchange => ∃ reply, Greeted reply exchange) (fun _ _ _ => True) client [] := by
  rw [connect, Program.wp_bind]
  apply onControl_unspoken (ControlConnection.connect_asks link_unspoken _ _)
  · intro _ opened
    simp only [notifyConnected, Program.wp_bind, Program.wp_get, wp_call]
    intro _ notified step
    have same : notified = [] := unspoken_step (fun _ => rfl) step
    subst same
    apply recvInto_turns
    · intro reply control _ _
      rw [List.nil_append]
      by_cases negative : reply.isNegative
      · rw [if_pos negative]
        exact ⟨reply, .ended⟩
      · rw [if_neg negative, Program.wp_bind, Program.wp_get]
        dsimp only
        split
        · exact Program.wp_mono (proceeds_command _ reply _ _ _)
            (fun _ _ _ greeted => ⟨reply, greeted⟩) fun _ _ _ => id
        · exact Program.wp_mono (connectLogin_greeted username password reply _ _)
            (fun _ _ _ greeted => ⟨reply, greeted⟩) fun _ _ _ => id
    · exact fun _ _ => trivial
  · exact fun _ _ => trivial

private theorem logout_heard (client : Client) :
    logout.wp speech fuel
      (fun reply _ exchange => exchange = [.said (text "REIN" ++ crlf), .heard reply])
      (fun _ _ _ => True) client [] := by
  rw [logout, Program.wp_bind]
  apply processCommand_turns
  · exact fun _ _ => trivial
  · intro reply control _ _
    simp only [Program.wp_ite, Program.wp_bind, Program.wp_get, Program.wp_pure]
    split
    · apply onControl_unspoken (ControlConnection.sslShutdown_asks
        (link_unspoken .plain _ (.closing .sslShutdown)))
      · intro _ shut
        apply onControl_unspoken (ControlConnection.setSsl_asks (fun _ _ => rfl) _)
        · exact fun _ _ => rfl
        · exact fun _ _ => trivial
      · exact fun _ _ => trivial
    · rfl
  · exact fun _ _ => trivial

/-- The replies among the turns are those that the observers were told of. -/
theorem heardIn_turns (events : List BoundaryEvent) :
    heardIn (turns events) = events.filterMap Server.told := by
  rw [heardIn, turns, List.filterMap_filterMap]
  congr 1
  funext ⟨query, answer⟩
  cases query with
  | write channel => cases channel <;> rfl
  | connectData => cases answer <;> rfl
  | _ => rfl

section Opening
variable (host : Host boundary World) (fuel : Nat) (world : World) (client : Client) {last : Desk Unit}

/-- No 120 reply is the final one. -/
private theorem first_final_iff {sent rest : List Reply} {reply : Reply}
    (delays : ∀ wait ∈ waits, wait.code = 120) (ready : final.code ≠ 120)
    (order : waits ++ [final] ++ sent = reply :: rest) : reply = final ↔ waits = [] := by
  cases waits with
  | nil => exact iff_of_true (List.cons.inj order).1.symm rfl
  | cons wait waits =>
    refine iff_of_false (fun same => ready ?_) (List.cons_ne_nil _ _)
    rw [← same, ← (List.cons.inj order).1]
    exact delays wait List.mem_cons_self

/-- What `connect` bases its decision on is the first reply that was sent. -/
private theorem connect_decides (hostname : Bytes) (port : UInt16) (username : Option Bytes)
    (password : Bytes) :
    let operation := Operation.connect hostname port username password
    let run := (invoke operation).run host fuel client world
    (waiting waits final).service.Drives ⟨(), waits ++ [final], false⟩ run.events last →
      ∀ output, run.value.1 = .ok output → ∃ reply later sent,
        operation.decision run.events = some reply ∧
          waits ++ [final] ++ sent = reply :: later ++ last.unread := by
  intro operation run drives output returned
  have greets : (invoke operation).wp speech fuel
      (fun _ _ exchange => ∃ reply, Greeted reply exchange) (fun _ _ _ => True) client [] := by
    simp only [operation, invoke, Program.wp_bind, Program.wp_pure]
    exact connect_greeted hostname port username password client
  rcases Program.wp_run greets host world (Monitor.collect_drives Turn.ofEvent [] run.events) with
    ⟨value, ended, reply, greeted⟩ | ⟨stop, stopped, _⟩
  · obtain ⟨later, heard⟩ := greeted.first
    obtain ⟨sent, order⟩ := Server.drives_order drives
    have heard : heardIn (turns run.events) = reply :: later := heard
    rw [← heardIn_turns, heard] at order
    exact ⟨reply, later, sent, greeted.judges, order⟩
  · rw [show run.value.1 = .error stop from stopped] at returned
    cases returned

private theorem connect_unhurried (hostname : Bytes) (port : UInt16) (username : Option Bytes)
    (password : Bytes) :
    let run := (invoke (.connect hostname port username password)).run host fuel client world
    (waiting [] final).service.Drives ⟨(), [final], false⟩ run.events last →
      last.hasty = false ∧ ∀ output, run.value.1 = .ok output → last.unread = [] := by
  intro run drives
  have ends : (invoke (.connect hostname port username password)).wp (waiting [] final).service fuel
      (fun _ => Prompt) (fun _ => Patient) client ⟨(), [final], false⟩ := by
    simp only [invoke, Program.wp_bind, Program.wp_pure]
    exact connect_prompt hostname port username password client
  rcases Program.wp_run ends host world drives with ⟨_, _, unread, hasty⟩ | ⟨stop, stopped, hasty⟩
  · exact ⟨hasty, fun _ _ => unread⟩
  · refine ⟨hasty, fun output returned => ?_⟩
    rw [show run.value.1 = .error stop from stopped] at returned
    cases returned

/-- `logout` bases its decision on the first reply to REIN, and leaves the others. -/
private theorem logout_decides :
    let run := (invoke .logout).run host fuel client world
    (waiting waits final).service.Drives ⟨(), [], false⟩ run.events last →
      last.hasty = false ∧ ∀ output, run.value.1 = .ok output → ∃ reply,
        Operation.logout.decision run.events = some reply ∧
          waits ++ [final] = reply :: last.unread := by
  intro run drives
  have ends : (invoke .logout).wp (waiting waits final).service fuel
      (fun output _ after => ∃ reply, output = .reply reply ∧
        waits ++ [final] = reply :: after.unread ∧ after.hasty = false)
      (fun _ => Patient) client ⟨(), [], false⟩ := by
    simp only [invoke, Program.wp_bind, Program.wp_pure]
    exact Program.wp_mono (logout_first client) (fun reply _ _ first => ⟨reply, rfl, first⟩)
      fun _ _ _ => id
  have hears : (invoke .logout).wp speech fuel
      (fun output _ exchange => ∃ reply, output = .reply reply ∧
        exchange = [.said (text "REIN" ++ crlf), .heard reply])
      (fun _ _ _ => True) client [] := by
    simp only [invoke, Program.wp_bind, Program.wp_pure]
    exact Program.wp_mono (logout_heard client) (fun reply _ _ heard => ⟨reply, rfl, heard⟩)
      fun _ _ _ => id
  have spoken := Monitor.collect_drives Turn.ofEvent [] run.events
  rcases Program.wp_run ends host world drives with
    ⟨value, ended, reply, same, first, hasty⟩ | ⟨stop, stopped, hasty⟩
  · refine ⟨hasty, fun _ _ => ⟨reply, ?_, first⟩⟩
    rcases Program.wp_run hears host world spoken with
      ⟨again, returned, answer, answered, heard⟩ | ⟨stop, stopped, _⟩
    · have equal : again = value := Except.ok.inj (returned.symm.trans ended)
      subst equal same
      rw [Operation.decision, show turns run.events = _ from heard]
      exact congrArg some (Output.reply.inj answered).symm
    · rw [ended] at stopped
      cases stopped
  · refine ⟨hasty, fun output returned => ?_⟩
    rw [show run.value.1 = .error stop from stopped] at returned
    cases returned

end Opening

/-- The reply that `connect` and `logout` judge is the final one, with nothing left unread
when they go on or return, just where no 120 reply goes before it. -/
theorem opening_heeded_iff (host : Host boundary World) (world : World) (client : Client)
    (operation : Operation) (waits : List Reply) (final : Reply) (opening : List Reply)
    (last : Desk Unit) (delays : ∀ wait ∈ waits, wait.code = 120) (ready : final.code ≠ 120)
    (opens : operation.opening waits final = some opening) :
    let run := (invoke operation).run host fuel client world
    (waiting waits final).service.Drives ⟨(), opening, false⟩ run.events last →
      (waits = [] → last.hasty = false) ∧
      ∀ output, run.value.1 = .ok output →
        (operation.decision run.events = some final ∧ last.hasty = false ∧ last.unread = [] ↔
          waits = []) := by
  intro run drives
  cases operation with
  | connect hostname port username password =>
    cases opens
    have unhurried (none : waits = []) :
        last.hasty = false ∧ ∀ output, run.value.1 = .ok output → last.unread = [] := by
      subst none
      exact connect_unhurried host fuel world client hostname port username password drives
    refine ⟨fun none => (unhurried none).1, fun output returned => ?_⟩
    obtain ⟨reply, later, sent, decision, order⟩ :=
      connect_decides host fuel world client hostname port username password drives output returned
    rw [decision, Option.some_inj, first_final_iff delays ready order]
    exact ⟨And.left, fun none => ⟨none, (unhurried none).1, (unhurried none).2 output returned⟩⟩
  | logout =>
    cases opens
    obtain ⟨hasty, decides⟩ := logout_decides host fuel world client drives
    refine ⟨fun _ => hasty, fun output returned => ?_⟩
    obtain ⟨reply, decision, order⟩ := decides output returned
    have whole : waits ++ [final] ++ [] = reply :: last.unread := by rw [List.append_nil, order]
    rw [decision, Option.some_inj, first_final_iff delays ready whole]
    refine ⟨And.left, fun none => ⟨none, hasty, ?_⟩⟩
    subst none
    exact (List.cons.inj order).2.symm
  | _ => cases opens

theorem opening_heeded_iff_delayed :
    let wait : Reply := ⟨120, text "120 w"⟩
    let ready : Reply := ⟨220, text "220 r"⟩
    let last : Desk Unit := ⟨(), [ready], false⟩
    let run := (invoke (.connect (text "h") 21 none [])).run Script.host 9
      (Client.new .passive .binary false true)
      (.ofReplies [text "120 w\r\n", text "220 r\r\n"])
    (Operation.connect (text "h") 21 none []).decision run.events = some ready ∧
        last.hasty = false ∧ last.unread = [] ↔
      [wait] = [] := by
  intro wait ready last
  let listed : Replies := ⟨true, text "120 w", [wait]⟩
  let client := Client.new .passive .binary false true
  let script := Script.ofReplies [text "120 w\r\n", text "220 r\r\n"]
  have events : ((invoke (.connect (text "h") 21 none [])).run Script.host 9 client script).events =
      [⟨.resolve (text "h") 21, none⟩, ⟨.connectControl, none⟩,
        ⟨.notifyConnected [] (text "h") 21, ()⟩,
        ⟨.readSome .control .plain 8192, .ok ⟨text "120 w\r\n", by decide, by decide⟩⟩,
        ⟨.notifyReply [] wait, ()⟩] := by decide +kernel
  have returned : ((invoke (.connect (text "h") 21 none [])).run Script.host 9 client
      script).value.1 = .ok (.replies listed) := by decide +kernel
  have drives : (waiting [wait] ready).service.Drives ⟨(), [wait, ready], false⟩
      ((invoke (.connect (text "h") 21 none [])).run Script.host 9 client script).events last := by
    rw [events]
    exact .cons ⟨_, .refl, rfl⟩ (.cons ⟨_, .refl, rfl⟩ (.cons ⟨_, .refl, rfl⟩
      (.cons ⟨_, .refl, rfl⟩ (Server.drives_reply .nil))))
  have heeded := opening_heeded_iff Script.host script client (.connect (text "h") 21 none [])
    [wait] ready [wait, ready] last (by decide) (by decide) rfl drives
  exact heeded.2 (.replies listed) returned

/-- A user logs in while the server makes the client wait. USER is judged by the greeting
and TYPE by the reply to USER, and `connect` reports success. -/
theorem connect_stops_at_120 :
    let wait : Reply := ⟨120, text "120 w"⟩
    let ready : Reply := ⟨220, text "220 r"⟩
    let password : Reply := ⟨331, text "331 p"⟩
    let refused : Reply := ⟨503, text "503 n"⟩
    let listed : Replies := ⟨true, text "120 w\r\n220 r\r\n331 p", [wait, ready, password]⟩
    let last : Desk Unit := ⟨(), [refused], true⟩
    let run := (invoke (.connect (text "h") 21 (some (text "u")) (text "s"))).run Script.host 9
      (Client.new .passive .binary false true)
      (.ofReplies [text "120 w\r\n220 r\r\n", text "331 p\r\n", text "503 n\r\n"])
    run.value.1 = .ok (.replies listed) ∧
      (waiting [wait] ready).service.Drives ⟨(), [wait, ready], false⟩ run.events last ∧
      (Operation.connect (text "h") 21 (some (text "u")) (text "s")).decision run.events ≠
        some ready := by
  intro wait ready password refused listed last
  have other (line : Bytes) (different : line ≠ text "REIN\r\n") (reply : Reply) :
      (waiting [wait] ready).answers () line [reply] () := by
    simpa only [waiting, if_neg different] using ⟨reply, rfl⟩
  have events : ((invoke (.connect (text "h") 21 (some (text "u")) (text "s"))).run Script.host 9
      (Client.new .passive .binary false true)
      (.ofReplies [text "120 w\r\n220 r\r\n", text "331 p\r\n", text "503 n\r\n"])).events =
      [⟨.resolve (text "h") 21, none⟩, ⟨.connectControl, none⟩,
        ⟨.notifyConnected [] (text "h") 21, ()⟩,
        ⟨.readSome .control .plain 8192, .ok ⟨text "120 w\r\n220 r\r\n", by decide, by decide⟩⟩,
        ⟨.notifyReply [] wait, ()⟩,
        ⟨.notifyRequest [] (text "USER u"), ()⟩, ⟨.write .control .plain (text "USER u\r\n"), none⟩,
        ⟨.notifyReply [] ready, ()⟩,
        ⟨.notifyRequest [] (text "TYPE I"), ()⟩, ⟨.write .control .plain (text "TYPE I\r\n"), none⟩,
        ⟨.readSome .control .plain 8192, .ok ⟨text "331 p\r\n", by decide, by decide⟩⟩,
        ⟨.notifyReply [] password, ()⟩] := by decide +kernel
  refine ⟨by decide +kernel, ?_, by rw [events]; decide⟩
  rw [events]
  exact .cons ⟨_, .refl, rfl⟩ (.cons ⟨_, .refl, rfl⟩ (.cons ⟨_, .refl, rfl⟩ (.cons ⟨_, .refl, rfl⟩
    (Server.drives_reply (.cons ⟨_, .refl, rfl⟩ (Server.drives_line (other _ (by decide) password)
    (Server.drives_reply (.cons ⟨_, .refl, rfl⟩ (Server.drives_line (other _ (by decide) refused)
    (.cons ⟨_, .refl, rfl⟩ (Server.drives_reply .nil)))))))))))

end Client

end LibFtp
