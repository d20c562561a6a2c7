import LibFtp.Client.Footprint
import LibFtp.Client.Hangup
import LibFtp.Client.Order
import LibFtp.Detail.DataTraffic

/-! The commands of every operation, in their order: one lemma for each program, from the
exchange of one command to the whole call. -/

namespace LibFtp

open Effect

namespace Client

section Programs
variable {operation : Operation} {context : Bool} {fuel : Nat} {past : List Turn}

/-- One command that fits, and its reply. -/
private theorem exchange (command : Bytes) (replies : Replies) (client : Client)
    (sound : Sound operation context past)
    (fits : Fits operation context past (some (.said (command ++ crlf))))
    (begins : client.control.socket.isOpen = true ∨ Idle past)
    {post : Reply × Replies → Client → List Turn → Prop}
    (heard : ∀ reply (control : ControlConnection), reply.code.toNat < 1000 →
      (reply.isNegative = false → control.socket.isOpen = true) →
      Sound operation context (past ++ [.said (command ++ crlf), .heard reply]) →
      post (reply, replies.append reply) { client with control }
        (past ++ [.said (command ++ crlf), .heard reply])) :
    (processCommandInto command replies).wp speech fuel post (fun _ _ => Done operation context)
      client past := by
  apply processCommandInto_turns
  · intro closed _
    rcases begins with opened | idle
    · rw [closed] at opened
      cases opened
    · exact done_idle sound idle
  · exact fun reply control digits still =>
      heard reply control digits still (sound_exchange sound fits)
  · exact fun _ _ => done_idle (sound_snoc sound fits) idle_said

/-- The settings behind the user name and the password. -/
private theorem settings_done (client : Client) (same : client.sslContext = context)
    (control : ControlConnection) (replies : Replies) {asked : Bytes} {reply : Reply} {first : Verb}
    (digits : reply.code.toNat < 1000)
    (sound : Sound operation context (past ++ [.said asked, .heard reply])) (calm : Calm past)
    (untyped : Untyped past) (asks : verbOf asked = some first)
    (entry : first = .user ∧ reply.code ≠ 331 ∨ first = .pass) :
    (applySettings reply replies).wp speech fuel (fun _ _ => Done operation context)
      (fun _ _ => Done operation context) { client with control } (past ++ [.said asked, .heard reply]) := by
  have pbsz : verbOf (text "PBSZ 0" ++ crlf) = some .pbsz := by decide
  have prot : verbOf (text "PROT P" ++ crlf) = some .prot := by decide
  have type : verbOf (makeTypeCommand client.transferType ++ crlf) = some .type := by
    cases client.transferType <;> decide
  have idle : Idle (past ++ [.said asked, .heard reply]) := by
    rcases entry with ⟨rfl, other⟩ | rfl
    · exact idle_exchange (fun _ => other) (fun rnfr => nomatch asks.symm.trans rnfr) fun either =>
        either.elim (fun eprt => nomatch asks.symm.trans eprt) fun port =>
          nomatch asks.symm.trans port
    · exact idle_other (by rw [asks]; decide)
  have untyped : Untyped (past ++ [.said asked, .heard reply]) := by
    refine untyped_exchange untyped ?_
    rcases entry with ⟨rfl, _⟩ | rfl <;> simp [asks]
  have unasked (second : Verb) (other : second ≠ .pass ∧ second ≠ .rnto) :
      (first = .user ∧ reply.code = 331 ↔ second = .pass) ∧
        (first = .rnfr ∧ reply.code = 350 ↔ second = .rnto) := by
    rcases entry with ⟨rfl, unequal⟩ | rfl
    · exact ⟨iff_of_false (fun both => unequal both.2) other.1,
        iff_of_false (fun both => nomatch both.1) other.2⟩
    · exact ⟨iff_of_false (fun both => nomatch both.1) other.1,
        iff_of_false (fun both => nomatch both.1) other.2⟩
  have inactive : first ≠ .eprt ∧ first ≠ .port := by
    rcases entry with ⟨rfl, _⟩ | rfl <;> decide
  simp only [applySettings, Program.wp_bind, Program.wp_get, Program.wp_ite, Program.wp_pure]
  split
  · exact done_idle sound idle
  rename_i accepted
  have calm : Calm (past ++ [.said asked, .heard reply]) :=
    calm_exchange asked calm digits (by simpa using accepted)
  dsimp only
  split
  · apply exchange (text "PBSZ 0") _ _ sound _ (.inr idle)
    · intro reply control digits _ sound
      split
      · exact done_idle sound (idle_other (by rw [pbsz]; decide))
      rename_i accepted
      have calm := calm_exchange (text "PBSZ 0" ++ crlf) calm digits (by simpa using accepted)
      apply exchange (text "PROT P") _ _ sound _ (.inr (idle_other (by rw [pbsz]; decide)))
      · intro reply control digits _ sound
        split
        · exact done_idle sound (idle_other (by rw [prot]; decide))
        rename_i accepted
        have calm := calm_exchange (text "PROT P" ++ crlf) calm digits (by simpa using accepted)
        apply exchange _ _ _ sound _ (.inr (idle_other (by rw [prot]; decide)))
        · exact fun _ _ _ _ sound => done_idle sound (idle_other (by rw [type]; decide))
        · refine fits_answer calm prot type (by simp) (by simp) nofun nofun (fun _ _ _ => ?_)
            (by decide) (by decide)
          exact ⟨_, _, _, _, _, List.append_assoc .., pbsz, prot⟩
      · exact fits_answer calm pbsz prot (by simp) (by simp) (fun _ => ⟨rfl, by simpa using accepted⟩)
          (fun _ => untyped_exchange untyped (by rw [pbsz]; decide)) nofun (by decide) (by decide)
    · exact fits_answer calm asks pbsz (unasked .pbsz (by decide)).1 (unasked .pbsz (by decide)).2
        nofun (fun _ => untyped) nofun inactive (by decide)
  · rename_i plain
    apply exchange _ _ _ sound _ (.inr idle)
    · exact fun _ _ _ _ sound => done_idle sound (idle_other (by rw [type]; decide))
    · exact fits_answer calm asks type (unasked .type (by decide)).1 (unasked .type (by decide)).2
        nofun nofun (fun _ _ secret => absurd (same.trans secret) plain) inactive (by decide)

private theorem positive_331 {reply : Reply} (code : reply.code = 331) :
    reply.isNegative = false := by
  simp [Reply.isNegative, code]

private theorem processLogin_done (username password : Bytes) (replies : Replies) (client : Client)
    (same : client.sslContext = context) (sound : Sound operation context past) (calm : Calm past)
    (untyped : Untyped past) (idle : Idle past) :
    (processLogin username password replies).wp speech fuel (fun _ _ => Done operation context)
      (fun _ _ => Done operation context) client past := by
  have user : verbOf (makeCommand "USER" (some username) ++ crlf) = some .user :=
    verbOf_makeCommand .user _
  have pass : verbOf (makeCommand "PASS" (some password) ++ crlf) = some .pass :=
    verbOf_makeCommand .pass _
  rw [processLogin_eq, Program.wp_bind]
  apply exchange _ _ _ sound _ (.inr idle)
  · intro reply control digits still sound
    rw [Program.wp_ite]
    split
    · rename_i code
      have calm := calm_exchange (makeCommand "USER" (some username) ++ crlf) calm digits
        (positive_331 code)
      have untyped : Untyped (past ++ [.said (makeCommand "USER" (some username) ++ crlf),
          .heard reply]) :=
        untyped_exchange untyped (by rw [user]; decide)
      rw [Program.wp_bind]
      apply exchange _ _ _ sound _ (.inl (still (positive_331 code)))
      · exact fun reply control digits _ sound =>
          settings_done client same control _ digits sound calm untyped pass (.inr rfl)
      · exact fits_answer calm user pass (by simp [code]) (by simp) nofun nofun nofun (by decide)
          (by decide)
    · rename_i other
      exact settings_done client same control _ digits sound calm untyped user (.inl ⟨rfl, other⟩)
  · exact fits_plain idle calm (by rw [user]; decide) (by rw [user]; nofun) (verb_apart user)

private theorem connectLogin_done (username : Option Bytes) (password : Bytes) (replies : Replies)
    (client : Client) (same : client.sslContext = context) (sound : Sound operation context past)
    (calm : Calm past) (untyped : Untyped past) (idle : Idle past) :
    (connectLogin username password replies).wp speech fuel (fun _ _ => Done operation context)
      (fun _ _ => Done operation context) client past := by
  cases username with
  | none => exact done_idle sound idle
  | some name =>
    simp only [connectLogin, Program.wp_bind, Program.wp_pure]
    exact processLogin_done name password replies client same sound calm untyped idle

/-- The greeting is the first turn. -/
private theorem greeting_told (greeting : Reply) :
    Sound operation context ([] ++ [.heard greeting]) ∧ Idle ([] ++ [.heard greeting]) ∧
      Untyped ([] ++ [.heard greeting]) := by
  refine ⟨sound_snoc sound_nil (fits_unsaid idle_start _ nofun), idle_heard nofun, ?_⟩
  intro line member
  cases List.mem_singleton.mp member

private theorem connect_done (hostname : Bytes) (port : UInt16) (username : Option Bytes)
    (password : Bytes) (client : Client) (same : client.sslContext = context)
    (transfers : operation.mainCommand = none) :
    (connect hostname port username password).wp speech fuel (fun _ _ => Done operation context)
      (fun _ _ => Done operation context) client [] := by
  have apart {line : Bytes} (main : Bytes) (other : operation.mainCommand = some main) :
      line ≠ main ++ crlf := by
    rw [transfers] at other
    cases other
  have auth : verbOf (text "AUTH TLS" ++ crlf) = none := by decide
  have start : Done operation context [] := done_idle sound_nil idle_start
  unfold connect
  rw [Program.wp_bind]
  apply onControl_unspoken (ControlConnection.connect_asks link_unspoken _ _)
  · intro _ control
    simp only [notifyConnected, Program.wp_bind, Program.wp_get, wp_call]
    intro _ after step
    rw [unspoken_step (fun _ => rfl) step]
    apply recvInto_turns
    · intro greeting control digits _
      have told : Sound operation context ([] ++ [.heard greeting]) ∧ _ := greeting_told greeting
      obtain ⟨sound, idle, untyped⟩ := told
      rw [Program.wp_ite]
      split
      · exact done_idle sound idle
      rename_i accepted
      have calm : Calm ([] ++ [.heard greeting]) := by
        intro other member
        cases List.mem_singleton.mp member
        rw [← UInt16.not_le, ← Reply.isNegative_iff digits]
        exact accepted
      rw [Program.wp_bind, Program.wp_get]
      dsimp only
      rw [Program.wp_ite]
      split
      · rw [Program.wp_bind]
        apply exchange (text "AUTH TLS") _ _ sound _ (.inr idle)
        · intro reply control digits _ sound
          have idle : Idle ([] ++ [.heard greeting] ++
              [.said (text "AUTH TLS" ++ crlf), .heard reply]) :=
            idle_other (by rw [auth]; decide)
          dsimp only
          rw [Program.wp_ite]
          split
          · exact done_idle sound idle
          rename_i accepted
          have calm := calm_exchange (text "AUTH TLS" ++ crlf) calm digits (by simpa using accepted)
          rw [Program.wp_bind]
          apply onControl_unspoken (ControlConnection.setSsl_asks (fun _ _ => rfl) _)
          · intro _ control
            rw [Program.wp_bind]
            apply onControl_unspoken
              (ControlConnection.sslHandshake_asks (link_unspoken _ _ (.handshake rfl)))
            · exact fun _ control => connectLogin_done username password _ _ same sound calm
                (untyped_exchange untyped (by rw [auth]; decide)) idle
            · exact fun _ _ => done_idle sound idle
          · exact fun _ _ => done_idle sound idle
        · exact fits_plain idle calm (by rw [auth]; decide) (by simp [auth]) apart
      · exact connectLogin_done username password _ _ same sound calm untyped idle
    · exact fun _ _ => start
  · exact fun _ _ => start

private theorem calm_nil : Calm [] := fun _ member => nomatch member

private theorem rename_done (fromPath toPath : Bytes) (client : Client) :
    (rename fromPath toPath).wp speech fuel (fun _ _ => Done operation context)
      (fun _ _ => Done operation context) client [] := by
  have rnfr : verbOf (makeCommand "RNFR" (some fromPath) ++ crlf) = some .rnfr :=
    verbOf_makeCommand .rnfr _
  have rnto : verbOf (makeCommand "RNTO" (some toPath) ++ crlf) = some .rnto :=
    verbOf_makeCommand .rnto _
  unfold rename
  rw [Program.wp_bind]
  apply exchange _ _ _ sound_nil _ (.inr idle_start)
  · intro reply control digits still sound
    dsimp only
    rw [Program.wp_ite]
    split
    · rename_i code
      have positive : reply.isNegative = false := by simp [Reply.isNegative, code]
      have calm := calm_exchange (makeCommand "RNFR" (some fromPath) ++ crlf) calm_nil digits positive
      rw [Program.wp_bind]
      apply exchange _ _ _ sound _ (.inl (still positive))
      · exact fun _ _ _ _ sound => done_idle sound (idle_other (by rw [rnto]; decide))
      · exact fits_answer calm rnfr rnto (by simp) (by simp [code]) (by simp) (by simp) (by simp)
          (by decide) (by decide)
    · rename_i other
      refine done_idle sound (idle_exchange (fun user => ?_) (fun _ => other) fun either => ?_)
      · rw [rnfr] at user
        cases user
      · rw [rnfr] at either
        rcases either with never | never <;> cases never
  · exact fits_plain idle_start calm_nil (by rw [rnfr]; decide) (by simp [rnfr]) (verb_apart rnfr)

end Programs

section Transfers
variable {operation : Operation} {context : Bool} {fuel : Nat} {past : List Turn}

/-- What a negotiation leaves to the main command. -/
private def Proposed (operation : Operation) (context : Bool) (negotiated : Option Negotiated)
    (client : Client) (past : List Turn) : Prop :=
  match negotiated with
  | none => Done operation context past ∧ ∃ reply, heardIn past = [reply] ∧ reply.isNegative = true
  | some _ => Sound operation context past ∧ Calm past ∧ Arranged past ∧
      ¬ Answered .user (·.code = 331) past ∧ ¬ Answered .rnfr (·.code = 350) past ∧
      client.control.socket.isOpen = true ∧ ∃ reply, heardIn past = [reply] ∧ reply.isNegative = false

private theorem negotiates_apart (negotiates : Negotiates command) (main : Bytes)
    (transfers : operation.mainCommand = some main) : command ++ crlf ≠ main ++ crlf :=
  fun same => negotiates.ne_main transfers (List.append_cancel_right same)

private theorem proposed_opened (sound : Sound operation context past) (calm : Calm past)
    (idle : Idle past) (endpoint : Endpoint) (arranged : Arranged (past ++ [.opened endpoint]))
    (client : Client) (isOpen : client.control.socket.isOpen = true)
    (heard : ∃ reply, heardIn past = [reply] ∧ reply.isNegative = false)
    (connection : DataConnection) :
    Proposed operation context (some ⟨connection, false⟩) client (past ++ [.opened endpoint]) := by
  refine ⟨sound_snoc sound (fits_unsaid idle _ nofun), calm_snoc calm nofun, arranged, ?_, ?_,
    isOpen, ?_⟩
  · exact not_answered (lastExchange_opened _) _ _
  · exact not_answered (lastExchange_opened _) _ _
  · obtain ⟨reply, one, positive⟩ := heard
    exact ⟨reply, by simpa [heardIn] using one, positive⟩

/-- The exchange of a command that asks the server for an endpoint. -/
private theorem passive_exchange (command : Bytes) (replies : Replies) (client : Client)
    (negotiates : Negotiates command) (other : verbOf (command ++ crlf) = none)
    {post : Reply × Replies → Client → List Turn → Prop}
    (refused : ∀ reply state, reply.isNegative = true →
      Done operation context ([] ++ [.said (command ++ crlf), .heard reply]) →
      post (reply, replies.append reply) state ([] ++ [.said (command ++ crlf), .heard reply]))
    (accepted : ∀ reply (control : ControlConnection),
      let turns := [] ++ [.said (command ++ crlf), .heard reply]
      reply.isNegative = false → control.socket.isOpen = true → Sound operation context turns →
      Idle turns → Calm turns → post (reply, replies.append reply) { client with control } turns) :
    (processCommandInto command replies).wp speech fuel post (fun _ _ => Done operation context)
      client [] := by
  apply exchange _ _ _ sound_nil _ (.inr idle_start)
  · intro reply control digits still sound
    have idle : Idle ([] ++ [.said (command ++ crlf), .heard reply]) :=
      idle_other (by rw [other]; decide)
    cases negative : reply.isNegative with
    | true => exact refused reply _ negative (done_idle sound idle)
    | false =>
      exact accepted reply control negative (still negative) sound idle
        (calm_exchange (command ++ crlf) calm_nil digits negative)
  · exact fits_plain idle_start calm_nil (by rw [other]; decide) (by rw [other]; nofun)
      (negotiates_apart negotiates)

private theorem negotiateEpsv_proposes (replies : Replies) (client : Client) :
    (negotiateEpsv replies).wp speech fuel (fun out => Proposed operation context out.1)
      (fun _ _ => Done operation context) client [] := by
  unfold negotiateEpsv
  rw [Program.wp_bind]
  apply passive_exchange _ replies client .epsv (by decide)
  · intro reply state negative done
    dsimp only
    rw [if_pos negative]
    exact ⟨done, reply, rfl, negative⟩
  · intro reply control turns positive isOpen sound idle calm
    dsimp only
    rw [if_neg (ne_true_of_eq_false positive)]
    cases parsed : tryParseEpsvReply reply with
    | none => exact done_idle sound idle
    | some remotePort =>
      simp only
      rw [Program.wp_bind]
      apply getRemoteEndpoint_turns
      · intro remoteEndpoint
        rw [Program.wp_bind, Program.wp_on]
        apply connect_turns
        · exact fun connection => proposed_opened sound calm idle _
            ⟨positive, .inl ⟨rfl, parsed⟩⟩ _ isOpen ⟨reply, rfl, positive⟩ connection
        · exact fun _ _ => done_idle sound idle
      · exact fun _ => done_idle sound idle

private theorem negotiatePasv_proposes (replies : Replies) (client : Client) :
    (negotiatePasv replies).wp speech fuel (fun out => Proposed operation context out.1)
      (fun _ _ => Done operation context) client [] := by
  unfold negotiatePasv
  rw [Program.wp_bind]
  apply passive_exchange _ replies client .pasv (by decide)
  · intro reply state negative done
    dsimp only
    rw [if_pos negative]
    exact ⟨done, reply, rfl, negative⟩
  · intro reply control turns positive isOpen sound idle calm
    dsimp only
    rw [if_neg (ne_true_of_eq_false positive)]
    cases parsed : tryParsePasvReply reply with
    | none => exact done_idle sound idle
    | some remote =>
      simp only
      rw [Program.wp_bind, Program.wp_on]
      apply connectText_turns
      · exact fun address connection => proposed_opened sound calm idle _
          ⟨positive, .inr ⟨rfl, remote.1, parsed⟩⟩ _ isOpen ⟨reply, rfl, positive⟩ connection
      · exact fun _ _ => done_idle sound idle

private theorem negotiateActive_proposes (makeEndpointCommand : Endpoint → Bytes) (verb : Verb)
    (active : verb = .eprt ∨ verb = .port)
    (carries : ∀ endpoint, verbOf (makeEndpointCommand endpoint ++ crlf) = some verb)
    (replies : Replies) (client : Client) :
    (negotiateActive makeEndpointCommand replies).wp speech fuel
      (fun out => Proposed operation context out.1) (fun _ _ => Done operation context) client
      [] := by
  have start : Done operation context [] := done_idle sound_nil idle_start
  unfold negotiateActive
  rw [Program.wp_bind]
  apply getLocalEndpoint_turns
  · intro localEndpoint
    rw [Program.wp_bind]
    apply on_unspoken ((DataConnection.listen_plumbing _).mono plumbing_unspoken)
    · intro _ connection
      rw [Program.wp_bind]
      apply on_unspoken (DataConnection.getListenEndpoint_plumbing.mono plumbing_unspoken)
      · intro listenEndpoint connection
        simp only
        have carried := carries listenEndpoint
        rw [Program.wp_bind]
        apply exchange _ _ _ sound_nil _ (.inr idle_start)
        · intro reply control digits still sound
          dsimp only
          rw [Program.wp_ite]
          split
          · rename_i negative
            refine ⟨done_idle sound (idle_exchange (fun user => ?_) (fun rnfr => ?_) fun _ => negative),
              reply, rfl, negative⟩
            · rw [carried] at user
              rcases active with rfl | rfl <;> cases user
            · rw [carried] at rnfr
              rcases active with rfl | rfl <;> cases rnfr
          rename_i accepted
          have positive : reply.isNegative = false := by simpa using accepted
          have calm := calm_exchange (makeEndpointCommand listenEndpoint ++ crlf) calm_nil digits
            positive
          refine ⟨sound, calm, ⟨positive, ?_⟩, ?_, ?_, still positive, reply, rfl, positive⟩
          · rw [carried, Option.some.injEq, Option.some.injEq]
            exact active
          · rw [answered_heard, carried]
            rcases active with rfl | rfl <;> exact fun both => nomatch both.1
          · rw [answered_heard, carried]
            rcases active with rfl | rfl <;> exact fun both => nomatch both.1
        · refine fits_plain idle_start calm_nil ?_ ?_ (verb_apart carried)
          · rw [carried]
            rcases active with rfl | rfl <;> decide
          · rw [carried]
            rcases active with rfl | rfl <;> nofun
      · exact fun _ => start
    · exact fun _ => start
  · exact fun _ => start

private theorem verbOf_eprt (endpoint : Endpoint) :
    verbOf (makeEprtCommand endpoint ++ crlf) = some .eprt := by
  refine verbOf_eq .eprt ?_
  simp only [makeEprtCommand, List.append_assoc]
  rfl

private theorem verbOf_port (endpoint : Endpoint) :
    verbOf (makePortCommand endpoint ++ crlf) = some .port := by
  refine verbOf_eq .port ?_
  simp only [makePortCommand, List.append_assoc]
  rfl

private theorem negotiate_proposes (replies : Replies) (client : Client) :
    (negotiate replies).wp speech fuel (fun out => Proposed operation context out.1)
      (fun _ _ => Done operation context) client [] := by
  unfold negotiate
  rw [Program.wp_bind, Program.wp_get]
  dsimp only
  cases client.transferMode <;> cases client.rfc2428Support
  · exact negotiatePasv_proposes replies client
  · exact negotiateEpsv_proposes replies client
  · exact negotiateActive_proposes makePortCommand .port (.inr rfl) verbOf_port replies client
  · exact negotiateActive_proposes makeEprtCommand .eprt (.inl rfl) verbOf_eprt replies client

/-- The transfer is under way: its main command was accepted, and no command has followed. -/
private structure Under (operation : Operation) (context : Bool) (past : List Turn) : Prop where
  sound : Sound operation context past
  calm : Calm past
  idle : Idle past
  replied : Replied past
  accepted : ∃ main, operation.mainCommand = some main ∧ Accepted main past

private theorem Under.done (under : Under operation context past) : Done operation context past :=
  done_idle under.sound under.idle

private theorem Under.polled (under : Under operation context past) (cancelled : Bool) :
    Under operation context (past ++ [.polled cancelled]) where
  sound := sound_snoc under.sound (fits_unsaid under.idle _ nofun)
  calm := calm_snoc under.calm nofun
  idle := idle_polled cancelled
  replied line := by simp
  accepted := by
    obtain ⟨main, transfers, before, reply, between, same, positive⟩ := under.accepted
    refine ⟨main, transfers, before, reply, between ++ [.polled cancelled], ?_, positive⟩
    simp [same]

/-- One more reply ends the turns. -/
private theorem recvInto_done (replies : Replies) (client : Client)
    (sound : Sound operation context past) (idle : Idle past) (replied : Replied past) :
    (recvInto replies).wp speech fuel (fun _ _ => Done operation context)
      (fun _ _ => Done operation context) client past := by
  apply recvInto_turns
  · exact fun _ _ _ _ =>
      done_idle (sound_snoc sound (fits_unsaid idle _ nofun)) (idle_heard replied)
  · exact fun _ _ => done_idle sound idle

/-- The last step of a negotiation is no turn. -/
private theorem readyConnection_turns (connection : DataConnection) (client : Client)
    (past : List Turn) {post : DataConnection → Client → List Turn → Prop}
    {fail : Stop FtpException → Client → List Turn → Prop}
    (done : ∀ connection state, post connection state past)
    (stops : ∀ stop state, fail stop state past) :
    (readyConnection connection).wp speech fuel post fail client past := by
  have ready : (readyConnection connection).Asks Unspoken :=
    Conversing.readyConnection plumbing_unspoken (fun _ => rfl) connection
  exact unspoken_wp ready client past done stops

/-- A connection is handed out exactly when the main command was not refused. -/
private theorem answerMain_turns (negotiated : Negotiated) (reply : Reply) (replies : Replies)
    (client : Client) (past : List Turn)
    {post : Option DataConnection × Replies → Client → List Turn → Prop}
    {fail : Stop FtpException → Client → List Turn → Prop}
    (refused : reply.isNegative = true → ∀ state, post (none, replies) state past)
    (accepted : reply.isNegative = false →
      ∀ connection state, post (some connection, replies) state past)
    (stops : ∀ stop state, fail stop state past) :
    (answerMain negotiated reply replies).wp speech fuel post fail client past := by
  unfold answerMain
  rw [Program.wp_ite]
  split
  · rw [Program.wp_ite]
    split
    · rename_i negative
      exact refused negative client
    · rename_i positive
      rw [Program.wp_bind]
      apply on_unspoken (DataConnection.accept_asks fun _ => rfl)
      · intro _ connection
        rw [Program.wp_bind]
        exact readyConnection_turns connection client past (accepted (by simpa using positive)) stops
      · exact fun _ => stops _ _
  · rw [Program.wp_ite]
    split
    · rename_i negative
      rw [Program.wp_bind]
      apply on_unspoken ((DataConnection.disconnect_plumbing _).mono plumbing_unspoken)
      · exact fun _ _ => refused negative client
      · exact fun _ => stops _ _
    · rename_i positive
      rw [Program.wp_bind]
      exact readyConnection_turns _ client past (accepted (by simpa using positive)) stops

/-- What a connection that is handed out, or none, leaves. -/
private def Opened (operation : Operation) (context : Bool) (connection : Option DataConnection)
    (past : List Turn) : Prop :=
  match connection with
  | none => Done operation context past
  | some _ => Under operation context past

private theorem createDataConnection_opened (replies : Replies) (client : Client)
    (transfers : operation.mainCommand = some main) :
    (createDataConnection main replies).wp speech fuel
      (fun out _ => Opened operation context out.1) (fun _ _ => Done operation context) client
      [] := by
  have verb := verbOf_main transfers
  rw [createDataConnection_eq, Program.wp_bind]
  apply Program.wp_mono (negotiate_proposes replies client)
  · intro ⟨negotiated, replies⟩ state past proposed
    cases negotiated with
    | none => exact proposed.1
    | some negotiated =>
      obtain ⟨sound, calm, arranged, user, rnfr, isOpen, _⟩ := proposed
      simp only [openMain, Program.wp_bind]
      apply exchange _ _ _ sound (fits_main arranged calm user rnfr transfers) (.inl isOpen)
      intro reply control digits still sound
      have idle : Idle (past ++ [.said (main ++ crlf), .heard reply]) :=
        idle_other (by rw [verb]; decide)
      apply answerMain_turns
      · exact fun _ _ => done_idle sound idle
      · exact fun positive _ _ => {
          sound
          idle
          calm := calm_exchange _ calm digits positive
          replied := by simp [Replied]
          accepted := ⟨main, transfers, past, reply, [], rfl, positive⟩ }
      · exact fun _ _ => done_idle sound idle
  · exact fun _ _ _ => id

private theorem processAbort_done (replies : Replies) (client : Client)
    (under : Under operation context past) (polled : past.getLast? = some (.polled true)) :
    (processAbort replies).wp speech fuel (fun _ _ => Done operation context)
      (fun _ _ => Done operation context) client past := by
  have abor : verbOf (makeCommand "ABOR" none ++ crlf) = some .abor := verbOf_makeCommand .abor none
  obtain ⟨main, transfers, accepted⟩ := under.accepted
  unfold processAbort
  rw [Program.wp_bind]
  apply exchange _ _ _ under.sound (fits_abor under.calm polled transfers accepted abor)
    (.inr under.idle)
  intro reply control _ _ sound
  have idle : Idle (past ++ [.said (makeCommand "ABOR" none ++ crlf), .heard reply]) :=
    idle_other (by rw [abor]; decide)
  dsimp only
  rw [Program.wp_ite]
  split
  · exact recvInto_done _ _ sound idle (by simp [Replied])
  · exact done_idle sound idle

private theorem endTransfer_done (connection : DataConnection) (replies : Replies)
    (cancelled : Bool) (client : Client) (under : Under operation context past)
    (polled : cancelled = true → past.getLast? = some (.polled true)) :
    (endTransfer connection replies cancelled).wp speech fuel (fun _ _ => Done operation context)
      (fun _ _ => Done operation context) client past := by
  rw [endTransfer, Program.wp_ite]
  split
  · rename_i aborted
    rw [Program.wp_bind]
    apply Program.wp_mono (processAbort_done replies client under (polled aborted))
    · intro _ state last done
      rw [Program.wp_bind]
      apply on_unspoken ((DataConnection.disconnect_plumbing _).mono plumbing_unspoken)
      · exact fun _ _ => done
      · exact fun _ => done
    · exact fun _ _ _ => id
  · rw [Program.wp_bind]
    apply on_unspoken ((DataConnection.disconnect_plumbing _).mono plumbing_unspoken)
    · intro _ _
      rw [Program.wp_bind]
      exact recvInto_done _ _ under.sound under.idle under.replied
    · exact fun _ => under.done

private theorem finishTransfer_done (connection : DataConnection) (callback : Bool)
    (replies : Replies) (client : Client) (under : Under operation context past) :
    (finishTransfer connection callback replies).wp speech fuel (fun _ _ => Done operation context)
      (fun _ _ => Done operation context) client past := by
  rw [finishTransfer_eq, Program.wp_ite]
  split
  · rw [Program.wp_bind, wp_call]
    intro cancelled after step
    rw [speech_step step]
    refine endTransfer_done _ _ _ _ (under.polled cancelled) fun aborted => ?_
    rw [aborted]
    exact List.getLast?_concat
  · exact endTransfer_done _ _ false _ under fun aborted => absurd aborted Bool.false_ne_true

private theorem under_steady (layer : Layer) (past : List Turn) (event : BoundaryEvent)
    (after : List Turn) (moving : Moving layer event.query) (under : Under operation context past)
    (step : speech.step past event after) : Under operation context after := by
  obtain ⟨query, answer⟩ := event
  have same {after} (step : speech.step past ⟨query, answer⟩ after) := speech_step step
  cases moving with
  | isCancelled =>
    rw [same step]
    exact under.polled answer
  | streaming streaming =>
    have unspoken : Unspoken query := by cases streaming <;> exact fun _ => rfl
    rwa [unspoken_step unspoken step]
  | _ => rwa [unspoken_step (fun _ => rfl) step]

/-- The transfer over the connection that was handed out, and what follows it. -/
private theorem transfer_done {Out : Type} {connection : DataConnection}
    {transfer : Method DataConnection Out} {rest : Out × DataConnection → Method Client Value}
    (stays : transfer.Keeps speech
      (DataConnection.Stays connection.socket.layer (Under operation context))
      (DataConnection.Stays connection.socket.layer (Under operation context)))
    (client : Client)
    (ends : ∀ out past, Under operation context past →
      (rest out).wp speech fuel (fun _ _ => Done operation context)
        (fun _ _ => Done operation context) client past)
    (under : Under operation context past) :
    (Program.on connection transfer >>= rest).wp speech fuel (fun _ _ => Done operation context)
      (fun _ _ => Done operation context) client past := by
  rw [Program.wp_bind, Program.wp_on]
  apply (stays fuel).apply ⟨rfl, under⟩
  · exact fun value connection after both => ends (value, connection) after both.2
  · exact fun _ _ _ both => both.2.done

private theorem overData_done {Moved : Type} {command : Bytes}
    {moves : Client → Method DataConnection Moved} {refused : Replies → Value}
    {rest : Replies → Moved × DataConnection → Method Client Value}
    (stays : ∀ layer client, (moves client).Keeps speech
      (DataConnection.Stays layer (Under operation context))
      (DataConnection.Stays layer (Under operation context)))
    (client : Client)
    (ends : ∀ replies moved state past, Under operation context past →
      (rest replies moved).wp speech fuel (fun _ _ => Done operation context)
        (fun _ _ => Done operation context) state past)
    (transfers : operation.mainCommand = some command) :
    (overData command moves refused rest).wp speech fuel (fun _ _ => Done operation context)
      (fun _ _ => Done operation context) client [] := by
  rw [overData, Program.wp_bind]
  apply Program.wp_mono (createDataConnection_opened _ client transfers)
  · intro ⟨connection, replies⟩ state past opened
    cases connection with
    | none => exact opened
    | some connection =>
      exact transfer_done (stays _ state) state
        (fun moved past under => ends replies moved state past under) opened
  · exact fun _ _ _ => id

private theorem finishFileList_done (replies : Replies) (moved : OutputStream × DataConnection)
    (client : Client) (past : List Turn) (under : Under operation context past) :
    (finishFileList replies moved).wp speech fuel (fun _ _ => Done operation context)
      (fun _ _ => Done operation context) client past := by
  simp only [finishFileList, notifyFileList, Program.wp_bind, Program.wp_get, wp_call]
  intro _ after step
  rw [unspoken_step (fun _ => rfl) step]
  exact finishTransfer_done _ _ _ client under

end Transfers

section Operations
variable {operation : Operation} {context : Bool} {fuel : Nat}

/-- The verbs of the operations with one command, TYPE apart. -/
private def singleVerbs : List String :=
  ["CWD", "CDUP", "PWD", "DELE", "MKD", "RMD", "SIZE", "MDTM", "STAT", "SYST", "HELP", "SITE",
    "NOOP", "REIN", "QUIT"]

private theorem verbOf_single (verb : String) (member : verb ∈ singleVerbs)
    (argument : Option Bytes) : verbOf (makeCommand verb argument ++ crlf) = none := by
  have fronts : ∀ verb ∈ singleVerbs, ∀ next ∈ [text " ", crlf],
      4 ≤ (text verb ++ next).length ∧ (text verb ++ next).take 4 ∉ [Verb.user, .pass, .rnfr,
        .rnto, .pbsz, .prot, .type, .eprt, .port, .abor].map fun verb => text verb.literal := by
    decide
  have front (next : Bytes) (found : next ∈ [text " ", crlf]) (rest : Bytes) :
      verbOf (text verb ++ next ++ rest) = none := by
    obtain ⟨long, other⟩ := fronts verb member next found
    refine verbOf_none ?_
    rw [List.take_append_of_le_length long]
    exact other
  cases argument with
  | none => simpa [makeCommand] using front crlf (by decide) []
  | some argument =>
    rw [makeCommand, List.append_assoc]
    exact front (text " ") (by decide) _

/-- An operation with one command. -/
private theorem command_done (command : Bytes) (client : Client)
    (plain : verbOf (command ++ crlf) = none ∨ verbOf (command ++ crlf) = some .type)
    (stays : ¬ operation.LogsIn) (transfers : operation.mainCommand = none) :
    (processCommand command).wp speech fuel (fun _ _ => Done operation context)
      (fun _ _ => Done operation context) client [] := by
  have start : Done operation context [] := done_idle sound_nil idle_start
  have fits : Fits operation context [] (some (.said (command ++ crlf))) := by
    refine fits_plain idle_start calm_nil ?_ (fun _ => stays) fun main other => ?_
    · rcases plain with plain | plain <;> rw [plain] <;> decide
    · rw [transfers] at other
      cases other
  apply processCommand_turns
  · exact fun _ _ => start
  · intro reply control _ _
    refine done_idle (sound_exchange sound_nil fits) (idle_other ?_)
    rcases plain with plain | plain <;> rw [plain] <;> decide
  · exact fun _ _ => done_idle (sound_snoc sound_nil fits) idle_said

private theorem logout_done (client : Client) (stays : ¬ operation.LogsIn)
    (transfers : operation.mainCommand = none) :
    logout.wp speech fuel (fun _ _ => Done operation context) (fun _ _ => Done operation context)
      client [] := by
  unfold logout
  rw [Program.wp_bind]
  apply Program.wp_mono (command_done _ client (.inl (verbOf_single "REIN" (by decide) none)) stays
    transfers)
  · intro reply state past done
    simp only [Program.wp_bind, Program.wp_get, Program.wp_ite, Program.wp_pure]
    split
    · apply onControl_unspoken
        (ControlConnection.sslShutdown_asks (link_unspoken .plain _ (.closing .sslShutdown)))
      · intro _ control
        apply onControl_unspoken (ControlConnection.setSsl_asks (fun _ _ => rfl) _)
        · exact fun _ _ => done
        · exact fun _ _ => done
      · exact fun _ _ => done
    · exact done
  · exact fun _ _ _ => id

private theorem disconnect_done (graceful : Bool) (client : Client) (stays : ¬ operation.LogsIn)
    (transfers : operation.mainCommand = none) :
    (disconnect graceful).wp speech fuel (fun _ _ => Done operation context)
      (fun _ _ => Done operation context) client [] := by
  have closing (reply : Option Reply) (state : Client) (past : List Turn)
      (done : Done operation context past) :
      Program.wp speech fuel (do closeControl; resetSsl; return reply)
        (fun _ _ => Done operation context) (fun _ _ => Done operation context) state past := by
    have unspoken : (do closeControl; resetSsl; return reply : Method Client _).Asks Unspoken := by
      refine .bind (.bind .get fun _ => .ite ?_ (.pure _)) fun _ =>
        .bind (.bind .get fun _ => .ite ?_ (.pure _)) fun _ => .pure _
      · exact .zoom (ControlConnection.closeSteps_asks fun query closing =>
          link_unspoken .plain query (.closing closing))
      · exact .zoom (ControlConnection.setSsl_asks (fun _ _ => rfl) _)
    exact unspoken_wp unspoken state past (fun _ _ => done) fun _ _ => done
  unfold disconnect quit
  cases graceful with
  | true =>
    simp only [if_true, bind_assoc, pure_bind]
    rw [Program.wp_bind]
    apply Program.wp_mono (command_done _ client (.inl (verbOf_single "QUIT" (by decide) none))
      stays transfers)
    · exact fun reply state past done => closing (some reply) state past done
    · exact fun _ _ _ => id
  | false => exact closing none client [] (done_idle sound_nil idle_start)

private theorem invoke_done (operation : Operation) (client : Client) :
    (invoke operation).wp speech fuel (fun _ _ => Done operation client.sslContext)
      (fun _ _ => Done operation client.sslContext) client [] := by
  have start : Done operation client.sslContext [] := done_idle sound_nil idle_start
  have untyped : Untyped [] := fun _ member => nomatch member
  have single (operation : Operation) (verb : String) (member : verb ∈ singleVerbs)
      (argument : Option Bytes) (output : Reply → Output) (stays : ¬ operation.LogsIn)
      (transfers : operation.mainCommand = none) :
      Program.wp speech fuel (do return output (← processCommand (makeCommand verb argument)))
        (fun _ _ => Done operation client.sslContext)
        (fun _ _ => Done operation client.sslContext) client [] := by
    rw [Program.wp_bind]
    exact command_done _ client (.inl (verbOf_single verb member argument)) stays transfers
  cases operation with
  | connect hostname port username password =>
    simp only [invoke, Program.wp_bind, Program.wp_pure]
    exact connect_done hostname port username password client rfl rfl
  | login username password =>
    simp only [invoke, login, Program.wp_bind, Program.wp_pure]
    exact processLogin_done username password _ client rfl sound_nil calm_nil untyped idle_start
  | logout =>
    simp only [invoke, Program.wp_bind, Program.wp_pure]
    exact logout_done client id rfl
  | disconnect graceful =>
    simp only [invoke, Program.wp_bind, Program.wp_pure]
    exact disconnect_done graceful client id rfl
  | rename fromPath toPath =>
    simp only [invoke, Program.wp_bind, Program.wp_pure]
    exact rename_done fromPath toPath client
  | downloadFile path callback =>
    simp only [invoke, processDownload_eq, Program.wp_bind, Program.wp_pure]
    exact overData_done (fun layer _ => DataConnection.recv_stays (under_steady layer) _ _) client
      (fun _ _ state _ under => finishTransfer_done _ _ _ state under) rfl
  | uploadFile path uploadUnique callback =>
    simp only [invoke, processUpload_eq, Program.wp_bind, Program.wp_pure]
    exact overData_done (fun layer _ => DataConnection.send_stays (under_steady layer) _ _) client
      (fun _ _ state _ under => finishTransfer_done _ _ _ state under) rfl
  | appendFile path callback =>
    simp only [invoke, processUpload_eq, Program.wp_bind, Program.wp_pure]
    exact overData_done (fun layer _ => DataConnection.send_stays (under_steady layer) _ _) client
      (fun _ _ state _ under => finishTransfer_done _ _ _ state under) rfl
  | getFileList path onlyNames =>
    simp only [invoke, getFileList_eq, Program.wp_bind, Program.wp_pure]
    exact overData_done (fun layer _ => DataConnection.recv_stays (under_steady layer) _ _) client
      finishFileList_done rfl
  | setTransferType type =>
    simp only [invoke, setTransferType, Program.wp_bind, Program.wp_pure]
    have typed : verbOf (makeTypeCommand type ++ crlf) = some .type := by cases type <;> decide
    have exchanged : (processCommand (makeTypeCommand type)).wp speech fuel
        (fun _ _ => Done (.setTransferType type) client.sslContext)
        (fun _ _ => Done (.setTransferType type) client.sslContext) client [] :=
      command_done _ client (.inr typed) id rfl
    apply Program.wp_mono exchanged
    · intro reply state past done
      simp only [Program.wp_ite, Program.wp_bind, Program.wp_modify, Program.wp_pure]
      split <;> exact done
    · exact fun _ _ _ => id
  | setTransferMode | addObserver | removeObserver | setRfc2428Support => exact start
  | isConnected | getTransferMode | getTransferType | getRfc2428Support => exact start
  | changeCurrentDirectory path =>
    exact single (.changeCurrentDirectory path) "CWD" (by decide) (some path) .reply id rfl
  | changeCurrentDirectoryUp =>
    exact single .changeCurrentDirectoryUp "CDUP" (by decide) none .reply id rfl
  | getCurrentDirectory => exact single .getCurrentDirectory "PWD" (by decide) none .reply id rfl
  | removeFile path =>
    exact single (.removeFile path) "DELE" (by decide) (some path) .reply id rfl
  | createDirectory path =>
    exact single (.createDirectory path) "MKD" (by decide) (some path) .reply id rfl
  | removeDirectory path =>
    exact single (.removeDirectory path) "RMD" (by decide) (some path) .reply id rfl
  | getFileSize path =>
    simp only [invoke, getFileSize, bind_assoc, pure_bind]
    exact single (.getFileSize path) "SIZE" (by decide) (some path) (.fileSize <| .ofReply ·) id rfl
  | getFileModifiedTime path =>
    simp only [invoke, getFileModifiedTime, bind_assoc, pure_bind]
    exact single (.getFileModifiedTime path) "MDTM" (by decide) (some path) (.fileModifiedTime <| .ofReply ·) id rfl
  | getStatus path => exact single (.getStatus path) "STAT" (by decide) path .reply id rfl
  | getSystemType => exact single .getSystemType "SYST" (by decide) none .reply id rfl
  | getHelp remoteCommand =>
    exact single (.getHelp remoteCommand) "HELP" (by decide) remoteCommand .reply id rfl
  | getSiteCommands => exact single .getSiteCommands "SITE" (by decide) _ .reply id rfl
  | sendSiteCommand remoteCommand =>
    exact single (.sendSiteCommand remoteCommand) "SITE" (by decide) (some remoteCommand) .reply id rfl
  | sendNoop => exact single .sendNoop "NOOP" (by decide) none .reply id rfl

end Operations

section Negotiations
variable {operation : Operation} {context : Bool} {fuel : Nat}

/-- A data connection is returned exactly when the negotiation command and the main command
were both answered without a refusal, and nothing was thrown. -/
def HandsOut (run : Run boundary World
    (Except (Stop FtpException) (Option DataConnection × Replies) × Client)) : Prop :=
  (∃ connection all, run.value.1 = .ok (some connection, all)) ↔
    (∃ out, run.value.1 = .ok out) ∧ ∃ first second, heardIn (turns run.events) = [first, second] ∧
      first.isNegative = false ∧ second.isNegative = false

/-- The two replies of a negotiation. -/
private def BothAccepted (past : List Turn) : Prop :=
  ∃ first second, heardIn past = [first, second] ∧ first.isNegative = false ∧
    second.isNegative = false

private theorem openMain_accepted (command : Bytes) (negotiated : Option Negotiated)
    (replies : Replies) (client : Client) (past : List Turn)
    (proposed : Proposed operation context negotiated client past) :
    (openMain command negotiated replies).wp speech fuel
      (fun out _ after => out.1.isSome = true ↔ BothAccepted after) (fun _ _ _ => True) client
      past := by
  cases negotiated with
  | none =>
    obtain ⟨_, reply, one, _⟩ := proposed
    refine iff_of_false Bool.false_ne_true ?_
    intro ⟨first, second, two, _⟩
    rw [one] at two
    cases two
  | some negotiated =>
    obtain ⟨_, _, _, _, _, _, first, one, positive⟩ := proposed
    simp only [openMain, Program.wp_bind]
    apply processCommandInto_turns
    · exact fun _ _ => trivial
    · intro second control _ _
      have two : heardIn (past ++ [.said (command ++ crlf), .heard second]) = [first, second] := by
        rw [heardIn, List.filterMap_append, ← heardIn, one]
        rfl
      apply answerMain_turns
      · intro negative _
        refine iff_of_false Bool.false_ne_true ?_
        intro ⟨_, _, both, _, accepted⟩
        rw [two] at both
        cases both
        rw [negative] at accepted
        cases accepted
      · exact fun accepted _ _ => iff_of_true rfl ⟨first, second, two, positive, accepted⟩
      · exact fun _ _ => trivial
    · exact fun _ _ => trivial

private theorem hands_out (host : Host boundary World) (client : Client) (world : World)
    {negotiation : Method Client (Option Negotiated × Replies)}
    (proposes : negotiation.wp speech fuel (fun out => Proposed .isConnected false out.1)
      (fun _ _ => Done .isConnected false) client []) (command : Bytes) :
    HandsOut (Program.run host fuel (do
      let (negotiated, replies) ← negotiation
      openMain command negotiated replies) client world) := by
  have ends : Program.wp speech fuel (do
      let (negotiated, replies) ← negotiation
      openMain command negotiated replies)
      (fun out _ after => out.1.isSome = true ↔ BothAccepted after) (fun _ _ _ => True) client
      [] := by
    rw [Program.wp_bind]
    refine Program.wp_mono proposes (fun ⟨negotiated, replies⟩ state past proposed => ?_) ?_
    · exact openMain_accepted command negotiated replies state past proposed
    · exact fun _ _ _ _ => trivial
  rcases Program.wp_run ends host world (Monitor.collect_drives Turn.ofEvent [] _) with
    ⟨⟨handed, all⟩, returned, accepted⟩ | ⟨stop, stopped, _⟩
  · rw [HandsOut, returned]
    constructor
    · intro ⟨_, _, same⟩
      cases same
      exact ⟨⟨_, rfl⟩, accepted.mp rfl⟩
    · intro ⟨_, both⟩
      obtain ⟨connection, same⟩ := Option.isSome_iff_exists.mp (accepted.mpr both)
      have same : handed = some connection := same
      exact ⟨connection, all, congrArg (fun handed => Except.ok (handed, all)) same⟩
  · rw [HandsOut, stopped]
    exact iff_of_false (fun ⟨_, _, same⟩ => nomatch same) fun ⟨⟨_, same⟩, _⟩ => nomatch same

end Negotiations

/-- Within one call every command, and every end, is the one that the turns before it call
for; once a 421 reply was read, nothing more is sent or read over the control connection; and
each of the four negotiations hands out a data connection exactly when neither of its two
commands was refused and nothing was thrown. -/
theorem commands_ordered (client : Client) (host : Host boundary World) (fuel : Nat)
    (world : World) :
    (∀ operation,
      let record := perform invoke host fuel operation client world
      (∀ cut, Fits operation client.sslContext ((turns record.events).take cut)
        ((turns record.events).drop cut).head?) ∧
      (record.events.foldl Hush.advance .start).broken = false) ∧
    ∀ command replies,
      HandsOut ((processEpsvCommand command replies).run host fuel client world) ∧
      HandsOut ((processPasvCommand command replies).run host fuel client world) ∧
      HandsOut ((processEprtCommand command replies).run host fuel client world) ∧
      HandsOut ((processPortCommand command replies).run host fuel client world) := by
  constructor
  · intro operation record
    have done : Done operation client.sslContext (turns record.events) := by
      have settled := perform_settled (invoke_done operation client)
        (Monitor.collect_drives Turn.ofEvent []
          (perform invoke host fuel operation client world).events)
      exact settled
    refine ⟨fun cut => ?_, invoke_hushed operation client host fuel world⟩
    have split := List.take_append_drop cut (turns record.events)
    cases rest : (turns record.events).drop cut with
    | nil =>
      rw [rest, List.append_nil] at split
      rw [split]
      exact done.2
    | cons turn rest' =>
      rw [rest] at split
      exact done.1 _ turn rest' split.symm
  · intro command replies
    refine ⟨?_, ?_, ?_, ?_⟩
    · rw [processEpsvCommand_eq]
      exact hands_out host client world
        (negotiateEpsv_proposes replies client) command
    · rw [processPasvCommand_eq]
      exact hands_out host client world
        (negotiatePasv_proposes replies client) command
    · rw [processEprtCommand, processActiveCommand_eq]
      exact hands_out host client world
        (negotiateActive_proposes makeEprtCommand .eprt (.inl rfl) verbOf_eprt replies client) command
    · rw [processPortCommand, processActiveCommand_eq]
      exact hands_out host client world
        (negotiateActive_proposes makePortCommand .port (.inr rfl) verbOf_port replies client) command

end Client

end LibFtp
