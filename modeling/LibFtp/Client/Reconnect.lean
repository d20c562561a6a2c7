import LibFtp.Client.Closing
import LibFtp.Client.StartTls

/-! A new session on a client that was used before. The closing steps release the
socket and `disconnect` leaves SSL mode, but nobody empties the receive buffer. -/

namespace LibFtp

open Effect

namespace Client

/-- A newly constructed client with the same settings and observers. -/
def fresh (client : Client) : Client :=
  { Client.new client.transferMode client.transferType client.sslContext client.rfc2428Support with
    observers := client.observers }

/-- The sessions to come give the replies that a fresh client gives. -/
def StartsFresh (client : Client) : Prop :=
  ∀ (World : Type) (host : Host boundary World) (fuel : Nat) (world : World) (hostname : Bytes)
    (port : UInt16) (username : Option Bytes) (password : Bytes) (later : List Operation),
    (session invoke host fuel (.connect hostname port username password :: later) client world).map
        Record.outcome =
      (session invoke host fuel (.connect hostname port username password :: later) client.fresh
        world).map Record.outcome

variable {Ghost : Type} {monitor : Monitor boundary Ghost} {fuel : Nat}

private theorem emptied_fresh (client : Client) (released : client.control.socket = ⟨.plain, false⟩) :
    client.emptied = client.fresh := by
  obtain ⟨mode, type, context, support, ⟨buffer, socket⟩, observers⟩ := client
  simp only at released
  subst socket
  rfl

/-- Whatever `connect` reports begins with the greeting. -/
private theorem secure_first (client : Client) (reply : Reply) (ghost : Ghost)
    {post : Except Replies Replies → Client → Ghost → Prop}
    (holds : ∀ outcome replies state after, outcome = .error replies ∨ outcome = .ok replies →
      replies.replies.head? = some reply → post outcome state after) :
    (secure reply (Replies.empty.append reply)).wp monitor fuel post (fun _ _ _ => True) client
      ghost := by
  have first : (Replies.empty.append reply).replies.head? = some reply := rfl
  have second (secure : Reply) :
      ((Replies.empty.append reply).append secure).replies.head? = some reply := rfl
  unfold secure
  split
  · exact holds _ _ _ _ (.inl rfl) first
  · simp only [processCommandInto, Program.wp_bind, Program.wp_get, Program.wp_ite, Program.wp_pure]
    split
    · apply send_any
      · intro sent
        apply recvInto_socket
        · intro secure control answered _
          split
          · exact holds _ _ _ _ (.inl rfl) (second secure)
          · exact Program.wp_always _ (fun _ _ _ => Program.wp_always _
              (fun _ _ _ => holds _ _ _ _ (.inr rfl) (second secure)) (fun _ _ _ => trivial))
              (fun _ _ _ => trivial)
        · exact fun _ _ _ => trivial
      · exact fun _ _ _ => trivial
    · exact holds _ _ _ _ (.inr rfl) first

private theorem opened_deliver (hostname : Bytes) (port : UInt16) (connection : ControlConnection)
    (left : Bytes) :
    (ControlConnection.connect hostname port).wp deliver fuel
      (fun _ state after => state.buffer = connection.buffer ∧ after = left) (fun _ _ _ => True)
      connection left := by
  simp only [ControlConnection.connect, Program.wp_bind, wp_call, wp_throwIf]
  intro resolved between still
  have same : between = left := still
  subst between
  cases resolved with
  | some ec => trivial
  | none =>
    intro connected after still
    cases connected with
    | some ec =>
      simp only [Program.wp_bind, Program.wp_modify, ControlConnection.onSocket, Program.wp_zoom,
        Socket.wp_close, if_true, wp_throwCode]
      exact fun _ _ _ => trivial
    | none => exact ⟨rfl, still⟩

/-- The first reply of a session has the code at the front of the buffer and the
stream. -/
private theorem connect_code (client : Client) (hostname : Bytes) (port : UInt16) (left : Bytes) :
    (invoke (.connect hostname port none [])).wp deliver fuel
      (fun output _ _ => ∃ replies first, output = .replies replies ∧
        replies.replies.head? = some first ∧
        frontCode (client.control.buffer ++ left) = some first.code)
      (fun _ _ _ => True) client left := by
  simp only [invoke, connect_eq, greet, recvInto, notifyConnected, notifyReply, onControl,
    Program.wp_bind, Program.wp_get, wp_call, Program.wp_zoom, Program.wp_pure]
  apply Program.wp_mono (opened_deliver hostname port client.control left)
  · intro _ control between both _ after still
    obtain ⟨buffer, opened⟩ := both
    rw [show after = left from Eq.trans still opened]
    apply Program.wp_mono (ControlConnection.recv_code control left)
    · intro reply received later code _ finished _
      rw [buffer] at code
      apply secure_first
      intro outcome replies state last shape first
      rcases shape with shape | shape <;> subst outcome
      · exact ⟨replies, reply, rfl, first, code⟩
      · exact ⟨replies, reply, rfl, first, code⟩
    · exact fun _ _ _ _ => trivial
  · exact fun _ _ _ _ => trivial

private theorem connect_probe (client : Client) (same : client.control = ⟨[], ⟨.plain, false⟩⟩)
    (hostname : Bytes) (port : UInt16) (member : probe ∈ probes) :
    ∃ reply, frontCode probe = some reply.code ∧
      ((invoke (.connect hostname port none [])).run Network.full 0 client probe).value.1 =
        .ok (.replies (Replies.empty.append reply)) := by
  obtain ⟨reply, code, negative, received⟩ := ControlConnection.recv_probe .plain member
  refine ⟨reply, code, Program.run_only ?_⟩
  simp only [invoke, connect, ControlConnection.connect, recvInto, notifyConnected, notifyReply, onControl,
    ControlConnection.onSocket, Program.wp_bind, Program.wp_get, wp_call,
    Program.wp_zoom, wp_throwIf, Program.wp_pure, same]
  intro _ _ resolved
  cases resolved
  intro _ _ connected
  cases connected
  simp only [Program.wp_modify]
  intro _ _ notified
  cases notified
  refine received fun _ _ replied => ?_
  cases replied
  rw [if_pos negative]
  exact rfl

private theorem leftover_greets (client : Client) (fresh : client.StartsFresh) : client.control.buffer = [] := by
  by_contra leftover
  obtain ⟨probe, member, differs⟩ := probe_tells leftover
  have same := fresh Bytes Network.full 0 probe [] 21 none [] []
  have clean : client.fresh.control = ⟨[], ⟨.plain, false⟩⟩ := rfl
  obtain ⟨reply, code, greeted⟩ := connect_probe client.fresh clean [] 21 member
  simp only [session_one, List.map_cons, List.map_nil, List.cons.injEq, and_true, perform, greeted] at same
  rcases Program.wp_run (connect_code client [] 21 probe) Network.full probe
    (Network.full_network.drives _ probe) with ⟨output, ended, replies, first, told, head, shown⟩ | ⟨stop, ended, _⟩
  · rw [ended] at same
    subst output
    cases same
    cases head
    exact differs (shown.trans code.symm)
  · rw [ended] at same
    cases same

/-- After a `disconnect` that returned, whatever went before, new sessions run as on
a new client exactly when the receive buffer is empty. -/
theorem reconnect_fresh_iff (mode : TransferMode) (type : TransferType) (context support : Bool)
    (host : Host boundary World) (fuel : Nat) (world : World) (operations : List Operation)
    (record : Record boundary Operation Client FtpException Output World)
    (member : record ∈ session invoke host fuel operations (Client.new mode type context support) world)
    (graceful : Bool) (ends : record.operation = .disconnect graceful) (normal : record.Normal) :
    record.after.StartsFresh ↔ record.after.control.buffer = [] := by
  have released : record.after.control.socket = ⟨.plain, false⟩ :=
    session_all
      (fun record : Record boundary Operation Client FtpException Output World =>
        record.operation = .disconnect graceful → record.Normal →
          record.after.control.socket = ⟨.plain, false⟩)
      (fun operation client world same => disconnect_releases graceful host operation client world same)
      operations _ world record member ends normal
  constructor
  · exact leftover_greets record.after
  · intro clean World host fuel world hostname port username password later
    rw [← emptied_fresh record.after released, emptied_eq record.after clean]

theorem reconnect_fresh_iff_quit :
    ∃ record ∈ session invoke Script.host 9 [.connect (text "host") 21 none [], .disconnect true]
        (Client.new .passive .binary false true) (.ofReplies [text "220 a\r\n", text "221 b\r\n"]),
      record.after.StartsFresh ↔ record.after.control.buffer = [] := by
  have last : (session invoke Script.host 9
      [.connect (text "host") 21 none [], .disconnect true] (Client.new .passive .binary false true)
      (.ofReplies [text "220 a\r\n", text "221 b\r\n"])).getLast?.map
        (fun record => (record.operation, record.outcome)) =
      some (.disconnect true, .ok (.maybeReply (some ⟨221, text "221 b"⟩))) := by
    decide +kernel
  obtain ⟨record, found, same⟩ := Option.map_eq_some_iff.mp last
  obtain ⟨operation, outcome⟩ := Prod.mk.inj same
  have member := List.mem_of_getLast? found
  exact ⟨record, member, reconnect_fresh_iff _ _ _ _ _ _ _ _ record member true operation ⟨_, outcome⟩⟩

/-- A reply that came with the answer to QUIT greets the next session, in the place
of the greeting that a fresh client receives. -/
theorem unread_reply_survives_reconnect :
    (session invoke Script.host 9
        [.connect (text "host") 21 none [], .disconnect true, .connect (text "host") 21 none []]
        (Client.new .passive .binary false true)
        (.ofReplies [text "220 a\r\n", text "221 b\r\n530 x\r\n", text "220 a\r\n"])).map
      Record.outcome =
        [.ok (.replies (Replies.empty.append ⟨220, text "220 a"⟩)),
         .ok (.maybeReply (some ⟨221, text "221 b"⟩)),
         .ok (.replies (Replies.empty.append ⟨530, text "530 x"⟩))] ∧
    (session invoke Script.host 9 [.connect (text "host") 21 none []]
        (Client.new .passive .binary false true) (.ofReplies [text "220 a\r\n"])).map
      Record.outcome = [.ok (.replies (Replies.empty.append ⟨220, text "220 a"⟩))] := by
  decide +kernel

end Client

end LibFtp
