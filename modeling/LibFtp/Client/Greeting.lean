import LibFtp.Client.Exchange
import LibFtp.Client.Operations

/-! The start of a session: `connect` is the greeting, the switch to TLS where the
client has a context, and the login where the caller gave a user name. -/

namespace LibFtp

open Effect

namespace Client

/-- What `connect` does between the greeting and the login; `.error` where it returns
before the login. -/
def secure (reply : Reply) (replies : Replies) : Method Client (Except Replies Replies) := do
  if reply.isNegative then return .error replies
  else if (← Program.get).sslContext then
    let (reply, replies) ← processCommandInto (text "AUTH TLS") replies
    if reply.isNegative then return .error replies
    else
      onControl (ControlConnection.setSsl .ssl)
      onControl ControlConnection.sslHandshake
      return .ok replies
  else return .ok replies

/-- `connect` up to the login, with the handshake done. -/
def greet (hostname : Bytes) (port : UInt16) : Method Client (Except Replies Replies) := do
  onControl (ControlConnection.connect hostname port)
  notifyConnected hostname port
  let (reply, replies) ← recvInto Replies.empty
  secure reply replies

theorem connect_eq (hostname : Bytes) (port : UInt16) (username : Option Bytes) (password : Bytes) :
    connect hostname port username password = (do
      match ← greet hostname port with
      | .error replies => return replies
      | .ok replies => connectLogin username password replies) := by
  unfold connect greet secure
  simp only [bind_assoc]
  congr 1
  funext _
  congr 1
  funext _
  congr 1
  funext ⟨reply, replies⟩
  simp only
  split
  · rfl
  · simp only [bind_assoc]
    congr 1
    funext client
    split
    · simp only [bind_assoc]
      congr 1
      funext ⟨reply, replies⟩
      simp only
      split
      · rfl
      · simp only [bind_assoc, pure_bind]
    · rfl

/-- What follows the reply that ends a login: the protection of the data connections where
the client has a context, and the transfer type. -/
def applySettings (reply : Reply) (replies : Replies) : Method Client (Reply × Replies) := do
  if reply.isNegative then return (reply, replies)
  let client ← Program.get
  if client.sslContext then
    let (reply, replies) ← processCommandInto (text "PBSZ 0") replies
    if reply.isNegative then return (reply, replies)
    let (reply, replies) ← processCommandInto (text "PROT P") replies
    if reply.isNegative then return (reply, replies)
    processCommandInto (makeTypeCommand client.transferType) replies
  else processCommandInto (makeTypeCommand client.transferType) replies

theorem processLogin_eq (username password : Bytes) (replies : Replies) :
    processLogin username password replies = (do
      let (reply, replies) ← processCommandInto (makeCommand "USER" (some username)) replies
      if reply.code = 331 then
        let (reply, replies) ← processCommandInto (makeCommand "PASS" (some password)) replies
        applySettings reply replies
      else applySettings reply replies) := rfl

variable {Ghost : Type} {monitor : Monitor boundary Ghost} {fuel : Nat}

/-- A handshake that went well leaves an open TLS socket. -/
theorem greet_spec (client : Client) (context : client.sslContext = true)
    (hostname : Bytes) (port : UInt16) (ghost : Ghost) :
    (greet hostname port).wp monitor fuel
      (fun outcome state _ => ∀ replies, outcome = .ok replies →
        state.control.socket = ⟨.ssl, true⟩)
      (fun _ _ _ => True) client ghost := by
  have never (replies : Replies) (state : Client) : ∀ others : Replies,
      (.error replies : Except Replies Replies) = .ok others → state.control.socket = ⟨.ssl, true⟩ :=
    fun _ same => nomatch same
  simp only [greet, secure, onControl, notifyConnected, processCommandInto, Program.wp_bind, Program.wp_zoom,
    Program.wp_get, wp_call]
  apply Program.wp_mono (ControlConnection.connect_socket hostname port client.control ghost)
  · intro _ control after opened _ notified _
    subst control
    apply recvInto_socket
    · intro reply control greeted kept
      simp only [Program.wp_ite, Program.wp_pure, context]
      split
      · exact never _ _
      · rename_i positive
        have socket := kept (by simpa using positive)
        simp only [Program.wp_bind, Program.wp_get, Program.wp_ite, Program.wp_pure, if_true]
        apply send_any
        · intro sent
          apply recvInto_socket
          · intro secure control' answered kept'
            split
            · exact never _ _
            · rename_i agreed
              have same := (kept' (by simpa using agreed)).trans socket
              simp only [ControlConnection.setSsl, ControlConnection.sslHandshake,
                ControlConnection.onSocket, Program.wp_bind, Program.wp_zoom, Socket.wp_setSsl,
                Socket.wp_sslHandshake, wp_throwIf, if_true]
              intro _ switched _ answer done _
              cases answer with
              | some ec => trivial
              | none =>
                intro _ _
                simp only [same]
          · exact fun _ _ _ => trivial
        · exact fun _ _ _ => trivial
    · exact fun _ _ _ => trivial
  · exact fun _ _ _ _ => trivial

end Client

end LibFtp
