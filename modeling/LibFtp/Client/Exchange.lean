import LibFtp.Client.Command
import LibFtp.Control.Traffic

/-! What one exchange of a command and a reply does to the client. -/

namespace LibFtp

open Effect

namespace Client

variable {Ghost : Type} {monitor : Monitor boundary Ghost} {fuel : Nat}

theorem send_any (command : Bytes) (client : Client) (ghost : Ghost)
    {post : Unit → Client → Ghost → Prop} {fail : Stop FtpException → Client → Ghost → Prop}
    (sent : ∀ after, post () client after) (stops : ∀ stop state after, fail stop state after) :
    (send command).wp monitor fuel post fail client ghost := by
  simp only [send, notifyRequest, onControl, Program.wp_bind, Program.wp_get, wp_call,
    Program.wp_zoom]
  intro _ between _
  apply Program.wp_mono (ControlConnection.send_state command client.control between)
  · intro _ control after same
    rw [same]
    exact sent after
  · exact fun _ _ _ _ => stops _ _ _

/-- A reply that is not negative leaves the socket alone. -/
theorem recvInto_socket (client : Client) (replies : Replies) (ghost : Ghost)
    {post : Reply × Replies → Client → Ghost → Prop} {fail : Stop FtpException → Client → Ghost → Prop}
    (received : ∀ reply (control : ControlConnection) after,
      (reply.isNegative = false → control.socket = client.control.socket) →
      post (reply, replies.append reply) { client with control } after)
    (stops : ∀ stop state after, fail stop state after) :
    (recvInto replies).wp monitor fuel post fail client ghost := by
  simp only [recvInto, notifyReply, onControl, Program.wp_bind, Program.wp_zoom, Program.wp_get,
    wp_call, Program.wp_pure]
  apply Program.wp_mono (ControlConnection.recv_socket client.control ghost)
  · intro reply control _ socket _ after _
    refine received reply control after fun positive => ?_
    rw [socket, if_neg (reply.not_unavailable positive)]
  · exact fun _ _ _ _ => stops _ _ _

section Rules
variable {kept : Ghost → Prop} (client : Client) (ghost : Ghost)
  (steady : Steady monitor client.control.socket.layer kept) (holds : kept ghost)

theorem onControl_rule {program : Method ControlConnection Value}
    (stays : program.Keeps monitor (ControlConnection.Stays client.control.socket.layer kept)
      (ControlConnection.Stays client.control.socket.layer kept))
    (holds : kept ghost)
    {spec : Value → ControlConnection → Ghost → Prop}
    {left : Stop FtpException → ControlConnection → Ghost → Prop}
    (ends : program.wp monitor fuel spec left client.control ghost)
    {post : Value → Client → Ghost → Prop} {fail : Stop FtpException → Client → Ghost → Prop}
    (done : ∀ value control after, spec value control after → kept after →
      post value { client with control } after)
    (stops : ∀ stop control after, left stop control after → kept after →
      fail stop { client with control } after) :
    (onControl program).wp monitor fuel post fail client ghost := by
  simp only [onControl, Program.wp_zoom]
  apply Program.wp_mono (Program.wp_and ends (stays fuel client.control ghost ⟨rfl, holds⟩))
  · exact fun value control after both => done value control after both.1 both.2.2
  · exact fun stop control after both => stops stop control after both.1 both.2.2

include steady holds

/-- What receiving a reply does to the client and to such a ghost condition. -/
theorem recv_rule {post : Reply → Client → Ghost → Prop}
    {fail : Stop FtpException → Client → Ghost → Prop}
    (received : ∀ reply (control : ControlConnection) middle after,
      control.socket =
        (if reply.code = 421 then client.control.closed.socket else client.control.socket) →
      kept middle → monitor.step middle ⟨.notifyReply client.observers reply, ()⟩ after →
      post reply { client with control } after)
    (stops : ∀ stop (control : ControlConnection) after,
      control.socket = client.control.socket ∨ control.socket = client.control.closed.socket →
      kept after → fail stop { client with control } after) :
    recv.wp monitor fuel post fail client ghost := by
  simp only [recv, Program.wp_bind]
  apply onControl_rule client ghost (ControlConnection.recv_stays steady) holds
    (ControlConnection.recv_socket client.control ghost)
  · intro reply control middle socket still
    simp only [notifyReply, Program.wp_bind, Program.wp_get, wp_call, Program.wp_pure]
    exact fun _ after step => received reply control middle after socket still step
  · exact stops

end Rules

/-- What sending a command does: the observers hear of it, and it is written when the
socket is open. -/
theorem send_rule (command : Bytes) (client : Client) (ghost : Ghost)
    {post : Unit → Client → Ghost → Prop} {fail : Stop FtpException → Client → Ghost → Prop}
    (sent : ∀ requested after, client.control.socket.isOpen = true →
      monitor.step ghost ⟨.notifyRequest client.observers command, ()⟩ requested →
      monitor.step requested
        ⟨.write .control client.control.socket.layer (command ++ crlf), none⟩ after →
      post () client after)
    (refused : ∀ error requested after, client.control.socket.isOpen = true →
      monitor.step ghost ⟨.notifyRequest client.observers command, ()⟩ requested →
      monitor.step requested
        ⟨.write .control client.control.socket.layer (command ++ crlf), some error⟩ after →
      fail (.raised (.ofCode error "Cannot send data over control connection")) client after)
    (closed : ∀ (ec : ErrorCode) requested after, client.control.socket.isOpen = false →
      monitor.step ghost ⟨.notifyRequest client.observers command, ()⟩ requested →
      monitor.step requested ⟨.unopened .control client.control.socket.layer
        (.write (command ++ crlf)), ec⟩ after →
      fail (.raised (.ofCode ec "Cannot send data over control connection")) client after) :
    (send command).wp monitor fuel post fail client ghost := by
  simp only [send, notifyRequest, onControl, ControlConnection.send, ControlConnection.onSocket,
    Program.wp_bind, Program.wp_get, wp_call, Program.wp_zoom, Socket.wp_write, wp_throwIf]
  intro _ requested heard
  split
  · rename_i isOpen
    intro answer after step
    cases answer with
    | none => exact sent requested after isOpen heard step
    | some error => exact refused error requested after isOpen heard step
  · rename_i isClosed
    intro ec after step
    exact closed ec requested after (by simpa using isClosed) heard step

end Client

end LibFtp
