import LibFtp.Client.Frame
import Mathlib.Logic.Relation

/-! A server as the client meets it. It puts its replies on the control connection in
order, when it handles a line or by itself, and the client reads them in that order. -/

namespace LibFtp

open Effect

/-- What a server replies to a line that it receives, and what it sends unasked. -/
structure Server (Phase : Type) where
  answers : Phase → Bytes → List Reply → Phase → Prop
  turns : Phase → List Reply → Phase → Prop

/-- The replies that the client has not read yet, and whether it has issued a command
while there were any. -/
structure Desk (Phase : Type) where
  phase : Phase
  unread : List Reply
  hasty : Bool
  deriving DecidableEq, Repr

namespace Server

variable {Phase : Type} (server : Server Phase)

inductive Moves : Desk Phase → Desk Phase → Prop where
  | turn (turns : server.turns desk.phase replies phase) :
      Moves desk ⟨phase, desk.unread ++ replies, desk.hasty⟩

/-- What an event does to the replies on their way. A reply is read when the observers
hear of it. -/
def Responds (desk : Desk Phase) (event : BoundaryEvent) (after : Desk Phase) : Prop :=
  match event with
  | ⟨.notifyRequest _ _, _⟩ => after = { desk with hasty := desk.hasty || !desk.unread.isEmpty }
  | ⟨.write .control _ line, none⟩ => ∃ replies, server.answers desk.phase line replies after.phase ∧
      after.unread = desk.unread ++ replies ∧ after.hasty = desk.hasty
  | ⟨.notifyReply _ reply, _⟩ => desk.unread = reply :: after.unread ∧ after.phase = desk.phase ∧
      after.hasty = desk.hasty
  | _ => after = desk

def service : Monitor boundary (Desk Phase) where
  step before event after := ∃ middle, Relation.ReflTransGen server.Moves before middle ∧
    server.Responds middle event after

/-- What the server does by itself leaves the condition alone. -/
def Closed (kept : Desk Phase → Prop) : Prop :=
  ∀ before after, kept before → server.Moves before after → kept after

variable {server} {kept : Desk Phase → Prop} (closed : server.Closed kept) {fuel : Nat}

theorem Closed.all (closed : server.Closed kept) {before after : Desk Phase} (holds : kept before)
    (moves : Relation.ReflTransGen server.Moves before after) : kept after := by
  induction moves with
  | refl => exact holds
  | tail _ move ih => exact closed _ _ ih move

include closed

theorem Closed.steady (layer : Layer) : Steady server.service layer kept := by
  intro before ⟨query, answer⟩ after link holds ⟨middle, moves, responds⟩
  have same : after = middle := by
    cases link with
    | closing closing => cases closing <;> exact responds
    | _ => exact responds
  rw [same]
  exact closed.all holds moves

theorem Closed.quiet {query : Boundary.Query} {answer : Boundary.Answer query}
    {before after : Desk Phase} (quiet : Quiet query) (holds : kept before)
    (step : server.service.step before ⟨query, answer⟩ after) : kept after := by
  obtain ⟨middle, moves, responds⟩ := step
  have same : after = middle := by
    cases quiet <;> exact responds
  rw [same]
  exact closed.all holds moves

omit closed

/-- The reply that an event shows to the observers. -/
def told : BoundaryEvent → Option Reply
  | ⟨.notifyReply _ reply, _⟩ => some reply
  | _ => none

private theorem moves_append {before after : Desk Phase}
    (moves : Relation.ReflTransGen server.Moves before after) :
    ∃ sent, after.unread = before.unread ++ sent := by
  induction moves with
  | refl => exact ⟨[], (List.append_nil _).symm⟩
  | tail _ move ih =>
    obtain ⟨sent, same⟩ := ih
    cases move with
    | turn turns =>
      rename_i replies _
      exact ⟨sent ++ replies, by rw [same, List.append_assoc]⟩

private theorem responds_order {before after : Desk Phase} {event : BoundaryEvent}
    (responds : server.Responds before event after) :
    ∃ sent, before.unread ++ sent = (told event).toList ++ after.unread := by
  have still (same : after = before) : ∃ sent, before.unread ++ sent = [] ++ after.unread :=
    ⟨[], by rw [same, List.append_nil, List.nil_append]⟩
  obtain ⟨query, answer⟩ := event
  cases query with
  | notifyRequest =>
    have same : after = { before with hasty := before.hasty || !before.unread.isEmpty } := responds
    exact ⟨[], by rw [same, List.append_nil]; rfl⟩
  | notifyReply =>
    exact ⟨[], by rw [List.append_nil]; exact responds.1⟩
  | write channel layer data =>
    cases channel with
    | data => exact still responds
    | control =>
      cases answer with
      | some error => exact still responds
      | none =>
        obtain ⟨replies, _, unread, _⟩ := responds
        exact ⟨replies, unread.symm⟩
  | _ => exact still responds

/-- Replies are read in the order in which the server sends them. -/
theorem drives_order {before after : Desk Phase}
    (drives : server.service.Drives before events after) :
    ∃ sent, before.unread ++ sent = events.filterMap told ++ after.unread := by
  induction drives with
  | nil => exact ⟨[], List.append_nil _⟩
  | cons step later ih =>
    rename_i before event between events last
    obtain ⟨middle, moves, responds⟩ := step
    obtain ⟨early, moved⟩ := moves_append moves
    obtain ⟨sent, first⟩ := responds_order responds
    obtain ⟨more, rest⟩ := ih
    have split : (event :: events).filterMap told = (told event).toList ++ events.filterMap told := by
      cases same : told event <;> simp [same]
    refine ⟨early ++ sent ++ more, ?_⟩
    calc before.unread ++ (early ++ sent ++ more)
        = (middle.unread ++ sent) ++ more := by simp [moved]
      _ = (told event).toList ++ (between.unread ++ more) := by rw [first, List.append_assoc]
      _ = (event :: events).filterMap told ++ last.unread := by rw [rest, split, List.append_assoc]

variable {observers : List ObserverId} {phase next : Phase} {unread replies : List Reply}
  {hasty : Bool} {last : Desk Phase}

theorem drives_reply (rest : server.service.Drives ⟨phase, unread, hasty⟩ events last) :
    server.service.Drives ⟨phase, reply :: unread, hasty⟩
      (⟨.notifyReply observers reply, ()⟩ :: events) last := by
  refine .cons ?_ rest
  exact ⟨_, .refl, rfl, rfl, rfl⟩

theorem drives_line (answers : server.answers phase line replies next)
    (rest : server.service.Drives ⟨next, unread ++ replies, hasty⟩ events last) :
    server.service.Drives ⟨phase, unread, hasty⟩ (⟨.write .control layer line, none⟩ :: events)
      last := by
  refine .cons ?_ rest
  exact ⟨_, .refl, replies, answers, rfl, rfl⟩

end Server

namespace Client

variable {Phase : Type} {server : Server Phase} {kept : Desk Phase → Prop} {fuel : Nat}
  (closed : server.Closed kept) (client : Client) (desk : Desk Phase) (holds : kept desk)

include closed holds

/-- Reading takes the first of the replies on their way. -/
theorem recv_served {post : Reply → Client → Desk Phase → Prop}
    {fail : Stop FtpException → Client → Desk Phase → Prop}
    (received : ∀ reply (control : ControlConnection) before after,
      control.socket =
        (if reply.code = 421 then client.control.closed.socket else client.control.socket) →
      kept before → before.unread = reply :: after.unread → after.phase = before.phase →
      after.hasty = before.hasty → post reply { client with control } after)
    (stops : ∀ stop (control : ControlConnection) after, kept after →
      fail stop { client with control } after) :
    recv.wp server.service fuel post fail client desk := by
  apply recv_rule client desk (closed.steady _) holds
  · intro reply control middle after socket held ⟨before, moves, unread, phase, hasty⟩
    exact received reply control before after socket (closed.all held moves) unread phase hasty
  · exact fun stop control after _ held => stops stop control after held

/-- Sending a command makes the server answer it. -/
theorem send_served (command : Bytes)
    (issued : ∀ desk : Desk Phase, kept desk →
      kept { desk with hasty := desk.hasty || !desk.unread.isEmpty })
    {post : Unit → Client → Desk Phase → Prop} {fail : Stop FtpException → Client → Desk Phase → Prop}
    (sent : ∀ before after replies, kept before →
      server.answers before.phase (command ++ crlf) replies after.phase →
      after.unread = before.unread ++ replies → after.hasty = before.hasty → post () client after)
    (stops : ∀ stop after, kept after → fail stop client after) :
    (send command).wp server.service fuel post fail client desk := by
  have request (requested : Desk Phase)
      (step : server.service.step desk ⟨.notifyRequest client.observers command, ()⟩ requested) :
      kept requested := by
    obtain ⟨middle, moves, responds⟩ := step
    have same : requested = { middle with hasty := middle.hasty || !middle.unread.isEmpty } := responds
    rw [same]
    exact issued middle (closed.all holds moves)
  apply send_rule
  · intro requested after _ heard ⟨before, moves, replies, answers, unread, hasty⟩
    exact sent before after replies (closed.all (request requested heard) moves) answers unread hasty
  · intro error requested after _ heard ⟨middle, moves, same⟩
    have same : after = middle := same
    rw [same]
    exact stops _ middle (closed.all (request requested heard) moves)
  · intro ec requested after _ heard ⟨middle, moves, same⟩
    have same : after = middle := same
    rw [same]
    exact stops _ middle (closed.all (request requested heard) moves)

end Client

end LibFtp
