import LibFtp.Client.Arguments
import LibFtp.Client.Frame

/-! The course of a transfer: what holds up to the main command, what holds from its
answer on while the data is moved, and what holds when the transfer is finished. -/

namespace LibFtp

open Effect

/-- The questions between the answer to the main command and the end of the data. -/
inductive Working (callback : Bool) : Boundary.Query → Prop where
  | acceptorAccept : Working callback .acceptorAccept
  | setSsl : Working callback (.setSsl .data layer)
  | handshake : Working callback (.handshake .data)
  | notifyFileList : Working callback (.notifyFileList observers fileList)
  | transferring (transferring : Transferring callback query) : Working callback query

theorem Working.quiet {callback : Bool} {query : Boundary.Query}
    (working : Working callback query) : Quiet query := by
  cases working with
  | transferring transferring => exact transferring.quiet
  | _ => constructor

namespace Client

/-- Whether a transfer callback is given. -/
def Operation.callback : Operation → Bool
  | .downloadFile _ callback | .uploadFile _ _ callback | .appendFile _ callback => callback
  | _ => false

variable {Ghost : Type}

/-- What each part of a transfer does to the conditions that hold before and after it. -/
structure Course (monitor : Monitor boundary Ghost) (main : Bytes) (callback : Bool)
    (before during refused after broken : Client → Ghost → Prop) : Prop where
  negotiates : ∀ replies, (negotiate replies).Keeps monitor before broken
  declines : ∀ client ghost, before client ghost → after client ghost
  exchanges : ∀ replies fuel, Program.Triple monitor fuel before (processCommandInto main replies)
    (fun answer => if answer.1.isNegative then refused else during) (fun _ => broken)
  refuses : ∀ connection, Program.Keeps monitor refused broken
    (Program.on connection (DataConnection.disconnect true) : Method Client _)
  concludes : ∀ client ghost, refused client ghost → after client ghost
  works : ∀ query answer client ghost next, Working callback query → during client ghost →
    monitor.step ghost ⟨query, answer⟩ next → during client next
  stops : ∀ client ghost, during client ghost → broken client ghost
  finishes : ∀ connection replies fuel, Program.Triple monitor fuel during
    (finishTransfer connection callback replies) (fun _ => after) (fun _ => broken)

namespace Course

variable {monitor : Monitor boundary Ghost} {main : Bytes} {callback : Bool}
  {before during refused after broken : Client → Ghost → Prop}
  (course : Course monitor main callback before during refused after broken)

include course

private theorem on {Part : Type} (object : Part) {program : Method Part Value}
    (asks : program.Asks (Working callback)) :
    (Program.on object program : Method Client _).Keeps monitor during broken := by
  refine .on fun client => ?_
  have kept : program.Keeps monitor (fun _ => during client) (fun _ => during client) :=
    asks.keeps fun ghost event next working holds step =>
      course.works event.query event.answer client ghost next working holds step
  exact kept.mono fun _ ghost holds => course.stops client ghost holds

private theorem readyConnection (connection : DataConnection) :
    (readyConnection connection).Keeps monitor during broken := by
  have switch : (DataConnection.setSsl .ssl).Asks (Working callback) := by
    unfold DataConnection.setSsl DataConnection.onSocket
    exact .zoom (.bind (.ask .setSsl) fun _ => .modify _)
  have handshake : DataConnection.sslHandshake.Asks (Working callback) := by
    refine .bind (.zoom (.bind .get fun socket => ?_)) fun _ => throwIf_asks _ _
    cases socket.layer with
    | plain => exact .pure none
    | ssl => exact .ask .handshake
  refine .bind .get fun client => .ite ?_ (.pure connection)
  exact .bind (on course _ switch) fun _ => .bind (on course _ handshake) fun _ => .pure _

/-- What the main command opens. -/
private def Opened (during after : Client → Ghost → Prop) (opened : Option DataConnection × Replies) :
    Client → Ghost → Prop :=
  if opened.1.isSome then during else after

private theorem answerMain (negotiated : Negotiated) (reply : Reply) (replies : Replies)
    (fuel : Nat) :
    Program.Triple monitor fuel (if reply.isNegative then refused else during)
      (answerMain negotiated reply replies) (Opened during after) (fun _ => broken) := by
  have opens (connection : DataConnection) : Program.Triple monitor fuel during
      (do
        let connection ← Client.readyConnection connection
        return (some connection, replies)) (Opened during after) (fun _ => broken) :=
    (readyConnection course connection fuel).bind fun _ _ _ holds => holds
  have accepts : DataConnection.accept.Asks (Working callback) :=
    DataConnection.accept_asks .acceptorAccept
  unfold Client.answerMain
  by_cases negative : reply.isNegative = true
  · simp only [if_pos negative]
    split
    · exact fun client ghost holds => course.concludes client ghost holds
    · exact (course.refuses _ fuel).bind fun _ client ghost holds =>
        course.concludes client ghost holds
  · simp only [if_neg negative]
    split
    · exact (on course _ accepts fuel).bind fun _ => opens _
    · exact opens _

private theorem createDataConnection (replies : Replies) (fuel : Nat) :
    Program.Triple monitor fuel before (createDataConnection main replies) (Opened during after)
      (fun _ => broken) := by
  rw [createDataConnection_eq]
  refine (course.negotiates replies fuel).bind fun ⟨negotiated, replies⟩ => ?_
  cases negotiated with
  | none => exact fun client ghost holds => course.declines client ghost holds
  | some negotiated =>
    exact (course.exchanges replies fuel).bind fun ⟨reply, replies⟩ =>
      answerMain course negotiated reply replies fuel

private theorem overData {Moved Value : Type} {moves : Client → Method DataConnection Moved}
    {refusal : Replies → Value} {rest : Replies → Moved × DataConnection → Method Client Value}
    (asks : ∀ client, (moves client).Asks (Transferring callback))
    (ends : ∀ replies moved fuel, Program.Triple monitor fuel during (rest replies moved)
      (fun _ => after) (fun _ => broken)) (fuel : Nat) :
    Program.Triple monitor fuel before (overData main moves refusal rest) (fun _ => after)
      (fun _ => broken) := by
  refine (createDataConnection course _ fuel).bind fun ⟨connection, replies⟩ => ?_
  cases connection with
  | none => exact fun client ghost holds => holds
  | some connection =>
    have transfers (client : Client) :=
      on course connection ((asks client).mono fun _ => .transferring) fuel
    exact .bind (Program.Keeps.get fuel) fun client => (transfers client).bind fun moved =>
      ends replies moved fuel

private theorem finishFileList (alone : callback = false) (replies : Replies)
    (moved : OutputStream × DataConnection) (fuel : Nat) :
    Program.Triple monitor fuel during (finishFileList replies moved) (fun _ => after)
      (fun _ => broken) := by
  subst alone
  have notifies (fileList : Bytes) : (notifyFileList fileList).Keeps monitor during broken :=
    .bind .get fun _ => .ask fun client ghost answer next holds step =>
      course.works _ answer client ghost next .notifyFileList holds step
  exact (notifies _ fuel).bind fun _ => (course.finishes _ _ fuel).bind fun _ _ _ holds => holds

/-- A transfer that goes through the course as a whole. -/
theorem invoke (operation : Operation) (transfers : operation.mainCommand = some main)
    (given : operation.callback = callback) (fuel : Nat) :
    Program.Triple monitor fuel before (invoke operation) (fun _ => after) (fun _ => broken) := by
  cases operation with
  | downloadFile path given' =>
    subst given
    obtain rfl := Option.some.inj transfers
    simp only [Client.invoke, processDownload_eq]
    exact (overData course (fun _ => DataConnection.recv_transferring _ _)
      (fun _ _ => course.finishes _ _) fuel).bind fun _ _ _ holds => holds
  | uploadFile path uploadUnique given' =>
    subst given
    obtain rfl := Option.some.inj transfers
    simp only [Client.invoke, processUpload_eq]
    exact (overData course (fun _ => DataConnection.send_transferring _ _)
      (fun _ _ => course.finishes _ _) fuel).bind fun _ _ _ holds => holds
  | appendFile path given' =>
    subst given
    obtain rfl := Option.some.inj transfers
    simp only [Client.invoke, processUpload_eq]
    exact (overData course (fun _ => DataConnection.send_transferring _ _)
      (fun _ _ => course.finishes _ _) fuel).bind fun _ _ _ holds => holds
  | getFileList path onlyNames =>
    obtain rfl := Option.some.inj transfers
    simp only [Client.invoke, getFileList_eq]
    exact (overData course (fun _ => given ▸ DataConnection.recv_transferring _ false)
      (finishFileList course given.symm) fuel).bind fun _ _ _ holds => holds
  | _ => cases transfers

end Course

end Client

end LibFtp
