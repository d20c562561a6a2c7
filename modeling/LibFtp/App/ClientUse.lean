import LibFtp.App.Frame
import LibFtp.Detail.Script
import LibFtp.Effect.Replay
import LibFtp.Effect.Temporal

/-! The program refines its client: whatever the user types, what goes over the network is a
session of the client, and each of its operations is carried out where it may be. -/

namespace LibFtp

open Effect

namespace Client

private abbrev remotes : Monitor boundary (Unit × Prop) :=
  watch (fun _ _ => ()) fun _ event => Remote event.query

private theorem remote_undisturbed (moment : Unit × Prop) (event : BoundaryEvent)
    (after : Unit × Prop) (remote : Remote event.query) (holds : True ∧ moment.2)
    (step : remotes.step moment event after) : True ∧ after.2 := by
  have step : after = watching (fun _ _ => ()) (fun _ event => Remote event.query) moment event := step
  subst step
  exact ⟨trivial, holds.2, remote⟩

/-- The client leaves the console and the local files alone. -/
theorem invoke_remote {operation : Operation} {fuel : Nat} {client : Client}
    {events : List BoundaryEvent} {settled : Except (Stop FtpException) Output × Client}
    (traces : (invoke operation fuel client).Traces events settled) :
    ∀ event ∈ events, Remote event.query := by
  intro event member
  obtain ⟨front, back, split⟩ := List.append_of_mem member
  have keeps : (invoke operation).Keeps remotes (Watched fun _ _ => True) (Watched fun _ _ => True) :=
    (remote_upholds remote_undisturbed).invoke operation fun _ _ => trivial
  exact watched_traces () keeps trivial traces front event back split

end Client

namespace CommandHandler

open Client

section Use
variable (fuel : Nat) (start : Client)

/-- What went over the network, without the console and the local files. -/
def remote (events : List BoundaryEvent) : List BoundaryEvent :=
  events.filter fun event => !isLocal event.query

/-- So far the client was used as it is permitted, and nothing else went over the network. -/
def Uses (handler : CommandHandler) (past : List BoundaryEvent) : Prop :=
  Played Client.invoke Permitted fuel start (remote past) handler.ftpClient

def UsedUp : Stop AppError → CommandHandler → List BoundaryEvent → Prop
  | .raised _, handler, past => Uses fuel start handler past
  | .spinning, _, past => PlayedOut Client.invoke Permitted fuel start (remote past)

variable {fuel start}

private theorem remote_local {past : List BoundaryEvent} {event : BoundaryEvent}
    (isLocal : isLocal event.query = true) : remote (past ++ [event]) = remote past := by
  simp [remote, List.filter_append, isLocal]

private theorem remote_append {past more : List BoundaryEvent}
    (away : ∀ event ∈ more, Remote event.query) : remote (past ++ more) = remote past ++ more := by
  rw [remote, List.filter_append]
  refine congrArg (_ ++ ·) (List.filter_eq_self.mpr fun event member => ?_)
  simp [show isLocal event.query = false from away event member]

private theorem uses_asked {handler : CommandHandler} {past after : List BoundaryEvent}
    {query : Boundary.Query} {answer : Boundary.Answer query} (isLocal : isLocal query = true)
    (uses : Uses fuel start handler past) (step : Monitor.history.step past ⟨query, answer⟩ after) :
    Uses fuel start handler after := by
  have step : after = past ++ [⟨query, answer⟩] := step
  subst step
  unfold Uses
  rw [remote_local isLocal]
  exact uses

/-- A permitted operation is one more link of the chain. -/
private theorem uses_performed (operation : Client.Operation) (handler : CommandHandler)
    (past : List BoundaryEvent) (permitted : Permitted handler.ftpClient operation)
    (uses : Uses fuel start handler past) :
    (Client.invoke operation).wp Monitor.history fuel (fun _ client => Uses fuel start ⟨client⟩)
      (fun stop client => UsedUp fuel start (escape stop) ⟨client⟩) handler.ftpClient past := by
  apply Program.wp_mono (Program.wp_traces (Client.invoke operation) past)
  · rintro output client _ ⟨more, rfl, traces⟩
    unfold Uses
    rw [remote_append (invoke_remote traces)]
    exact uses.snoc permitted traces (by simp)
  · rintro stop client _ ⟨more, rfl, traces⟩
    cases stop with
    | raised error =>
      show Uses fuel start ⟨client⟩ (past ++ more)
      unfold Uses
      rw [remote_append (invoke_remote traces)]
      exact uses.snoc permitted traces (by simp)
    | spinning =>
      show PlayedOut Client.invoke Permitted fuel start (remote (past ++ more))
      rw [remote_append (invoke_remote traces)]
      exact .stuck uses permitted traces

private theorem uses_bears :
    Bears Monitor.history fuel (Uses fuel start) (UsedUp fuel start) where
  raised _ _ _ _ := id
  left _ _ _ := id
  breaks _ _ _ _ _ breaks := by cases breaks <;> exact uses_asked rfl
  spun _ _ := .idle
  asked query _ _ _ _ plain := uses_asked (by cases query <;> first | rfl | cases plain)
  performed := uses_performed

end Use

end CommandHandler

namespace CmdlineInterface

open Client CommandHandler

/-- The program is a session of its client: what it exchanges over the network is what some
session exchanges that starts with the registration of the observer, and every operation of
which is carried out where it is permitted. -/
theorem run_uses_client (iequals : Bytes → Bytes → Bool) (message : ErrorCode → Bytes)
    (host : Host boundary World) (fuel : Nat) (world : World) :
    ∃ (answers : Host boundary (List BoundaryEvent)) (operations : List Client.Operation)
      (recorded : List BoundaryEvent),
      let records := session Client.invoke answers fuel
        (.addObserver stdoutWriter :: operations) (Client.new .passive .binary false true) recorded
      exchanged records =
          remote ((run iequals message).run host fuel CommandHandler.new world).events ∧
        ∀ record ∈ records.tail, Permitted record.before record.operation := by
  have bears : Bears Monitor.history fuel (Uses fuel CommandHandler.new.ftpClient)
      (UsedUp fuel CommandHandler.new.ftpClient) := uses_bears
  have gets (args : List Bytes) := bears.get_holds
    (fun query pre isLocal handler past both answer after step =>
      ⟨uses_asked isLocal both.1 step, both.2⟩) args
  have played : PlayedOut Client.invoke Permitted fuel CommandHandler.new.ftpClient
      (remote ((run iequals message).run host fuel CommandHandler.new world).events) := by
    rcases (bears.program_holds gets iequals message).run_history host world ⟨.none, trivial⟩ with
      ⟨_, _, used⟩ | ⟨stop, _, used⟩
    · exact .idle used.1
    · cases stop with
      | raised error => exact .idle used
      | spinning => exact used
  obtain ⟨operations, same, permitted⟩ := played.in_session
    (fun query => (Script.respond query (Script.ofReplies [])).1)
  exact ⟨_, operations, _, same, permitted⟩

end CmdlineInterface

end LibFtp
