import LibFtp.App.CommandHandler
import LibFtp.Client.Closing
import LibFtp.Detail.Script
import LibFtp.Effect.Session

/-! A command that fails with an `ftp_exception` drops the connection. Whether a
later open command is accepted depends on what the closing calls report. -/

namespace LibFtp

open Effect

/-- Whether the connection is gone after `disconnect(false)`, by what was
reported to the closing calls. -/
theorem Client.drop_closes_iff (client : Client) (host : Host boundary World) (fuel : Nat)
    (world : World) :
    ((disconnect false).run host fuel client world).value.2.control.isConnected = false ↔
      ∀ event ∈ ((disconnect false).run host fuel client world).events,
        Refuses event.query event.answer → event.query = .close .control := by
  have outcome := client.drop_run host fuel world
  revert outcome
  generalize (disconnect false).run host fuel client world = run
  obtain ⟨⟨result, state⟩, _, events⟩ := run
  intro outcome
  cases outcome with
  | released silent =>
    exact iff_of_true rfl fun event member refuses => (silent event member refuses).elim
  | stuck error isConnected refused =>
    obtain ⟨event, member, other, refuses⟩ := refused
    refine iff_of_false (by simp [isConnected]) fun only => other (only event member refuses)
  | closed error refused only => exact iff_of_true rfl only

theorem Client.drop_resets_iff (client : Client) (host : Host boundary World) (fuel : Nat)
    (world : World) :
    (((disconnect false).run host fuel client world).value.2.control.isConnected = false ∧
        ((disconnect false).run host fuel client world).value.2.control.isSsl = false) ↔
      ∀ event ∈ ((disconnect false).run host fuel client world).events,
        ¬ Harmful client.control.socket.layer event := by
  have outcome := client.drop_run host fuel world
  revert outcome
  generalize (disconnect false).run host fuel client world = run
  obtain ⟨⟨result, state⟩, _, events⟩ := run
  intro outcome
  cases outcome with
  | released silent =>
    exact iff_of_true ⟨rfl, rfl⟩ fun event member harmful => silent event member harmful.refuses
  | stuck error isConnected refused =>
    obtain ⟨event, member, other, refuses⟩ := refused
    refine iff_of_false (by simp [isConnected]) fun harmless => ?_
    exact harmless event member ⟨refuses, fun same => (other same).elim⟩
  | closed error refused only =>
    obtain ⟨event, member, -, refuses⟩ := refused
    constructor
    · rintro ⟨-, plain⟩ other found harmful
      have ssl := harmful.harms (only other found harmful.refuses)
      simp [ControlConnection.isSsl, Socket.hasSslSupport, ssl] at plain
    · intro harmless
      refine ⟨rfl, ?_⟩
      have notSsl : client.control.socket.layer ≠ .ssl := fun ssl =>
        harmless event member ⟨refuses, fun _ => ssl⟩
      exact decide_eq_false notSsl

namespace CommandHandler

/-- An open command gets past the check that there is no connection yet. -/
def AcceptsOpen (handler : CommandHandler) : Prop :=
  ∀ (World : Type) (host : Host boundary World) (fuel : Nat) (world : World) (args : List Bytes),
    ((openConnection args).run host fuel handler world).value.1 ≠
      .error (.raised (.cmdline "Already connected, use close first." []))

private theorem onClient_fails (program : Method Client Value) {Ghost : Type}
    {monitor : Monitor boundary Ghost} {fuel : Nat} {post : Value → CommandHandler → Ghost → Prop}
    {fail : Stop AppError → CommandHandler → Ghost → Prop} {handler : CommandHandler} {ghost : Ghost}
    (ends : ∀ value last after, post value last after)
    (ftp : ∀ error last after, fail (.raised (.ftp error)) last after)
    (spins : ∀ last after, fail .spinning last after) :
    (onClient program).wp monitor fuel post fail handler ghost := by
  rw [onClient, Program.wp_recover]
  refine Program.wp_always _ ends fun stop last after => ?_
  cases stop with
  | raised error => exact ftp error last after
  | spinning => exact spins last after

private def alreadyConnected : Stop AppError :=
  .raised (.cmdline "Already connected, use close first." [])

private theorem openArgs_spec {Ghost : Type} {monitor : Monitor boundary Ghost} {fuel : Nat}
    (args : List Bytes) (handler : CommandHandler) (ghost : Ghost) :
    (openArgs args).wp monitor fuel (fun _ _ _ => True) (fun stop _ _ => stop ≠ alreadyConnected)
      handler ghost := by
  unfold openArgs
  split
  · rw [Program.wp_bind]
    exact wp_readLine (fun _ _ _ => True.intro) fun _ _ => by simp [alreadyConnected]
  · exact True.intro
  · split
    · exact True.intro
    · simp [throwCmdline, alreadyConnected]
  · simp [throwCmdline, alreadyConnected]

private theorem openConnection_spec {Ghost : Type} {monitor : Monitor boundary Ghost} {fuel : Nat}
    (args : List Bytes) (handler : CommandHandler) (ghost : Ghost) :
    (openConnection args).wp monitor fuel
      (fun _ _ _ => handler.ftpClient.control.isConnected = false)
      (fun stop _ _ => stop = alreadyConnected ↔ handler.ftpClient.control.isConnected = true)
      handler ghost := by
  simp only [openConnection, requireClosed, Program.wp_bind, Program.wp_get, Program.wp_ite]
  split
  · rename_i isConnected
    exact iff_of_true rfl isConnected
  · rename_i isClosed
    have other (stop) (different : stop ≠ alreadyConnected) :
        stop = alreadyConnected ↔ handler.ftpClient.control.isConnected = true :=
      iff_of_false different isClosed
    have closed : handler.ftpClient.control.isConnected = false := by simpa using isClosed
    simp only [Program.wp_pure]
    refine Program.wp_mono (openArgs_spec args handler ghost) ?_
      fun stop _ _ different => other stop different
    rintro ⟨hostname, port⟩ middle between -
    dsimp only
    refine onClient_fails _ (fun replies last after => ?_) (fun _ _ _ => other _ (by rintro ⟨⟩))
      (fun _ _ => other _ (by rintro ⟨⟩))
    split
    · refine wp_readLine (fun username _ _ => ?_) fun _ _ => other _ (by rintro ⟨⟩)
      refine wp_readPassword (fun password _ _ => ?_) fun _ _ => other _ (by rintro ⟨⟩)
      exact onClient_fails _ (fun _ _ _ => closed) (fun _ _ _ => other _ (by rintro ⟨⟩))
        (fun _ _ => other _ (by rintro ⟨⟩))
    · exact closed

theorem acceptsOpen_iff (handler : CommandHandler) :
    handler.AcceptsOpen ↔ handler.ftpClient.control.isConnected = false := by
  have outcome (World : Type) (host : Host boundary World) (fuel : Nat) (world : World)
      (args : List Bytes) : ((openConnection args).run host fuel handler world).value.1 =
        .error alreadyConnected ↔ handler.ftpClient.control.isConnected = true := by
    have triple : Program.Triple Monitor.history fuel (fun state events => state = handler ∧ events = [])
        (openConnection args) (fun _ _ _ => handler.ftpClient.control.isConnected = false)
        (fun stop _ _ => stop = alreadyConnected ↔ handler.ftpClient.control.isConnected = true) := by
      rintro state events ⟨same, -⟩
      subst state
      exact openConnection_spec args handler events
    rcases triple.run_history host world ⟨rfl, rfl⟩ with ⟨value, same, closed⟩ | ⟨stop, same, already⟩
    · rw [same]
      simp [closed]
    · rw [same, ← already]
      simp
  constructor
  · intro accepts
    by_contra connected
    exact accepts Script Script.host 0 (.ofReplies []) []
      ((outcome ..).mpr (by simpa using connected))
  · intro closed World host fuel world args refused
    have connected := (outcome World host fuel world args).mp refused
    simp [closed] at connected

/-- The connection is dropped from where the command stopped, and what the drop
reports is swallowed. -/
theorem handle_failed (handler : CommandHandler) (command : Command) (args : List Bytes)
    (host : Host boundary World) (fuel : Nat) (world : World)
    (failed : ((dispatch command args).run host fuel handler world).value =
      (.error (.raised (.ftp error)), middle)) :
    let first := (dispatch command args).run host fuel handler world
    let drop := (Client.disconnect false).run host fuel middle.ftpClient first.world
    (handle command args).run host fuel handler world =
      ⟨(.error (.raised (.ftp error)), ⟨drop.value.2⟩), drop.world, first.events ++ drop.events⟩ := by
  have outcome := middle.ftpClient.drop_run host fuel
    ((dispatch command args).run host fuel handler world).world
  simp only [handle, dropConnection, onClient, Program.run_bind, Program.run_recover,
    Program.run_zoom, failed]
  revert outcome
  generalize (Client.disconnect false).run host fuel middle.ftpClient _ = drop
  obtain ⟨⟨result, state⟩, last, events⟩ := drop
  intro outcome
  cases outcome <;> simp [Program.run, Program.raise, Tree.run, Pure.pure]

/-- Dropping the connection closes it and leaves SSL mode exactly when no closing
call reports a harmful error; and after a command that failed with an
`ftp_exception` a later open command is accepted exactly when none of the
shutdowns was refused. -/
theorem closing_closes_iff (host : Host boundary World) (fuel : Nat) (world : World) :
    (∀ client : Client,
      let drop := (Client.disconnect false).run host fuel client world
      (drop.value.2.control.isConnected = false ∧ drop.value.2.control.isSsl = false) ↔
        ∀ event ∈ drop.events, ¬ Harmful client.control.socket.layer event) ∧
    (∀ (handler : CommandHandler) (command : Command) (args : List Bytes) (error : FtpException)
      (middle : CommandHandler),
      let failed := (dispatch command args).run host fuel handler world
      let drop := (Client.disconnect false).run host fuel middle.ftpClient failed.world
      let run := (handle command args).run host fuel handler world
      failed.value = (.error (.raised (.ftp error)), middle) →
      run.value.1 = .error (.raised (.ftp error)) ∧ run.events = failed.events ++ drop.events ∧
        ((run.value.2.ftpClient.control.isConnected = false ∧ run.value.2.AcceptsOpen) ↔
          ∀ event ∈ drop.events, Refuses event.query event.answer →
            event.query = .close .control)) := by
  refine ⟨fun client => client.drop_resets_iff host fuel world, ?_⟩
  intro handler command args error middle first drop run failed
  have same : run = ⟨(.error (.raised (.ftp error)), ⟨drop.value.2⟩), drop.world,
      first.events ++ drop.events⟩ := handle_failed handler command args host fuel world failed
  rw [same]
  refine ⟨rfl, rfl, ?_⟩
  rw [acceptsOpen_iff, and_self]
  exact middle.ftpClient.drop_closes_iff host fuel first.world

/-- The server goes away instead of answering NOOP, and the handler drops the connection. -/
theorem closing_closes_iff_noop :
    let handler : CommandHandler :=
      ⟨{ Client.new .passive .binary false true with control := ⟨[], ⟨.plain, true⟩⟩ }⟩
    let error : FtpException :=
      ⟨"Cannot parse a status code from the server reply: '%1%'.", [[]], none⟩
    let failed := (dispatch .noop []).run Script.host 9 handler (.ofReplies [])
    let drop := (Client.disconnect false).run Script.host 9 handler.ftpClient failed.world
    let run := (handle .noop []).run Script.host 9 handler (.ofReplies [])
    run.value.1 = .error (.raised (.ftp error)) ∧ run.events = failed.events ++ drop.events ∧
      ((run.value.2.ftpClient.control.isConnected = false ∧ run.value.2.AcceptsOpen) ↔
        ∀ event ∈ drop.events, Refuses event.query event.answer → event.query = .close .control) :=
  (closing_closes_iff Script.host 9 (.ofReplies [])).2 _ .noop [] _ _ (by decide +kernel)

/-- The TLS shutdown is refused because the handshake had failed. -/
def refusedShutdown : Script :=
  { Script.ofReplies [text "220 ready\r\n", text "234 go\r\n"] with
    fails := fun query =>
      if query = .handshake .control ∨ query = .sslShutdown .control then some (.other 1) else none }

/-- The client is constructed for TLS, its handshake fails, and dropping it leaves
it connected and in SSL mode. -/
theorem closing_leaves_connected :
    (session Client.invoke Script.host 9
      [.connect (text "host") 21 none [], .disconnect false]
      (Client.new .passive .binary true true) refusedShutdown).map
        (fun record => (record.after.control.isConnected, record.after.control.isSsl)) =
      [(true, true), (true, true)] := by
  decide +kernel

end CommandHandler

end LibFtp
