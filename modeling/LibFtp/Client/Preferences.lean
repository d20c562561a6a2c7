import LibFtp.Client.Footprint
import LibFtp.Client.Arguments
import LibFtp.Detail.Script

/-! The settings of a client over a whole session: they are what the setters made of them,
whatever happens to the connections in between, and requests and replies are reported to
the observers that are registered at the time. -/

namespace LibFtp

open Effect

namespace Client

/-- All of a client but its control connection. -/
structure Preferences where
  mode : TransferMode
  type : TransferType
  context : Bool
  support : Bool
  observers : List ObserverId
  deriving DecidableEq, Repr

def preferences (client : Client) : Preferences :=
  ⟨client.transferMode, client.transferType, client.sslContext, client.rfc2428Support,
    client.observers⟩

/-- The server has agreed to the command of the call. -/
def agreed (outcome : Except (Stop FtpException) Output) : Bool :=
  match outcome with
  | .ok (.reply reply) => reply.isPositive
  | _ => false

/-- What a call makes of the settings. Only the transfer type depends on the server. -/
def Preferences.adjust {World : Type} (preferences : Preferences)
    (record : Record boundary Operation Client FtpException Output World) : Preferences :=
  match record.operation with
  | .setTransferMode mode => { preferences with mode }
  | .setTransferType type => if agreed record.outcome then { preferences with type } else preferences
  | .setRfc2428Support support => { preferences with support }
  | .addObserver observer => { preferences with observers := preferences.observers ++ [observer] }
  | .removeObserver observer =>
    { preferences with observers := preferences.observers.filter (· ≠ observer) }
  | _ => preferences

/-- What a call owes: the command of which the observers have heard is to be written, or the
observers are to hear of a reply. -/
inductive Due where
  | nothing
  | command (line : Bytes)
  | reply
  deriving DecidableEq, Repr

namespace Due

/-- A command is written as it was announced. From then on a reply is due. -/
def write (due : Due) (data : Bytes) : Option Due :=
  match due with
  | .command line => if data = line ++ crlf then some .reply else none
  | _ => none

/-- What is read is part of a reply. -/
def read : Due → Option Due
  | .command _ => none
  | _ => some .reply

/-- What may happen next while these observers are registered, and what is due then. -/
def next (observers : List ObserverId) (due : Due) : BoundaryEvent → Option Due
  | ⟨.notifyRequest seen line, _⟩ =>
    if seen = observers ∧ due = .nothing then some (.command line) else none
  | ⟨.write .control _ data, _⟩ | ⟨.unopened .control _ (.write data), _⟩ => due.write data
  | ⟨.readSome .control _ _, _⟩ | ⟨.unopened .control _ (.readSome _), _⟩ => due.read
  | ⟨.notifyReply seen _, _⟩ =>
    if seen = observers ∧ due.read = some .reply then some .nothing else none
  | _ => some due

def advance (observers : List ObserverId) (due : Option Due) (event : BoundaryEvent) : Option Due :=
  due.bind (next observers · event)

end Due

/-- The call reports to these observers each command before it is written, and behind what it
wrote or read the reply, before it issues the next command or returns. -/
def Reports {World : Type} (observers : List ObserverId)
    (record : Record boundary Operation Client FtpException Output World) : Prop :=
  ∃ due, record.events.foldl (Due.advance observers) (some .nothing) = some due ∧
    (record.Normal → due = .nothing)

private abbrev reports (observers : List ObserverId) : Monitor boundary (Option Due) :=
  Monitor.fold (Due.advance observers)

private abbrev Kept (preferences : Preferences) (client : Client) (due : Option Due) : Prop :=
  client.preferences = preferences ∧ due = some .nothing

private abbrev Left (preferences : Preferences) (client : Client) (due : Option Due) : Prop :=
  client.preferences = preferences ∧ due.isSome

/-- A reply may be due. -/
private abbrev Expectant (due : Option Due) : Prop := due = some .nothing ∨ due = some .reply

variable {preferences : Preferences}

private theorem Expectant.isSome {due : Option Due} (awaited : Expectant due) : due.isSome := by
  rcases awaited with rfl | rfl <;> rfl

private theorem kept_left (client : Client) (due : Option Due) (kept : Kept preferences client due) :
    Left preferences client due :=
  ⟨kept.1, Expectant.isSome (.inl kept.2)⟩

/-- A question that reports nothing and is not to be reported. -/
private abbrev Mute (query : Boundary.Query) : Prop :=
  ∀ observers answer (due : Due), due.next observers ⟨query, answer⟩ = some due

private theorem mute_step {observers : List ObserverId} {query : Boundary.Query}
    {answer : Boundary.Answer query} {due after : Option Due} (mute : Mute query)
    (step : (reports observers).step due ⟨query, answer⟩ after) : after = due := by
  have step : after = Due.advance observers due ⟨query, answer⟩ := step
  rw [step]
  cases due with
  | none => rfl
  | some due => exact mute observers answer due

private theorem mute_quiet {query : Boundary.Query} (quiet : Quiet query) : Mute query := by
  intro observers answer due
  cases quiet <;> rfl

/-- While a reply may be due, it stays so. -/
private theorem link_awaited {observers : List ObserverId} {layer : Layer} {event : BoundaryEvent}
    {due after : Option Due} (link : Link layer event.query) (awaited : Expectant due)
    (step : (reports observers).step due event after) : Expectant after := by
  obtain ⟨query, answer⟩ := event
  have step : after = Due.advance observers due ⟨query, answer⟩ := step
  subst step
  rcases awaited with rfl | rfl
  · cases link with
    | closing closing => cases closing <;> exact .inl rfl
    | readSome | missedRead => exact .inr rfl
    | _ => exact .inl rfl
  · cases link with
    | closing closing => cases closing <;> exact .inr rfl
    | _ => exact .inr rfl

section Control
variable {Value : Type} {program : Method ControlConnection Value}

private theorem control_kept (asks : program.Asks Mute) :
    (onControl program).Keeps (reports preferences.observers) (Kept preferences)
      (Left preferences) := by
  have still : program.Keeps (reports preferences.observers) (fun _ due => due = some .nothing)
      (fun _ due => due = some .nothing) :=
    asks.keeps fun due event after mute holds step => (mute_step mute step).trans holds
  intro fuel client due kept
  simp only [onControl, Program.wp_zoom]
  exact Program.wp_mono (still fuel client.control due kept.2)
    (fun _ _ _ same => ⟨kept.1, same⟩) fun _ _ _ same => kept_left _ _ ⟨kept.1, same⟩

/-- What opens the connection or receives a reply. -/
private theorem control_awaited (asks : program.Asks fun query => ∃ layer, Link layer query)
    {fuel : Nat} :
    Program.Triple (reports preferences.observers) fuel
      (fun client due => client.preferences = preferences ∧ Expectant due) (onControl program)
      (fun _ client due => client.preferences = preferences ∧ Expectant due)
      (fun _ => Left preferences) := by
  have awaits : program.Keeps (reports preferences.observers) (fun _ => Expectant)
      (fun _ => Expectant) :=
    asks.keeps fun _ _ _ link awaited step => link_awaited link.choose_spec awaited step
  rintro client due ⟨same, awaited⟩
  simp only [onControl, Program.wp_zoom]
  exact Program.wp_mono (awaits fuel client.control due awaited)
    (fun _ _ _ awaited => ⟨same, awaited⟩) fun _ _ _ awaited => ⟨same, awaited.isSome⟩

end Control

/-- The reply that is due is reported. -/
private theorem recv_awaited {fuel : Nat} :
    Program.Triple (reports preferences.observers) fuel
      (fun client due => client.preferences = preferences ∧ Expectant due) recv
      (fun _ => Kept preferences) (fun _ => Left preferences) := by
  refine (control_awaited (ControlConnection.recv_asks fun layer _ link => ⟨layer, link⟩)).bind
    fun reply client due kept => ?_
  obtain ⟨same, awaited⟩ := kept
  simp only [notifyReply, Program.wp_bind, Program.wp_get, wp_call, Program.wp_pure]
  intro answer after step
  have observers : client.observers = preferences.observers := congrArg Preferences.observers same
  have told : after = Due.advance preferences.observers due
    ⟨.notifyReply client.observers reply, answer⟩ := step
  refine ⟨same, told.trans ?_⟩
  rcases awaited with rfl | rfl
  · exact if_pos ⟨observers, rfl⟩
  · exact if_pos ⟨observers, rfl⟩

/-- A command is reported and written, and its reply is reported. -/
private theorem processCommand_kept (command : Bytes) :
    (processCommand command).Keeps (reports preferences.observers) (Kept preferences)
      (Left preferences) := by
  rintro fuel client due ⟨same, rfl⟩
  have observers : client.observers = preferences.observers := congrArg Preferences.observers same
  have announced {requested : Option Due}
      (heard : (reports preferences.observers).step (some .nothing)
        ⟨.notifyRequest client.observers command, ()⟩ requested) :
      requested = some (.command command) := Eq.trans heard (if_pos ⟨observers, rfl⟩)
  have written {requested after : Option Due} (heard : requested = some (.command command))
      (step : after = requested.bind fun due => due.write (command ++ crlf)) :
      after = some .reply := by
    rw [step, heard]
    exact if_pos rfl
  rw [processCommand, Program.wp_bind]
  apply send_rule
  · intro requested after _ heard step
    have due := written (announced heard) step
    exact recv_awaited client after ⟨same, .inr due⟩
  · intro error requested after _ heard step
    have due := written (announced heard) step
    exact ⟨same, Expectant.isSome (.inr due)⟩
  · intro ec requested after _ heard step
    have due := written (announced heard) step
    exact ⟨same, Expectant.isSome (.inr due)⟩

private theorem kept_carries :
    Carries (reports preferences.observers) (Kept preferences) (Left preferences) (fun _ => True) where
  stops := kept_left
  quiet _ _ _ _ _ quiet kept step :=
    ⟨kept.1, (mute_step (mute_quiet quiet) step).trans kept.2⟩
  exchange command _ := processCommand_kept command
  receive _ client due kept := recv_awaited client due ⟨kept.1, .inl kept.2⟩

private theorem connect_kept (hostname : Bytes) (port : UInt16) (username : Option Bytes)
    (password : Bytes) :
    (connect hostname port username password).Keeps (reports preferences.observers)
      (Kept preferences) (Left preferences) := by
  have welcomes {fuel : Nat} (replies : Replies) :
      Program.Triple (reports preferences.observers) fuel
        (fun client due => client.preferences = preferences ∧ Expectant due) (recvInto replies)
        (fun _ => Kept preferences) (fun _ => Left preferences) := by
    rw [recvInto_eq]
    exact recv_awaited.bind fun _ _ _ kept => kept
  have announces {fuel : Nat} :
      Program.Triple (reports preferences.observers) fuel
        (fun client due => client.preferences = preferences ∧ Expectant due)
        (notifyConnected hostname port)
        (fun _ client due => client.preferences = preferences ∧ Expectant due)
        (fun _ => Left preferences) := by
    rintro client due ⟨same, awaited⟩
    simp only [notifyConnected, Program.wp_bind, Program.wp_get, wp_call]
    intro _ after step
    exact ⟨same, (mute_step (mute_quiet .notifyConnected) step) ▸ awaited⟩
  have greets : (greet hostname port).Keeps (reports preferences.observers) (Kept preferences)
      (Left preferences) := by
    intro fuel client due kept
    refine ((control_awaited (ControlConnection.connect_asks (fun layer _ link => ⟨layer, link⟩)
      _ _)).bind fun _ => announces.bind fun _ => (welcomes _).bind ?_) client due
        ⟨kept.1, .inl kept.2⟩
    rintro ⟨reply, replies⟩
    refine Program.Keeps.ite (.pure _) (.bind .get fun client => .ite ?_ (.pure _)) fuel
    refine .bind (kept_carries.processCommandInto trivial _) ?_
    rintro ⟨reply, replies⟩
    refine .ite (.pure _) (.bind (control_kept ?_) fun _ => ?_)
    · exact ControlConnection.setSsl_asks (fun _ _ _ _ => rfl) _
    · exact .bind (control_kept (ControlConnection.sslHandshake_asks fun _ _ _ => rfl)) fun _ =>
        .pure _
  rw [connect_eq]
  refine .bind greets fun outcome => ?_
  cases outcome with
  | error replies => exact .pure _
  | ok replies => exact kept_carries.connectLogin username password replies fun _ _ _ _ => trivial

private theorem logout_kept :
    logout.Keeps (reports preferences.observers) (Kept preferences) (Left preferences) := by
  refine .bind (kept_carries.exchange _ trivial) fun _ => .bind .get fun _ => .ite ?_ (.pure _)
  exact .bind (control_kept (ControlConnection.sslShutdown_asks fun _ _ _ => rfl)) fun _ =>
    .bind (control_kept (ControlConnection.setSsl_asks (fun _ _ _ _ => rfl) _)) fun _ => .pure _

private theorem mute_closing (query : Boundary.Query) (closing : Closing query) : Mute query := by
  intro observers answer due
  cases closing <;> rfl

private theorem disconnect_kept (graceful : Bool) :
    (disconnect graceful).Keeps (reports preferences.observers) (Kept preferences)
      (Left preferences) := by
  have quit : (quit graceful).Keeps (reports preferences.observers) (Kept preferences)
      (Left preferences) := by
    cases graceful with
    | true => exact .bind (kept_carries.exchange _ trivial) fun _ => .pure _
    | false => exact .pure none
  refine .bind quit fun _ => .bind ?_ fun _ => .bind ?_ fun _ => .pure _
  · exact .bind .get fun _ =>
      .ite (control_kept (ControlConnection.closeSteps_asks mute_closing)) (.pure _)
  · exact .bind .get fun _ =>
      .ite (control_kept (ControlConnection.setSsl_asks (fun _ _ _ _ => rfl) _)) (.pure _)

/-- Every other operation leaves the settings alone. -/
private theorem invoke_kept (operation : Operation) (keeps : ¬ operation.Adjusts) :
    (invoke operation).Keeps (reports preferences.observers) (Kept preferences)
      (Left preferences) := by
  by_cases stays : operation.Reconnects
  · cases operation with
    | connect => exact .bind (connect_kept _ _ _ _) fun _ => .pure _
    | logout => exact .bind logout_kept fun _ => .pure _
    | disconnect graceful => exact .bind (disconnect_kept graceful) fun _ => .pure _
    | _ => exact stays.elim
  · exact kept_carries.invoke operation stays keeps fun _ _ => trivial

/-- The type is taken over with a positive reply, and only then. -/
private theorem setTransferType_adjusts {fuel : Nat} (type : TransferType) (client : Client) :
    (invoke (.setTransferType type)).wp (reports client.observers) fuel
      (fun out after due => due = some .nothing ∧ ∃ reply, out = .reply reply ∧
        after.preferences = if reply.isPositive then { client.preferences with type }
          else client.preferences)
      (fun _ => Left client.preferences) client (some .nothing) := by
  simp only [invoke, setTransferType, Program.wp_bind]
  refine Program.wp_mono (kept_carries.exchange _ trivial fuel client _ ⟨rfl, rfl⟩) ?_
    fun _ _ _ => id
  intro reply after due ⟨same, settled⟩
  by_cases positive : reply.isPositive = true
  · simp only [if_pos positive, Program.wp_bind, Program.wp_modify, Program.wp_pure]
    refine ⟨settled, reply, rfl, ?_⟩
    rw [if_pos positive, ← same]
    rfl
  · simp only [if_neg positive, Program.wp_pure]
    refine ⟨settled, reply, rfl, ?_⟩
    rw [if_neg positive]
    exact same

variable {World : Type} (host : Host boundary World) (fuel : Nat)

private theorem perform_adjusts (operation : Operation) (client : Client) (world : World) :
    let record := perform invoke host fuel operation client world
    record.after.preferences = client.preferences.adjust record ∧
      Reports client.observers record := by
  intro record
  have drives := Monitor.fold_drives (Due.advance client.observers) (some .nothing) record.events
  by_cases adjusts : operation.Adjusts
  · cases operation with
    | setTransferType type =>
      rcases Program.wp_run (setTransferType_adjusts type client) host world drives with
        ⟨_, returned, settled, reply, rfl, same⟩ | ⟨_, stopped, same, known⟩
      · refine ⟨same.trans ?_, .nothing, settled, fun _ => rfl⟩
        have answered : agreed record.outcome = reply.isPositive := congrArg agreed returned
        show _ = if agreed record.outcome then _ else _
        rw [answered]
      · obtain ⟨due, left⟩ := Option.isSome_iff_exists.mp known
        refine ⟨same.trans ?_, due, left, fun normal => ?_⟩
        · have refused : agreed record.outcome = false := congrArg agreed stopped
          show _ = if agreed record.outcome then _ else _
          rw [refused]
          rfl
        · obtain ⟨_, returned⟩ := normal
          cases stopped.symm.trans returned
    | setTransferMode | setRfc2428Support | addObserver | removeObserver =>
      exact ⟨rfl, .nothing, rfl, fun _ => rfl⟩
    | _ => exact adjusts.elim
  · have kept : (invoke operation).Keeps (reports client.observers) (Kept client.preferences)
        (Left client.preferences) := invoke_kept operation adjusts
    have unadjusted : client.preferences.adjust record = client.preferences := by
      cases operation with
      | setTransferType | setTransferMode | setRfc2428Support | addObserver | removeObserver =>
        exact absurd trivial adjusts
      | _ => rfl
    rw [unadjusted]
    rcases Program.wp_run (kept fuel client _ ⟨rfl, rfl⟩) host world drives with
      ⟨_, _, same, settled⟩ | ⟨_, stopped, same, known⟩
    · exact ⟨same, .nothing, settled, fun _ => rfl⟩
    · obtain ⟨due, left⟩ := Option.isSome_iff_exists.mp known
      refine ⟨same, due, left, fun normal => ?_⟩
      obtain ⟨_, returned⟩ := normal
      cases stopped.symm.trans returned

/-- At every point of every session the settings are what the calls so far made of the first
ones, through reconnects, failed calls and cancelled transfers, and each call reports what it
sends and what it receives to the observers of that moment. -/
theorem preferences_are_those_set (operations : List Operation) (client : Client) (world : World) :
    ∀ front record back,
      session invoke host fuel operations client world = front ++ record :: back →
      record.after.preferences =
          (front ++ [record]).foldl Preferences.adjust client.preferences ∧
        Reports (front.foldl Preferences.adjust client.preferences).observers record := by
  intro front record back split
  have step (operation : Operation) (state : Client) (world : World) (ghost : Preferences)
      (same : state.preferences = ghost) (_ : True) :
      (perform invoke host fuel operation state world).after.preferences =
          ghost.adjust (perform invoke host fuel operation state world) ∧
        Reports ghost.observers (perform invoke host fuel operation state world) := by
    subst same
    exact perform_adjusts host fuel operation state world
  have kept := session_fold Preferences.adjust (fun state ghost => state.preferences = ghost)
    (fun _ => True) (fun ghost record => Reports ghost.observers record) step
    operations client world client.preferences rfl front record back split fun _ _ => trivial
  rw [List.foldl_append]
  exact kept

/-- Two settings, and a connection to a server that answers a command. -/
private def adjusting :=
  session invoke Script.host 1
    [.setTransferMode .active, .addObserver 3, .connect (text "h") 21 none [], .sendNoop]
    (Client.new .passive .binary false true)
    (Script.ofReplies [text "220 a\r\n", text "200 b\r\n"])

theorem preferences_are_those_set_noop :
    ∃ front record, adjusting = front ++ [record] ∧
      record.after.preferences = ⟨.active, .binary, false, true, [3]⟩ ∧
        Reports [3] record := by
  have some' : adjusting.getLast?.isSome = true := by decide +kernel
  obtain ⟨record, last⟩ := Option.isSome_iff_exists.mp some'
  have split : adjusting.dropLast ++ [record] = adjusting := List.dropLast_append_getLast? record last
  have set := preferences_are_those_set Script.host 1 _ _ _ _ record [] split.symm
  have registered : (adjusting.dropLast.foldl Preferences.adjust
      (Client.new .passive .binary false true).preferences).observers = [3] := by
    decide +kernel
  rw [split, registered] at set
  exact ⟨_, record, split.symm, set.1.trans (by decide +kernel), set.2⟩

end Client

end LibFtp
