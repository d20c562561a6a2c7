import LibFtp.Client.Arguments
import LibFtp.Control.Framing
import LibFtp.Detail.Decimal
import LibFtp.Detail.Script

/-! The commands of whole sessions as the server sees them: one line for each command,
and one awaited reply for each line. -/

namespace LibFtp

open Effect

namespace Client

/-- The commands shown to the observers, the bytes written, and how far the last
command has come. `ordered` says that no write came before the reply to the one
before it. -/
structure Ledger where
  requested : List Bytes
  written : List Bytes
  unsent : Bool
  awaiting : Bool
  ordered : Bool
  deriving DecidableEq, Repr

def Ledger.empty : Ledger := ⟨[], [], false, false, true⟩

def Ledger.enter (ledger : Ledger) : BoundaryEvent → Ledger
  | ⟨.notifyRequest _ command, _⟩ =>
    { ledger with requested := ledger.requested ++ [command], unsent := true }
  | ⟨.write .control _ data, none⟩ =>
    { ledger with written := ledger.written ++ [data], unsent := false, awaiting := true,
                  ordered := ledger.ordered && !ledger.awaiting }
  | ⟨.notifyReply _ _, _⟩ => { ledger with awaiting := false }
  | _ => ledger

variable {fuel : Nat} {issues : Bytes → Prop}

private abbrev ledgers : Monitor boundary Ledger := Monitor.fold Ledger.enter

/-- What an operation issued and wrote. -/
def account (record : Record boundary Operation Client FtpException Output World) : Ledger :=
  record.events.foldl Ledger.enter .empty

/-- Between two commands: everything issued is written and answered. -/
private def Settled (issues : Bytes → Prop) (_ : Client) (ledger : Ledger) : Prop :=
  (∀ command ∈ ledger.requested, issues command) ∧ ledger.written = ledger.requested.map frame ∧
    ledger.unsent = false ∧ ledger.awaiting = false ∧ ledger.ordered = true

/-- Where an operation may stop: the last command may be unsent or unanswered. -/
private def Halted (issues : Bytes → Prop) (_ : Client) (ledger : Ledger) : Prop :=
  (∀ command ∈ ledger.requested, issues command) ∧ ledger.ordered = true ∧
    ∃ sent unsent, ledger.requested = sent ++ unsent ∧ ledger.written = sent.map frame ∧
      (ledger.unsent = false ↔ unsent = [])

private theorem settled_halted (client : Client) (settled : Settled issues client ledger) :
    Halted issues client ledger :=
  ⟨settled.1, settled.2.2.2.2, ledger.requested, [], (List.append_nil _).symm, settled.2.1,
    iff_of_true settled.2.2.1 rfl⟩

private theorem ledger_steady (ledger : Ledger) (layer : Layer) : Steady ledgers layer (· = ledger) :=
  steady_fold ledger fun _ ⟨_, _⟩ link => by
    cases link with
    | closing closing => cases closing <;> rfl
    | _ => rfl

private theorem enter_quiet {query : Boundary.Query} (answer : Boundary.Answer query)
    (ledger : Ledger) (quiet : Quiet query) : ledger.enter ⟨query, answer⟩ = ledger := by
  cases quiet <;> rfl

private theorem recv_answers (client : Client) (ledger : Ledger) :
    recv.wp ledgers fuel (fun _ _ after => after = { ledger with awaiting := false })
      (fun _ _ after => after = ledger) client ledger := by
  apply recv_rule client ledger (ledger_steady ledger _) rfl
  · intro reply _ middle after _ same step
    rw [show after = middle.enter ⟨.notifyReply client.observers reply, ()⟩ from step, same]
    rfl
  · exact fun _ _ _ _ same => same

private theorem processCommand_settles (command : Bytes) (issued : issues command) (client : Client)
    (ledger : Ledger) (settled : Settled issues client ledger) :
    (processCommand command).wp ledgers fuel (fun _ => Settled issues) (fun _ => Halted issues)
      client ledger := by
  obtain ⟨requests, written, unsent, awaiting, ordered⟩ := ledger
  obtain ⟨all, framed, unsent, awaiting, ordered⟩ := settled
  simp only at all framed unsent awaiting ordered
  subst written unsent awaiting ordered
  have more : ∀ other ∈ requests ++ [command], issues other := by
    intro other member
    rcases List.mem_append.mp member with early | last
    · exact all other early
    · exact List.mem_singleton.mp last ▸ issued
  have framed : requests.map frame ++ [command ++ crlf] = (requests ++ [command]).map frame := by
    rw [List.map_append]
    rfl
  have stuck (state : Client) : Halted issues state
      ⟨requests ++ [command], requests.map frame, true, false, true⟩ :=
    ⟨more, rfl, requests, [command], rfl, rfl, by simp⟩
  rw [processCommand, Program.wp_bind]
  apply send_rule
  · intro requested after _ heard step
    rw [show after = requested.enter ⟨.write .control _ (command ++ crlf), none⟩ from step,
      show requested = Ledger.enter _ ⟨.notifyRequest client.observers command, ()⟩ from heard]
    apply Program.wp_mono (recv_answers client _)
    · intro _ state answered same
      subst answered
      exact ⟨more, framed, rfl, rfl, rfl⟩
    · intro _ state halted same
      subst halted
      exact ⟨more, rfl, requests ++ [command], [], (List.append_nil _).symm, framed, by simp [Ledger.enter]⟩
  · intro error requested after _ heard step
    rw [show after = requested.enter ⟨.write .control _ (command ++ crlf), some error⟩ from step,
      show requested = Ledger.enter _ ⟨.notifyRequest client.observers command, ()⟩ from heard]
    exact stuck client
  · intro ec requested after _ heard step
    rw [show after = requested.enter ⟨.unopened .control _ (.write (command ++ crlf)), ec⟩ from step,
      show requested = Ledger.enter _ ⟨.notifyRequest client.observers command, ()⟩ from heard]
    exact stuck client

private theorem onControl_settles {program : Method ControlConnection Value}
    (stays : ∀ layer ledger, program.Keeps ledgers (ControlConnection.Stays layer (· = ledger))
      (ControlConnection.Stays layer (· = ledger))) :
    (onControl program).Keeps ledgers (Settled issues) (Halted issues) := by
  intro fuel client ledger settled
  apply onControl_rule client ledger (stays _ ledger) rfl
    (Program.wp_always program (fun _ _ _ => trivial) (fun _ _ _ => trivial))
  · intro _ control after _ same
    rw [same]
    exact settled
  · intro _ control after _ same
    rw [same]
    exact settled_halted _ settled

private theorem settles (issues : Bytes → Prop) :
    UpholdsLink ledgers (Settled issues) (Halted issues) issues where
  stops client _ settled := settled_halted client settled
  quiet query answer client ledger after quiet settled step := by
    rw [show after = ledger.enter ⟨query, answer⟩ from step, enter_quiet answer ledger quiet]
    exact settled
  settings _ _ _ _ _ _ settled := settled
  exchange command issued _ client ledger settled :=
    processCommand_settles command issued client ledger settled
  receive fuel client ledger settled := by
    apply Program.wp_mono (recv_answers client ledger)
    · intro _ state after same
      rw [same]
      exact ⟨settled.1, settled.2.1, settled.2.2.1, rfl, settled.2.2.2.2⟩
    · intro _ state after same
      rw [same]
      exact settled_halted state settled
  opens hostname port := onControl_settles fun layer ledger =>
    ControlConnection.connect_stays (ledger_steady ledger layer) hostname port
  switches layer := by
    intro fuel client ledger settled
    simp only [onControl, ControlConnection.setSsl, ControlConnection.onSocket, Program.wp_zoom,
      Socket.wp_setSsl]
    intro _ after step
    rw [show after = ledger from step]
    exact settled
  handshakes := onControl_settles fun layer ledger =>
    ControlConnection.sslHandshake_stays (ledger_steady ledger layer)
  shutsDown := onControl_settles fun layer ledger =>
    ControlConnection.sslShutdown_stays (ledger_steady ledger layer)
  closes := onControl_settles fun layer ledger =>
    ControlConnection.closeSteps_stays (ledger_steady ledger layer)

/-- What every operation leaves in its account. -/
private structure Regular (record : Record boundary Operation Client FtpException Output World) :
    Prop where
  issued : ∀ command ∈ (account record).requested, record.operation.Issues command
  written : (account record).written =
    ((account record).requested.take (account record).written.length).map frame
  bounded : (account record).written.length ≤ (account record).requested.length
  unsent : (account record).unsent = false ↔
    (account record).written.length = (account record).requested.length
  ordered : (account record).ordered = true
  answered : record.Normal → (account record).awaiting = false

private theorem perform_regular (host : Host boundary World) (operation : Operation) (client : Client)
    (world : World) : Regular (perform invoke host fuel operation client world) := by
  have settled : Settled operation.Issues client .empty :=
    ⟨fun _ member => absurd member List.not_mem_nil, rfl, rfl, rfl, rfl⟩
  have ends := (settles operation.Issues).invoke operation (fun _ => id) fuel client .empty settled
  have halted : Halted operation.Issues (perform invoke host fuel operation client world).after
      (account (perform invoke host fuel operation client world)) :=
    perform_settled (Program.wp_mono ends (fun _ state _ => settled_halted state) fun _ _ _ => id)
      (Monitor.fold_drives _ _ _)
  obtain ⟨issued, ordered, sent, unsent, requested, written, complete⟩ := halted
  have length : (account (perform invoke host fuel operation client world)).written.length =
      sent.length := by
    rw [written, List.length_map]
  refine ⟨issued, ?_, ?_, ?_, ordered, ?_⟩
  · rw [length, requested, List.take_left, written]
  · rw [length, requested, List.length_append]
    omega
  · rw [complete, length, requested, List.length_append]
    constructor
    · intro empty
      simp [empty]
    · intro same
      exact List.eq_nil_of_length_eq_zero (by omega)
  · intro normal
    obtain ⟨_, _, settled⟩ := perform_normal ends (Monitor.fold_drives _ _ _) normal
    exact settled.2.2.2.1

section Arguments

private theorem digits_plain (value : Nat) : cr ∉ toDecimal value := toDecimal_plain value rfl

private theorem toText_plain (address : Address) : cr ∉ address.toText := by
  cases address with
  | v4 h1 h2 h3 h4 =>
    simp only [Address.toText, List.mem_append, digits_plain, or_false, false_or, not_or]
    decide
  | v6 literal => exact fun member => (literal.plain cr member).2.1 rfl

private theorem own_whole (own : Own command) : Whole command := by
  have commands : ∀ command ∈ fixedCommands, cr ∉ text command := by decide
  refine whole_plain command ?_
  cases own with
  | fixed member => exact commands _ member
  | eprt endpoint =>
    obtain ⟨address, port⟩ := endpoint
    cases address with
    | v4 _ _ _ _ =>
      simp only [makeEprtCommand, List.mem_append, digits_plain, toText_plain, or_false, not_or]
      decide
    | v6 _ =>
      simp only [makeEprtCommand, List.mem_append, digits_plain, toText_plain, or_false, not_or]
      decide
  | port endpoint =>
    have address : cr ∉ endpoint.address.toText.map fun ch => if ch = 46 then 44 else ch := by
      intro member
      obtain ⟨ch, found, same⟩ := List.mem_map.mp member
      split at same
      · exact absurd same (by decide)
      · exact toText_plain endpoint.address (same ▸ found)
    simp only [makePortCommand, List.mem_append, digits_plain, address, or_false, not_or]
    decide

/-- A command is cut in two exactly where its argument is. -/
private theorem passes_whole {operation : Operation} (passes : operation.Passes verb argument) :
    Whole (makeCommand verb (some argument)) ↔ Whole argument := by
  have verbs : ∀ verb ∈ plainVerbs ++ loginVerbs, cr ∉ text verb ++ text " " := by decide
  refine whole_append _ _ (verbs verb (List.mem_append.mpr ?_))
  exact passes.verb_mem.imp id And.left

end Arguments

/-- No argument that the operation put into a command contains CRLF. -/
def Clean (record : Record boundary Operation Client FtpException Output World) : Prop :=
  ∀ verb argument, record.operation.Passes verb argument →
    makeCommand verb (some argument) ∈ (account record).requested → Whole argument

private theorem clean_iff (record : Record boundary Operation Client FtpException Output World)
    (issued : ∀ command ∈ (account record).requested, record.operation.Issues command) :
    Clean record ↔ ∀ command ∈ (account record).requested, Whole command := by
  constructor
  · intro clean command member
    rcases (issued command member).explained with ⟨verb, argument, passes, same⟩ | own
    · subst command
      exact (passes_whole passes).mpr (clean verb argument passes member)
    · exact own_whole own
  · intro whole verb argument passes member
    exact (passes_whole passes).mp (whole _ member)

/-- Each line waits for its reply before the next one is written. -/
def Awaited (record : Record boundary Operation Client FtpException Output World) : Prop :=
  (account record).ordered = true ∧ (record.Normal → (account record).awaiting = false)

/-- The server cuts what the operations wrote into exactly the commands they issued. -/
def Framed (records : List (Record boundary Operation Client FtpException Output World)) : Prop :=
  cutLines (records.flatMap fun record => (account record).written).flatten =
      (records.flatMap fun record => (account record).requested, []) ∧
    ∀ record ∈ records, Awaited record

section Sessions

variable (records : List (Record boundary Operation Client FtpException Output World))

/-- The commands of the operation that were written. -/
private def sent (record : Record boundary Operation Client FtpException Output World) :
    List Bytes :=
  (account record).requested.take (account record).written.length

private theorem sent_sublist :
    (records.flatMap sent).Sublist (records.flatMap fun record => (account record).requested) := by
  induction records with
  | nil => exact .refl _
  | cons record records ih => exact (List.take_sublist _ _).append ih

private theorem written_frames (regular : ∀ record ∈ records, Regular record) :
    (records.flatMap fun record => (account record).written).flatten =
      (records.flatMap sent).flatMap frame := by
  induction records with
  | nil => rfl
  | cons record records ih =>
    obtain ⟨first, later⟩ := List.forall_mem_cons.mp regular
    rw [List.flatMap_cons, List.flatten_append, ih later, List.flatMap_cons, List.flatMap_append,
      first.written, List.flatMap_def]
    rfl

private theorem sent_eq_iff (regular : ∀ record ∈ records, Regular record) :
    records.flatMap sent = (records.flatMap fun record => (account record).requested) ↔
      ∀ record ∈ records, (account record).unsent = false := by
  induction records with
  | nil => simp
  | cons record records ih =>
    obtain ⟨first, later⟩ := List.forall_mem_cons.mp regular
    have short : (sent record).length = (account record).written.length := by
      rw [sent, List.length_take, Nat.min_eq_left first.bounded]
    rw [List.forall_mem_cons, first.unsent, ← ih later, List.flatMap_cons, List.flatMap_cons]
    constructor
    · intro same
      have lengths := congrArg List.length same
      have rest := (sent_sublist records).length_le
      have bounded := first.bounded
      simp only [List.length_append] at lengths
      exact ⟨by omega, (sent_sublist records).eq_of_length (by omega)⟩
    · intro ⟨whole, rest⟩
      rw [rest, sent, whole, List.take_length]

end Sessions

/-- For every session: the server sees exactly the commands that the operations
issued, each one answered before the next, exactly when no argument put into a
command contains CRLF and every command reached the connection. -/
theorem framed_iff (client : Client) (host : Host boundary World) (fuel : Nat) (world : World)
    (operations : List Operation) :
    Framed (session invoke host fuel operations client world) ↔
      ∀ record ∈ session invoke host fuel operations client world,
        Clean record ∧ (account record).unsent = false := by
  have regular : ∀ record ∈ session invoke host fuel operations client world, Regular record :=
    session_all Regular (perform_regular host) operations client world
  generalize session invoke host fuel operations client world = records at regular ⊢
  have awaited (record) (member : record ∈ records) : Awaited record :=
    ⟨(regular record member).ordered, (regular record member).answered⟩
  have clean : (∀ record ∈ records, Clean record) ↔
      ∀ command ∈ records.flatMap fun record => (account record).requested, Whole command := by
    simp only [List.mem_flatMap]
    constructor
    · intro clean command ⟨record, member, issued⟩
      exact (clean_iff record (regular record member).issued).mp (clean record member) command issued
    · intro whole record member
      exact (clean_iff record (regular record member).issued).mpr
        fun command issued => whole command ⟨record, member, issued⟩
  rw [Framed, and_iff_left awaited, written_frames records regular,
    cutLines_eq_iff _ _ (sent_sublist records), ← clean, sent_eq_iff records regular]
  exact ⟨fun both record member => ⟨both.1 record member, both.2 record member⟩,
    fun each => ⟨fun record member => (each record member).1, fun record member => (each record member).2⟩⟩

/-- A SITE argument with a CRLF inside makes the server see a DELE command. -/
theorem argument_adds_command :
    let records := session invoke Script.host 9
      [.connect (text "host") 21 none [], .sendSiteCommand (text "x\r\nDELE y")]
      (Client.new .passive .binary false true) (.ofReplies [text "220 a\r\n", text "200 b\r\n"])
    (records.flatMap fun record => (account record).requested) = [text "SITE x\r\nDELE y"] ∧
      cutLines (records.flatMap fun record => (account record).written).flatten =
        ([text "SITE x", text "DELE y"], []) ∧
      ¬ Framed records := by
  intro records
  have requested : (records.flatMap fun record => (account record).requested) =
      [text "SITE x\r\nDELE y"] := by
    decide +kernel
  have seen : cutLines (records.flatMap fun record => (account record).written).flatten =
      ([text "SITE x", text "DELE y"], []) := by
    decide +kernel
  refine ⟨requested, seen, fun framed => ?_⟩
  have same := framed.1
  rw [requested, seen] at same
  exact absurd same (by decide)

end Client

end LibFtp
