import LibFtp.App.CmdlineInterface
import LibFtp.Client.Exchange
import LibFtp.Client.Footprint
import LibFtp.Client.Frame

/-! What all commands of the program preserve. It is enough to look at the operations of the
client that they carry out, at the questions that they put to the console, and at the one
command that makes files. -/

namespace LibFtp

open Effect

/-- Questions that the program itself puts: to the console and to the local files. -/
def isLocal : Boundary.Query → Bool
  | .consoleRead _ | .passwordRead _ | .consoleWrite _ => true
  | .fileOpen _ | .fileExists _ | .fileCreate _ | .fileRemove _ => true
  | _ => false

namespace Client

/-- Questions of the client. -/
def Remote (query : Boundary.Query) : Prop := isLocal query = false

private theorem remote_link (layer : Layer) (query : Boundary.Query) (link : Link layer query) :
    Remote query := by
  cases link with
  | closing closing => cases closing <;> rfl
  | _ => rfl

private theorem remote_negotiating : Negotiating Remote where
  link := remote_link
  written _ _ := rfl
  missed _ _ := rfl
  requested _ _ := rfl
  heard _ _ := rfl
  plumbing _ plumbing := by cases plumbing <;> rfl
  dialled _ := rfl
  accepts := rfl
  localEndpoint := rfl
  remoteEndpoint := rfl

/-- What the questions of the client leave alone survives all its operations. -/
theorem remote_upholds {Ghost : Type} {monitor : Monitor boundary Ghost} {kept : Ghost → Prop}
    (undisturbed : ∀ ghost event after, Remote event.query → kept ghost →
      monitor.step ghost event after → kept after) :
    UpholdsLink monitor (fun _ => kept) (fun _ => kept) (fun _ => True) where
  stops _ _ := id
  quiet query answer _ ghost after quiet holds step :=
    undisturbed ghost ⟨query, answer⟩ after (by cases quiet <;> rfl) holds step
  exchange command _ := (remote_negotiating.processCommand command).keeps undisturbed
  receive := remote_negotiating.recv.keeps undisturbed
  settings _ _ _ _ _ _ := id
  opens hostname port := Program.Asks.keeps
    (.zoom (ControlConnection.connect_asks remote_link hostname port)) undisturbed
  switches layer := Program.Asks.keeps
    (.zoom (ControlConnection.setSsl_asks (fun _ => rfl) layer)) undisturbed
  handshakes := Program.Asks.keeps
    (.zoom (ControlConnection.sslHandshake_asks (remote_link _ _ (.handshake rfl)))) undisturbed
  shutsDown := Program.Asks.keeps
    (.zoom (ControlConnection.sslShutdown_asks (remote_link .plain _ (.closing .sslShutdown)))) undisturbed
  closes := Program.Asks.keeps (.zoom (ControlConnection.closeSteps_asks fun query closing =>
    remote_link .plain query (.closing closing))) undisturbed

private theorem append_negative (replies : Replies) {reply : Reply}
    (negative : reply.isNegative = true) : (replies.append reply).isPositive = false := by
  have verdict : reply.isPositive = false := by
    cases positive : reply.isPositive with
    | false => rfl
    | true => exact absurd (reply.not_negative positive) (by simp [negative])
  simp [Replies.append, verdict]

/-- A connection whose greeting was accepted is open. -/
theorem connect_connected {Ghost : Type} {monitor : Monitor boundary Ghost} {fuel : Nat}
    (hostname : Bytes) (port : UInt16) (client : Client) (ghost : Ghost) :
    (connect hostname port none []).wp monitor fuel
      (fun replies after _ => replies.isPositive = true → after.control.isConnected = true)
      (fun _ _ _ => True) client ghost := by
  have refused (replies : Replies) (reply : Reply) (negative : reply.isNegative = true)
      (after : Client) : (replies.append reply).isPositive = true →
      after.control.isConnected = true :=
    fun positive => absurd positive (by simp [append_negative replies negative])
  simp only [connect, connectLogin, processCommandInto, onControl, notifyConnected, Program.wp_bind,
    Program.wp_zoom, Program.wp_get, wp_call]
  apply Program.wp_mono (ControlConnection.connect_socket hostname port client.control ghost)
  · intro _ control _ same _ _ _
    subst same
    apply recvInto_socket
    · intro reply control greeted kept
      simp only [Program.wp_ite, Program.wp_bind, Program.wp_get, Program.wp_pure]
      split
      · rename_i negative
        exact refused _ _ negative _
      · rename_i accepted
        have socket := kept (by simpa using accepted)
        dsimp only
        split
        · apply send_any
          · intro sent
            apply recvInto_socket
            · intro secure control' answered kept'
              split
              · rename_i negative
                exact refused _ _ negative _
              · rename_i agreed
                have same := (kept' (by simpa using agreed)).trans socket
                simp only [ControlConnection.setSsl, ControlConnection.sslHandshake,
                  ControlConnection.onSocket, Program.wp_bind, Program.wp_zoom, Socket.wp_setSsl,
                  Socket.wp_sslHandshake, wp_throwIf, if_true]
                intro _ switched _ answer done _
                cases answer with
                | some ec => trivial
                | none => exact fun _ => congrArg Socket.isOpen same
            · exact fun _ _ _ => trivial
          · exact fun _ _ _ => trivial
        · exact fun _ => congrArg Socket.isOpen socket
    · exact fun _ _ _ => trivial
  · exact fun _ _ _ _ => trivial

/-- Operations that the program carries out over a connection. -/
inductive Offered : Operation → Prop where
  | login : Offered (.login username password)
  | logout : Offered .logout
  | changeCurrentDirectory : Offered (.changeCurrentDirectory path)
  | changeCurrentDirectoryUp : Offered .changeCurrentDirectoryUp
  | getCurrentDirectory : Offered .getCurrentDirectory
  | downloadFile : Offered (.downloadFile path true)
  | uploadFile : Offered (.uploadFile path false true)
  | getFileList : Offered (.getFileList path false)
  | rename : Offered (.rename fromPath toPath)
  | removeFile : Offered (.removeFile path)
  | createDirectory : Offered (.createDirectory path)
  | removeDirectory : Offered (.removeDirectory path)
  | getFileSize : Offered (.getFileSize path)
  | getStatus : Offered (.getStatus path)
  | getSystemType : Offered .getSystemType
  | getHelp : Offered (.getHelp remoteCommand)
  | sendNoop : Offered .sendNoop
  | setTransferType : Offered (.setTransferType type)
  | disconnect : Offered (.disconnect true)

/-- What the program asks of its client: it connects where there is no connection, drops
what there is at any time, and does the rest over a connection. -/
inductive Permitted (client : Client) : Operation → Prop where
  | connect (closed : client.control.isConnected = false) :
      Permitted client (.connect hostname port none [])
  | drop : Permitted client (.disconnect false)
  | setTransferMode : Permitted client (.setTransferMode mode)
  | offered (isConnected : client.control.isConnected = true) (offered : Offered operation) :
      Permitted client operation

end Client

namespace CommandHandler

open Client

def Connected (handler : CommandHandler) : Prop := handler.ftpClient.control.isConnected = true

/-- How the program stops where an operation of its client does. -/
def escape : Stop FtpException → Stop AppError
  | .raised error => .raised (.ftp error)
  | .spinning => .spinning

/-- Questions of the commands but for the one that makes a file. -/
def isPlain : Boundary.Query → Bool
  | .consoleRead _ | .passwordRead _ | .consoleWrite _ | .fileOpen _ => true
  | _ => false

/-- The errors that the loop of the program prints. -/
def Printed : AppError → Prop
  | .ftp _ | .cmdline .. => True
  | .filesystem _ | .istreamFailure => False

/-- The other ones, each with the answer that makes it. -/
inductive Breaks : BoundaryEvent → AppError → Prop where
  | line : Breaks ⟨.consoleRead prompt, none⟩ .istreamFailure
  | password : Breaks ⟨.passwordRead prompt, none⟩ .istreamFailure
  | existence (ec : ErrorCode) : Breaks ⟨.fileExists path, .error ec⟩ (.filesystem ec)
  | removal (ec : ErrorCode) : Breaks ⟨.fileRemove path, some ec⟩ (.filesystem ec)

variable {Ghost : Type} {monitor : Monitor boundary Ghost} {fuel : Nat}
  {invariant : CommandHandler → Ghost → Prop}
  {broken : Stop AppError → CommandHandler → Ghost → Prop} {pre : CommandHandler → Prop}

/-- An invariant that survives the plain questions and each permitted operation. A raised error
leaves all of it, and where the loop does not print it, the last answer has made it. -/
structure Bears (monitor : Monitor boundary Ghost) (fuel : Nat)
    (invariant : CommandHandler → Ghost → Prop)
    (broken : Stop AppError → CommandHandler → Ghost → Prop) : Prop where
  raised : ∀ error handler ghost, Printed error → invariant handler ghost →
    broken (.raised error) handler ghost
  left : ∀ error handler ghost, broken (.raised error) handler ghost → invariant handler ghost
  breaks : ∀ event error handler ghost after, Breaks event error → invariant handler ghost →
    monitor.step ghost event after → broken (.raised error) handler after
  spun : ∀ handler ghost, invariant handler ghost → broken .spinning handler ghost
  asked : ∀ query answer handler ghost after, isPlain query = true → invariant handler ghost →
    monitor.step ghost ⟨query, answer⟩ after → invariant handler after
  performed : ∀ operation handler ghost, Permitted handler.ftpClient operation →
    invariant handler ghost → (Client.invoke operation).wp monitor fuel
      (fun _ client after => invariant ⟨client⟩ after)
      (fun stop client after => broken (escape stop) ⟨client⟩ after) handler.ftpClient ghost

namespace Bears

variable (bears : Bears monitor fuel invariant broken)

/-- From `pre` the program keeps the invariant and ends in `post`. -/
abbrev Runs (_ : Bears monitor fuel invariant broken) (pre : CommandHandler → Prop)
    (program : Action Value) (post : Value → CommandHandler → Prop) : Prop :=
  Program.Triple monitor fuel (fun handler ghost => invariant handler ghost ∧ pre handler) program
    (fun value handler ghost => invariant handler ghost ∧ post value handler) broken

/-- Nothing is known of the end but the invariant. -/
abbrev Ends : Value → CommandHandler → Prop := fun _ _ => True

section Rules
variable {post : Value → CommandHandler → Prop} {program : Action Value}

theorem ret (value : Value) (done : ∀ handler, pre handler → post value handler) :
    bears.Runs pre (pure value) post :=
  fun handler _ both => ⟨both.1, done handler both.2⟩

theorem weaken {other : CommandHandler → Prop} (runs : bears.Runs pre program post)
    (weaker : ∀ handler, other handler → pre handler) : bears.Runs other program post :=
  fun handler ghost both => runs handler ghost ⟨both.1, weaker handler both.2⟩

theorem ite {condition : Prop} [Decidable condition] {yes no : Action Value}
    (left : bears.Runs pre yes post) (right : bears.Runs pre no post) :
    bears.Runs pre (if condition then yes else no) post := by
  split
  · exact left
  · exact right

theorem look {rest : CommandHandler → Action Value}
    (runs : ∀ state, bears.Runs pre (rest state) post) :
    bears.Runs pre (Program.get >>= rest) post :=
  fun handler ghost both => runs handler handler ghost both

theorem raise {error : AppError} (printed : Printed error) :
    bears.Runs pre (Program.raise error) post :=
  fun handler ghost both => bears.raised error handler ghost printed both.1

/-- A question, the answers to which the program goes on with or breaks off at. -/
theorem answers {query : Boundary.Query} {rest : Boundary.Answer query → Action Value}
    (asked : bears.Runs pre (ask query) fun _ => pre)
    (ends : ∀ answer, bears.Runs pre (rest answer) post ∨
      ∃ error, rest answer = Program.raise error ∧ Breaks ⟨query, answer⟩ error) :
    bears.Runs pre (ask query >>= rest) post := by
  intro handler ghost both
  rw [Program.wp_bind]
  intro answer after step
  rcases ends answer with goesOn | ⟨error, same, breaks⟩
  · exact goesOn handler after (asked handler ghost both answer after step)
  · have broken := bears.breaks _ error handler ghost after breaks both.1 step
    change (rest answer).wp monitor fuel _ _ handler after
    rw [same]
    exact broken

theorem asks {query : Boundary.Query} (plain : isPlain query = true) :
    bears.Runs pre (ask query) fun _ => pre :=
  fun handler ghost both answer after step =>
    ⟨bears.asked query answer handler ghost after plain both.1 step, both.2⟩

theorem reads (greeting : String) : bears.Runs pre (readLine greeting) fun _ => pre := by
  refine bears.answers (bears.asks rfl) fun line => ?_
  cases line with
  | none => exact .inr ⟨_, rfl, .line⟩
  | some line => exact .inl (bears.ret line fun _ => id)

theorem readsPassword (greeting : String) : bears.Runs pre (readPassword greeting) fun _ => pre := by
  refine bears.answers (bears.asks rfl) fun line => ?_
  cases line with
  | none => exact .inr ⟨_, rfl, .password⟩
  | some line => exact .inl (bears.ret line fun _ => id)

theorem recover {handler : AppError → Action Value} (body : bears.Runs pre program post)
    (handled : ∀ error, Program.Triple monitor fuel (broken (.raised error)) (handler error)
      (fun value handler ghost => invariant handler ghost ∧ post value handler) broken) :
    bears.Runs pre (Program.recover program handler) post := by
  intro state ghost both
  rw [Program.wp_recover]
  refine body.apply both (fun _ _ _ => id) fun stop last after left => ?_
  cases stop with
  | raised error => exact handled error last after left
  | spinning => exact left

/-- A handler that looks at nothing of what the error has left. -/
theorem handles {error : AppError} (runs : bears.Runs (fun _ => True) program post) :
    Program.Triple monitor fuel (broken (.raised error)) program
      (fun value handler ghost => invariant handler ghost ∧ post value handler) broken :=
  fun handler ghost broken => runs handler ghost ⟨bears.left error handler ghost broken, trivial⟩

/-- A permitted operation, and what is known of its end. -/
theorem performs {operation : Client.Operation} {program : Method Client Value}
    {output : Value → Output} (same : Client.invoke operation = (do return output (← program)))
    (permitted : ∀ handler, pre handler → Permitted handler.ftpClient operation)
    (ends : ∀ handler ghost, pre handler → program.wp monitor fuel
      (fun value client _ => post value ⟨client⟩) (fun _ _ _ => True) handler.ftpClient ghost) :
    bears.Runs pre (onClient program) post := by
  intro handler ghost both
  have performed := bears.performed operation handler ghost (permitted handler both.2) both.1
  simp only [same, Program.wp_bind, Program.wp_pure] at performed
  rw [onClient, Program.wp_recover, Program.wp_zoom]
  apply Program.wp_mono (Program.wp_and performed (ends handler ghost both.2))
  · exact fun _ _ _ => id
  · intro stop client after left
    cases stop with
    | raised error => exact left.1
    | spinning => exact left.1

end Rules

section Commands

theorem requireConnected_holds :
    bears.Runs (fun _ => True) requireConnected fun _ => Connected := by
  intro handler ghost ⟨holds, _⟩
  simp only [requireConnected, Program.wp_bind, Program.wp_get, Program.wp_ite]
  split
  · exact bears.raised _ _ _ trivial holds
  · rename_i isConnected
    have isConnected : handler.ftpClient.control.isConnected = true := by simpa using isConnected
    exact ⟨holds, isConnected⟩

theorem promptedArg_holds (prompt usage : String) (args : List Bytes) :
    bears.Runs pre (promptedArg prompt usage args) fun _ => pre := by
  unfold promptedArg
  split
  · exact bears.reads prompt
  · exact bears.ret _ fun _ => id
  · exact bears.raise trivial

theorem optionalArg_holds (usage : String) (args : List Bytes) :
    bears.Runs pre (optionalArg usage args) fun _ => pre := by
  unfold optionalArg
  split
  · exact bears.ret _ fun _ => id
  · exact bears.ret _ fun _ => id
  · exact bears.raise trivial

theorem transferArgs_holds (prompt usage : String) (args : List Bytes) :
    bears.Runs pre (transferArgs prompt usage args) fun _ => pre := by
  unfold transferArgs
  split
  · exact (bears.reads prompt).bind fun _ => bears.ret _ fun _ => id
  · exact bears.ret _ fun _ => id
  · exact bears.ret _ fun _ => id
  · exact bears.raise trivial

theorem openArgs_holds (args : List Bytes) :
    bears.Runs pre (openArgs args) fun _ => pre := by
  unfold openArgs
  split
  · exact (bears.reads _).bind fun _ => bears.ret _ fun _ => id
  · exact bears.ret _ fun _ => id
  · split
    · exact bears.ret _ fun _ => id
    · exact bears.raise trivial
  · exact bears.raise trivial

omit bears in
private theorem ends_wp {program : Method Client Value} {client : Client} {ghost : Ghost} :
    program.wp monitor fuel (fun value after _ => Ends value ⟨after⟩) (fun _ _ _ => True) client
      ghost :=
  Program.wp_always _ (fun _ _ _ => trivial) fun _ _ _ => trivial

theorem offered_holds {operation : Client.Operation} {program : Method Client Value}
    {output : Value → Output} (offered : Offered operation)
    (same : Client.invoke operation = (do return output (← program))) :
    bears.Runs Connected (onClient program) Ends :=
  bears.performs same (fun _ isConnected => .offered isConnected offered) fun _ _ _ => ends_wp

theorem run_holds {operation : Client.Operation} (offered : Offered operation) :
    bears.Runs Connected (run operation) Ends := by
  have same : Client.invoke operation = (do return id (← Client.invoke operation)) :=
    (bind_pure _).symm
  exact (bears.offered_holds offered same).bind fun _ => bears.ret _ fun _ _ => trivial

theorem connected_run {operation : Client.Operation} (offered : Offered operation) :
    bears.Runs (fun _ => True) (do requireConnected; run operation) Ends :=
  bears.requireConnected_holds.bind fun _ => bears.run_holds offered

/-- An operation with an argument of the user. -/
theorem connected_arg {Arg : Type} {argument : Action Arg}
    (operation : Arg → Client.Operation)
    (given : bears.Runs Connected argument fun _ => Connected)
    (offered : ∀ arg, Offered (operation arg)) :
    bears.Runs (fun _ => True) (do requireConnected; run (operation (← argument))) Ends :=
  bears.requireConnected_holds.bind fun _ => given.bind fun arg => bears.run_holds (offered arg)

theorem openConnection_holds (args : List Bytes) :
    bears.Runs (fun _ => True) (openConnection args) Ends := by
  have closed : bears.Runs (fun _ => True) requireClosed
      fun _ handler => handler.ftpClient.control.isConnected = false := by
    intro handler ghost ⟨holds, _⟩
    simp only [requireClosed, Program.wp_bind, Program.wp_get, Program.wp_ite]
    split
    · exact bears.raised _ _ _ trivial holds
    · rename_i isClosed
      have isClosed : handler.ftpClient.control.isConnected = false := by simpa using isClosed
      exact ⟨holds, isClosed⟩
  refine closed.bind fun _ => (bears.openArgs_holds args).bind fun ⟨hostname, port⟩ => ?_
  have connected : bears.Runs (fun handler => handler.ftpClient.control.isConnected = false)
      (onClient (Client.connect hostname port none []))
      fun replies handler => replies.isPositive = true → Connected handler :=
    bears.performs rfl (fun _ closed => .connect closed) fun handler ghost _ =>
      connect_connected hostname port handler.ftpClient ghost
  refine connected.bind fun replies => ?_
  cases positive : replies.isPositive with
  | false => exact bears.ret _ fun _ _ => trivial
  | true =>
    have logsIn (username password : Bytes) :
        bears.Runs Connected (onClient (Client.login username password)) Ends :=
      bears.offered_holds .login rfl
    refine bears.weaken ?_ fun _ opens => opens positive
    exact (bears.reads _).bind fun _ => (bears.readsPassword _).bind fun _ =>
      (logsIn _ _).bind fun _ => bears.ret _ fun _ _ => trivial

theorem user_holds (args : List Bytes) :
    bears.Runs (fun _ => True) (user args) Ends := by
  refine bears.requireConnected_holds.bind fun _ => ?_
  refine (bears.promptedArg_holds _ _ args).bind fun username => ?_
  refine (bears.readsPassword _).bind fun password => ?_
  have logsIn : bears.Runs Connected (onClient (Client.login username password)) Ends :=
    bears.offered_holds .login rfl
  exact logsIn.bind fun _ => bears.ret _ fun _ _ => trivial

theorem put_holds (args : List Bytes) :
    bears.Runs (fun _ => True) (put args) Ends := by
  refine bears.requireConnected_holds.bind fun _ => ?_
  refine (bears.transferArgs_holds _ _ args).bind fun names => ?_
  refine (bears.asks rfl).bind fun opened => ?_
  cases opened with
  | true => exact bears.run_holds .uploadFile
  | false => exact bears.raise trivial

/-- The one command that also asks about files and makes them. -/
theorem get_holds (files : ∀ query (pre : CommandHandler → Prop), isLocal query = true →
      bears.Runs pre (ask query) fun _ => pre) (args : List Bytes) :
    bears.Runs (fun _ => True) (get args) Ends := by
  refine bears.requireConnected_holds.bind fun _ => ?_
  refine (bears.transferArgs_holds _ _ args).bind fun names => ?_
  refine bears.answers (files _ _ rfl) fun found => ?_
  rcases found with ec | (_ | _)
  · exact .inr ⟨_, rfl, .existence ec⟩
  · refine .inl ((files _ _ rfl).bind fun created => ?_)
    cases created with
    | false => exact bears.raise trivial
    | true =>
      have downloads : bears.Runs Connected (onClient (Client.processDownload names.1 true)) Ends :=
        bears.offered_holds .downloadFile rfl
      refine downloads.bind fun replies => ?_
      cases replies.isPositive with
      | true => exact bears.ret _ fun _ _ => trivial
      | false =>
        refine bears.answers (files _ _ rfl) fun removed => ?_
        cases removed with
        | none => exact .inl (bears.ret _ fun _ _ => trivial)
        | some ec => exact .inr ⟨_, rfl, .removal ec⟩
  · exact .inl (bears.raise trivial)

theorem size_holds (args : List Bytes) :
    bears.Runs (fun _ => True) (size args) Ends := by
  refine bears.requireConnected_holds.bind fun _ => ?_
  refine (bears.promptedArg_holds _ _ args).bind fun remoteFile => ?_
  have sized : bears.Runs Connected (onClient (Client.getFileSize remoteFile)) Ends :=
    bears.offered_holds .getFileSize rfl
  refine sized.bind fun reply => ?_
  cases reply.size with
  | none => exact bears.ret _ fun _ _ => trivial
  | some size => exact bears.asks rfl

theorem mode_holds : bears.Runs (fun _ => True) mode Ends := by
  refine bears.look fun handler => ?_
  cases handler.ftpClient.transferMode with
  | passive => exact bears.asks rfl
  | active => exact bears.asks rfl

theorem type_holds : bears.Runs (fun _ => True) type Ends := by
  refine bears.requireConnected_holds.bind fun _ => bears.weaken ?_ fun _ _ => trivial
  refine bears.look fun handler => ?_
  cases handler.ftpClient.transferType with
  | binary => exact bears.asks rfl
  | ascii => exact bears.asks rfl

theorem setTransferMode_holds (mode : TransferMode) (told : Bytes) :
    bears.Runs (fun _ => True) (do
      let _none ← onClient (Client.invoke (.setTransferMode mode))
      ask (.consoleWrite told)) Ends := by
  have same : Client.invoke (.setTransferMode mode) =
      (do return id (← Client.invoke (.setTransferMode mode))) := (bind_pure _).symm
  have sets : bears.Runs (fun _ => True) (onClient (Client.invoke (.setTransferMode mode)))
      Ends := bears.performs same (fun _ _ => .setTransferMode) fun _ _ _ => ends_wp
  exact sets.bind fun _ => bears.asks rfl

/-- Errors end up nowhere when the user exits, but the client has then been used up. -/
theorem exit_holds : bears.Runs (fun _ => True) exit Ends := by
  have leaves : bears.Runs (fun _ => True) (do
      if (← Program.get).ftpClient.control.isConnected then run (.disconnect true)) Ends := by
    intro handler ghost ⟨holds, _⟩
    simp only [Program.wp_bind, Program.wp_get, Program.wp_ite]
    split
    · rename_i isConnected
      exact bears.run_holds .disconnect handler ghost ⟨holds, isConnected⟩
    · exact ⟨holds, trivial⟩
  exact bears.recover leaves fun _ => bears.handles (bears.ret _ fun _ => id)

variable (gets : ∀ args, bears.Runs (fun _ => True) (get args) Ends)

include gets

theorem dispatch_holds (command : Command) (args : List Bytes) :
    bears.Runs (fun _ => True) (dispatch command args) Ends := by
  have prompted (prompt usage : String) :
      bears.Runs Connected (promptedArg prompt usage args) fun _ => Connected :=
    bears.promptedArg_holds prompt usage args
  have optional (usage : String) :
      bears.Runs Connected (optionalArg usage args) fun _ => Connected :=
    bears.optionalArg_holds usage args
  cases command with
  | «open» => exact bears.openConnection_holds args
  | mode => exact bears.mode_holds
  | active => exact bears.setTransferMode_holds .active _
  | passive => exact bears.setTransferMode_holds .passive _
  | user => exact bears.user_holds args
  | logout => exact bears.connected_run .logout
  | close => exact bears.connected_run .disconnect
  | cd =>
    exact bears.connected_arg .changeCurrentDirectory (prompted _ _)
      fun _ => .changeCurrentDirectory
  | cdup => exact bears.connected_run .changeCurrentDirectoryUp
  | ls => exact bears.connected_arg (.getFileList · false) (optional _) fun _ => .getFileList
  | put => exact bears.put_holds args
  | get => exact gets args
  | rename =>
    refine bears.requireConnected_holds.bind fun _ => ?_
    split
    · exact bears.run_holds .rename
    · exact bears.raise trivial
  | pwd => exact bears.connected_run .getCurrentDirectory
  | mkdir => exact bears.connected_arg .createDirectory (prompted _ _) fun _ => .createDirectory
  | rmdir => exact bears.connected_arg .removeDirectory (prompted _ _) fun _ => .removeDirectory
  | del => exact bears.connected_arg .removeFile (prompted _ _) fun _ => .removeFile
  | stat => exact bears.connected_arg .getStatus (optional _) fun _ => .getStatus
  | syst => exact bears.connected_run .getSystemType
  | type => exact bears.type_holds
  | binary => exact bears.connected_run .setTransferType
  | ascii => exact bears.connected_run .setTransferType
  | size => exact bears.size_holds args
  | noop => exact bears.connected_run .sendNoop
  | rhelp => exact bears.connected_arg .getHelp (optional _) fun _ => .getHelp
  | help => exact bears.ret _ fun _ _ => trivial
  | exit => exact bears.exit_holds

/-- However a command ends, the invariant is kept. -/
theorem handle_holds (command : Command) (args : List Bytes) :
    bears.Runs (fun _ => True) (handle command args) Ends := by
  have disconnects : bears.Runs (fun _ => True) (onClient (Client.disconnect false)) Ends :=
    bears.performs rfl (fun _ _ => .drop) fun _ _ _ => ends_wp
  refine bears.recover (bears.dispatch_holds gets command args) fun error => ?_
  cases error with
  | cmdline | filesystem | istreamFailure => exact fun _ _ broken => broken
  | ftp error =>
    have drops : bears.Runs (fun _ => True)
        (do let _reply ← onClient (Client.disconnect false)) Ends :=
      disconnects.bind fun _ => bears.ret _ fun _ => id
    have dropped := bears.recover drops fun _ => bears.handles (bears.ret () fun _ => id)
    exact bears.handles (dropped.bind fun _ => bears.raise trivial)

end Commands

section Loop

open CmdlineInterface

variable (gets : ∀ args, bears.Runs (fun _ => True) (get args) Ends)
  (iequals : Bytes → Bytes → Bool) (message : ErrorCode → Bytes)

include gets

omit bears gets in
/-- A wrong command is one that is told so. -/
private theorem parse_printed {line : Bytes}
    (parsed : CommandParser.parseCommand iequals line = .error error) : Printed error := by
  simp only [CommandParser.parseCommand, CommandParser.getCommandFromString, bind, Except.bind] at parsed
  split at parsed
  · rename_i other refused
    cases parsed
    split at refused
    · cases refused
    · cases refused
      trivial
  · cases parsed

private theorem round_holds :
    bears.Runs (fun _ => True) (CmdlineInterface.round iequals) Ends := by
  refine (bears.reads _).bind fun line => bears.ite (bears.ret _ fun _ => id) ?_
  have parsed : bears.Runs (fun _ => True) (parseCommand iequals line) Ends := by
    unfold parseCommand
    split
    · exact bears.ret _ fun _ => id
    · rename_i error parsed
      exact bears.raise (parse_printed iequals parsed)
  exact parsed.bind fun ⟨command, args⟩ => (bears.handle_holds gets command args).bind fun _ =>
    bears.ret _ fun _ => id

omit gets in
include bears in
private theorem report_holds (error : AppError) :
    Program.Triple monitor fuel (broken (.raised error)) (report message error)
      (fun value handler ghost => invariant handler ghost ∧ Ends value handler) broken := by
  cases error with
  | cmdline | ftp => exact bears.handles ((bears.asks rfl).bind fun _ => bears.ret _ fun _ => id)
  | filesystem | istreamFailure => exact fun _ _ broken => broken

private theorem rounds_holds (rest : Nat) :
    bears.Runs (fun _ => True) (rounds iequals message rest) Ends := by
  induction rest with
  | zero => exact fun handler ghost both => bears.spun handler ghost both.1
  | succ rest ih =>
    have reported := bears.recover (bears.round_holds gets iequals) (bears.report_holds message)
    exact reported.bind fun more => bears.ite ih (bears.ret _ fun _ => id)

/-- So does the whole program, round by round. -/
theorem program_holds : bears.Runs (fun _ => True) (CmdlineInterface.run iequals message) Ends :=
  bears.rounds_holds gets iequals message fuel

end Loop

end Bears

end CommandHandler

end LibFtp
