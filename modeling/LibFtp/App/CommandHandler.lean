import LibFtp.Client.Operations

/-! The command-line program: one command of the user is one or a few client
operations, and a failed one drops the connection. -/

namespace LibFtp

open Effect

inductive AppError where
  | ftp (error : FtpException)
  | cmdline (message : String) (args : List Bytes)
  | filesystem (ec : ErrorCode)
  | istreamFailure
  deriving DecidableEq, Repr

structure CommandHandler where
  ftpClient : Client
  deriving DecidableEq, Repr

inductive Command where
  | open
  | mode
  | active
  | passive
  | user
  | cd
  | cdup
  | ls
  | put
  | get
  | rename
  | pwd
  | mkdir
  | rmdir
  | del
  | stat
  | syst
  | type
  | binary
  | ascii
  | size
  | noop
  | rhelp
  | logout
  | close
  | help
  | exit
  deriving DecidableEq, Repr

namespace CommandHandler

abbrev Action (Value : Type) := Program boundary CommandHandler AppError Value

/-- The only observer is the one that prints replies and file lists. -/
def stdoutWriter : ObserverId := 0

def new : CommandHandler :=
  ⟨{ Client.new .passive .binary false true with observers := [stdoutWriter] }⟩

def onClient (program : Method Client Value) : Action Value :=
  Program.recover
    (Program.zoom CommandHandler.ftpClient (fun _ ftpClient => ⟨ftpClient⟩) program)
    fun error => Program.raise (.ftp error)

def ask (query : Boundary.Query) : Action (Boundary.Answer query) :=
  @Program.ask boundary _ _ query

def throwCmdline (message : String) (args : List Bytes) : Action Value :=
  Program.raise (.cmdline message args)

/-- What was typed; the program has made `std::cin` throw where there is nothing. -/
def typed (line : Option Bytes) : Action Bytes :=
  match line with
  | some line => pure line
  | none => Program.raise .istreamFailure

/-- `utils::read_line`. -/
def readLine (greeting : String) : Action Bytes := do typed (← ask (.consoleRead greeting))

/-- `utils::read_password`. -/
def readPassword (greeting : String) : Action Bytes := do typed (← ask (.passwordRead greeting))

section Rules
variable {Ghost : Type} {monitor : Monitor boundary Ghost} {fuel : Nat} {greeting : String}
  {post : Bytes → CommandHandler → Ghost → Prop} {fail : Stop AppError → CommandHandler → Ghost → Prop}
  {handler : CommandHandler} {ghost : Ghost}

theorem wp_readLine
    (reads : ∀ line after, monitor.step ghost ⟨.consoleRead greeting, some line⟩ after →
      post line handler after)
    (ends : ∀ after, monitor.step ghost ⟨.consoleRead greeting, none⟩ after →
      fail (.raised .istreamFailure) handler after) :
    (readLine greeting).wp monitor fuel post fail handler ghost := by
  rw [readLine, Program.wp_bind]
  intro line after step
  cases line with
  | none => exact ends after step
  | some line => exact reads line after step

theorem wp_readPassword
    (reads : ∀ line after, monitor.step ghost ⟨.passwordRead greeting, some line⟩ after →
      post line handler after)
    (ends : ∀ after, monitor.step ghost ⟨.passwordRead greeting, none⟩ after →
      fail (.raised .istreamFailure) handler after) :
    (readPassword greeting).wp monitor fuel post fail handler ghost := by
  rw [readPassword, Program.wp_bind]
  intro line after step
  cases line with
  | none => exact ends after step
  | some line => exact reads line after step

end Rules

/-- `utils::get_filename`: what follows the last slash or backslash. -/
def getFilename (path : Bytes) : Bytes :=
  (path.reverse.takeWhile fun ch => ch ≠ 92 ∧ ch ≠ 47).reverse

def requireConnected : Action Unit := do
  if !(← Program.get).ftpClient.control.isConnected then
    throwCmdline "Connection is not open." []

def requireClosed : Action Unit := do
  if (← Program.get).ftpClient.control.isConnected then
    throwCmdline "Already connected, use close first." []

/-- One argument, asked for when it is not given. -/
def promptedArg (prompt usage : String) (args : List Bytes) : Action Bytes :=
  match args with
  | [] => readLine prompt
  | [arg] => pure arg
  | _ => throwCmdline usage []

def optionalArg (usage : String) (args : List Bytes) : Action (Option Bytes) :=
  match args with
  | [] => pure none
  | [arg] => pure (some arg)
  | _ => throwCmdline usage []

/-- A local and a remote name; the second defaults to the file name of the first. -/
def transferArgs (prompt usage : String) (args : List Bytes) : Action (Bytes × Bytes) :=
  match args with
  | [] => do
    let name ← readLine prompt
    return (name, getFilename name)
  | [name] => pure (name, getFilename name)
  | [first, second] => pure (first, second)
  | _ => throwCmdline usage []

def openArgs (args : List Bytes) : Action (Bytes × UInt16) :=
  match args with
  | [] => do
    let hostname ← readLine "hostname: "
    return (hostname, 21)
  | [hostname] => pure (hostname, 21)
  | [hostname, port] =>
    match Utils.tryParseUint16 port with
    | some port => pure (hostname, port)
    | none => throwCmdline "Invalid port number." []
  | _ => throwCmdline "usage: open hostname [ port ]" []

def openConnection (args : List Bytes) : Action Unit := do
  requireClosed
  let (hostname, port) ← openArgs args
  let replies ← onClient (Client.connect hostname port none [])
  if replies.isPositive then
    let username ← readLine "username: "
    let password ← readPassword "password: "
    let _replies ← onClient (Client.login username password)

def mode : Action Unit := do
  match (← Program.get).ftpClient.transferMode with
  | .passive => ask (.consoleWrite (text "Using passive mode for data connection.\n"))
  | .active => ask (.consoleWrite (text "Using active mode for data connection.\n"))

def active : Action Unit := do
  let _none ← onClient (Client.invoke (.setTransferMode .active))
  ask (.consoleWrite (text "Active mode on.\n"))

def passive : Action Unit := do
  let _none ← onClient (Client.invoke (.setTransferMode .passive))
  ask (.consoleWrite (text "Passive mode on.\n"))

def user (args : List Bytes) : Action Unit := do
  requireConnected
  let username ← promptedArg "username: " "usage: user username" args
  let password ← readPassword "password: "
  let _replies ← onClient (Client.login username password)

/-- Commands that need a connection and run one client operation. -/
def run (operation : Client.Operation) : Action Unit := do
  let _output ← onClient (Client.invoke operation)

def cd (args : List Bytes) : Action Unit := do
  requireConnected
  run (.changeCurrentDirectory
    (← promptedArg "remote directory: " "usage: cd remote-directory" args))

def cdup : Action Unit := do
  requireConnected
  run .changeCurrentDirectoryUp

def ls (args : List Bytes) : Action Unit := do
  requireConnected
  run (.getFileList (← optionalArg "usage: ls [ remote-directory ]" args) false)

def put (args : List Bytes) : Action Unit := do
  requireConnected
  let (localFile, remoteFile) ←
    transferArgs "local-file: " "usage: put local-file [ remote-file ]" args
  if !(← ask (.fileOpen localFile)) then throwCmdline "Cannot open file '%1%'." [localFile]
  run (.uploadFile remoteFile false true)

def get (args : List Bytes) : Action Unit := do
  requireConnected
  let (remoteFile, localFile) ←
    transferArgs "remote-file: " "usage: get remote-file [ local-file ]" args
  match ← ask (.fileExists localFile) with
  | .error ec => Program.raise (.filesystem ec)
  | .ok true => throwCmdline "File '%1%' already exists." [localFile]
  | .ok false =>
    if !(← ask (.fileCreate localFile)) then throwCmdline "Cannot create file '%1%'." [localFile]
    let replies ← onClient (Client.processDownload remoteFile true)
    -- Delete the created file in case of errors.
    if !replies.isPositive then
      match ← ask (.fileRemove localFile) with
      | some ec => Program.raise (.filesystem ec)
      | none => pure ()

def rename (args : List Bytes) : Action Unit := do
  requireConnected
  match args with
  | [fromRemotePath, toRemotePath] => run (.rename fromRemotePath toRemotePath)
  | _ => throwCmdline "usage: rename from-remote-path to-remote-path" []

def pwd : Action Unit := do
  requireConnected
  run .getCurrentDirectory

def mkdir (args : List Bytes) : Action Unit := do
  requireConnected
  run (.createDirectory (← promptedArg "directory-name: " "usage: mkdir directory-name" args))

def rmdir (args : List Bytes) : Action Unit := do
  requireConnected
  run (.removeDirectory (← promptedArg "directory-name: " "usage: rmdir directory-name" args))

def del (args : List Bytes) : Action Unit := do
  requireConnected
  run (.removeFile (← promptedArg "remote-file: " "usage: del remote-file" args))

def type : Action Unit := do
  requireConnected
  match (← Program.get).ftpClient.transferType with
  | .binary => ask (.consoleWrite (text "Using binary transfer type.\n"))
  | .ascii => ask (.consoleWrite (text "Using ascii transfer type.\n"))

def binary : Action Unit := do
  requireConnected
  run (.setTransferType .binary)

def ascii : Action Unit := do
  requireConnected
  run (.setTransferType .ascii)

def size (args : List Bytes) : Action Unit := do
  requireConnected
  let remoteFile ← promptedArg "remote-file: " "usage: size remote-file" args
  let reply ← onClient (Client.getFileSize remoteFile)
  match reply.size with
  | some size => ask (.consoleWrite (toDecimal size.toNat ++ text " bytes.\n"))
  | none => pure ()

def stat (args : List Bytes) : Action Unit := do
  requireConnected
  run (.getStatus (← optionalArg "usage: stat [ remote-file ]" args))

def syst : Action Unit := do
  requireConnected
  run .getSystemType

def noop : Action Unit := do
  requireConnected
  run .sendNoop

def rhelp (args : List Bytes) : Action Unit := do
  requireConnected
  run (.getHelp (← optionalArg "usage: rhelp [ remote-command ]" args))

def logout : Action Unit := do
  requireConnected
  run .logout

def close : Action Unit := do
  requireConnected
  run (.disconnect true)

/-- All errors are ignored when the user exits. -/
def exit : Action Unit :=
  Program.recover
    (do if (← Program.get).ftpClient.control.isConnected then run (.disconnect true))
    fun _ => pure ()

def dispatch (command : Command) (args : List Bytes) : Action Unit :=
  match command with
  | .open => openConnection args
  | .mode => mode
  | .active => active
  | .passive => passive
  | .user => user args
  | .logout => logout
  | .close => close
  | .cd => cd args
  | .cdup => cdup
  | .ls => ls args
  | .put => put args
  | .get => get args
  | .rename => rename args
  | .pwd => pwd
  | .mkdir => mkdir args
  | .rmdir => rmdir args
  | .del => del args
  | .stat => stat args
  | .syst => syst
  | .type => type
  | .binary => binary
  | .ascii => ascii
  | .size => size args
  | .noop => noop
  | .rhelp => rhelp args
  -- The help text is printed; nothing else happens.
  | .help => pure ()
  | .exit => exit

/-- What follows a caught exception: an `ftp_exception` drops the connection and
is thrown again, whatever the disconnect does. -/
def dropConnection (error : AppError) : Action Unit :=
  match error with
  | .ftp _ => do
    Program.recover (do let _reply ← onClient (Client.disconnect false)) fun (_ : AppError) => pure ()
    Program.raise error
  | _ => Program.raise error

def handle (command : Command) (args : List Bytes) : Action Unit :=
  Program.recover (dispatch command args) dropConnection

end CommandHandler

end LibFtp
