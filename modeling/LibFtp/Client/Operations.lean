import LibFtp.Client.Negotiation
import LibFtp.Effect.Session

/-! The public operations of the client. -/

namespace LibFtp.Client

open Effect

def createInputStream (client : Client) : InputStream :=
  match client.transferType with
  | .binary => .binary
  | .ascii => .ascii (AsciiIstream.new 8192)

def createOutputStream (client : Client) (dst : Destination) : OutputStream :=
  ⟨client.transferType, false, dst⟩

/-- What follows the data transfer of a download or an upload. -/
def finishTransfer (connection : DataConnection) (callback : Bool) (replies : Replies) :
    Method Client Replies := do
  let cancelled ← if callback then call .isCancelled else pure false
  if cancelled then
    let (_, replies) ← processAbort replies
    -- Close the connection not gracefully in the case of abort.
    let _closed ← Program.on connection (DataConnection.disconnect false)
    return replies
  else
    let _closed ← Program.on connection (DataConnection.disconnect true)
    let (_, replies) ← recvInto replies
    return replies

def processDownload (path : Bytes) (callback : Bool) : Method Client Replies := do
  let (connection, replies) ←
    createDataConnection (makeCommand "RETR" (some path)) Replies.empty
  match connection with
  | none => return replies
  | some connection =>
    let stream := (← Program.get).createOutputStream .caller
    let (_, connection) ← Program.on connection (DataConnection.recv stream callback)
    finishTransfer connection callback replies

def processUpload (remoteCommand : String) (path : Bytes) (callback : Bool) :
    Method Client Replies := do
  let (connection, replies) ←
    createDataConnection (makeCommand remoteCommand (some path)) Replies.empty
  match connection with
  | none => return replies
  | some connection =>
    let stream := (← Program.get).createInputStream
    let (_, connection) ← Program.on connection (DataConnection.send stream callback)
    finishTransfer connection callback replies

def getFileList (path : Option Bytes) (onlyNames : Bool) : Method Client FileListReply := do
  let command := if onlyNames then makeCommand "NLST" path else makeCommand "LIST" path
  let (connection, replies) ← createDataConnection command Replies.empty
  match connection with
  | none => return .ofReplies replies []
  | some connection =>
    let stream := (← Program.get).createOutputStream (.memory [])
    let (stream, connection) ← Program.on connection (DataConnection.recv stream false)
    let fileList := match stream.dst with
      | .memory content => content
      | .caller => []
    notifyFileList fileList
    let _closed ← Program.on connection (DataConnection.disconnect true)
    let (_, replies) ← recvInto replies
    return .ofReplies replies fileList

/-- The end of `connect`: the login, when a user name is given. -/
def connectLogin (username : Option Bytes) (password : Bytes) (replies : Replies) :
    Method Client Replies :=
  match username with
  | some username => do
    let (_, replies) ← processLogin username password replies
    return replies
  | none => return replies

def connect (hostname : Bytes) (port : UInt16) (username : Option Bytes) (password : Bytes) :
    Method Client Replies := do
  onControl (ControlConnection.connect hostname port)
  notifyConnected hostname port
  -- Receive a greeting message.
  let (reply, replies) ← recvInto Replies.empty
  if reply.isNegative then return replies
  else if (← Program.get).sslContext then
    let (reply, replies) ← processCommandInto (text "AUTH TLS") replies
    if reply.isNegative then return replies
    else
      onControl (ControlConnection.setSsl .ssl)
      onControl ControlConnection.sslHandshake
      connectLogin username password replies
  else connectLogin username password replies

def login (username password : Bytes) : Method Client Replies := do
  let (_, replies) ← processLogin username password Replies.empty
  return replies

def logout : Method Client Reply := do
  let reply ← processCommand (makeCommand "REIN" none)
  -- Switch the control connection to non-SSL mode.
  if reply.isPositive ∧ (← Program.get).control.isSsl then
    onControl ControlConnection.sslShutdown
    onControl (ControlConnection.setSsl .plain)
  return reply

def rename (fromPath toPath : Bytes) : Method Client Replies := do
  let (reply, replies) ←
    processCommandInto (makeCommand "RNFR" (some fromPath)) Replies.empty
  -- 350 Ready for destination name.
  if reply.code = 350 then
    let (_, replies) ← processCommandInto (makeCommand "RNTO" (some toPath)) replies
    return replies
  else return replies

def quit (graceful : Bool) : Method Client (Option Reply) := do
  if graceful then return some (← processCommand (makeCommand "QUIT" none))
  else return none

/-- The control connection may have been closed while processing the QUIT command. -/
def closeControl : Method Client Unit := do
  if (← Program.get).control.isConnected then onControl ControlConnection.disconnect

/-- Switch the control connection to non-SSL mode. -/
def resetSsl : Method Client Unit := do
  if (← Program.get).control.isSsl then onControl (ControlConnection.setSsl .plain)

def disconnect (graceful : Bool) : Method Client (Option Reply) := do
  let reply ← quit graceful
  closeControl
  resetSsl
  return reply

def setTransferType (type : TransferType) : Method Client Reply := do
  let reply ← processCommand (makeTypeCommand type)
  if reply.isPositive then Program.modify fun client => { client with transferType := type }
  return reply

def changeCurrentDirectory (path : Bytes) : Method Client Reply :=
  processCommand (makeCommand "CWD" (some path))

def changeCurrentDirectoryUp : Method Client Reply := processCommand (makeCommand "CDUP" none)

def getCurrentDirectory : Method Client Reply := processCommand (makeCommand "PWD" none)

def removeFile (path : Bytes) : Method Client Reply :=
  processCommand (makeCommand "DELE" (some path))

def createDirectory (path : Bytes) : Method Client Reply :=
  processCommand (makeCommand "MKD" (some path))

def removeDirectory (path : Bytes) : Method Client Reply :=
  processCommand (makeCommand "RMD" (some path))

def getFileSize (path : Bytes) : Method Client FileSizeReply := do
  return .ofReply (← processCommand (makeCommand "SIZE" (some path)))

def getFileModifiedTime (path : Bytes) : Method Client FileModifiedTimeReply := do
  return .ofReply (← processCommand (makeCommand "MDTM" (some path)))

def getStatus (path : Option Bytes) : Method Client Reply :=
  processCommand (makeCommand "STAT" path)

def getSystemType : Method Client Reply := processCommand (makeCommand "SYST" none)

def getHelp (remoteCommand : Option Bytes) : Method Client Reply :=
  processCommand (makeCommand "HELP" remoteCommand)

def getSiteCommands : Method Client Reply :=
  processCommand (makeCommand "SITE" (some (text "HELP")))

def sendSiteCommand (remoteCommand : Bytes) : Method Client Reply :=
  processCommand (makeCommand "SITE" (some remoteCommand))

def sendNoop : Method Client Reply := processCommand (makeCommand "NOOP" none)

/-- The public member functions and their arguments. `callback` says whether a
transfer callback is given. -/
inductive Operation where
  | connect (hostname : Bytes) (port : UInt16) (username : Option Bytes) (password : Bytes)
  | isConnected
  | login (username password : Bytes)
  | logout
  | changeCurrentDirectory (path : Bytes)
  | changeCurrentDirectoryUp
  | getCurrentDirectory
  | downloadFile (path : Bytes) (callback : Bool)
  | uploadFile (path : Bytes) (uploadUnique callback : Bool)
  | appendFile (path : Bytes) (callback : Bool)
  | getFileList (path : Option Bytes) (onlyNames : Bool)
  | rename (fromPath toPath : Bytes)
  | removeFile (path : Bytes)
  | createDirectory (path : Bytes)
  | removeDirectory (path : Bytes)
  | getFileSize (path : Bytes)
  | getFileModifiedTime (path : Bytes)
  | getStatus (path : Option Bytes)
  | getSystemType
  | getHelp (remoteCommand : Option Bytes)
  | getSiteCommands
  | sendSiteCommand (remoteCommand : Bytes)
  | sendNoop
  | disconnect (graceful : Bool)
  | setTransferMode (mode : TransferMode)
  | getTransferMode
  | setTransferType (type : TransferType)
  | getTransferType
  | addObserver (observer : ObserverId)
  | removeObserver (observer : ObserverId)
  | setRfc2428Support (support : Bool)
  | getRfc2428Support
  deriving DecidableEq, Repr

inductive Output where
  | none
  | flag (value : Bool)
  | mode (mode : TransferMode)
  | type (type : TransferType)
  | reply (reply : Reply)
  | maybeReply (reply : Option Reply)
  | replies (replies : Replies)
  | fileList (reply : FileListReply)
  | fileSize (reply : FileSizeReply)
  | fileModifiedTime (reply : FileModifiedTimeReply)
  deriving DecidableEq, Repr

def invoke : Operation → Method Client Output
  | .connect hostname port username password =>
    return .replies (← connect hostname port username password)
  | .isConnected => return .flag (← Program.get).control.isConnected
  | .login username password => return .replies (← login username password)
  | .logout => return .reply (← logout)
  | .changeCurrentDirectory path => return .reply (← changeCurrentDirectory path)
  | .changeCurrentDirectoryUp => return .reply (← changeCurrentDirectoryUp)
  | .getCurrentDirectory => return .reply (← getCurrentDirectory)
  | .downloadFile path callback => return .replies (← processDownload path callback)
  | .uploadFile path uploadUnique callback =>
    return .replies (← processUpload (if uploadUnique then "STOU" else "STOR") path callback)
  | .appendFile path callback => return .replies (← processUpload "APPE" path callback)
  | .getFileList path onlyNames => return .fileList (← getFileList path onlyNames)
  | .rename fromPath toPath => return .replies (← rename fromPath toPath)
  | .removeFile path => return .reply (← removeFile path)
  | .createDirectory path => return .reply (← createDirectory path)
  | .removeDirectory path => return .reply (← removeDirectory path)
  | .getFileSize path => return .fileSize (← getFileSize path)
  | .getFileModifiedTime path => return .fileModifiedTime (← getFileModifiedTime path)
  | .getStatus path => return .reply (← getStatus path)
  | .getSystemType => return .reply (← getSystemType)
  | .getHelp remoteCommand => return .reply (← getHelp remoteCommand)
  | .getSiteCommands => return .reply (← getSiteCommands)
  | .sendSiteCommand remoteCommand => return .reply (← sendSiteCommand remoteCommand)
  | .sendNoop => return .reply (← sendNoop)
  | .disconnect graceful => return .maybeReply (← disconnect graceful)
  | .setTransferMode mode => do
    Program.modify fun client => { client with transferMode := mode }
    return .none
  | .getTransferMode => return .mode (← Program.get).transferMode
  | .setTransferType type => return .reply (← setTransferType type)
  | .getTransferType => return .type (← Program.get).transferType
  | .addObserver observer => do
    Program.modify fun client => { client with observers := client.observers ++ [observer] }
    return .none
  | .removeObserver observer => do
    Program.modify fun client =>
      { client with observers := client.observers.filter (· ≠ observer) }
    return .none
  | .setRfc2428Support support => do
    Program.modify fun client => { client with rfc2428Support := support }
    return .none
  | .getRfc2428Support => return .flag (← Program.get).rfc2428Support

end LibFtp.Client
