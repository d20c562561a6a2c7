import LibFtp.Detail.ControlConnection
import LibFtp.Detail.Stream

/-! The client object and its one-command-one-reply exchanges. -/

namespace LibFtp

open Effect

inductive TransferMode where
  | passive
  | active
  deriving DecidableEq, Repr

/-- Of the SSL context the client only asks whether there is one; of the
observers it only keeps the order. -/
structure Client where
  transferMode : TransferMode
  transferType : TransferType
  sslContext : Bool
  rfc2428Support : Bool
  control : ControlConnection
  observers : List ObserverId
  deriving DecidableEq, Repr

namespace Client

def new (mode : TransferMode) (type : TransferType) (sslContext rfc2428Support : Bool) : Client :=
  ⟨mode, type, sslContext, rfc2428Support, .new, []⟩

def onControl (program : Method ControlConnection Value) : Method Client Value :=
  Program.zoom Client.control (fun client control => { client with control }) program

def notifyConnected (hostname : Bytes) (port : UInt16) : Method Client Unit := do
  call (.notifyConnected (← Program.get).observers hostname port)

def notifyRequest (command : Bytes) : Method Client Unit := do
  call (.notifyRequest (← Program.get).observers command)

def notifyReply (reply : Reply) : Method Client Unit := do
  call (.notifyReply (← Program.get).observers reply)

def notifyFileList (fileList : Bytes) : Method Client Unit := do
  call (.notifyFileList (← Program.get).observers fileList)

def makeCommand (command : String) (argument : Option Bytes) : Bytes :=
  match argument with
  | some argument => text command ++ text " " ++ argument
  | none => text command

def makeTypeCommand : TransferType → Bytes
  | .binary => makeCommand "TYPE" (some (text "I"))
  | .ascii => makeCommand "TYPE" (some (text "A"))

def send (command : Bytes) : Method Client Unit := do
  notifyRequest command
  onControl (ControlConnection.send command)

def recv : Method Client Reply := do
  let reply ← onControl ControlConnection.recv
  notifyReply reply
  return reply

/-- The overload of `recv` that records the reply. -/
def recvInto (replies : Replies) : Method Client (Reply × Replies) := do
  let reply ← onControl ControlConnection.recv
  notifyReply reply
  return (reply, replies.append reply)

def processCommand (command : Bytes) : Method Client Reply := do
  send command
  recv

/-- The overload of `process_command` that records the reply. -/
def processCommandInto (command : Bytes) (replies : Replies) :
    Method Client (Reply × Replies) := do
  send command
  recvInto replies

def processLogin (username password : Bytes) (replies : Replies) :
    Method Client (Reply × Replies) := do
  let (reply, replies) ← processCommandInto (makeCommand "USER" (some username)) replies
  -- 331 Username okay, need password.
  let (reply, replies) ←
    if reply.code = 331 then
      processCommandInto (makeCommand "PASS" (some password)) replies
    else pure (reply, replies)
  if reply.isNegative then return (reply, replies)
  let client ← Program.get
  if client.sslContext then
    let (reply, replies) ← processCommandInto (text "PBSZ 0") replies
    if reply.isNegative then return (reply, replies)
    let (reply, replies) ← processCommandInto (text "PROT P") replies
    if reply.isNegative then return (reply, replies)
    processCommandInto (makeTypeCommand client.transferType) replies
  else processCommandInto (makeTypeCommand client.transferType) replies

def processAbort (replies : Replies) : Method Client (Reply × Replies) := do
  let (reply, replies) ← processCommandInto (makeCommand "ABOR" none) replies
  -- 426 Connection closed; transfer aborted.
  if reply.code = 426 then recvInto replies
  else return (reply, replies)

end Client

end LibFtp
