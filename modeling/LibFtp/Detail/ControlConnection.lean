import LibFtp.Detail.Socket

/-! The control connection: one socket and the bytes received behind the last
line that was taken from it. -/

namespace LibFtp

open Effect

structure ControlConnection where
  buffer : Bytes
  socket : Socket
  deriving DecidableEq, Repr

namespace ControlConnection

def new : ControlConnection := ⟨[], ⟨.plain, false⟩⟩

def onSocket (program : Method Socket Value) : Method ControlConnection Value :=
  Program.zoom ControlConnection.socket (fun connection socket => { connection with socket }) program

def tryParseStatusCode (line : Bytes) : Option UInt16 :=
  if line.length < 3 then none else Utils.tryParseUint16 (substr line 0 3)

def connect (hostname : Bytes) (port : UInt16) : Method ControlConnection Unit := do
  throwIf (← call (.resolve hostname port)) "Cannot open control connection"
  match ← call .connectControl with
  | none => Program.modify fun connection =>
      { connection with socket := { connection.socket with isOpen := true } }
  | some ec =>
    -- A failed connect does not return the socket to the closed state.
    Program.modify fun connection =>
      { connection with socket := { connection.socket with isOpen := true } }
    let _ignored ← onSocket (Socket.close .control)
    throwCode ec "Cannot open control connection"

def isConnected (connection : ControlConnection) : Bool := connection.socket.isOpen

def setSsl (layer : Layer) : Method ControlConnection Unit :=
  onSocket (Socket.setSsl .control layer)

def isSsl (connection : ControlConnection) : Bool := connection.socket.hasSslSupport

def sslHandshake : Method ControlConnection Unit := do
  throwIf (← onSocket (Socket.sslHandshake .control)) "Cannot perform SSL/TLS handshake"

def sslShutdown : Method ControlConnection Unit := do
  throwIf (← onSocket (Socket.sslShutdown .control)) "Cannot perform SSL/TLS shutdown"

/-- Shutdown the SSL layer. -/
def shutdownSsl : Method ControlConnection Unit := do
  if (← Program.get).isSsl then
    throwUnless .eof (← onSocket (Socket.sslShutdown .control)) "Cannot close control connection"

/-- Shutdown the TCP layer. The server side may have closed it already. -/
def shutdownTcp : Method ControlConnection Unit := do
  throwUnless .notConnected (← onSocket (Socket.shutdown .control)) "Cannot close control connection"

def closeSocket : Method ControlConnection Unit := do
  throwIf (← onSocket (Socket.close .control)) "Cannot close control connection"

/-- The closing steps of `disconnect` and of the 421 branch of `recv`, which
are the same statements. -/
def closeSteps : Method ControlConnection Unit := do
  shutdownSsl
  shutdownTcp
  closeSocket

def readLine : Method ControlConnection Bytes := do
  let connection ← Program.get
  let (buffer, len) ← onSocket (Socket.readLine .control connection.buffer 8192)
  match len with
  | .ok len =>
    Program.modify fun connection => { connection with buffer := buffer.drop len }
    return buffer.take len
  | .error .eof =>
    -- The end of the stream is ignored: nothing is taken from the buffer.
    Program.modify fun connection => { connection with buffer }
    return []
  | .error ec =>
    Program.modify fun connection => { connection with buffer }
    throwCode ec "Cannot receive data over control connection"

def isLastLine (line : Bytes) (statusCode : UInt16) : Bool :=
  if line.length < 4 then false
  else if getElem? line 3 ≠ some space then false
  else tryParseStatusCode line = some statusCode

/-- The loop over the lines behind the first one of a multi-line reply. -/
def recvLines (code : UInt16) : Nat → Bytes → Method ControlConnection Bytes
  | 0, _ => Program.spin
  | fuel + 1, statusString => do
    let line ← readLine
    if isLastLine line code then return statusString ++ line
    else recvLines code fuel (statusString ++ line)

/-- Drop the trailing end of line. -/
def stripEol (statusString : Bytes) : Bytes :=
  let stripped :=
    if statusString.getLast? = some lf then statusString.dropLast else statusString
  if stripped.getLast? = some cr then stripped.dropLast else stripped

/-- 421 (service not available, closing control connection) may be a reply to any command. -/
def closeIfUnavailable (code : UInt16) : Method ControlConnection Unit := do
  if code = 421 then closeSteps

def recv : Method ControlConnection Reply := do
  let line ← readLine
  match tryParseStatusCode line with
  | none => throwText "Cannot parse a status code from the server reply: '%1%'." [line]
  | some code =>
    let statusString ←
      if getElem? line 3 = some hyphen then Program.loop fun fuel => recvLines code fuel line
      else pure line
    closeIfUnavailable code
    return ⟨code, stripEol statusString⟩

def send (command : Bytes) : Method ControlConnection Unit := do
  throwIf (← onSocket (Socket.write .control (command ++ crlf)))
    "Cannot send data over control connection"

def disconnect : Method ControlConnection Unit := closeSteps

def getLocalEndpoint : Method ControlConnection Endpoint := do
  valueOrThrow (← call .localEndpoint) "Cannot get local endpoint"

def getRemoteEndpoint : Method ControlConnection Endpoint := do
  valueOrThrow (← call .remoteEndpoint) "Cannot get remote endpoint"

end ControlConnection

end LibFtp
