import LibFtp.Detail.Socket
import LibFtp.Detail.Stream

/-! The data connection of one transfer: opened to or accepted from the server,
upgraded to TLS, used by one of the two transfer loops, and closed. -/

namespace LibFtp

open Effect

structure DataConnection where
  socket : Socket
  acceptorOpen : Bool
  deriving DecidableEq, Repr

namespace DataConnection

def new : DataConnection := ⟨⟨.plain, false⟩, false⟩

def onSocket (program : Method Socket Value) : Method DataConnection Value :=
  Program.zoom DataConnection.socket (fun connection socket => { connection with socket }) program

def setOpen (connection : DataConnection) : DataConnection :=
  { connection with socket := { connection.socket with isOpen := true } }

def connect (endpoint : Endpoint) : Method DataConnection Unit := do
  match ← call (.connectData endpoint) with
  | none => Program.modify setOpen
  | some ec =>
    Program.modify setOpen
    let _ignored ← onSocket (Socket.close .data)
    throwCode ec "Cannot open data connection"

/-- The overload that takes the address as text. -/
def connectText (ip : Bytes) (port : UInt16) : Method DataConnection Unit := do
  let address ← valueOrThrow (← call (.makeAddress ip)) "Cannot get IP address"
  connect ⟨address, port⟩

def listen (endpoint : Endpoint) : Method DataConnection Unit := do
  throwIf (← call .acceptorOpen) "Cannot open socket acceptor"
  Program.modify fun connection => { connection with acceptorOpen := true }
  throwIf (← call (.acceptorBind endpoint)) "Cannot bind socket acceptor"
  throwIf (← call .acceptorListen) "Cannot listen socket acceptor"

def accept : Method DataConnection Unit := do
  throwIf (← call .acceptorAccept) "Cannot accept data connection"
  Program.modify setOpen

def setSsl (layer : Layer) : Method DataConnection Unit := onSocket (Socket.setSsl .data layer)

def sslHandshake : Method DataConnection Unit := do
  throwIf (← onSocket (Socket.sslHandshake .data)) "Cannot perform SSL/TLS handshake"

/-- Size of the transfer buffer. -/
def bufSize : Nat := 8192

/-- The loop of `send`. -/
def sendLoop (callback : Bool) : Nat → InputStream → Method DataConnection InputStream
  | 0, _ => Program.spin
  | fuel + 1, stream => do
    let (buf, stream) ← Program.on stream (InputStream.read bufSize)
    if buf.isEmpty then return stream
    else
      throwIf (← onSocket (Socket.write .data buf)) "Cannot send data over data connection"
      if callback then
        call (.transferNotify buf.length)
        if ← call .isCancelled then return stream
        else sendLoop callback fuel stream
      else sendLoop callback fuel stream

def send (stream : InputStream) (callback : Bool) : Method DataConnection InputStream := do
  if callback then
    if ← call .isCancelled then return stream
    else
      call .transferBegin
      let stream ← Program.loop fun fuel => sendLoop callback fuel stream
      call .transferEnd
      return stream
  else Program.loop fun fuel => sendLoop callback fuel stream

/-- The loop of `recv`, with the error code it ends with. -/
def recvLoop (callback : Bool) :
    Nat → OutputStream → Method DataConnection (OutputStream × Option ErrorCode)
  | 0, _ => Program.spin
  | fuel + 1, stream => do
    match ← onSocket (Socket.readSome .data bufSize) with
    | .error ec => return (stream, some ec)
    | .ok chunk =>
      let (_, stream) ← Program.on stream (OutputStream.write chunk.data)
      if callback then
        call (.transferNotify chunk.data.length)
        if ← call .isCancelled then return (stream, none)
        else recvLoop callback fuel stream
      else recvLoop callback fuel stream

/-- What follows the loop of `recv`. -/
def recvTail (stream : OutputStream) (ec : Option ErrorCode) :
    Method DataConnection OutputStream := do
  throwUnless .eof ec "Cannot receive data over data connection"
  let (_, stream) ← Program.on stream OutputStream.flush
  return stream

def recv (stream : OutputStream) (callback : Bool) : Method DataConnection OutputStream := do
  if callback then
    if ← call .isCancelled then return stream
    else
      call .transferBegin
      let (stream, ec) ← Program.loop fun fuel => recvLoop callback fuel stream
      let stream ← recvTail stream ec
      call .transferEnd
      return stream
  else
    let (stream, ec) ← Program.loop fun fuel => recvLoop callback fuel stream
    recvTail stream ec

/-- Shutdown the SSL layer. -/
def shutdownSsl : Method DataConnection Unit := do
  if (← Program.get).socket.hasSslSupport then
    throwUnless .eof (← onSocket (Socket.sslShutdown .data)) "Cannot close data connection"

/-- Shutdown the TCP layer. The server side may have closed it already. -/
def shutdownTcp (graceful : Bool) : Method DataConnection Unit := do
  if graceful then
    throwUnless .notConnected (← onSocket (Socket.shutdown .data)) "Cannot close data connection"

def closeSocket : Method DataConnection Unit := do
  throwIf (← onSocket (Socket.close .data)) "Cannot close data connection"

def closeAcceptor : Method DataConnection Unit := do
  if (← Program.get).acceptorOpen then
    let ec ← call .acceptorClose
    Program.modify fun connection => { connection with acceptorOpen := false }
    throwIf ec "Cannot close data connection"

def disconnect (graceful : Bool) : Method DataConnection Unit := do
  shutdownSsl
  shutdownTcp graceful
  closeSocket
  closeAcceptor

def getListenEndpoint : Method DataConnection Endpoint := do
  valueOrThrow (← call .acceptorEndpoint) "Cannot get listen endpoint"

end DataConnection

end LibFtp
