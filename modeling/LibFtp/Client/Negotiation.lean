import LibFtp.Client.Command
import LibFtp.Detail.DataConnection

/-! The four ways to agree on a data connection. Each sends its negotiation
command, then the main command, and hands out a connection that is ready for
the transfer, or none when the server refused. -/

namespace LibFtp.Client

open Effect

/-- `229 Entering Extended Passive Mode (|||6446|)`. -/
def tryParseEpsvReply (reply : Reply) : Option UInt16 := do
  let statusString := reply.statusString
  let first ← find 40 statusString
  let last ← rfind 41 statusString
  if first ≥ last then none
  -- Skip the "(|||" and ")" parts.
  let first := first + 4
  let last := last - 1
  if first ≥ last then none
  Utils.tryParseUint16 (substr statusString first (last - first))

/-- `227 Entering Passive Mode (h1,h2,h3,h4,p1,p2)`. -/
def tryParsePasvReply (reply : Reply) : Option (Bytes × UInt16) := do
  let statusString := reply.statusString
  let first ← find 40 statusString
  let last ← rfind 41 statusString
  if first ≥ last then none
  let first := first + 1
  if first ≥ last then none
  let addressString := substr statusString first (last - first)
  match Utils.splitString addressString 44 with
  | [h1, h2, h3, h4, p1, p2] =>
    let ip := h1 ++ text "." ++ h2 ++ text "." ++ h3 ++ text "." ++ h4
    let portHigh ← Utils.tryParseUint16 p1
    let portLow ← Utils.tryParseUint16 p2
    return (ip, portHigh * 256 + portLow)
  | _ => none

def makeEprtCommand (endpoint : Endpoint) : Bytes :=
  let protocol := match endpoint.address with
    | .v4 .. => text "1"
    | .v6 _ => text "2"
  text "EPRT" ++ text " " ++ text "|" ++ protocol ++ text "|" ++ endpoint.address.toText ++
    text "|" ++ toDecimal endpoint.port.toNat ++ text "|"

def makePortCommand (endpoint : Endpoint) : Bytes :=
  text "PORT" ++ text " " ++ (endpoint.address.toText.map fun ch => if ch = 46 then 44 else ch) ++
    text "," ++ toDecimal (endpoint.port.toNat / 256) ++
    text "," ++ toDecimal (endpoint.port.toNat % 256)

/-- Session reuse only changes what happens inside the handshake. -/
def sslHandshakeDataConnection (connection : DataConnection) : Method Client DataConnection := do
  let (_, connection) ← Program.on connection (DataConnection.setSsl .ssl)
  let (_, connection) ← Program.on connection DataConnection.sslHandshake
  return connection

/-- The last step of every negotiation: TLS when the client has a context. -/
def readyConnection (connection : DataConnection) : Method Client DataConnection := do
  if (← Program.get).sslContext then sslHandshakeDataConnection connection
  else return connection

/-- The main command over a connection the client has opened. -/
def processMainCommandPassive (connection : DataConnection) (command : Bytes) (replies : Replies) :
    Method Client (Option DataConnection × Replies) := do
  let (reply, replies) ← processCommandInto command replies
  if reply.isNegative then
    let _closed ← Program.on connection (DataConnection.disconnect true)
    return (none, replies)
  let connection ← readyConnection connection
  return (some connection, replies)

def processEpsvCommand (command : Bytes) (replies : Replies) :
    Method Client (Option DataConnection × Replies) := do
  let (reply, replies) ← processCommandInto (makeCommand "EPSV" none) replies
  if reply.isNegative then return (none, replies)
  match tryParseEpsvReply reply with
  | none =>
    throwText "Cannot parse a port number from the server reply: '%1%'." [reply.statusString]
  | some remotePort =>
    let remoteEndpoint ← onControl ControlConnection.getRemoteEndpoint
    let (_, connection) ←
      Program.on DataConnection.new (DataConnection.connect ⟨remoteEndpoint.address, remotePort⟩)
    processMainCommandPassive connection command replies

def processPasvCommand (command : Bytes) (replies : Replies) :
    Method Client (Option DataConnection × Replies) := do
  let (reply, replies) ← processCommandInto (makeCommand "PASV" none) replies
  if reply.isNegative then return (none, replies)
  match tryParsePasvReply reply with
  | none =>
    throwText "Cannot parse IP address and port number from the server reply: '%1%'."
      [reply.statusString]
  | some (remoteIp, remotePort) =>
    let (_, connection) ←
      Program.on DataConnection.new (DataConnection.connectText remoteIp remotePort)
    processMainCommandPassive connection command replies

/-- The active negotiations differ in the command that carries the endpoint. -/
def processActiveCommand (makeEndpointCommand : Endpoint → Bytes) (command : Bytes)
    (replies : Replies) : Method Client (Option DataConnection × Replies) := do
  let localEndpoint ← onControl ControlConnection.getLocalEndpoint
  let (_, connection) ←
    Program.on DataConnection.new (DataConnection.listen ⟨localEndpoint.address, 0⟩)
  let (listenEndpoint, connection) ← Program.on connection DataConnection.getListenEndpoint
  let (reply, replies) ← processCommandInto (makeEndpointCommand listenEndpoint) replies
  if reply.isNegative then return (none, replies)
  let (reply, replies) ← processCommandInto command replies
  if reply.isNegative then return (none, replies)
  let (_, connection) ← Program.on connection DataConnection.accept
  let connection ← readyConnection connection
  return (some connection, replies)

def processEprtCommand (command : Bytes) (replies : Replies) :
    Method Client (Option DataConnection × Replies) :=
  processActiveCommand makeEprtCommand command replies

def processPortCommand (command : Bytes) (replies : Replies) :
    Method Client (Option DataConnection × Replies) :=
  processActiveCommand makePortCommand command replies

def createDataConnection (command : Bytes) (replies : Replies) :
    Method Client (Option DataConnection × Replies) := do
  let client ← Program.get
  match client.transferMode, client.rfc2428Support with
  | .passive, true => processEpsvCommand command replies
  | .passive, false => processPasvCommand command replies
  | .active, true => processEprtCommand command replies
  | .active, false => processPortCommand command replies

example : tryParsePasvReply ⟨227, text "227 Entering Passive Mode (127,0,0,1,8,73)."⟩ =
    some (text "127.0.0.1", 2121) := by decide
example : tryParseEpsvReply ⟨229, text "229 Entering extended passive mode (|||6446|)."⟩ =
    some 6446 := by decide

end LibFtp.Client
