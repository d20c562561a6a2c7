import LibFtp.Detail.Boundary

/-! Surroundings that follow a script: what arrives on the two channels, what
the source holds, when the callback is cancelled, and which calls fail. -/

namespace LibFtp

open Effect

structure Script where
  control : List Bytes
  data : List Bytes
  source : List Bytes
  cancelled : List Bool
  fails : Boundary.Query → Option ErrorCode

namespace Script

/-- The next piece of a list, when it fits. -/
def piece (maxSize : Nat) : List Bytes → Except ErrorCode (Chunk maxSize) × List Bytes
  | [] => (.error .eof, [])
  | data :: rest =>
    if fits : data ≠ [] ∧ data.length ≤ maxSize then (.ok ⟨data, fits.1, fits.2⟩, rest)
    else (.error .eof, data :: rest)

def block (maxSize : Nat) : List Bytes → Block maxSize × List Bytes
  | [] => (⟨[], Nat.zero_le _⟩, [])
  | data :: rest =>
    if fits : data.length ≤ maxSize then (⟨data, fits⟩, rest)
    else (⟨[], Nat.zero_le _⟩, data :: rest)

/-- Every address is this one, at the port of the data connections of the script. -/
def endpoint : Endpoint := ⟨.v4 127 0 0 1, 2021⟩

def respond : (query : Boundary.Query) → Script → Boundary.Answer query × Script
  | .readSome .control _ maxSize, script =>
    let (answer, control) := piece maxSize script.control
    (answer, { script with control })
  | .readSome .data _ maxSize, script =>
    let (answer, data) := piece maxSize script.data
    (answer, { script with data })
  | .sourceRead maxSize, script =>
    let (answer, source) := block maxSize script.source
    (.ok answer, { script with source })
  | .isCancelled, script =>
    match script.cancelled with
    | [] => (false, script)
    | answer :: cancelled => (answer, { script with cancelled })
  | .makeAddress _, script => (.ok endpoint.address, script)
  | .localEndpoint, script | .remoteEndpoint, script | .acceptorEndpoint, script =>
    (.ok endpoint, script)
  | .resolve hostname port, script => (script.fails (.resolve hostname port), script)
  | .connectControl, script => (script.fails .connectControl, script)
  | .connectData endpoint, script => (script.fails (.connectData endpoint), script)
  | .handshake channel, script => (script.fails (.handshake channel), script)
  | .sslShutdown channel, script => (script.fails (.sslShutdown channel), script)
  | .shutdown channel, script => (script.fails (.shutdown channel), script)
  | .close channel, script => (script.fails (.close channel), script)
  | .write channel layer data, script => (script.fails (.write channel layer data), script)
  | .unopened _ _ (.write _), script | .unopened _ _ (.readSome _), script =>
    (.badDescriptor, script)
  | .unopened _ _ .shutdown, script | .unopened _ _ .close, script => ((), script)
  | .acceptorOpen, script => (script.fails .acceptorOpen, script)
  | .acceptorBind endpoint, script => (script.fails (.acceptorBind endpoint), script)
  | .acceptorListen, script => (script.fails .acceptorListen, script)
  | .acceptorAccept, script => (script.fails .acceptorAccept, script)
  | .acceptorClose, script => (script.fails .acceptorClose, script)
  | .sinkWrite _, script | .sinkFlush, script => (none, script)
  | .consoleRead _, script | .passwordRead _, script => (some [], script)
  | .fileOpen _, script | .fileCreate _, script => (true, script)
  | .fileExists _, script => (.ok false, script)
  | .fileRemove path, script => (script.fails (.fileRemove path), script)
  | .setSsl .., script | .notifyConnected .., script | .notifyRequest .., script
  | .notifyReply .., script | .notifyFileList .., script | .transferBegin, script
  | .transferNotify _, script | .transferEnd, script | .consoleWrite _, script => ((), script)

def host : Host boundary Script := ⟨respond⟩

/-- Nothing fails, and only the control channel carries anything. -/
def ofReplies (control : List Bytes) : Script := ⟨control, [], [], [], fun _ => none⟩

end Script

end LibFtp
