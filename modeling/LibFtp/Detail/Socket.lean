import LibFtp.Detail.Boundary

/-! Sockets. A `socket` or `ssl_socket` object is the layer it speaks and
whether its TCP socket is open; everything else happens outside. The calls do not look
whether the socket is open, but what they ask of the outside depends on it. -/

namespace LibFtp

open Effect

structure Socket where
  layer : Layer
  isOpen : Bool
  deriving DecidableEq, Repr

namespace Socket

def hasSslSupport (socket : Socket) : Bool := socket.layer = .ssl

/-- `set_ssl`: a new socket object over the detached TCP socket. -/
def setSsl (channel : Channel) (layer : Layer) : Method Socket Unit := do
  call (.setSsl channel layer)
  Program.modify fun socket => { socket with layer }

/-- Makes sense only for SSL sockets. -/
def sslHandshake (channel : Channel) : Method Socket (Option ErrorCode) := do
  match (← Program.get).layer with
  | .plain => return none
  | .ssl => call (.handshake channel)

/-- Makes sense only for SSL sockets. -/
def sslShutdown (channel : Channel) : Method Socket (Option ErrorCode) := do
  match (← Program.get).layer with
  | .plain => return none
  | .ssl => call (.sslShutdown channel)

def write (channel : Channel) (data : Bytes) : Method Socket (Option ErrorCode) := do
  let socket ← Program.get
  if socket.isOpen then call (.write channel socket.layer data)
  else return some (← call (.unopened channel socket.layer (.write data)))

def readSome (channel : Channel) (maxSize : Nat) :
    Method Socket (Except ErrorCode (Chunk maxSize)) := do
  let socket ← Program.get
  if socket.isOpen then call (.readSome channel socket.layer maxSize)
  else return .error (← call (.unopened channel socket.layer (.readSome maxSize)))

def shutdown (channel : Channel) : Method Socket (Option ErrorCode) := do
  let socket ← Program.get
  if socket.isOpen then call (.shutdown channel)
  else
    call (.unopened channel socket.layer .shutdown)
    return some .badDescriptor

/-- The socket is released whatever the call reports. -/
def close (channel : Channel) : Method Socket (Option ErrorCode) := do
  let socket ← Program.get
  if socket.isOpen then
    let ec ← call (.close channel)
    Program.modify fun socket => { socket with isOpen := false }
    return ec
  else
    call (.unopened channel socket.layer .close)
    return none

section Rules
variable {Ghost : Type} {monitor : Monitor boundary Ghost} {fuel : Nat} {channel : Channel}
  {fail : Stop FtpException → Socket → Ghost → Prop}

@[simp] theorem wp_setSsl {layer : Layer} {post : Unit → Socket → Ghost → Prop} :
    (setSsl channel layer).wp monitor fuel post fail = fun socket ghost =>
      ∀ answer after, monitor.step ghost ⟨.setSsl channel layer, answer⟩ after →
        post () { socket with layer } after := by
  simp [setSsl]

@[simp] theorem wp_sslHandshake {post : Option ErrorCode → Socket → Ghost → Prop} :
    (sslHandshake channel).wp monitor fuel post fail = fun socket ghost =>
      if socket.layer = .ssl then
        ∀ answer after, monitor.step ghost ⟨.handshake channel, answer⟩ after →
          post answer socket after
      else post none socket ghost := by
  funext socket ghost
  cases same : socket.layer <;> simp [sslHandshake, same]

@[simp] theorem wp_sslShutdown {post : Option ErrorCode → Socket → Ghost → Prop} :
    (sslShutdown channel).wp monitor fuel post fail = fun socket ghost =>
      if socket.layer = .ssl then
        ∀ answer after, monitor.step ghost ⟨.sslShutdown channel, answer⟩ after →
          post answer socket after
      else post none socket ghost := by
  funext socket ghost
  cases same : socket.layer <;> simp [sslShutdown, same]

@[simp] theorem wp_write {data : Bytes} {post : Option ErrorCode → Socket → Ghost → Prop} :
    (write channel data).wp monitor fuel post fail = fun socket ghost =>
      if socket.isOpen then
        ∀ answer after, monitor.step ghost ⟨.write channel socket.layer data, answer⟩ after →
          post answer socket after
      else
        ∀ (ec : ErrorCode) after,
          monitor.step ghost ⟨.unopened channel socket.layer (.write data), ec⟩ after →
            post (some ec) socket after := by
  funext socket ghost
  cases same : socket.isOpen <;> simp [write, same]

@[simp] theorem wp_readSome {maxSize : Nat}
    {post : Except ErrorCode (Chunk maxSize) → Socket → Ghost → Prop} :
    (readSome channel maxSize).wp monitor fuel post fail = fun socket ghost =>
      if socket.isOpen then
        ∀ answer after, monitor.step ghost ⟨.readSome channel socket.layer maxSize, answer⟩ after →
          post answer socket after
      else
        ∀ (ec : ErrorCode) after,
          monitor.step ghost ⟨.unopened channel socket.layer (.readSome maxSize), ec⟩ after →
            post (.error ec) socket after := by
  funext socket ghost
  cases same : socket.isOpen <;> simp [readSome, same]

@[simp] theorem wp_shutdown {post : Option ErrorCode → Socket → Ghost → Prop} :
    (shutdown channel).wp monitor fuel post fail = fun socket ghost =>
      if socket.isOpen then
        ∀ answer after, monitor.step ghost ⟨.shutdown channel, answer⟩ after →
          post answer socket after
      else
        ∀ (answer : Unit) after,
          monitor.step ghost ⟨.unopened channel socket.layer .shutdown, answer⟩ after →
          post (some .badDescriptor) socket after := by
  funext socket ghost
  cases same : socket.isOpen <;> simp [shutdown, same]

@[simp] theorem wp_close {post : Option ErrorCode → Socket → Ghost → Prop} :
    (close channel).wp monitor fuel post fail = fun socket ghost =>
      if socket.isOpen then
        ∀ answer after, monitor.step ghost ⟨.close channel, answer⟩ after →
          post answer { socket with isOpen := false } after
      else
        ∀ (answer : Unit) after,
          monitor.step ghost ⟨.unopened channel socket.layer .close, answer⟩ after →
          post none socket after := by
  funext socket ghost
  cases same : socket.isOpen <;> simp [close, same]

end Rules

/-- `match_eol`: the length up to and including the first line end. -/
def matchEol : Bytes → Option Nat
  | [] => none
  | ch :: rest =>
    if ch = lf then some 1
    else if ch = cr then
      -- Handle the CRLF case, if the line feed is there already.
      match rest with
      | next :: _ => if next = lf then some 2 else some 1
      | [] => some 1
    else (matchEol rest).map (· + 1)

/-- `boost::asio::read_until` with `match_eol` on a dynamic buffer of at most
`maxSize` bytes. What is relied on: it looks for a match before it reads, reads once
at a time behind what is buffered and never more than there is room for, looks again,
reports `not_found` when the room is used up, and stops at the first error. A read
may bring any part of the room, so it does not matter how much of it Boost asks for.
Every round but the last reads at least one byte, so `rounds` never runs out when it
starts above the room left in the buffer. -/
def readUntil (channel : Channel) (maxSize : Nat) :
    Nat → Bytes → Method Socket (Bytes × Except ErrorCode Nat)
  | 0, buffer => return (buffer, .error .notFound)
  | rounds + 1, buffer => do
    match matchEol buffer with
    | some len => return (buffer, .ok len)
    | none =>
      if maxSize ≤ buffer.length then return (buffer, .error .notFound)
      else
        match ← readSome channel (maxSize - buffer.length) with
        | .ok chunk => readUntil channel maxSize rounds (buffer ++ chunk.data)
        | .error ec => return (buffer, .error ec)

/-- The buffer after the call, and the length of its first line or the error. -/
def readLine (channel : Channel) (buffer : Bytes) (maxSize : Nat) :
    Method Socket (Bytes × Except ErrorCode Nat) :=
  readUntil channel maxSize (maxSize - buffer.length + 1) buffer

example : matchEol (text "220 ready\r\n331") = some 11 := by decide
example : matchEol (text "220 ready\r") = some 10 := by decide

end Socket

end LibFtp
