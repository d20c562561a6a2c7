import LibFtp.Effect.Program
import LibFtp.Reply

/-! What the client leaves to its surroundings: sockets, the TLS library, name
resolution, the caller's streams and transfer callback, and the observers; for
the command-line program also the console and the local files. The answers carry
what the called interfaces promise: a read returns at least one byte or an error,
and no more than was asked for. -/

namespace LibFtp

/-- The `boost::system::error_code` values the code tells apart. -/
inductive ErrorCode where
  | eof
  | notConnected
  | notFound
  | badDescriptor
  | other (value : Nat)
  deriving DecidableEq, Repr

/-- An `ftp_exception`: its format, the arguments, and the error code whose
message is appended. -/
structure FtpException where
  fmt : String
  args : List Bytes
  ec : Option ErrorCode
  deriving DecidableEq, Repr

def FtpException.ofCode (ec : ErrorCode) (fmt : String) : FtpException := ⟨fmt, [], some ec⟩

/-- An IPv6 address in the colon notation that `to_string` prints. -/
structure Ipv6Text where
  chars : Bytes
  colon : 58 ∈ chars
  plain : ∀ ch ∈ chars, ch ≠ 124 ∧ ch ≠ cr ∧ ch ≠ lf
  deriving DecidableEq, Repr

inductive Address where
  | v4 (h1 h2 h3 h4 : Byte)
  | v6 (literal : Ipv6Text)
  deriving DecidableEq, Repr

/-- `net_utils::address_to_string`. -/
def Address.toText : Address → Bytes
  | .v4 h1 h2 h3 h4 => toDecimal h1.toNat ++ text "." ++ toDecimal h2.toNat ++ text "." ++
      toDecimal h3.toNat ++ text "." ++ toDecimal h4.toNat
  | .v6 literal => literal.chars

structure Endpoint where
  address : Address
  port : UInt16
  deriving DecidableEq, Repr

inductive Channel where
  | control
  | data
  deriving DecidableEq, Repr

/-- The two classes behind `socket_base`: `socket` and `ssl_socket`. -/
inductive Layer where
  | plain
  | ssl
  deriving DecidableEq, Repr

/-- The bytes of one successful `read_some`. -/
structure Chunk (maxSize : Nat) where
  data : Bytes
  nonempty : data ≠ []
  fits : data.length ≤ maxSize
  deriving DecidableEq, Repr

/-- The bytes of one `input_stream::read`; none at the end of the stream. -/
structure Block (maxSize : Nat) where
  data : Bytes
  fits : data.length ≤ maxSize
  deriving DecidableEq, Repr

/-- What may be asked of a TCP socket that is not open. -/
inductive SocketCall where
  | write (data : Bytes)
  | readSome (maxSize : Nat)
  | shutdown
  | close
  deriving DecidableEq, Repr

/-- A write or a read fails, with an error that depends on the layer above. A shutdown always
fails with the same error, and there is nothing to close. -/
abbrev SocketCall.Refusal : SocketCall → Type
  | .write _ | .readSome _ => ErrorCode
  | .shutdown | .close => Unit

abbrev ObserverId := Nat

namespace Boundary

inductive Query where
  | resolve (hostname : Bytes) (port : UInt16)
  | connectControl
  | connectData (endpoint : Endpoint)
  | makeAddress (ip : Bytes)
  | setSsl (channel : Channel) (layer : Layer)
  | handshake (channel : Channel)
  | sslShutdown (channel : Channel)
  | shutdown (channel : Channel)
  | close (channel : Channel)
  | write (channel : Channel) (layer : Layer) (data : Bytes)
  | readSome (channel : Channel) (layer : Layer) (maxSize : Nat)
  | unopened (channel : Channel) (layer : Layer) (request : SocketCall)
  | localEndpoint
  | remoteEndpoint
  | acceptorOpen
  | acceptorBind (endpoint : Endpoint)
  | acceptorListen
  | acceptorEndpoint
  | acceptorAccept
  | acceptorClose
  | notifyConnected (observers : List ObserverId) (hostname : Bytes) (port : UInt16)
  | notifyRequest (observers : List ObserverId) (command : Bytes)
  | notifyReply (observers : List ObserverId) (reply : Reply)
  | notifyFileList (observers : List ObserverId) (fileList : Bytes)
  | transferBegin
  | transferNotify (size : Nat)
  | transferEnd
  | isCancelled
  | sourceRead (maxSize : Nat)
  | sinkWrite (data : Bytes)
  | sinkFlush
  | consoleRead (prompt : String)
  | passwordRead (prompt : String)
  | consoleWrite (output : Bytes)
  | fileOpen (path : Bytes)
  | fileExists (path : Bytes)
  | fileCreate (path : Bytes)
  | fileRemove (path : Bytes)
  deriving DecidableEq, Repr

/-- An answer of type `Option ErrorCode` is the error code a call leaves. Without an answer the
console has failed, as at the end of its input. -/
abbrev Answer : Query → Type
  | .resolve .. | .connectControl | .connectData _ => Option ErrorCode
  | .makeAddress _ => Except ErrorCode Address
  | .setSsl .. => Unit
  | .handshake _ | .sslShutdown _ | .shutdown _ | .close _ | .write .. => Option ErrorCode
  | .readSome _ _ maxSize => Except ErrorCode (Chunk maxSize)
  | .unopened _ _ request => request.Refusal
  | .localEndpoint | .remoteEndpoint | .acceptorEndpoint => Except ErrorCode Endpoint
  | .acceptorOpen | .acceptorBind _ | .acceptorListen | .acceptorAccept | .acceptorClose =>
    Option ErrorCode
  | .notifyConnected .. | .notifyRequest .. | .notifyReply .. | .notifyFileList .. => Unit
  | .transferBegin | .transferNotify _ | .transferEnd => Unit
  | .isCancelled => Bool
  | .sourceRead maxSize => Except FtpException (Block maxSize)
  | .sinkWrite _ | .sinkFlush => Option FtpException
  | .consoleRead _ | .passwordRead _ => Option Bytes
  | .consoleWrite _ => Unit
  | .fileOpen _ | .fileCreate _ => Bool
  | .fileExists _ => Except ErrorCode Bool
  | .fileRemove _ => Option ErrorCode

instance (request : SocketCall) : DecidableEq request.Refusal := by
  cases request <;> exact inferInstance

instance (query : Query) : DecidableEq (Answer query) := by
  cases query <;> exact inferInstance

end Boundary

abbrev boundary : Effect.Interface := ⟨Boundary.Query, Boundary.Answer⟩

abbrev BoundaryEvent := Effect.Event boundary

instance : DecidableEq BoundaryEvent :=
  inferInstanceAs (DecidableEq (Effect.Event ⟨Boundary.Query, Boundary.Answer⟩))

/-- A member function of an object of the given state. -/
abbrev Method (State Value : Type) := Effect.Program boundary State FtpException Value

/-- Ask the surroundings. -/
def call (query : Boundary.Query) : Method State (Boundary.Answer query) :=
  @Effect.Program.ask boundary _ _ query

def throwCode (ec : ErrorCode) (fmt : String) : Method State Value :=
  Effect.Program.raise (.ofCode ec fmt)

def throwText (fmt : String) (args : List Bytes) : Method State Value :=
  Effect.Program.raise ⟨fmt, args, none⟩

/-- `if (ec) throw ftp_exception(ec, fmt);` -/
def throwIf (ec : Option ErrorCode) (fmt : String) : Method State Unit :=
  match ec with
  | some ec => throwCode ec fmt
  | none => pure ()

/-- The same where one error code is tolerated. -/
def throwUnless (tolerated : ErrorCode) (ec : Option ErrorCode) (fmt : String) :
    Method State Unit :=
  match ec with
  | some ec => if ec = tolerated then pure () else throwCode ec fmt
  | none => pure ()

/-- Take the value of a call that reports its error by `ec`, or throw. -/
def valueOrThrow (answer : Except ErrorCode Value) (fmt : String) : Method State Value :=
  match answer with
  | .ok value => pure value
  | .error ec => throwCode ec fmt

section Rules
variable {Ghost : Type} {monitor : Effect.Monitor boundary Ghost} {fuel : Nat}
  {fail : Effect.Stop FtpException → State → Ghost → Prop}

@[simp] theorem wp_call (query : Boundary.Query)
    {post : Boundary.Answer query → State → Ghost → Prop} :
    @Effect.Program.wp boundary State FtpException (no_index (Boundary.Answer query)) Ghost
        monitor fuel (call query) post fail =
      fun state ghost => ∀ answer after, monitor.step ghost ⟨query, answer⟩ after →
        post answer state after := rfl

@[simp] theorem wp_throwCode (ec : ErrorCode) (fmt : String) {post : Value → State → Ghost → Prop} :
    (throwCode ec fmt : Method State Value).wp monitor fuel post fail =
      fail (.raised (.ofCode ec fmt)) := rfl

@[simp] theorem wp_throwText (fmt : String) (args : List Bytes)
    {post : Value → State → Ghost → Prop} :
    (throwText fmt args : Method State Value).wp monitor fuel post fail =
      fail (.raised ⟨fmt, args, none⟩) := rfl

@[simp] theorem wp_throwIf (ec : Option ErrorCode) (fmt : String)
    {post : Unit → State → Ghost → Prop} :
    (throwIf ec fmt : Method State Unit).wp monitor fuel post fail =
      match ec with
      | some ec => fail (.raised (.ofCode ec fmt))
      | none => post () := by
  cases ec <;> rfl

@[simp] theorem wp_throwUnless (tolerated : ErrorCode) (ec : Option ErrorCode) (fmt : String)
    {post : Unit → State → Ghost → Prop} :
    (throwUnless tolerated ec fmt : Method State Unit).wp monitor fuel post fail =
      match ec with
      | some ec => if ec = tolerated then post () else fail (.raised (.ofCode ec fmt))
      | none => post () := by
  cases ec with
  | none => rfl
  | some ec =>
    simp only [throwUnless, Effect.Program.wp_ite]
    rfl

@[simp] theorem wp_valueOrThrow (answer : Except ErrorCode Value) (fmt : String)
    {post : Value → State → Ghost → Prop} :
    (valueOrThrow answer fmt : Method State Value).wp monitor fuel post fail =
      match answer with
      | .ok value => post value
      | .error ec => fail (.raised (.ofCode ec fmt)) := by
  cases answer <;> rfl

section Keeps
variable {State Value : Type} {kept left : State → Ghost → Prop}
  (stops : ∀ state ghost, kept state ghost → left state ghost)

include stops

/-- To throw changes nothing. -/
theorem throwIf_keeps (ec : Option ErrorCode) (fmt : String) :
    (throwIf ec fmt : Method State Unit).Keeps monitor kept left := by
  cases ec with
  | none => exact .pure ()
  | some ec => exact .raise _ stops

theorem throwUnless_keeps (tolerated : ErrorCode) (ec : Option ErrorCode) (fmt : String) :
    (throwUnless tolerated ec fmt : Method State Unit).Keeps monitor kept left := by
  cases ec with
  | none => exact .pure ()
  | some ec => exact .ite (.pure ()) (.raise _ stops)

theorem valueOrThrow_keeps (answer : Except ErrorCode Value) (fmt : String) :
    (valueOrThrow answer fmt : Method State Value).Keeps monitor kept left := by
  cases answer with
  | ok value => exact .pure value
  | error ec => exact .raise _ stops

end Keeps

end Rules

end LibFtp
