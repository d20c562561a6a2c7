import LibFtp.Detail.Boundary

/-! The streams between the caller's source or destination and the data
connection: unchanged in binary type, with line ends converted in ASCII type. -/

namespace LibFtp

open Effect

inductive TransferType where
  | binary
  | ascii
  deriving DecidableEq, Repr

/-- `input_stream::read` of the caller's source. -/
def readSource (maxSize : Nat) : Method State Bytes := do
  match ← call (.sourceRead maxSize) with
  | .ok block => return block.data
  | .error error => Program.raise error

/-- `internal` is the part of the buffer from `internal_pos_` to
`internal_size_`. -/
structure AsciiIstream where
  needLinefeed : Bool
  skipLinefeed : Bool
  internal : Bytes
  bufSize : Nat
  deriving DecidableEq, Repr

namespace AsciiIstream

def new (bufSize : Nat) : AsciiIstream := ⟨false, false, [], bufSize⟩

/-- The output so far is `buf[0..pos)`. -/
def appendCrlf (stream : AsciiIstream) (buf : Bytes) (size : Nat) : AsciiIstream × Bytes :=
  let buf := buf ++ [cr]
  if buf.length ≥ size then ({ stream with needLinefeed := true }, buf)
  else (stream, buf ++ [lf])

def convertChar (stream : AsciiIstream) (buf : Bytes) (size : Nat) (ch : Byte) :
    AsciiIstream × Bytes :=
  if ch = cr then
    let (stream, buf) := stream.appendCrlf buf size
    ({ stream with skipLinefeed := true }, buf)
  else if ch = lf then
    let (stream, buf) :=
      if stream.skipLinefeed then (stream, buf) else stream.appendCrlf buf size
    ({ stream with skipLinefeed := false }, buf)
  else ({ stream with skipLinefeed := false }, buf ++ [ch])

/-- The inner loop over the rest of the internal buffer. -/
def convert (size : Nat) : Bytes → AsciiIstream → Bytes → AsciiIstream × Bytes
  | [], stream, buf => ({ stream with internal := [] }, buf)
  | ch :: rest, stream, buf =>
    let (stream, buf) := stream.convertChar buf size ch
    if buf.length ≥ size then ({ stream with internal := rest }, buf)
    else convert size rest stream buf

/-- The outer loop. -/
def fill (size : Nat) : Nat → Bytes → Method AsciiIstream Bytes
  | 0, _ => Program.spin
  | fuel + 1, buf => do
    if buf.length ≥ size then return buf
    else
      let stream ← Program.get
      let internal ←
        if stream.internal.isEmpty then readSource stream.bufSize else pure stream.internal
      if internal.isEmpty then return buf
      else
        let (stream, buf) := convert size internal stream buf
        Program.modify fun _ => stream
        fill size fuel buf

def read (size : Nat) : Method AsciiIstream Bytes := do
  let stream ← Program.get
  if 0 < size ∧ stream.needLinefeed then
    -- Handle unfinished business.
    Program.modify fun stream => { stream with needLinefeed := false }
    Program.loop fun fuel => fill size fuel [lf]
  else Program.loop fun fuel => fill size fuel []

end AsciiIstream

/-- `create_input_stream` hands out one of the two classes. -/
inductive InputStream where
  | binary
  | ascii (stream : AsciiIstream)
  deriving DecidableEq, Repr

def InputStream.read (size : Nat) : Method InputStream Bytes := do
  match ← Program.get with
  | .binary => readSource size
  | .ascii stream =>
    let (buf, stream) ← Program.on stream (AsciiIstream.read size)
    Program.modify fun _ => .ascii stream
    return buf

/-- The destination of a download: the caller's `output_stream`, or the string
stream that collects a file list and never fails. -/
inductive Destination where
  | caller
  | memory (content : Bytes)
  deriving DecidableEq, Repr

namespace Destination

def write (data : Bytes) : Method Destination Unit := do
  match ← Program.get with
  | .caller =>
    match ← call (.sinkWrite data) with
    | none => return ()
    | some error => Program.raise error
  | .memory content => Program.modify fun _ => .memory (content ++ data)

def flush : Method Destination Unit := do
  match ← Program.get with
  | .caller =>
    match ← call .sinkFlush with
    | none => return ()
    | some error => Program.raise error
  | .memory _ => return ()

end Destination

/-- `create_output_stream` hands out a stream of the transfer type in force.
Only the ASCII stream uses `prevCr`. -/
structure OutputStream where
  type : TransferType
  prevCr : Bool
  dst : Destination
  deriving DecidableEq, Repr

namespace OutputStream

/-- One byte through the ASCII stream: the pending-CR flag and the bytes put out. -/
def convertChar (prevCr : Bool) (ch : Byte) : Bool × Bytes :=
  if ch = cr then (true, if prevCr then [ch] else [])
  else if ch = lf then (false, [lf])
  else (false, if prevCr then [cr, ch] else [ch])

def convert : Bool → Bytes → Bool × Bytes
  | prevCr, [] => (prevCr, [])
  | prevCr, ch :: rest =>
    let (held, front) := convertChar prevCr ch
    let (last, back) := convert held rest
    (last, front ++ back)

def onDestination (program : Method Destination Value) : Method OutputStream Value :=
  Program.zoom OutputStream.dst (fun stream dst => { stream with dst }) program

def write (data : Bytes) : Method OutputStream Unit := do
  let stream ← Program.get
  match stream.type with
  | .binary => onDestination (Destination.write data)
  | .ascii =>
    let (prevCr, internal) := convert stream.prevCr data
    Program.modify fun stream => { stream with prevCr }
    onDestination (Destination.write internal)

def flush : Method OutputStream Unit := do
  let stream ← Program.get
  if stream.type = .ascii ∧ stream.prevCr then
    onDestination (Destination.write [cr])
    Program.modify fun stream => { stream with prevCr := false }
  onDestination Destination.flush

end OutputStream

end LibFtp
