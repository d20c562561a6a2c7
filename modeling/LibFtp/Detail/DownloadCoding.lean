import LibFtp.Detail.Ascii
import LibFtp.Detail.Script

/-! The ASCII coding of a download: however the wire bytes are cut into blocks, the
destination gets their decoding, and is flushed once behind it. -/

namespace LibFtp

open Effect

/-- A destination that accepts everything. The ghost state is what it was asked. -/
def accepts : Monitor boundary (List Boundary.Query) where
  step asked event after :=
    match event with
    | ⟨.sinkWrite data, error⟩ => error = none ∧ after = asked ++ [.sinkWrite data]
    | ⟨.sinkFlush, error⟩ => error = none ∧ after = asked ++ [.sinkFlush]
    | _ => after = asked

/-- The questions to the caller's stream. -/
inductive Sink : Boundary.Query → Prop where
  | write (data : Bytes) : Sink (.sinkWrite data)
  | flush : Sink .sinkFlush

/-- The monitor follows the questions to the caller's stream by `record`; `broken` where
one of them reports an error. -/
structure Records {Ghost : Type} (monitor : Monitor boundary Ghost)
    (record : Ghost → Boundary.Query → Ghost) (broken : Prop) : Prop where
  done : ∀ ghost query answer after, Sink query → monitor.step ghost ⟨query, answer⟩ after →
    after = record ghost query
  notWritten : ∀ ghost data error after,
    monitor.step ghost ⟨.sinkWrite data, some error⟩ after → broken
  notFlushed : ∀ ghost error after, monitor.step ghost ⟨.sinkFlush, some error⟩ after → broken

namespace Destination

/-- The destination once it has taken some more bytes. -/
def take (dst : Destination) (data : Bytes) : Destination :=
  match dst with
  | .caller => .caller
  | .memory content => .memory (content ++ data)

/-- What is asked of the caller: nothing where the bytes are collected. -/
def asks (dst : Destination) (queries : List Boundary.Query) : List Boundary.Query :=
  match dst with
  | .caller => queries
  | .memory _ => []

@[simp] theorem take_nil (dst : Destination) : dst.take [] = dst := by
  cases dst with
  | caller => rfl
  | memory content => exact congrArg _ (List.append_nil content)

@[simp] theorem take_append (dst : Destination) (front back : Bytes) :
    (dst.take front).take back = dst.take (front ++ back) := by
  cases dst with
  | caller => rfl
  | memory content => exact congrArg _ (List.append_assoc ..)

@[simp] theorem take_asks (dst : Destination) (data : Bytes) (queries : List Boundary.Query) :
    (dst.take data).asks queries = dst.asks queries := by
  cases dst <;> rfl

theorem asks_append (dst : Destination) (front back : List Boundary.Query) :
    dst.asks (front ++ back) = dst.asks front ++ dst.asks back := by
  cases dst <;> rfl

end Destination

namespace OutputStream

open Ascii

/-- What a stream of the type does to the bytes of a transfer. -/
def coder : TransferType → Transducer Bool Byte Byte
  | .binary => ⟨fun prevCr ch => (prevCr, [ch])⟩
  | .ascii => decoder

theorem feed_binary (prevCr : Bool) (data : Bytes) :
    (coder .binary).feed prevCr data = (prevCr, data) := by
  induction data with
  | nil => rfl
  | cons ch rest ih =>
    have step : (coder .binary).step prevCr ch = (prevCr, [ch]) := rfl
    rw [Transducer.feed_cons, step, ih]
    rfl

/-- What one block puts out. -/
def emit (stream : OutputStream) (data : Bytes) : Bytes :=
  ((coder stream.type).feed stream.prevCr data).2

/-- The stream behind one block. -/
def advance (stream : OutputStream) (data : Bytes) : OutputStream :=
  { stream with prevCr := ((coder stream.type).feed stream.prevCr data).1
                dst := stream.dst.take (stream.emit data) }

/-- The CR that a flush puts out. -/
def pending (stream : OutputStream) : List Bytes :=
  if stream.type = .ascii ∧ stream.prevCr then [[cr]] else []

/-- The stream behind a flush. -/
def settled (stream : OutputStream) : OutputStream :=
  { stream with prevCr := if stream.type = .ascii then false else stream.prevCr
                dst := stream.dst.take stream.pending.flatten }

/-- Write the blocks one after the other, and flush. -/
def writeAll : List Bytes → Method OutputStream Unit
  | [] => flush
  | block :: blocks => do
    write block
    writeAll blocks

/-- What `writeAll` puts out: something for every block, and what was pending. -/
def written (stream : OutputStream) : List Bytes → List Bytes
  | [] => stream.pending
  | block :: blocks => stream.emit block :: (stream.advance block).written blocks

theorem written_binary (prevCr : Bool) (dst : Destination) (blocks : List Bytes) :
    written ⟨.binary, prevCr, dst⟩ blocks = blocks := by
  induction blocks generalizing prevCr dst with
  | nil => rfl
  | cons block blocks ih =>
    have emitted : emit ⟨.binary, prevCr, dst⟩ block = block :=
      congrArg Prod.snd (feed_binary prevCr block)
    rw [written, emitted]
    exact congrArg (block :: ·) (ih _ _)

/-- The blocks go through the coder one after the other. -/
private theorem written_eq (stream : OutputStream) (blocks : List Bytes) :
    stream.written blocks = ((coder stream.type).feedAll stream.prevCr blocks).2 ++
      pending { stream with prevCr := ((coder stream.type).feedAll stream.prevCr blocks).1 } := by
  induction blocks generalizing stream with
  | nil => rfl
  | cons block blocks ih => exact congrArg (stream.emit block :: ·) (ih (stream.advance block))

private theorem pending_ascii (prevCr : Bool) (dst : Destination) :
    (pending ⟨.ascii, prevCr, dst⟩).flatten = withheld prevCr := by
  cases prevCr <;> rfl

theorem written_ascii (prevCr : Bool) (dst : Destination) (blocks : List Bytes) :
    (written ⟨.ascii, prevCr, dst⟩ blocks).flatten =
      joinCrlf (withheld prevCr ++ blocks.flatten) := by
  have decoded := feed_decoder prevCr blocks.flatten
  rw [Transducer.feedAll_flatten] at decoded
  rw [written_eq, List.flatten_append, pending_ascii]
  exact decoded

section Rules
variable {Ghost : Type} {monitor : Monitor boundary Ghost} {record : Ghost → Boundary.Query → Ghost}
  {broken : Prop} (records : Records monitor record broken) (fuel : Nat)

include records

private theorem write_asks (dst : Destination) (data : Bytes) (ghost : Ghost) :
    (Destination.write data).wp monitor fuel
      (fun _ after last => after = dst.take data ∧
        last = (dst.asks [.sinkWrite data]).foldl record ghost)
      (fun _ _ _ => broken) dst ghost := by
  cases dst with
  | caller =>
    simp only [Destination.write, Program.wp_bind, Program.wp_get, wp_call]
    intro answer after step
    cases answer with
    | none => exact ⟨rfl, records.done _ _ _ _ (.write data) step⟩
    | some error => exact records.notWritten _ _ _ _ step
  | memory content => exact ⟨rfl, rfl⟩

private theorem flush_asks (dst : Destination) (ghost : Ghost) :
    Destination.flush.wp monitor fuel
      (fun _ after last => after = dst ∧ last = (dst.asks [.sinkFlush]).foldl record ghost)
      (fun _ _ _ => broken) dst ghost := by
  cases dst with
  | caller =>
    simp only [Destination.flush, Program.wp_bind, Program.wp_get, wp_call]
    intro answer after step
    cases answer with
    | none => exact ⟨rfl, records.done _ _ _ _ .flush step⟩
    | some error => exact records.notFlushed _ _ _ step
  | memory content => exact ⟨rfl, rfl⟩

theorem write_spec (stream : OutputStream) (data : Bytes) (ghost : Ghost) :
    (write data).wp monitor fuel
      (fun _ after last => after = stream.advance data ∧
        last = (stream.dst.asks [.sinkWrite (stream.emit data)]).foldl record ghost)
      (fun _ _ _ => broken) stream ghost := by
  have written := write_asks records fuel stream.dst (stream.emit data) ghost
  obtain ⟨type, prevCr, dst⟩ := stream
  cases type with
  | binary =>
    have emitted : emit ⟨.binary, prevCr, dst⟩ data = data :=
      congrArg Prod.snd (feed_binary prevCr data)
    rw [emitted] at written ⊢
    simp only [write, onDestination, Program.wp_bind, Program.wp_get, Program.wp_zoom]
    refine Program.wp_mono written (fun _ after last ⟨same, asked⟩ => ⟨?_, asked⟩) fun _ _ _ => id
    rw [same, advance, emitted]
    exact congrArg (OutputStream.mk .binary · _) (congrArg Prod.fst (feed_binary prevCr data)).symm
  | ascii =>
    have emitted : emit ⟨.ascii, prevCr, dst⟩ data = (convert prevCr data).2 :=
      (congrArg Prod.snd (convert_eq_feed prevCr data)).symm
    rw [emitted] at written ⊢
    simp only [write, onDestination, Program.wp_bind, Program.wp_get, Program.wp_modify,
      Program.wp_zoom]
    refine Program.wp_mono written (fun _ after last ⟨same, asked⟩ => ⟨?_, asked⟩) fun _ _ _ => id
    rw [same, advance, emitted]
    exact congrArg (OutputStream.mk .ascii · _) (congrArg Prod.fst (convert_eq_feed prevCr data))

theorem flush_spec (stream : OutputStream) (ghost : Ghost) :
    flush.wp monitor fuel
      (fun _ after last => after = stream.settled ∧
        last = (stream.dst.asks (stream.pending.map .sinkWrite ++ [.sinkFlush])).foldl record ghost)
      (fun _ _ _ => broken) stream ghost := by
  obtain ⟨type, prevCr, dst⟩ := stream
  simp only [flush, onDestination, Program.wp_bind, Program.wp_get, Program.wp_ite,
    Program.wp_zoom, Program.wp_modify]
  by_cases held : type = .ascii ∧ prevCr = true
  · obtain ⟨ascii, set⟩ := held
    subst type prevCr
    simp only [true_and, if_true]
    refine Program.wp_mono (write_asks records fuel dst [cr] ghost) ?_ fun _ _ _ => id
    intro _ middle between ⟨same, asked⟩
    refine Program.wp_mono (flush_asks records fuel middle between) ?_ fun _ _ _ => id
    intro _ after last ⟨kept, flushed⟩
    rw [kept, flushed, asked, same]
    refine ⟨rfl, ?_⟩
    cases dst with
    | caller => rfl
    | memory content => rfl
  · simp only [if_neg held]
    refine Program.wp_mono (flush_asks records fuel dst ghost) ?_ fun _ _ _ => id
    intro _ after last ⟨kept, flushed⟩
    rw [kept, flushed]
    have nothing : pending ⟨type, prevCr, dst⟩ = [] := if_neg held
    refine ⟨?_, by rw [nothing]; rfl⟩
    have flag : (if type = .ascii then false else prevCr) = prevCr := by
      split
      · rename_i ascii
        exact (Bool.eq_false_of_not_eq_true fun set => held ⟨ascii, set⟩).symm
      · rfl
    simp [settled, nothing, flag]

/-- The caller's stream is asked for what is written, block by block, and flushed once. -/
theorem writeAll_spec (stream : OutputStream) (blocks : List Bytes) (ghost : Ghost) :
    (writeAll blocks).wp monitor fuel
      (fun _ after last =>
        after.type = stream.type ∧ (stream.type = .ascii → after.prevCr = false) ∧
        after.dst = stream.dst.take (stream.written blocks).flatten ∧
        last = (stream.dst.asks ((stream.written blocks).map .sinkWrite ++ [.sinkFlush])).foldl
          record ghost)
      (fun _ _ _ => broken) stream ghost := by
  induction blocks generalizing stream ghost with
  | nil =>
    refine Program.wp_mono (flush_spec records fuel stream ghost) ?_ fun _ _ _ => id
    intro _ after last ⟨same, asked⟩
    rw [same]
    exact ⟨rfl, fun ascii => if_pos ascii, rfl, asked⟩
  | cons block blocks ih =>
    simp only [writeAll, Program.wp_bind]
    refine Program.wp_mono (write_spec records fuel stream block ghost) ?_ fun _ _ _ => id
    intro _ middle between ⟨advanced, asked⟩
    subst middle between
    refine Program.wp_mono (ih (stream.advance block) _) ?_ fun _ _ _ => id
    intro _ after last ⟨type, flag, dst, flushed⟩
    refine ⟨type, flag, ?_, ?_⟩
    · rw [dst]
      simp [advance, written]
    · rw [flushed, ← List.foldl_append]
      simp [advance, written, ← Destination.asks_append]

end Rules

theorem foldl_snoc (queries past : List Boundary.Query) :
    queries.foldl (fun asked query => asked ++ [query]) past = past ++ queries := by
  induction queries generalizing past with
  | nil => exact (List.append_nil past).symm
  | cons query queries ih => rw [List.foldl_cons, ih, List.append_assoc, List.singleton_append]

theorem accepts_records :
    Records accepts (fun asked query => asked ++ [query]) False where
  done ghost query answer after sink step := by
    cases sink with
    | write data => exact step.2
    | flush => exact step.2
  notWritten _ _ _ _ step := nomatch step.1
  notFlushed _ _ _ step := nomatch step.1

/-- However the bytes are cut into blocks, a destination that refuses nothing gets their
decoding, with a CR held back to the end in front of its flush, and the stream is as it
was created. -/
theorem writeAll_decodes {World : Type} (host : Host boundary World) (world : World) (fuel : Nat)
    (dst : Destination) (blocks : List Bytes)
    (drives : accepts.Drives []
      ((writeAll blocks).run host fuel ⟨.ascii, false, dst⟩ world).events asked) :
    ((writeAll blocks).run host fuel ⟨.ascii, false, dst⟩ world).value =
        (.ok (), ⟨.ascii, false, dst.take (joinCrlf blocks.flatten)⟩) ∧
      ∃ written : List Bytes, asked = dst.asks (written.map .sinkWrite ++ [.sinkFlush]) ∧
        written.flatten = joinCrlf blocks.flatten := by
  have sat := writeAll_spec accepts_records fuel ⟨.ascii, false, dst⟩ blocks []
  rcases Program.wp_run sat host world drives with ⟨_, returned, type, flag, took, same⟩ | ⟨_, _, never⟩
  · have decoded : (written ⟨.ascii, false, dst⟩ blocks).flatten = joinCrlf blocks.flatten :=
      written_ascii false dst blocks
    refine ⟨Prod.ext returned ?_, written ⟨.ascii, false, dst⟩ blocks, ?_, decoded⟩
    · rw [decoded] at took
      generalize ((writeAll blocks).run host fuel ⟨.ascii, false, dst⟩ world).value.2 = last at *
      obtain ⟨_, _, _⟩ := last
      obtain rfl : _ = TransferType.ascii := type
      obtain rfl : _ = false := flag rfl
      exact congrArg _ took
    · rw [same, foldl_snoc, List.nil_append]
  · exact never.elim

theorem writeAll_decodes_pending :
    let blocks := [text "a\r", text "\nb\r"]
    let run := (writeAll blocks).run Script.host 1 ⟨.ascii, false, .caller⟩ (.ofReplies [])
    run.value = (.ok (), ⟨.ascii, false, .caller⟩) ∧
      ∃ written : List Bytes,
        [.sinkWrite (text "a"), .sinkWrite (text "\nb"), .sinkWrite [cr], .sinkFlush] =
          Destination.asks .caller (written.map .sinkWrite ++ [.sinkFlush]) ∧
        written.flatten = joinCrlf blocks.flatten := by
  intro blocks run
  have drives : accepts.Drives [] run.events
      [.sinkWrite (text "a"), .sinkWrite (text "\nb"), .sinkWrite [cr], .sinkFlush] :=
    .cons ⟨rfl, rfl⟩ (.cons ⟨rfl, rfl⟩ (.cons ⟨rfl, rfl⟩ (.cons ⟨rfl, rfl⟩ .nil)))
  exact writeAll_decodes Script.host _ 1 .caller blocks drives

end OutputStream

end LibFtp
