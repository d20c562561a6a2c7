import LibFtp.Detail.DataConnection
import LibFtp.Detail.DownloadCoding
import LibFtp.Detail.UploadCoding

/-! The transfer loops of the data connection. Whatever ends them, they have moved the
first blocks of the transfer, in order and each counted once. -/

namespace LibFtp

open Effect

/-- The consecutive pieces of `size` bytes of some data; only the last may be shorter. -/
inductive Cut (size : Nat) : Bytes → List Bytes → Prop where
  | nil : Cut size [] []
  | cons (some : data ≠ []) (rest : Cut size (data.drop size) blocks) :
      Cut size data (data.take size :: blocks)

/-- The blocks that a stream hands out when its source holds the given chunks. -/
inductive InputStream.Hands : InputStream → List Bytes → List Bytes → Prop where
  | binary : Hands .binary chunks chunks
  | ascii (cut : Cut DataConnection.bufSize (stream.owed chunks.flatten) blocks) :
      Hands (.ascii stream) chunks blocks

/-- What a transfer asks, reading apart, and how `is_cancelled` was answered. -/
structure Log where
  asked : List Boundary.Query
  checks : List Bool
  deriving DecidableEq

namespace Log

def empty : Log := ⟨[], []⟩

def note (log : Log) (event : BoundaryEvent) : Log :=
  match event with
  | ⟨.sourceRead _, _⟩ | ⟨.readSome .., _⟩ | ⟨.unopened _ _ (.readSome _), _⟩ => log
  | ⟨.isCancelled, answer⟩ => ⟨log.asked ++ [.isCancelled], log.checks ++ [answer]⟩
  | ⟨query, _⟩ => { log with asked := log.asked ++ [query] }

end Log

/-- What is asked about one block: it is moved, counted, and the callback is looked at. -/
def round (callback : Bool) (move : List Boundary.Query) (size : Nat) : List Boundary.Query :=
  move ++ if callback then [.transferNotify size, .isCancelled] else []

/-- The blocks up to the first check that reported a cancellation. -/
def upTo (checks : List Bool) (blocks : List Bytes) : List Bytes :=
  match checks.findIdx? id with
  | some last => blocks.take (last + 1)
  | none => blocks

/-- The blocks that are moved: none when the first check, made before the loop, reported
a cancellation. -/
def moved (checks : List Bool) (blocks : List Bytes) : List Bytes :=
  match checks with
  | [] => blocks
  | true :: _ => []
  | false :: later => upTo later blocks

/-- What is asked around the loop. -/
def framed (callback : Bool) (checks : List Bool) (middle : List Boundary.Query) :
    List Boundary.Query :=
  if callback then
    if checks.head? = some true then [.isCancelled]
    else [.isCancelled, .transferBegin] ++ middle ++ [.transferEnd]
  else middle

theorem upTo_true (checks : List Bool) (block : Bytes) (blocks : List Bytes) :
    upTo (true :: checks) (block :: blocks) = [block] := rfl

theorem upTo_false (checks : List Bool) (block : Bytes) (blocks : List Bytes) :
    upTo (false :: checks) (block :: blocks) = block :: upTo checks blocks := by
  have shift : (false :: checks).findIdx? id = (checks.findIdx? id).map (· + 1) := by
    simp [List.findIdx?_cons]
  unfold upTo
  rw [shift]
  cases checks.findIdx? id with
  | none => rfl
  | some last => rfl

/-- A source that hands out the given chunks, with everything else on record. -/
def uploading : Monitor boundary (List Bytes × Log) := handsOut.both (Monitor.fold Log.note)

theorem uploading_supplies (log : Log) : Supplies uploading (·, log) := by
  intro chunks maxSize answer after step
  obtain ⟨block, answered, data, rest⟩ := handsOut_supplies chunks maxSize answer after.1 step.1
  exact ⟨block, answered, data, Prod.ext rest step.2⟩

/-- A server that sends the given chunks and closes the data connection. -/
def arrives : Monitor boundary (List Bytes) where
  step chunks event after :=
    match event with
    | ⟨.readSome .data _ _, .ok chunk⟩ => chunks = chunk.data :: after
    | ⟨.readSome .data _ _, .error ec⟩ => ec = .eof ∧ chunks = [] ∧ after = []
    | ⟨.unopened .data _ (.readSome _), ec⟩ => (ec = .eof → chunks = []) ∧ after = chunks
    | _ => after = chunks

/-- The same with everything else on record. -/
def downloading : Monitor boundary (List Bytes × Log) := arrives.both (Monitor.fold Log.note)

private theorem downloading_records : Records downloading
    (fun ghost query => (ghost.1, { ghost.2 with asked := ghost.2.asked ++ [query] })) True where
  done ghost query answer after sink step := by
    cases sink with
    | write data => exact Prod.ext step.1 step.2
    | flush => exact Prod.ext step.1 step.2
  notWritten _ _ _ _ _ := trivial
  notFlushed _ _ _ _ := trivial

private theorem foldl_record (queries : List Boundary.Query) (chunks : List Bytes) (log : Log) :
    queries.foldl (fun ghost query =>
        ((ghost.1, { ghost.2 with asked := ghost.2.asked ++ [query] }) : List Bytes × Log))
      (chunks, log) = (chunks, { log with asked := log.asked ++ queries }) := by
  induction queries generalizing log with
  | nil => simp
  | cons query queries ih => simp [ih]

theorem Cut.head {size : Nat} (cut : Cut size data blocks) :
    data.take size = blocks.headD [] ∧ Cut size (data.drop size) blocks.tail := by
  cases cut with
  | nil => simpa using Cut.nil
  | cons some rest => exact ⟨rfl, rest⟩

theorem Cut.flatten {size : Nat} (cut : Cut size data blocks) : blocks.flatten = data := by
  induction cut with
  | nil => rfl
  | cons _ _ ih => rw [List.flatten_cons, ih, List.take_append_drop]

theorem Cut.exists {size : Nat} (positive : 0 < size) (data : Bytes) :
    ∃ blocks, Cut size data blocks := by
  induction count_eq : data.length using Nat.strong_induction_on generalizing data with
  | _ count ih =>
    by_cases nothing : data = []
    · exact ⟨[], nothing ▸ .nil⟩
    · have shorter : (data.drop size).length < data.length := by
        have some := List.length_pos_iff.mpr nothing
        rw [List.length_drop]
        omega
      obtain ⟨blocks, rest⟩ := ih _ (count_eq ▸ shorter) (data.drop size) rfl
      exact ⟨data.take size :: blocks, .cons nothing rest⟩

namespace InputStream

variable {fuel : Nat} {log : Log}

/-- One call hands out the next block, or nothing once they are all out. -/
theorem read_spec {stream : InputStream} {chunks blocks : List Bytes}
    (nonempty : ∀ chunk ∈ chunks, chunk ≠ []) (hands : stream.Hands chunks blocks) :
    (read DataConnection.bufSize).wp uploading fuel
      (fun block after last => ∃ rest, last = (rest, log) ∧ rest <:+ chunks ∧
        block = blocks.headD [] ∧ after.Hands rest blocks.tail)
      (fun _ _ _ => True) stream (chunks, log) := by
  cases hands with
  | binary =>
    simp only [read, readSource, Program.wp_bind, Program.wp_get, wp_call]
    intro answer after step
    obtain ⟨block, answered, data, next⟩ := uploading_supplies log _ _ _ _ step
    subst answer after
    exact ⟨chunks.tail, rfl, List.tail_suffix chunks, data, .binary⟩
  | ascii cut =>
    simp only [read, Program.wp_bind, Program.wp_get, Program.wp_on, Program.wp_modify,
      Program.wp_pure]
    refine Program.wp_mono (AsciiIstream.read_spec (uploading_supplies log) True fuel _ _ chunks
      nonempty fun sound => absurd trivial sound) ?_ fun _ _ _ => id
    intro block after last parts
    obtain ⟨rest, same, behind, taken, dropped⟩ := parts
    obtain ⟨head, tail⟩ := cut.head
    exact ⟨rest, same, behind, taken.trans head, .ascii (dropped ▸ tail)⟩

theorem Hands.nonempty {stream : InputStream} {chunks blocks : List Bytes}
    (hands : stream.Hands chunks blocks) (nonempty : ∀ chunk ∈ chunks, chunk ≠ []) :
    ∀ block ∈ blocks, block ≠ [] := by
  cases hands with
  | binary => exact nonempty
  | ascii cut =>
    clear nonempty
    generalize AsciiIstream.owed _ _ = data at cut
    induction cut with
    | nil => exact fun _ member => absurd member List.not_mem_nil
    | cons some _ ih =>
      intro block member
      rcases List.mem_cons.mp member with first | later
      · rw [first]
        exact fun nothing => (List.take_eq_nil_iff.mp nothing).elim (by decide) some
      · exact ih block later

end InputStream

namespace DataConnection

variable {fuel : Nat}

/-- What `send` asks about the given blocks. -/
def sends (connection : DataConnection) (callback : Bool) (blocks : List Bytes) :
    List Boundary.Query :=
  blocks.flatMap fun block =>
    round callback [.write .data connection.socket.layer block] block.length

/-- Each round moves the next block, and the loop goes on until there is no further block
or a check reports a cancellation. -/
theorem sendLoop_spec (connection : DataConnection) (callback : Bool) (steps : Nat)
    {stream : InputStream} {chunks blocks : List Bytes} (nonempty : ∀ chunk ∈ chunks, chunk ≠ [])
    (hands : stream.Hands chunks blocks) (log : Log) :
    (sendLoop callback steps stream).wp uploading fuel
      (fun _ after last => after = connection ∧ ∃ checks, (callback = false → checks = []) ∧
        last.2 = ⟨log.asked ++ connection.sends callback (upTo checks blocks), log.checks ++ checks⟩)
      (fun _ _ _ => True) connection (chunks, log) := by
  induction steps generalizing stream chunks blocks log with
  | zero => exact trivial
  | succ steps ih =>
    simp only [sendLoop, Program.wp_bind, Program.wp_on, Program.wp_ite, Program.wp_pure]
    refine Program.wp_mono (InputStream.read_spec nonempty hands) ?_ fun _ _ _ => id
    intro buf next last ⟨rest, same, behind, head, further⟩
    subst last
    cases blocks with
    | nil =>
      rw [head]
      exact ⟨rfl, [], fun _ => rfl, by simp [upTo, sends]⟩
    | cons block blocks =>
      have some : block.isEmpty = false := by
        simpa using hands.nonempty nonempty block (List.mem_cons_self ..)
      have others : ∀ chunk ∈ rest, chunk ≠ [] := fun chunk member =>
        nonempty chunk (behind.subset member)
      have head : block = buf := head.symm
      subst head
      simp only [some, Bool.false_eq_true, if_false, onSocket, Program.wp_zoom, Socket.wp_write,
        wp_throwIf, wp_call]
      split
      · intro answer ⟨chunks, noted⟩ ⟨still, step⟩
        have still : chunks = rest := still
        have step : noted = log.note ⟨.write .data connection.socket.layer block, answer⟩ := step
        cases answer with
        | some error => trivial
        | none =>
          subst chunks noted
          cases callback with
          | false =>
            rw [if_neg Bool.false_ne_true]
            refine Program.wp_mono (ih others further _) ?_ fun _ _ _ => id
            intro _ after last ⟨same, checks, silent, logged⟩
            refine ⟨same, checks, silent, ?_⟩
            rw [logged, silent rfl]
            simp [Log.note, upTo, sends, round]
          | true =>
            rw [if_pos rfl]
            intro _ ⟨chunks, counted⟩ ⟨still, step⟩ cancelled ⟨unread, checked⟩ ⟨same, answered⟩
            have still : chunks = rest := still
            have same : unread = chunks := same
            subst chunks unread
            have answered : checked = ⟨log.asked ++ round true
                [.write .data connection.socket.layer block] block.length, log.checks ++ [cancelled]⟩ := by
              have step : counted = Log.note _ ⟨.transferNotify block.length, ()⟩ := step
              have answered : checked = counted.note ⟨.isCancelled, cancelled⟩ := answered
              rw [answered, step]
              simp [Log.note, round]
            cases cancelled with
            | true =>
              refine ⟨rfl, [true], (nomatch ·), answered.trans ?_⟩
              simp [upTo_true, sends]
            | false =>
              rw [if_neg Bool.false_ne_true]
              refine Program.wp_mono (ih others further checked) ?_ fun _ _ _ => id
              intro _ after last ⟨same, checks, silent, logged⟩
              refine ⟨same, false :: checks, (nomatch ·), ?_⟩
              rw [logged, answered, upTo_false]
              simp [sends]
      · exact fun _ _ _ => trivial

/-- What `recv` asks about the given blocks. -/
def receives (callback : Bool) : OutputStream → List Bytes → List Boundary.Query
  | _, [] => []
  | stream, block :: blocks =>
    round callback (stream.dst.asks [.sinkWrite (stream.emit block)]) block.length ++
      receives callback (stream.advance block) blocks

theorem recvLoop_spec (connection : DataConnection) (callback : Bool) (steps : Nat)
    (stream : OutputStream) (chunks : List Bytes) (log : Log) :
    (recvLoop callback steps stream).wp downloading fuel
      (fun value after last => after = connection ∧
        (value.2 = none ∨ value.2 = some .eof → ∃ rest checks, (callback = false → checks = []) ∧
          value.1 = (upTo checks chunks).foldl OutputStream.advance stream ∧
          last = (rest, ⟨log.asked ++ receives callback stream (upTo checks chunks),
            log.checks ++ checks⟩)))
      (fun _ _ _ => True) connection (chunks, log) := by
  induction steps generalizing stream chunks log with
  | zero => exact trivial
  | succ steps ih =>
    simp only [recvLoop, onSocket, Program.wp_bind, Program.wp_zoom, Socket.wp_readSome]
    split
    · intro answer ⟨rest, noted⟩ ⟨arrived, step⟩
      have step : log = noted := step.symm
      subst step
      cases answer with
      | error ec =>
        obtain ⟨_, ended, _⟩ := arrived
        have ended : chunks = [] := ended
        subst chunks
        exact ⟨rfl, fun _ => ⟨rest, [], fun _ => rfl, rfl, by simp [upTo, receives]⟩⟩
      | ok chunk =>
        have arrived : chunks = chunk.data :: rest := arrived
        subst chunks
        simp only [Program.wp_bind, Program.wp_on, Program.wp_ite, Program.wp_pure, wp_call]
        refine Program.wp_mono (OutputStream.write_spec downloading_records fuel stream chunk.data _)
          ?_ fun _ _ _ => id
        intro _ stream' written ⟨advanced, asked⟩
        rw [foldl_record] at asked
        subst stream' written
        cases callback with
        | false =>
          rw [if_neg Bool.false_ne_true]
          refine Program.wp_mono (ih _ rest _) ?_ fun _ _ _ => id
          intro value after last ⟨same, holds⟩
          refine ⟨same, fun ended => ?_⟩
          obtain ⟨others, checks, silent, through, logged⟩ := holds ended
          refine ⟨others, checks, silent, ?_, ?_⟩
          · rw [through, silent rfl]
            simp [upTo]
          · rw [logged, silent rfl]
            simp [upTo, receives, round]
        | true =>
          rw [if_pos rfl]
          intro _ ⟨counting, counted⟩ ⟨still, step⟩ cancelled ⟨unread, checked⟩ ⟨same, answered⟩
          have still : counting = rest := still
          have same : unread = counting := same
          subst counting unread
          have answered : checked = ⟨log.asked ++ round true
              (stream.dst.asks [.sinkWrite (stream.emit chunk.data)]) chunk.data.length,
              log.checks ++ [cancelled]⟩ := by
            have step : counted = Log.note _ ⟨.transferNotify chunk.data.length, ()⟩ := step
            have answered : checked = counted.note ⟨.isCancelled, cancelled⟩ := answered
            rw [answered, step]
            simp [Log.note, round]
          subst checked
          cases cancelled with
          | true =>
            refine ⟨rfl, fun _ => ⟨rest, [true], (nomatch ·), rfl, ?_⟩⟩
            simp [upTo_true, receives]
          | false =>
            rw [if_neg Bool.false_ne_true]
            refine Program.wp_mono (ih _ rest _) ?_ fun _ _ _ => id
            intro value after last ⟨same, holds⟩
            refine ⟨same, fun ended => ?_⟩
            obtain ⟨others, checks, silent, through, logged⟩ := holds ended
            refine ⟨others, false :: checks, (nomatch ·), ?_, ?_⟩
            · rw [through, upTo_false]
              rfl
            · rw [logged, upTo_false]
              simp [receives]
    · intro ec ⟨rest, noted⟩ ⟨⟨nothing, _⟩, step⟩
      have step : log = noted := step.symm
      subst step
      refine ⟨rfl, fun ended => ?_⟩
      have eof : ec = .eof := by simpa using ended
      have nothing : chunks = [] := nothing eof
      subst chunks
      exact ⟨rest, [], fun _ => rfl, rfl, by simp [upTo, receives]⟩

/-- What `recv` asks behind its loop. -/
def closes (stream : OutputStream) : List Boundary.Query :=
  stream.dst.asks (stream.pending.map .sinkWrite ++ [.sinkFlush])

theorem send_spec (connection : DataConnection) (callback : Bool) {stream : InputStream}
    {chunks blocks : List Bytes} (nonempty : ∀ chunk ∈ chunks, chunk ≠ [])
    (hands : stream.Hands chunks blocks) :
    (send stream callback).wp uploading fuel
      (fun _ after last => after = connection ∧ (callback = false → last.2.checks = []) ∧
        last.2.asked = framed callback last.2.checks
          (connection.sends callback (moved last.2.checks blocks)))
      (fun _ _ _ => True) connection (chunks, .empty) := by
  cases callback with
  | false =>
    simp only [send, Program.wp_loop, Bool.false_eq_true, if_false]
    refine Program.wp_mono (sendLoop_spec connection false fuel nonempty hands .empty) ?_
      fun _ _ _ => id
    intro _ after last ⟨same, checks, silent, logged⟩
    rw [logged, silent rfl]
    exact ⟨same, fun _ => rfl, rfl⟩
  | true =>
    simp only [send, Program.wp_bind, Program.wp_loop, Program.wp_ite, Program.wp_pure, wp_call,
      if_true]
    intro cancelled ⟨asking, asked⟩ ⟨still, step⟩
    have still : asking = chunks := still
    have step : asked = ⟨[.isCancelled], [cancelled]⟩ := step
    subst asking asked
    cases cancelled with
    | true =>
      rw [if_pos rfl]
      exact ⟨rfl, (nomatch ·), rfl⟩
    | false =>
      rw [if_neg Bool.false_ne_true]
      intro _ ⟨asking, begun⟩ ⟨still, step⟩
      have still : asking = chunks := still
      have step : begun = ⟨[.isCancelled, .transferBegin], [false]⟩ := step
      subst asking begun
      refine Program.wp_mono (sendLoop_spec connection true fuel nonempty hands _) ?_
        fun _ _ _ => id
      intro _ after ⟨rest, log⟩ ⟨same, checks, _, logged⟩ _ ⟨_, ended⟩ ⟨_, step⟩
      have logged : log = _ := logged
      have step : ended = log.note ⟨.transferEnd, ()⟩ := step
      rw [step, logged]
      exact ⟨same, (nomatch ·), rfl⟩

private theorem recvTail_spec (connection : DataConnection) (stream : OutputStream)
    (ec : Option ErrorCode) (chunks : List Bytes) (log : Log)
    {post : OutputStream → DataConnection → List Bytes × Log → Prop}
    (ends : ec = none ∨ ec = some .eof → post stream.settled connection
      (chunks, { log with asked := log.asked ++ closes stream })) :
    (recvTail stream ec).wp downloading fuel post (fun _ _ _ => True) connection (chunks, log) := by
  have flushed (tolerated : ec = none ∨ ec = some .eof) :
      OutputStream.flush.wp downloading fuel
        (fun _ stream last => post stream connection last) (fun _ _ _ => True) stream
        (chunks, log) := by
    refine Program.wp_mono (OutputStream.flush_spec downloading_records fuel stream _) ?_
      fun _ _ _ => id
    intro _ after last ⟨settled, asked⟩
    rw [foldl_record] at asked
    rw [settled, asked]
    exact ends tolerated
  simp only [recvTail, Program.wp_bind, Program.wp_on, Program.wp_pure, wp_throwUnless]
  cases ec with
  | none => exact flushed (.inl rfl)
  | some ec =>
    by_cases eof : ec = .eof
    · simp only [if_pos eof]
      exact flushed (.inr (congrArg some eof))
    · simp only [if_neg eof]

theorem recv_spec (connection : DataConnection) (callback : Bool) (stream : OutputStream)
    (chunks : List Bytes) :
    (recv stream callback).wp downloading fuel
      (fun value after last => after = connection ∧ (callback = false → last.2.checks = []) ∧
        last.2.asked = framed callback last.2.checks
          (receives callback stream (moved last.2.checks chunks) ++
            closes ((moved last.2.checks chunks).foldl OutputStream.advance stream)) ∧
        value = if last.2.checks.head? = some true then stream
          else ((moved last.2.checks chunks).foldl OutputStream.advance stream).settled)
      (fun _ _ _ => True) connection (chunks, .empty) := by
  cases callback with
  | false =>
    simp only [recv, Program.wp_bind, Program.wp_loop, Bool.false_eq_true, if_false]
    refine Program.wp_mono (recvLoop_spec connection false fuel stream chunks .empty) ?_
      fun _ _ _ => id
    intro ⟨through, ec⟩ after ⟨rest, log⟩ ⟨same, holds⟩
    subst after
    refine recvTail_spec connection through ec rest log fun ended => ?_
    obtain ⟨_, checks, silent, along, logged⟩ := holds ended
    have along : through = _ := along
    have logged : log = _ := congrArg Prod.snd logged
    rw [logged, along, silent rfl]
    exact ⟨rfl, fun _ => rfl, rfl, rfl⟩
  | true =>
    simp only [recv, Program.wp_bind, Program.wp_loop, Program.wp_ite, Program.wp_pure, wp_call,
      if_true]
    intro cancelled ⟨asking, asked⟩ ⟨still, step⟩
    have still : asking = chunks := still
    have step : asked = ⟨[.isCancelled], [cancelled]⟩ := step
    subst asking asked
    cases cancelled with
    | true =>
      rw [if_pos rfl]
      exact ⟨rfl, (nomatch ·), rfl, rfl⟩
    | false =>
      rw [if_neg Bool.false_ne_true]
      intro _ ⟨asking, begun⟩ ⟨still, step⟩
      have still : asking = chunks := still
      have step : begun = ⟨[.isCancelled, .transferBegin], [false]⟩ := step
      subst asking begun
      refine Program.wp_mono (recvLoop_spec connection true fuel stream chunks _) ?_
        fun _ _ _ => id
      intro ⟨through, ec⟩ after ⟨rest, log⟩ ⟨same, holds⟩
      subst after
      refine recvTail_spec connection through ec rest log fun ended => ?_
      intro _ ⟨_, finished⟩ ⟨_, step⟩
      obtain ⟨_, checks, _, along, logged⟩ := holds ended
      have along : through = _ := along
      have logged : log = _ := congrArg Prod.snd logged
      have step : finished = Log.note _ ⟨.transferEnd, ()⟩ := step
      rw [step, logged, along]
      refine ⟨rfl, (nomatch ·), ?_, rfl⟩
      simp [Log.note, framed, moved]

/-- The questions of a record that concern the destination. -/
def sinks (queries : List Boundary.Query) : List Boundary.Query :=
  queries.filter fun query => match query with
    | .sinkWrite _ | .sinkFlush => true
    | _ => false

private theorem sinks_append (front back : List Boundary.Query) :
    sinks (front ++ back) = sinks front ++ sinks back :=
  List.filter_append ..

private theorem sinks_asks (dst : Destination) (writes : List Bytes) :
    sinks (dst.asks (writes.map .sinkWrite)) = dst.asks (writes.map .sinkWrite) := by
  cases dst with
  | caller =>
    refine List.filter_eq_self.mpr fun query member => ?_
    obtain ⟨data, _, same⟩ := List.mem_map.mp member
    rw [← same]
  | memory content => rfl

/-- Of all that `recv` asks, the destination hears the blocks and one flush. -/
theorem sinks_receives (callback : Bool) (stream : OutputStream) (blocks : List Bytes) :
    sinks (receives callback stream blocks ++ closes (blocks.foldl OutputStream.advance stream)) =
      stream.dst.asks ((stream.written blocks).map .sinkWrite ++ [.sinkFlush]) := by
  induction blocks generalizing stream with
  | nil =>
    have flush : sinks (stream.dst.asks [.sinkFlush]) = stream.dst.asks [.sinkFlush] := by
      cases stream.dst <;> rfl
    simp only [receives, closes, List.nil_append, List.foldl_nil, Destination.asks_append,
      sinks_append, sinks_asks, flush]
    rfl
  | cons block blocks ih =>
    have first := sinks_asks stream.dst [stream.emit block]
    have counted : sinks (if callback = true then
        [.transferNotify block.length, .isCancelled] else []) = [] := by
      cases callback <;> rfl
    have rest := ih (stream.advance block)
    have same : (stream.advance block).dst.asks = stream.dst.asks := by
      funext queries
      exact Destination.take_asks ..
    rw [same] at rest
    rw [receives, round, List.append_assoc, List.append_assoc, sinks_append, sinks_append, counted,
      List.foldl_cons, rest]
    exact (congrArg (· ++ _) first).trans (Destination.asks_append ..).symm

/-- What the destination holds in the end. -/
private theorem through_dst (stream : OutputStream) (blocks : List Bytes) :
    (blocks.foldl OutputStream.advance stream).settled.dst =
      stream.dst.take (stream.written blocks).flatten := by
  induction blocks generalizing stream with
  | nil => rfl
  | cons block blocks ih =>
    rw [List.foldl_cons, ih]
    exact Destination.take_append ..

theorem sinks_framed (callback : Bool) (checks : List Bool)
    (middle : List Boundary.Query) (silent : callback = false → checks = []) :
    sinks (framed callback checks middle) =
      if checks.head? = some true then [] else sinks middle := by
  cases callback with
  | false =>
    rw [silent rfl]
    rfl
  | true =>
    by_cases cancelled : checks.head? = some true
    · simp only [framed, cancelled, if_true]
      rfl
    · simp only [framed, cancelled, if_true, if_false, sinks_append]
      simp [sinks]

/-- A transfer that returns has moved the blocks up to the first check that reported a
cancellation, each of them counted once, between one begin and one end; behind a download
the destination is flushed once. -/
theorem transfer_moves_blocks {World : Type} (host : Host boundary World) (world : World)
    (fuel : Nat) (connection : DataConnection) (callback : Bool) :
    (∀ (stream : InputStream) (chunks blocks last : List Bytes),
      (∀ chunk ∈ chunks, chunk ≠ []) → stream.Hands chunks blocks →
      let run := (send stream callback).run host fuel connection world
      let log := run.events.foldl Log.note .empty
      handsOut.Drives chunks run.events last → run.value.1.isOk = true →
      (callback = false → log.checks = []) ∧
      log.asked =
        framed callback log.checks (connection.sends callback (moved log.checks blocks))) ∧
    (∀ (stream value : OutputStream) (chunks last : List Bytes),
      let run := (recv stream callback).run host fuel connection world
      let log := run.events.foldl Log.note .empty
      let blocks := moved log.checks chunks
      arrives.Drives chunks run.events last → run.value.1 = .ok value →
      (callback = false → log.checks = []) ∧
      log.asked = framed callback log.checks (receives callback stream blocks ++
        closes (blocks.foldl OutputStream.advance stream)) ∧
      if log.checks.head? = some true then sinks log.asked = [] ∧ value = stream
      else sinks log.asked = stream.dst.asks ((stream.written blocks).map .sinkWrite ++ [.sinkFlush]) ∧
        value.dst = stream.dst.take (stream.written blocks).flatten) := by
  constructor
  · intro stream chunks blocks last nonempty hands run log drives returned
    have both : uploading.Drives (chunks, .empty) run.events (last, log) :=
      drives.both (Monitor.fold_drives Log.note .empty run.events)
    rcases Program.wp_run (send_spec connection callback nonempty hands) host world both with
      ⟨_, _, _, silent, asked⟩ | ⟨stop, stopped, _⟩
    · exact ⟨silent, asked⟩
    · rw [show run.value.1 = .error stop from stopped] at returned
      cases returned
  · intro stream value chunks last run log blocks drives returned
    have both : downloading.Drives (chunks, .empty) run.events (last, log) :=
      drives.both (Monitor.fold_drives Log.note .empty run.events)
    rcases Program.wp_run (recv_spec connection callback stream chunks) host world both with
      ⟨other, same, _, silent, asked, settled⟩ | ⟨stop, stopped, _⟩
    · have same : value = other := Except.ok.inj (returned.symm.trans same)
      subst same
      have silent : callback = false → log.checks = [] := silent
      have heard := sinks_framed callback log.checks
        (receives callback stream blocks ++ closes (blocks.foldl OutputStream.advance stream)) silent
      rw [← asked, sinks_receives] at heard
      refine ⟨silent, asked, ?_⟩
      have ends : value = if log.checks.head? = some true then stream
          else (blocks.foldl OutputStream.advance stream).settled := settled
      by_cases cancelled : log.checks.head? = some true
      · rw [if_pos cancelled] at heard ends ⊢
        exact ⟨heard, ends⟩
      · rw [if_neg cancelled] at heard ends ⊢
        exact ⟨heard, (congrArg OutputStream.dst ends).trans (through_dst stream blocks)⟩
    · rw [show run.value.1 = .error stop from stopped] at returned
      cases returned

theorem transfer_moves_blocks_cancelled :
    let connection : DataConnection := ⟨⟨.plain, true⟩, false⟩
    let chunks := [text "ab", text "c"]
    let script : Script := ⟨[], chunks, chunks, [false, true], fun _ => none⟩
    let uploaded := ((send .binary true).run Script.host 9 connection script).events.foldl Log.note .empty
    let downloaded := ((recv ⟨.binary, false, .caller⟩ true).run Script.host 9 connection
      script).events.foldl Log.note .empty
    uploaded.asked = framed true uploaded.checks
        (connection.sends true (moved uploaded.checks chunks)) ∧
      downloaded.asked = framed true downloaded.checks
        (receives true ⟨.binary, false, .caller⟩ (moved downloaded.checks chunks) ++
          closes ((moved downloaded.checks chunks).foldl OutputStream.advance
            ⟨.binary, false, .caller⟩)) := by
  intro connection chunks script uploaded downloaded
  have moves := transfer_moves_blocks Script.host script 9 connection true
  have sent : handsOut.Drives chunks
      ((send .binary true).run Script.host 9 connection script).events [text "c"] :=
    .cons rfl (.cons rfl (.cons ⟨rfl, rfl⟩ (.cons rfl (.cons rfl (.cons rfl (.cons rfl .nil))))))
  have received : arrives.Drives chunks
      ((recv ⟨.binary, false, .caller⟩ true).run Script.host 9 connection script).events [text "c"] :=
    .cons rfl (.cons rfl (.cons rfl (.cons rfl (.cons rfl (.cons rfl (.cons rfl (.cons rfl .nil)))))))
  exact ⟨(moves.1 .binary chunks chunks [text "c"] (by decide) .binary sent rfl).2,
    (moves.2 _ ⟨.binary, false, .caller⟩ chunks [text "c"] received rfl).2.1⟩

end DataConnection

end LibFtp
