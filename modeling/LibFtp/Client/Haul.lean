import LibFtp.Client.FileListing
import LibFtp.Detail.LoopRules

/-! What a transfer has moved, at whatever point it ends. A download has given its
destination the beginning of what it received, decoded; an upload has sent the beginning of
what it took from its source, encoded; and all of it where nothing went wrong. -/

namespace LibFtp

open Effect

/-- Whether there is a data connection to use. In passive mode it is there before the server
has agreed to the transfer. -/
inductive Carrier where
  | absent
  | offered
  | accepted
  | refused
  deriving DecidableEq, Repr

/-- The first reply behind an offered connection is the answer to the main command. -/
def Carrier.answer (carrier : Carrier) (reply : Reply) : Carrier :=
  match carrier with
  | .offered => if reply.isNegative then .refused else .accepted
  | _ => carrier

/-- The payload on both sides of a transfer, by the calls that succeeded. `ended` says that
the last read, from the server or from the source, has come to the end of the data, and
`cancelled` that the callback has reported a cancellation. -/
structure Haul where
  received : Bytes
  written : Bytes
  taken : Bytes
  sent : Bytes
  ended : Bool
  cancelled : Bool
  carrier : Carrier
  deriving DecidableEq, Repr

namespace Haul

def empty : Haul := ⟨[], [], [], [], false, false, .absent⟩

def advance (haul : Haul) : BoundaryEvent → Haul
  | ⟨.readSome .data _ _, .ok chunk⟩ =>
    { haul with received := haul.received ++ chunk.data, ended := false }
  | ⟨.readSome .data _ _, .error ec⟩ | ⟨.unopened .data _ (.readSome _), ec⟩ =>
    { haul with ended := ec = .eof }
  | ⟨.sinkWrite data, none⟩ => { haul with written := haul.written ++ data }
  | ⟨.sourceRead _, .ok block⟩ =>
    { haul with taken := haul.taken ++ block.data, ended := block.data.isEmpty }
  | ⟨.write .data _ data, none⟩ => { haul with sent := haul.sent ++ data }
  | ⟨.isCancelled, answer⟩ => { haul with cancelled := haul.cancelled || answer }
  | ⟨.connectData _, none⟩ => { haul with carrier := .offered }
  | ⟨.acceptorAccept, none⟩ => { haul with carrier := .accepted }
  | ⟨.notifyReply _ reply, _⟩ => { haul with carrier := haul.carrier.answer reply }
  | _ => haul

/-- There was no data connection, or the server has refused to use it, and nothing moved. -/
def Unused (haul : Haul) : Prop :=
  (haul.carrier = .absent ∨ haul.carrier = .refused) ∧
    haul.received = [] ∧ haul.written = [] ∧ haul.taken = [] ∧ haul.sent = []

/-- Nothing was moved in between, and no cancellation was taken back. -/
structure Still (haul after : Haul) : Prop where
  only : after = { haul with cancelled := after.cancelled, carrier := after.carrier }
  cancelled : haul.cancelled = true → after.cancelled = true

theorem Still.trans {haul middle after : Haul} (first : haul.Still middle)
    (second : middle.Still after) : haul.Still after where
  only := by rw [second.only, first.only]
  cancelled := second.cancelled ∘ first.cancelled

end Haul

abbrev hauls : Monitor boundary Haul := Monitor.fold Haul.advance

namespace Haul

/-- The callback has been asked. -/
private theorem asked_eq {haul after : Haul} {answer : Bool}
    (step : hauls.step haul ⟨.isCancelled, answer⟩ after) :
    after = { haul with cancelled := haul.cancelled || answer } := step

theorem counted {goes stops : Haul → Prop} {callback : Bool} {size : Nat} {haul : Haul}
    (holds : goes haul) (stopped : stops { haul with cancelled := true }) :
    Counted hauls callback size goes stops haul := by
  cases callback with
  | false => exact holds
  | true =>
    intro told telling cancelled asked asking
    have telling : told = haul := telling
    rw [asked_eq asking, telling]
    cases cancelled with
    | true => simpa using stopped
    | false => simpa using holds

theorem framed {skipped start : Haul → Prop} {callback : Bool} {haul : Haul}
    (holds : start haul) (skips : skipped { haul with cancelled := true }) :
    Framed hauls callback skipped start haul := by
  cases callback with
  | false => exact holds
  | true =>
    intro cancelled asked asking
    rw [asked_eq asking]
    cases cancelled with
    | true => simpa using skips
    | false =>
      intro begun beginning
      have beginning : begun = _ := beginning
      rw [beginning]
      simpa [advance] using holds

theorem ended_iff {post : Haul → Prop} {callback : Bool} {haul : Haul} :
    Ended hauls callback post haul ↔ post haul := by
  cases callback with
  | false => exact Iff.rfl
  | true => exact ⟨fun ends => ends haul rfl, fun holds after step => by rw [step]; exact holds⟩

end Haul

open Ascii DataConnection

variable {fuel : Nat} {type : TransferType}

namespace OutputStream

private theorem destinationWrite_hauls (data : Bytes) (haul : Haul) :
    (Destination.write data).wp hauls fuel
      (fun _ after last => after = .caller ∧ last = { haul with written := haul.written ++ data })
      (fun _ _ last => last = haul) .caller haul := by
  simp only [Destination.write, Program.wp_bind, Program.wp_get, wp_call]
  intro answer after step
  cases answer with
  | none => exact ⟨rfl, step⟩
  | some error => exact step

private theorem destinationFlush_hauls (haul : Haul) :
    Destination.flush.wp hauls fuel (fun _ after last => after = .caller ∧ last = haul)
      (fun _ _ last => last = haul) .caller haul := by
  simp only [Destination.flush, Program.wp_bind, Program.wp_get, wp_call]
  intro answer after step
  have step : after = haul := step
  cases answer with
  | none => exact ⟨rfl, step⟩
  | some error => exact step

private theorem write_hauls (prevCr : Bool) (data : Bytes) (haul : Haul) :
    (write data).wp hauls fuel
      (fun _ after last => after = ⟨type, ((coder type).feed prevCr data).1, .caller⟩ ∧
        last = { haul with written := haul.written ++ ((coder type).feed prevCr data).2 })
      (fun _ _ last => last = haul) ⟨type, prevCr, .caller⟩ haul := by
  cases type with
  | binary =>
    rw [feed_binary prevCr data]
    simp only [write, onDestination, Program.wp_bind, Program.wp_get, Program.wp_zoom]
    refine Program.wp_mono (destinationWrite_hauls data haul) ?_ fun _ _ _ => id
    exact fun _ after last both => ⟨congrArg (OutputStream.mk .binary prevCr) both.1, both.2⟩
  | ascii =>
    rw [show coder .ascii = decoder from rfl, ← convert_eq_feed prevCr data]
    simp only [write, onDestination, Program.wp_bind, Program.wp_get, Program.wp_modify,
      Program.wp_zoom]
    refine Program.wp_mono (destinationWrite_hauls _ haul) ?_ fun _ _ _ => id
    exact fun _ after last both => ⟨congrArg (OutputStream.mk .ascii _) both.1, both.2⟩

private theorem flush_hauls (prevCr : Bool) (haul : Haul) :
    let put := { haul with
      written := haul.written ++ (pending ⟨type, prevCr, .caller⟩).flatten }
    flush.wp hauls fuel (fun _ _ last => last = put) (fun _ _ last => last = haul ∨ last = put)
      ⟨type, prevCr, .caller⟩ haul := by
  intro put
  simp only [flush, onDestination, Program.wp_bind, Program.wp_get, Program.wp_ite,
    Program.wp_zoom, Program.wp_modify]
  by_cases held : type = .ascii ∧ prevCr = true
  · have withheld : put = { haul with written := haul.written ++ [cr] } := by
      simp only [put, pending, if_pos held, List.flatten_singleton]
    rw [if_pos held, withheld]
    refine Program.wp_mono (destinationWrite_hauls [cr] haul) ?_ fun _ _ _ => .inl
    intro _ middle between both
    rw [both.1, both.2]
    exact Program.wp_mono (destinationFlush_hauls _) (fun _ _ _ both => both.2) fun _ _ _ => .inr
  · have nothing : put = haul := by
      simp only [put, pending, if_neg held, List.flatten_nil, List.append_nil]
    rw [if_neg held, nothing]
    exact Program.wp_mono (destinationFlush_hauls haul) (fun _ _ _ both => both.2)
      fun _ _ _ => .inl

end OutputStream

/-- The destination has been given the decoding of what was received, but for what the
stream withholds. -/
structure Balanced (type : TransferType) (stream : OutputStream) (haul : Haul) : Prop where
  same : stream.type = type
  caller : stream.dst = .caller
  coded : (OutputStream.coder type).feed false haul.received = (stream.prevCr, haul.written)

/-- The destination has been given all of the decoding. -/
structure Delivered (type : TransferType) (haul : Haul) : Prop where
  whole : haul.written = decoded type haul.received
  complete : haul.cancelled = true ∨ haul.ended = true

/-- The decoding is what the coder puts out, and what it withholds. -/
private theorem decoded_eq {wire data : Bytes} {prevCr : Bool}
    (coded : (OutputStream.coder type).feed false wire = (prevCr, data)) :
    decoded type wire = data ++ (OutputStream.pending ⟨type, prevCr, .caller⟩).flatten := by
  cases type with
  | binary =>
    rw [OutputStream.feed_binary] at coded
    rw [← (Prod.mk.inj coded).2]
    exact (List.append_nil _).symm
  | ascii =>
    have whole := feed_decoder false wire
    rw [show decoder.feed false wire = _ from coded] at whole
    refine Eq.trans (Eq.symm whole) ?_
    cases prevCr <;> rfl

private theorem decoded_behind {wire front data : Bytes} {prevCr : Bool}
    (coded : (OutputStream.coder type).feed false wire = (prevCr, data)) (given : front <+: data) :
    front <+: decoded type wire := by
  rw [decoded_eq coded]
  exact given.trans (List.prefix_append _ _)

namespace DataConnection

/-- How the loop of a download ends. -/
private structure Drained (type : TransferType) (stream : OutputStream) (ec : Option ErrorCode)
    (haul : Haul) : Prop where
  balanced : Balanced type stream haul
  stopped : ec = none → haul.cancelled = true
  eof : ec = some .eof → haul.ended = true

private theorem receives_hauls (callback : Bool) (connection : DataConnection) :
    Receives hauls fuel callback connection (Balanced type) (Drained type)
      (fun last => last.written <+: decoded type last.received) where
  spins _ _ balanced := decoded_behind balanced.coded (List.prefix_refl _)
  closed stream haul ec after balanced _ step := by
    have step : after = { haul with ended := ec = .eof } := step
    subst after
    refine ⟨⟨balanced.same, balanced.caller, balanced.coded⟩, fun never => ?_, fun eof => ?_⟩
    · exact absurd never (Option.some_ne_none ec)
    · exact decide_eq_true (Option.some.inj eof)
  ends stream haul ec after balanced _ step := by
    have step : after = { haul with ended := ec = .eof } := step
    subst after
    refine ⟨⟨balanced.same, balanced.caller, balanced.coded⟩, fun never => ?_, fun eof => ?_⟩
    · exact absurd never (Option.some_ne_none ec)
    · exact decide_eq_true (Option.some.inj eof)
  reads stream haul chunk after balanced _ step := by
    have step : after = { haul with received := haul.received ++ chunk.data, ended := false } := step
    obtain ⟨type', prevCr, dst⟩ := stream
    obtain rfl : type' = type := balanced.same
    obtain rfl : dst = .caller := balanced.caller
    have coded : (OutputStream.coder type').feed false haul.received = (prevCr, haul.written) :=
      balanced.coded
    have fed := Transducer.feed_append (OutputStream.coder type') false haul.received chunk.data
    rw [coded] at fed
    refine Program.wp_mono (OutputStream.write_hauls prevCr chunk.data after) ?_ ?_
    · intro _ stream written both
      have next : Balanced type' stream written := by
        rw [both.1, both.2, step]
        exact ⟨rfl, rfl, fed⟩
      refine Haul.counted next ⟨⟨next.same, next.caller, next.coded⟩, fun _ => rfl, fun never => ?_⟩
      exact absurd never.symm (Option.some_ne_none _)
    · intro _ _ last same
      rw [same, step]
      exact decoded_behind fed (List.prefix_append _ _)

private theorem flush_delivers {stream : OutputStream} {ec : Option ErrorCode} {haul : Haul}
    (tolerated : ec = none ∨ ec = some .eof) (drained : Drained type stream ec haul) :
    OutputStream.flush.wp hauls fuel (fun _ _ last => Delivered type last)
      (fun _ _ last => last.written <+: decoded type last.received) stream haul := by
  obtain ⟨type', prevCr, dst⟩ := stream
  obtain rfl : type' = type := drained.balanced.same
  obtain rfl : dst = .caller := drained.balanced.caller
  have whole := decoded_eq drained.balanced.coded
  refine Program.wp_mono (OutputStream.flush_hauls prevCr haul) ?_ ?_
  · intro _ _ last put
    rw [put]
    exact ⟨whole.symm, tolerated.imp drained.stopped drained.eof⟩
  · intro _ _ last ends
    rcases ends with same | put
    · rw [same]
      exact decoded_behind drained.balanced.coded (List.prefix_refl _)
    · rw [put]
      exact whole ▸ List.prefix_refl _

theorem recv_hauls (callback : Bool) (connection : DataConnection) {haul : Haul}
    (still : Haul.empty.Still haul) :
    (recv ⟨type, false, .caller⟩ callback).wp hauls fuel (fun _ _ last => Delivered type last)
      (fun _ _ last => last.written <+: decoded type last.received) connection haul := by
  have fresh : Balanced type ⟨type, false, .caller⟩ haul := by
    rw [still.only]
    exact ⟨rfl, rfl, rfl⟩
  have skipped : Delivered type { haul with cancelled := true } := by
    rw [still.only]
    refine ⟨?_, .inl rfl⟩
    cases type <;> rfl
  refine Program.wp_mono ((receives_hauls callback connection).recv (fun _ => Delivered type) _ _
    (Haul.framed fresh skipped) ?_ ?_) (fun _ _ _ both => both.2) fun _ _ _ => id
  · exact fun _ _ _ _ drained => decoded_behind drained.balanced.coded (List.prefix_refl _)
  · exact fun _ _ _ tolerated drained => Program.wp_mono (flush_delivers tolerated drained)
      (fun _ _ _ => Haul.ended_iff.mpr) fun _ _ _ => id

end DataConnection

/-- What an upload makes of the data of its source. -/
def encoded : TransferType → Bytes → Bytes
  | .binary, data => data
  | .ascii, data => withLineEnds crlf data

/-- What a stream has still to hand out when `rest` is to come from its source. -/
def InputStream.owed (stream : InputStream) (rest : Bytes) : Bytes :=
  match stream with
  | .binary => rest
  | .ascii stream => stream.owed rest

/-- The server has been sent the encoding of what was taken from the source, but for what
the stream still owes. -/
def Paced (type : TransferType) (stream : InputStream) (haul : Haul) : Prop :=
  ∀ rest, haul.sent ++ stream.owed rest = encoded type (haul.taken ++ rest)

/-- The server has been sent all of the encoding, and the source is at its end. -/
structure Sent (type : TransferType) (haul : Haul) : Prop where
  whole : haul.sent = encoded type haul.taken
  ended : haul.ended = true

/-- What one read has done: `block` comes next, and nothing was moved but from the source. -/
structure Fetched (type : TransferType) (haul : Haul) (block : Bytes) (stream : InputStream)
    (last : Haul) : Prop where
  only : last = { haul with taken := last.taken, ended := last.ended }
  paced : ∀ rest, haul.sent ++ (block ++ stream.owed rest) = encoded type (last.taken ++ rest)
  drained : block = [] → last.ended = true ∧ stream.owed [] = []

/-- What a source that fails leaves behind. -/
def Interrupted (type : TransferType) (haul last : Haul) : Prop :=
  haul.sent = last.sent ∧ haul.sent <+: encoded type last.taken

private theorem interrupted {start haul : Haul} {owed : Bytes → Bytes}
    (only : haul = { start with taken := haul.taken, ended := haul.ended })
    (paced : ∀ rest, start.sent ++ owed rest = encoded type (haul.taken ++ rest)) :
    Interrupted type start haul := by
  refine ⟨(congrArg Haul.sent only).symm, ?_⟩
  have whole := paced []
  rw [List.append_nil] at whole
  exact whole ▸ List.prefix_append _ _

namespace AsciiIstream

private theorem fill_hauls (size steps : Nat) (stream : AsciiIstream) (buf : Bytes) (start haul : Haul)
    (positive : 0 < size) (only : haul = { start with taken := haul.taken, ended := haul.ended })
    (finished : buf.length < size → stream.needLinefeed = false)
    (paced : ∀ rest, start.sent ++ (buf ++ stream.owed rest) = encoded .ascii (haul.taken ++ rest)) :
    (fill size steps buf).wp hauls fuel
      (fun block after last => Fetched .ascii start block (.ascii after) last)
      (fun _ _ last => Interrupted .ascii start last) stream haul := by
  induction steps generalizing stream buf haul with
  | zero => exact interrupted only paced
  | succ steps ih =>
    simp only [fill, Program.wp_bind, Program.wp_get, Program.wp_ite, Program.wp_pure,
      Program.wp_modify]
    by_cases full : buf.length ≥ size
    · rw [if_pos full]
      refine ⟨only, paced, fun nothing => ?_⟩
      rw [nothing] at full
      exact absurd positive (Nat.not_lt.mpr full)
    · rw [if_neg full]
      have room := Nat.not_le.mp full
      have finished := finished room
      have nothing : stream.unfinished = [] := by simp [unfinished, finished]
      -- One round converts `data`, which is what was left or has just been read.
      have round (data : Bytes) (haul : Haul)
          (only : haul = { start with taken := haul.taken, ended := haul.ended })
          (paced : ∀ rest, start.sent ++ (buf ++ (encoder.feed stream.skipLinefeed (data ++ rest)).2) =
            encoded .ascii (haul.taken ++ rest)) :
          (fill size steps (convert size data stream buf).2).wp hauls fuel
            (fun block after last => Fetched .ascii start block (.ascii after) last)
            (fun _ _ last => Interrupted .ascii start last) (convert size data stream buf).1 haul := by
        have converted (rest : Bytes) := convert_spec size data rest stream buf room finished
        refine ih _ _ haul only (fun room => ((converted []).2.2 room).1) fun rest => ?_
        rw [(converted rest).1]
        exact paced rest
      by_cases empty : stream.internal.isEmpty = true
      · have drained : stream.internal = [] := List.isEmpty_iff.mp empty
        simp only [empty, if_true, readSource, Program.wp_bind, wp_call]
        intro answer after step
        cases answer with
        | error error =>
          have step : after = haul := step
          subst after
          exact interrupted only paced
        | ok block =>
          have step : after =
              { haul with taken := haul.taken ++ block.data, ended := block.data.isEmpty } := step
          have only : after = { start with taken := after.taken, ended := after.ended } := by
            rw [step, only]
          have read (rest : Bytes) : start.sent ++
              (buf ++ (encoder.feed stream.skipLinefeed (block.data ++ rest)).2) =
                encoded .ascii (after.taken ++ rest) := by
            have whole := paced (block.data ++ rest)
            rw [owed, nothing, drained] at whole
            rw [step, List.append_assoc]
            exact whole
          by_cases last : block.data.isEmpty = true
          · simp only [last, if_true, Program.wp_pure]
            have none : block.data = [] := List.isEmpty_iff.mp last
            refine ⟨only, fun rest => ?_, fun _ => ⟨?_, ?_⟩⟩
            · have same := read rest
              rw [none] at same
              rw [InputStream.owed, owed, nothing, drained]
              exact same
            · rw [step]
              exact last
            · rw [InputStream.owed, owed, nothing, drained]
              rfl
          · simp only [last, Bool.false_eq_true, if_false, Program.wp_pure]
            exact round block.data after only read
      · simp only [empty, Bool.false_eq_true, if_false]
        refine round stream.internal haul only fun rest => ?_
        have whole := paced rest
        rwa [owed, nothing] at whole

private theorem read_hauls (stream : AsciiIstream) (size : Nat) (positive : 0 < size) (haul : Haul)
    (paced : Paced .ascii (.ascii stream) haul) :
    (read size).wp hauls fuel
      (fun block after last => Fetched .ascii haul block (.ascii after) last)
      (fun _ _ last => Interrupted .ascii haul last) stream haul := by
  simp only [read, Program.wp_bind, Program.wp_get, Program.wp_ite, Program.wp_modify,
    Program.wp_loop]
  split
  · rename_i both
    refine fill_hauls size fuel { stream with needLinefeed := false } [lf] haul haul positive rfl
      (fun _ => rfl) fun rest => ?_
    have whole := paced rest
    rw [InputStream.owed, owed, unfinished, if_pos both.2] at whole
    exact whole
  · rename_i neither
    refine fill_hauls size fuel stream [] haul haul positive rfl (fun room => ?_) paced
    simpa using fun need => neither ⟨room, need⟩

end AsciiIstream

namespace DataConnection

/-- The stream is the one that is created for the type. -/
def Typed (type : TransferType) : InputStream → Prop
  | .binary => type = .binary
  | .ascii _ => type = .ascii

private theorem read_hauls (stream : InputStream) (haul : Haul) (typed : Typed type stream)
    (paced : Paced type stream haul) :
    (InputStream.read bufSize).wp hauls fuel
      (fun block after last => Fetched type haul block after last ∧ Typed type after)
      (fun _ _ last => Interrupted type haul last) stream haul := by
  cases stream with
  | binary =>
    obtain rfl : type = .binary := typed
    simp only [InputStream.read, readSource, Program.wp_bind, Program.wp_get, wp_call]
    intro answer after step
    cases answer with
    | error error =>
      have step : after = haul := step
      subst after
      exact interrupted rfl paced
    | ok block =>
      have step : after =
          { haul with taken := haul.taken ++ block.data, ended := block.data.isEmpty } := step
      subst after
      refine ⟨⟨rfl, fun rest => ?_, fun nothing => ?_⟩, rfl⟩
      · refine (paced (block.data ++ rest)).trans ?_
        exact congrArg (encoded .binary) (List.append_assoc ..).symm
      · exact ⟨List.isEmpty_iff.mpr nothing, rfl⟩
  | ascii stream =>
    obtain rfl : type = .ascii := typed
    simp only [InputStream.read, Program.wp_bind, Program.wp_get, Program.wp_on, Program.wp_modify,
      Program.wp_pure]
    refine Program.wp_mono (AsciiIstream.read_hauls stream bufSize (by decide) haul paced) ?_
      fun _ _ _ => id
    exact fun block after last fetched => ⟨fetched, rfl⟩

/-- Where a transfer to the server stands at the beginning of a round, between the read of a
block and its write, and in the end. -/
private def Ready (type : TransferType) (stream : InputStream) (haul : Haul) : Prop :=
  Typed type stream ∧ Paced type stream haul

private def Holding (type : TransferType) (block : Bytes) (stream : InputStream) (haul : Haul) :
    Prop :=
  Typed type stream ∧
    ∀ rest, haul.sent ++ (block ++ stream.owed rest) = encoded type (haul.taken ++ rest)

private def Moved (type : TransferType) (haul : Haul) : Prop :=
  haul.sent <+: encoded type haul.taken ∧ (haul.cancelled = true ∨ Sent type haul)

private theorem sends_hauls (callback : Bool) (connection : DataConnection) :
    Sends hauls fuel callback connection (Ready type) (Holding type) (fun _ => Moved type)
      (fun last => last.sent <+: encoded type last.taken) where
  spins _ _ ready := (interrupted rfl ready.2).2
  reads stream haul ready := by
    refine Program.wp_mono (read_hauls stream haul ready.1 ready.2) ?_
      fun _ _ last broken => broken.1 ▸ broken.2
    intro block next last both
    obtain ⟨fetched, typed⟩ := both
    have sent : haul.sent = last.sent := (congrArg Haul.sent fetched.only).symm
    have paced := fetched.paced
    rw [sent] at paced
    by_cases empty : block.isEmpty = true
    · rw [if_pos empty]
      have nothing : block = [] := List.isEmpty_iff.mp empty
      obtain ⟨ended, drained⟩ := fetched.drained nothing
      have whole := paced []
      rw [nothing, drained, List.append_nil, List.append_nil, List.append_nil] at whole
      exact ⟨whole ▸ List.prefix_refl _, .inr ⟨whole, ended⟩⟩
    · rw [if_neg empty]
      exact ⟨typed, paced⟩
  closed _ _ haul _ after holding _ step := by
    have step : after = haul := step
    subst step
    exact (interrupted rfl holding.2).2
  refused _ _ haul _ after holding _ step := by
    have step : after = haul := step
    subst step
    exact (interrupted rfl holding.2).2
  writes block stream haul after holding _ step := by
    have step : after = { haul with sent := haul.sent ++ block } := step
    subst step
    have paced : Paced type stream { haul with sent := haul.sent ++ block } :=
      fun rest => (List.append_assoc ..).trans (holding.2 rest)
    exact Haul.counted ⟨holding.1, paced⟩ ⟨(interrupted rfl paced).2, .inl rfl⟩

theorem send_hauls (callback : Bool) (stream : InputStream) (connection : DataConnection)
    (typed : Typed type stream) (fresh : ∀ rest, stream.owed rest = encoded type rest) {haul : Haul}
    (still : Haul.empty.Still haul) :
    (send stream callback).wp hauls fuel
      (fun _ _ last => last.sent <+: encoded type last.taken ∧
        (last.cancelled = true ∨ Sent type last))
      (fun _ _ last => last.sent <+: encoded type last.taken) connection haul := by
  have ready : Ready type stream haul := by
    rw [still.only]
    exact ⟨typed, fresh⟩
  have skipped : Moved type { haul with cancelled := true } := by
    rw [still.only]
    exact ⟨List.nil_prefix, .inl rfl⟩
  exact Program.wp_mono ((sends_hauls callback connection).send (fun _ => Moved type) stream haul
    (Haul.framed ready skipped) fun _ _ => Haul.ended_iff.mpr) (fun _ _ _ both => both.2)
    fun _ _ _ => id

end DataConnection

end LibFtp
