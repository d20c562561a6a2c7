import LibFtp.Detail.TransferLoops

/-! Texts that go up and come down again in ASCII type. -/

namespace LibFtp

open Effect

namespace Ascii

/-- Some `ascii_istream`, whatever its buffer, its source's chunks and the sizes asked
for, turns the data into these wire bytes. -/
def Encodes (data wire : Bytes) : Prop :=
  ∃ (World : Type) (host : Host boundary World) (world : World) (fuel bufSize : Nat)
    (chunks last blocks : List Bytes) (sizes : Nat → Nat),
    chunks.flatten = data ∧ (∀ chunk ∈ chunks, chunk ≠ []) ∧ (∀ call, 1 ≤ sizes call) ∧
    let run := (AsciiIstream.readAll sizes).run host fuel (AsciiIstream.new bufSize) world
    handsOut.Drives chunks run.events last ∧ run.value.1 = .ok blocks ∧ blocks.flatten = wire

/-- The bytes of the writes to the destination. -/
def delivered (queries : List Boundary.Query) : Bytes :=
  queries.flatMap fun query => match query with
    | .sinkWrite data => data
    | _ => []

/-- Some `ascii_ostream`, whatever the blocks written to it, hands the data to its
destination for these wire bytes. -/
def Decodes (wire data : Bytes) : Prop :=
  ∃ (World : Type) (host : Host boundary World) (world : World) (fuel : Nat)
    (blocks : List Bytes) (asked : List Boundary.Query),
    blocks.flatten = wire ∧
    let run := (OutputStream.writeAll blocks).run host fuel ⟨.ascii, false, .caller⟩ world
    accepts.Drives [] run.events asked ∧ run.value.1 = .ok () ∧ delivered asked = data

/-- The bytes of the writes to the data connection. -/
def sent (queries : List Boundary.Query) : Bytes :=
  queries.flatMap fun query => match query with
    | .write .data _ data => data
    | _ => []

/-- An upload in ASCII type that is not cancelled sends these wire bytes for the data. -/
def Uploads (data wire : Bytes) : Prop :=
  ∃ (World : Type) (host : Host boundary World) (world : World) (fuel : Nat)
    (connection : DataConnection) (callback : Bool) (chunks last : List Bytes),
    chunks.flatten = data ∧ (∀ chunk ∈ chunks, chunk ≠ []) ∧
    let run := (DataConnection.send (.ascii (AsciiIstream.new 8192)) callback).run host fuel
      connection world
    let log := run.events.foldl Log.note .empty
    handsOut.Drives chunks run.events last ∧ run.value.1.isOk = true ∧ true ∉ log.checks ∧
      sent log.asked = wire

/-- A download in ASCII type that is not cancelled delivers the data for these wire
bytes. -/
def Downloads (wire data : Bytes) : Prop :=
  ∃ (World : Type) (host : Host boundary World) (world : World) (fuel : Nat)
    (connection : DataConnection) (callback : Bool) (chunks last : List Bytes),
    chunks.flatten = wire ∧
    let run := (DataConnection.recv ⟨.ascii, false, .caller⟩ callback).run host fuel connection world
    let log := run.events.foldl Log.note .empty
    arrives.Drives chunks run.events last ∧ run.value.1.isOk = true ∧ true ∉ log.checks ∧
      delivered log.asked = data

theorem Encodes.eq {data wire : Bytes} (encodes : Encodes data wire) :
    wire = withLineEnds crlf data := by
  obtain ⟨_, host, world, fuel, bufSize, chunks, last, blocks, sizes, same, nonempty, positive,
    drives, returned, flat⟩ := encodes
  rcases Program.wp_run (AsciiIstream.readAll_spec True positive bufSize chunks nonempty
    fun sound => absurd trivial sound) host world drives with ⟨other, ended, holds⟩ | ⟨_, stopped, _⟩
  · have equal : blocks = other := Except.ok.inj (returned.symm.trans ended)
    rw [← flat, equal, holds.1, same]
  · cases returned.symm.trans stopped

private theorem delivered_writes (writes : List Bytes) :
    delivered (writes.map .sinkWrite ++ [.sinkFlush]) = writes.flatten := by
  induction writes with
  | nil => rfl
  | cons data writes ih => exact congrArg (data ++ ·) ih

theorem Decodes.eq {data wire : Bytes} (decodes : Decodes wire data) : data = joinCrlf wire := by
  obtain ⟨_, host, world, fuel, blocks, asked, same, drives, returned, flat⟩ := decodes
  rcases Program.wp_run (OutputStream.writeAll_spec OutputStream.accepts_records fuel
    ⟨.ascii, false, .caller⟩ blocks []) host world drives with
    ⟨_, _, _, _, _, logged⟩ | ⟨_, _, never⟩
  · rw [OutputStream.foldl_snoc, List.nil_append] at logged
    have decoded := OutputStream.written_ascii false .caller blocks
    rw [← flat, logged, ← same]
    exact (delivered_writes _).trans decoded
  · exact never.elim

private theorem moved_all {checks : List Bool} (going : true ∉ checks) (blocks : List Bytes) :
    moved checks blocks = blocks := by
  cases checks with
  | nil => rfl
  | cons first later =>
    cases first with
    | true => exact absurd (List.mem_cons_self ..) going
    | false =>
      have never : later.findIdx? id = none := by
        rw [List.findIdx?_eq_none_iff]
        intro check member
        exact Bool.eq_false_of_not_eq_true fun set =>
          going (List.mem_cons_of_mem false (set ▸ member))
      simp [moved, upTo, never]

private theorem sent_append (front back : List Boundary.Query) :
    sent (front ++ back) = sent front ++ sent back :=
  List.flatMap_append ..

private theorem delivered_sinks (queries : List Boundary.Query) :
    delivered (DataConnection.sinks queries) = delivered queries := by
  induction queries with
  | nil => rfl
  | cons query queries ih =>
    cases query with
    | sinkWrite data => exact congrArg (data ++ ·) ih
    | _ => exact ih

private theorem sent_framed (callback : Bool) {checks : List Bool} (going : true ∉ checks)
    (connection : DataConnection) (blocks : List Bytes) :
    sent (framed callback checks (connection.sends callback blocks)) = blocks.flatten := by
  have running : checks.head? ≠ some true := fun first => going (List.mem_of_head? first)
  have middle : sent (connection.sends callback blocks) = blocks.flatten := by
    induction blocks with
    | nil => rfl
    | cons block blocks ih =>
      have head : sent (round callback [.write .data connection.socket.layer block] block.length) =
          block := by
        cases callback <;> simp [round, sent]
      rw [DataConnection.sends, List.flatMap_cons, sent_append, head]
      exact congrArg (block ++ ·) ih
  cases callback with
  | false => exact middle
  | true =>
    simp only [framed, if_true, if_neg running, sent_append, middle]
    exact List.append_nil _

theorem Uploads.eq {data wire : Bytes} (uploads : Uploads data wire) :
    wire = withLineEnds crlf data := by
  obtain ⟨_, host, world, fuel, connection, callback, chunks, last, same, nonempty, drives, returned,
    going, wrote⟩ := uploads
  obtain ⟨blocks, cut⟩ :=
    Cut.exists (by decide : 0 < DataConnection.bufSize) (withLineEnds crlf chunks.flatten)
  have hands : (InputStream.ascii (AsciiIstream.new 8192)).Hands chunks blocks :=
    .ascii ((AsciiIstream.owed_new 8192 chunks.flatten).symm ▸ cut)
  rcases Program.wp_run (DataConnection.send_spec connection callback nonempty hands) host world
    (drives.both (Monitor.fold_drives Log.note .empty _)) with ⟨_, _, _, _, asked⟩ | ⟨_, stopped, _⟩
  · rw [moved_all going] at asked
    rw [← wrote, asked, sent_framed callback going, cut.flatten, same]
  · rw [stopped] at returned
    cases returned

theorem Downloads.eq {data wire : Bytes} (downloads : Downloads wire data) :
    data = joinCrlf wire := by
  obtain ⟨_, host, world, fuel, connection, callback, chunks, last, same, drives, returned, going,
    got⟩ := downloads
  rcases Program.wp_run (DataConnection.recv_spec connection callback ⟨.ascii, false, .caller⟩ chunks)
    host world (drives.both (Monitor.fold_drives Log.note .empty _)) with
    ⟨_, _, _, silent, asked, _⟩ | ⟨_, stopped, _⟩
  · rw [moved_all going] at asked
    have heard := congrArg DataConnection.sinks asked
    rw [DataConnection.sinks_framed _ _ _ silent,
      if_neg fun first => going (List.mem_of_head? first), DataConnection.sinks_receives] at heard
    have decoded := OutputStream.written_ascii false .caller chunks
    rw [← got, ← same, ← delivered_sinks, heard]
    exact (delivered_writes _).trans decoded
  · rw [stopped] at returned
    cases returned

/-- Decoding what was encoded normalises the line ends, encoding what was decoded gives the
wire bytes back where they pair every CR with an LF, and encoding twice is encoding once;
so is what an upload and a download do. -/
theorem ascii_round_trip :
    (∀ data wire copy, Encodes data wire → Decodes wire copy →
      copy = withLineEnds [lf] data ∧ (cr ∉ data → copy = data)) ∧
    (∀ wire data again, Paired wire → Decodes wire data → Encodes data again → again = wire) ∧
    (∀ data wire again, Encodes data wire → Encodes wire again → again = wire) ∧
    (∀ data wire copy, Uploads data wire → Downloads wire copy →
      copy = withLineEnds [lf] data ∧ (cr ∉ data → copy = data)) := by
  have normalised (data wire copy : Bytes) (encoded : wire = withLineEnds crlf data)
      (decoded : copy = joinCrlf wire) :
      copy = withLineEnds [lf] data ∧ (cr ∉ data → copy = data) := by
    have same : copy = withLineEnds [lf] data := by
      rw [decoded, encoded, joinCrlf_withLineEnds]
    exact ⟨same, fun noCr => same.trans (withLineEnds_lf_eq noCr)⟩
  refine ⟨?_, ?_, ?_, ?_⟩
  · intro data wire copy encodes decodes
    exact normalised data wire copy encodes.eq decodes.eq
  · intro wire data again paired decodes encodes
    rw [encodes.eq, decodes.eq, withLineEnds_joinCrlf paired]
  · intro data wire again first second
    rw [second.eq, first.eq, withLineEnds_idempotent]
  · intro data wire copy uploads downloads
    exact normalised data wire copy uploads.eq downloads.eq

theorem ascii_round_trip_mixed :
    let data := text "a\rb\n"
    let wire := text "a\r\nb\r\n"
    let copy := text "a\nb\n"
    Encodes data wire ∧ Decodes wire copy ∧ copy = withLineEnds [lf] data := by
  intro data wire copy
  have encodes : Encodes data wire := by
    refine ⟨Script, Script.host, ⟨[], [], [data], [], fun _ => none⟩, 12, 4, [data], [],
      [text "a\r\n", text "b\r\n"], fun _ => 3, rfl, by decide, fun _ => Nat.le_add_left 1 2, ?_, rfl, rfl⟩
    exact .cons ⟨rfl, rfl⟩ (.cons ⟨rfl, rfl⟩ .nil)
  have decodes : Decodes wire copy := by
    refine ⟨Script, Script.host, .ofReplies [], 1, [text "a\r", text "\nb\r\n"],
      [.sinkWrite (text "a"), .sinkWrite (text "\nb\n"), .sinkFlush], rfl, ?_, rfl, rfl⟩
    exact .cons ⟨rfl, rfl⟩ (.cons ⟨rfl, rfl⟩ (.cons ⟨rfl, rfl⟩ .nil))
  exact ⟨encodes, decodes, (ascii_round_trip.1 data wire copy encodes decodes).1⟩

end Ascii

end LibFtp
