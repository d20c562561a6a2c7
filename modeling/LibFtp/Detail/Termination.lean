import LibFtp.Detail.LoopRules
import LibFtp.Effect.Termination

/-! The loops of a transfer end, unless the surroundings go on giving: bytes over the
connection or bytes of the caller's source. -/

namespace LibFtp

open Effect

/-- What a call has been given. An end of the stream counts on the control connection only,
since it ends everything else. -/
def intake (taken : Nat) : BoundaryEvent → Nat
  | ⟨.readSome _ _ _, .ok chunk⟩ => taken + chunk.data.length
  | ⟨.readSome .control _ _, .error .eof⟩ => taken + 1
  | ⟨.unopened .control _ (.readSome _), .eof⟩ => taken + 1
  | ⟨.sourceRead _, .ok block⟩ => taken + block.data.length
  | _ => taken

abbrev supplies : Monitor boundary Nat := Monitor.fold intake

/-- The fuel that the intake accounts for, when `start` bytes were left from earlier calls.
A byte of the source may become two on the wire. -/
def Spent (start fuel taken : Nat) : Prop := fuel ≤ start + 2 * taken

def Rising (kept : Nat → Prop) : Prop := ∀ low high, low ≤ high → kept low → kept high

theorem intake_le (taken : Nat) (event : BoundaryEvent) : taken ≤ intake taken event := by
  unfold intake
  split <;> omega

section Calls
variable {State Value : Type} {invariant : State → Nat → Prop} {spent : Nat → Nat → Prop}

theorem call_ends (rising : ∀ state, Rising (invariant state)) (query : Boundary.Query) :
    (call query : Method State _).Ends supplies invariant spent := by
  refine .ask fun state taken answer after holds step => rising state taken after ?_ holds
  have step : after = intake taken ⟨query, answer⟩ := step
  rw [step]
  exact intake_le taken _

theorem throwIf_ends (ec : Option ErrorCode) (fmt : String) :
    (throwIf ec fmt : Method State Unit).Ends supplies invariant spent := by
  cases ec with
  | none => exact .pure ()
  | some ec => exact .raise _

theorem throwUnless_ends (tolerated : ErrorCode) (ec : Option ErrorCode) (fmt : String) :
    (throwUnless tolerated ec fmt : Method State Unit).Ends supplies invariant spent := by
  cases ec with
  | none => exact .pure ()
  | some ec => exact .ite (.pure ()) (.raise _)

theorem valueOrThrow_ends (answer : Except ErrorCode Value) (fmt : String) :
    (valueOrThrow answer fmt : Method State Value).Ends supplies invariant spent := by
  cases answer with
  | ok value => exact .pure value
  | error ec => exact .raise _

end Calls

section Sockets
variable {kept : Nat → Prop} {spent : Nat → Nat → Prop} (rising : Rising kept) {channel : Channel}

include rising

namespace Socket

private theorem ask_ends (query : Boundary.Query) :
    (call query : Method Socket _).Ends supplies (fun _ => kept) spent :=
  call_ends (fun _ => rising) query

theorem setSsl_ends (layer : Layer) :
    (setSsl channel layer).Ends supplies (fun _ => kept) spent :=
  .bind (ask_ends rising _) fun _ => .modify fun _ _ => id

theorem sslHandshake_ends : (sslHandshake channel).Ends supplies (fun _ => kept) spent := by
  refine .bind .get fun socket => ?_
  cases socket.layer with
  | plain => exact .pure none
  | ssl => exact ask_ends rising _

theorem sslShutdown_ends : (sslShutdown channel).Ends supplies (fun _ => kept) spent := by
  refine .bind .get fun socket => ?_
  cases socket.layer with
  | plain => exact .pure none
  | ssl => exact ask_ends rising _

theorem write_ends (data : Bytes) :
    (write channel data).Ends supplies (fun _ => kept) spent :=
  .bind .get fun _ => .ite (ask_ends rising _) (.bind (ask_ends rising _) fun _ => .pure _)

theorem shutdown_ends : (shutdown channel).Ends supplies (fun _ => kept) spent :=
  .bind .get fun _ => .ite (ask_ends rising _) (.bind (ask_ends rising _) fun _ => .pure _)

theorem close_ends : (close channel).Ends supplies (fun _ => kept) spent :=
  .bind .get fun _ => .ite
    (.bind (ask_ends rising _) fun _ => .bind (.modify fun _ _ => id) fun _ => .pure _)
    (.bind (ask_ends rising _) fun _ => .pure _)

end Socket

namespace DataConnection

omit rising in
theorem socket_ends {program : Method Socket Value}
    (ends : program.Ends supplies (fun _ => kept) spent) :
    (onSocket program).Ends supplies (fun _ => kept) spent :=
  .zoom (fun _ => ends) fun _ => rfl

private theorem ask_ends (query : Boundary.Query) :
    (call query : Method DataConnection _).Ends supplies (fun _ => kept) spent :=
  call_ends (fun _ => rising) query

theorem connect_ends (endpoint : Endpoint) :
    (connect endpoint).Ends supplies (fun _ => kept) spent := by
  refine .bind (ask_ends rising _) fun answer => ?_
  cases answer with
  | none => exact .modify fun _ _ => id
  | some ec =>
    exact .bind (.modify fun _ _ => id) fun _ =>
      .bind (socket_ends (Socket.close_ends rising)) fun _ => .raise _

theorem connectText_ends (ip : Bytes) (port : UInt16) :
    (connectText ip port).Ends supplies (fun _ => kept) spent :=
  .bind (ask_ends rising _) fun _ => .bind (valueOrThrow_ends _ _) fun _ => connect_ends rising _

theorem listen_ends (endpoint : Endpoint) :
    (listen endpoint).Ends supplies (fun _ => kept) spent :=
  .bind (ask_ends rising _) fun _ => .bind (throwIf_ends _ _) fun _ =>
    .bind (.modify fun _ _ => id) fun _ => .bind (ask_ends rising _) fun _ =>
      .bind (throwIf_ends _ _) fun _ => .bind (ask_ends rising _) fun _ => throwIf_ends _ _

theorem getListenEndpoint_ends :
    getListenEndpoint.Ends supplies (fun _ => kept) spent :=
  .bind (ask_ends rising _) fun _ => valueOrThrow_ends _ _

theorem accept_ends : accept.Ends supplies (fun _ => kept) spent :=
  .bind (ask_ends rising _) fun _ => .bind (throwIf_ends _ _) fun _ => .modify fun _ _ => id

theorem setSsl_ends (layer : Layer) :
    (setSsl layer).Ends supplies (fun _ => kept) spent :=
  socket_ends (Socket.setSsl_ends rising layer)

theorem sslHandshake_ends : sslHandshake.Ends supplies (fun _ => kept) spent :=
  .bind (socket_ends (Socket.sslHandshake_ends rising)) fun _ => throwIf_ends _ _

theorem disconnect_ends (graceful : Bool) :
    (disconnect graceful).Ends supplies (fun _ => kept) spent := by
  refine .bind ?_ fun _ => .bind ?_ fun _ => .bind ?_ fun _ => ?_
  · exact .bind .get fun _ => .ite (.bind (socket_ends (Socket.sslShutdown_ends rising))
      fun _ => throwUnless_ends _ _ _) (.pure _)
  · exact .ite (.bind (socket_ends (Socket.shutdown_ends rising))
      fun _ => throwUnless_ends _ _ _) (.pure _)
  · exact .bind (socket_ends (Socket.close_ends rising)) fun _ => throwIf_ends _ _
  · exact .bind .get fun _ => .ite (.bind (ask_ends rising _) fun _ =>
      .bind (.modify fun _ _ => id) fun _ => throwIf_ends _ _) (.pure _)

end DataConnection

end Sockets

section Streams
variable {kept : Nat → Prop} {spent : Nat → Nat → Prop} (rising : Rising kept) {fuel : Nat}

include rising

private theorem destinationWrite_ends (data : Bytes) :
    (Destination.write data).Ends supplies (fun _ => kept) spent := by
  refine .bind .get fun dst => ?_
  cases dst with
  | memory content => exact .modify fun _ _ => id
  | caller =>
    refine .bind (call_ends (fun _ => rising) _) fun answer => ?_
    cases answer with
    | none => exact .pure _
    | some error => exact .raise _

private theorem destinationFlush_ends :
    Destination.flush.Ends supplies (fun _ => kept) spent := by
  refine .bind .get fun dst => ?_
  cases dst with
  | memory content => exact .pure _
  | caller =>
    refine .bind (call_ends (fun _ => rising) _) fun answer => ?_
    cases answer with
    | none => exact .pure _
    | some error => exact .raise _

private theorem OutputStream.write_ends (data : Bytes) :
    (OutputStream.write data).Ends supplies (fun _ => kept) spent := by
  have written (data : Bytes) : (onDestination (Destination.write data)).Ends supplies
      (fun _ => kept) spent := .zoom (fun _ => destinationWrite_ends rising data) fun _ => rfl
  refine .bind .get fun stream => ?_
  cases stream.type with
  | binary => exact written data
  | ascii => exact .bind (.modify fun _ _ => id) fun _ => written _

private theorem OutputStream.flush_ends :
    OutputStream.flush.Ends supplies (fun _ => kept) spent := by
  have rest : (onDestination Destination.flush).Ends supplies (fun _ => kept) spent :=
    .zoom (fun _ => destinationFlush_ends rising) fun _ => rfl
  refine .bind .get fun stream => ?_
  split
  · exact .bind (.zoom (fun _ => destinationWrite_ends rising _) fun _ => rfl) fun _ =>
      .bind (.modify fun _ _ => id) fun _ => rest
  · exact rest

end Streams

namespace AsciiIstream

/-- The line feed that is still to come. -/
private def late (stream : AsciiIstream) : Nat := if stream.needLinefeed then 1 else 0

/-- What a stream may still put out without its source. -/
private def store (stream : AsciiIstream) : Nat := 2 * stream.internal.length + stream.late

private theorem appendCrlf_late (stream : AsciiIstream) (buf : Bytes) (size : Nat) :
    (stream.appendCrlf buf size).2.length + (stream.appendCrlf buf size).1.late ≤
      buf.length + stream.late + 2 := by
  simp only [appendCrlf]
  by_cases full : (buf ++ [cr]).length ≥ size
  · rw [if_pos full]
    have set : late { stream with needLinefeed := true } = 1 := rfl
    simp only [List.length_append, List.length_singleton]
    omega
  · rw [if_neg full]
    simp only [List.length_append, List.length_singleton]
    omega

private theorem convertChar_late (stream : AsciiIstream) (buf : Bytes) (size : Nat) (ch : Byte) :
    (stream.convertChar buf size ch).2.length + (stream.convertChar buf size ch).1.late ≤
      buf.length + stream.late + 2 := by
  have lineEnd := appendCrlf_late stream buf size
  by_cases isCr : ch = cr
  · subst ch
    exact lineEnd
  · by_cases isLf : ch = lf
    · subst ch
      cases skip : stream.skipLinefeed with
      | true =>
        simp only [convertChar, isCr, skip, if_true, if_false]
        exact Nat.le_add_right _ 2
      | false =>
        simp only [convertChar, isCr, skip, if_true, if_false, Bool.false_eq_true]
        exact lineEnd
    · simp only [convertChar, isCr, isLf, if_false, List.length_append, List.length_singleton]
      have same : late { stream with skipLinefeed := false } = stream.late := rfl
      omega

/-- Conversion takes at least one byte, and at most doubles what it takes. -/
private theorem convert_store (size : Nat) (data : Bytes) (stream : AsciiIstream) (buf : Bytes) :
    (convert size data stream buf).2.length + (convert size data stream buf).1.store ≤
        buf.length + stream.late + 2 * data.length ∧
      (data ≠ [] → (convert size data stream buf).1.internal.length < data.length) := by
  induction data generalizing stream buf with
  | nil =>
    have same : store { stream with internal := [] } = stream.late := Nat.zero_add _
    simp only [convert, List.length_nil]
    exact ⟨by omega, fun never => absurd rfl never⟩
  | cons ch data ih =>
    have one := convertChar_late stream buf size ch
    simp only [convert, List.length_cons]
    generalize stream.convertChar buf size ch = converted at one
    obtain ⟨next, out⟩ := converted
    have one : out.length + next.late ≤ buf.length + stream.late + 2 := one
    by_cases full : out.length ≥ size
    · simp only [if_pos full]
      have same : store { next with internal := data } = 2 * data.length + next.late := rfl
      exact ⟨by omega, fun _ => Nat.lt_succ_self _⟩
    · simp only [if_neg full]
      obtain ⟨bound, fewer⟩ := ih next out
      refine ⟨by omega, fun _ => ?_⟩
      by_cases last : data = []
      · subst last
        exact Nat.zero_lt_one
      · exact Nat.lt_succ_of_lt (fewer last)

variable {fuel : Nat}

/-- A block costs at least half its length, and each round of the loop a byte. -/
private theorem fill_ends (size steps : Nat) (stream : AsciiIstream) (buf : Bytes) (taken : Nat) :
    (fill size steps buf).wp supplies fuel
      (fun block after last => taken ≤ last ∧
        block.length + after.store + 2 * taken ≤ buf.length + stream.store + 2 * last)
      (fun stop _ last => stop = .spinning → steps + taken ≤ stream.internal.length + last) stream
      taken := by
  induction steps generalizing stream buf taken with
  | zero =>
    intro _
    omega
  | succ steps ih =>
    simp only [fill, Program.wp_bind, Program.wp_get, Program.wp_ite, Program.wp_pure,
      Program.wp_modify]
    split
    · exact ⟨Nat.le_refl taken, Nat.le_refl _⟩
    · have round (data : Bytes) (some : data ≠ []) (now : Nat) (since : taken ≤ now)
          (given : data.length + taken = stream.internal.length + now) :
          (fill size steps (convert size data stream buf).2).wp supplies fuel
            (fun block after last => taken ≤ last ∧
              block.length + after.store + 2 * taken ≤ buf.length + stream.store + 2 * last)
            (fun stop _ last => stop = .spinning →
              steps + 1 + taken ≤ stream.internal.length + last)
            (convert size data stream buf).1 now := by
        obtain ⟨bound, fewer⟩ := convert_store size data stream buf
        have fewer := fewer some
        have total : stream.store = 2 * stream.internal.length + stream.late := rfl
        refine Program.wp_mono (ih _ _ now) ?_ ?_
        · intro block after last both
          exact ⟨by omega, by omega⟩
        · intro stop _ last spent spins
          have spent := spent spins
          omega
      by_cases empty : stream.internal.isEmpty = true
      · have drained : stream.internal.length = 0 := by
          rw [List.isEmpty_iff.mp empty]
          rfl
        simp only [empty, if_true, readSource, Program.wp_bind, wp_call]
        intro answer after step
        cases answer with
        | error error => exact nofun
        | ok block =>
          have step : after = taken + block.data.length := step
          subst step
          by_cases last : block.data.isEmpty = true
          · simp only [Program.wp_pure, last, if_true]
            exact ⟨Nat.le_add_right _ _, by omega⟩
          · simp only [Program.wp_pure, last, Bool.false_eq_true, if_false]
            exact round block.data (fun nothing => last (List.isEmpty_iff.mpr nothing)) _
              (Nat.le_add_right _ _) (by omega)
      · simp only [empty, Bool.false_eq_true, if_false]
        exact round stream.internal (fun nothing => empty (List.isEmpty_iff.mpr nothing)) taken
          (Nat.le_refl taken) rfl

private theorem read_ends (size : Nat) (stream : AsciiIstream) (taken : Nat) :
    (read size).wp supplies fuel
      (fun block after last => taken ≤ last ∧
        block.length + after.store + 2 * taken ≤ stream.store + 2 * last)
      (fun stop _ last => stop = .spinning → fuel + taken ≤ stream.internal.length + last) stream
      taken := by
  simp only [read, Program.wp_bind, Program.wp_get, Program.wp_ite, Program.wp_modify,
    Program.wp_loop]
  split
  · rename_i both
    refine Program.wp_mono (fill_ends size fuel { stream with needLinefeed := false } [lf] taken) ?_
      fun _ _ _ => id
    intro block after last bound
    have before : stream.store = 2 * stream.internal.length + 1 :=
      congrArg (2 * stream.internal.length + ·) (if_pos both.2)
    have owed : store { stream with needLinefeed := false } = 2 * stream.internal.length := rfl
    have one : [lf].length = 1 := rfl
    exact ⟨bound.1, by omega⟩
  · refine Program.wp_mono (fill_ends size fuel stream [] taken) ?_ fun _ _ _ => id
    intro block after last bound
    have none : ([] : Bytes).length = 0 := rfl
    exact ⟨bound.1, by omega⟩

end AsciiIstream

namespace DataConnection

variable {fuel : Nat}

def held : InputStream → Nat
  | .binary => 0
  | .ascii stream => stream.store

private theorem read_ends (stream : InputStream) (taken : Nat) (given : held stream ≤ 2 * taken) :
    (InputStream.read bufSize).wp supplies fuel
      (fun block after last => taken ≤ last ∧
        block.length + held after + 2 * taken ≤ held stream + 2 * last)
      (fun stop _ last => stop = .spinning → fuel ≤ last) stream taken := by
  cases stream with
  | binary =>
    simp only [InputStream.read, readSource, Program.wp_bind, Program.wp_get, wp_call]
    intro answer after step
    cases answer with
    | error error => exact nofun
    | ok block =>
      have step : after = taken + block.data.length := step
      subst step
      have none : held .binary = 0 := rfl
      exact ⟨Nat.le_add_right _ _, by omega⟩
  | ascii stream =>
    simp only [InputStream.read, Program.wp_bind, Program.wp_get, Program.wp_on, Program.wp_modify,
      Program.wp_pure]
    refine Program.wp_mono (AsciiIstream.read_ends bufSize stream taken) (fun _ _ _ => id) ?_
    intro stop _ last spent spins
    have spent := spent spins
    have given : 2 * stream.internal.length + stream.late ≤ 2 * taken := given
    omega

/-- The loop of `send` hands out something in each round. -/
private theorem sendLoop_ends (callback : Bool) (steps : Nat) (stream : InputStream)
    (connection : DataConnection) (taken : Nat) (given : held stream ≤ 2 * taken) :
    (sendLoop callback steps stream).wp supplies fuel (fun _ _ last => taken ≤ last)
      (fun stop _ last => stop = .spinning →
        steps + 2 * taken ≤ held stream + 2 * last ∨ fuel ≤ last) connection taken := by
  induction steps generalizing stream connection taken with
  | zero => exact fun _ => .inl (by omega)
  | succ steps ih =>
    simp only [sendLoop, Program.wp_bind, Program.wp_on, Program.wp_ite, Program.wp_pure]
    refine Program.wp_mono (read_ends stream taken given) ?_ fun _ _ _ spent spins => .inr (spent spins)
    intro block next now both
    obtain ⟨since, bound⟩ := both
    by_cases empty : block.isEmpty = true
    · rw [if_pos empty]
      exact since
    · rw [if_neg empty]
      have some : 0 < block.length :=
        List.length_pos_iff.mpr fun nothing => empty (List.isEmpty_iff.mpr nothing)
      have round : (sendLoop callback steps next).wp supplies fuel (fun _ _ last => taken ≤ last)
          (fun stop _ last => stop = .spinning →
            steps + 1 + 2 * taken ≤ held stream + 2 * last ∨ fuel ≤ last) connection now := by
        refine Program.wp_mono (ih next connection now (by omega)) ?_ ?_
        · exact fun _ _ last later => Nat.le_trans since later
        · exact fun _ _ last spent spins => (spent spins).imp_left fun spent => by omega
      simp only [onSocket, Program.wp_zoom, Socket.wp_write, wp_throwIf, wp_call]
      split
      · intro answer written step
        cases answer with
        | some ec =>
          intro spins
          cases spins
        | none =>
          have step : written = now := step
          subst step
          cases callback with
          | false => exact round
          | true =>
            rw [if_pos rfl]
            intro _ counted counting cancelled checked checking
            have counting : counted = written := counting
            have checking : checked = counted := checking
            subst counting checking
            cases cancelled with
            | true => exact since
            | false => exact round
      · intro _ _ _ spins
        cases spins

private theorem recvLoop_ends (callback : Bool) (steps : Nat) (stream : OutputStream)
    (connection : DataConnection) (taken : Nat) :
    (recvLoop callback steps stream).wp supplies fuel (fun _ _ last => taken ≤ last)
      (fun stop _ last => stop = .spinning → steps + taken ≤ last) connection taken := by
  induction steps generalizing stream connection taken with
  | zero => exact fun _ => Nat.le_of_eq (Nat.zero_add taken)
  | succ steps ih =>
    simp only [recvLoop, onSocket, Program.wp_bind, Program.wp_zoom, Socket.wp_readSome]
    split
    · intro answer after step
      cases answer with
      | error ec =>
        have step : after = taken := by cases ec <;> exact step
        exact Nat.le_of_eq step.symm
      | ok chunk =>
        have step : after = taken + chunk.data.length := step
        have some := List.length_pos_iff.mpr chunk.nonempty
        simp only [Program.wp_bind, Program.wp_on, Program.wp_ite, Program.wp_pure, wp_call]
        have written : (OutputStream.write chunk.data).Ends supplies (fun _ => (after ≤ ·))
            fun _ _ => False :=
          OutputStream.write_ends (fun _ _ => fun rises holds => Nat.le_trans holds rises) _
        refine Program.wp_mono (written fuel stream after (Nat.le_refl after)) ?_
          fun _ _ _ never spins => (never spins).elim
        intro _ next now since
        have later : taken ≤ now := by omega
        have round : (recvLoop callback steps next).wp supplies fuel (fun _ _ last => taken ≤ last)
            (fun stop _ last => stop = .spinning → steps + 1 + taken ≤ last) connection now := by
          refine Program.wp_mono (ih next connection now) ?_ ?_
          · exact fun _ _ last later => by omega
          · exact fun _ _ last spent spins => by have spent := spent spins; omega
        cases callback with
        | false => exact round
        | true =>
          rw [if_pos rfl]
          intro _ counted counting cancelled checked checking
          have counting : counted = now := counting
          have checking : checked = counted := checking
          subst counting checking
          cases cancelled with
          | true => exact later
          | false => exact round
    · intro ec after step
      have step : after = taken := step
      exact Nat.le_of_eq step.symm

section Transfers
variable {start : Nat} {kept : Nat → Prop} (rising : Rising kept) (callback : Bool)

include rising

private theorem ask_kept (query : Boundary.Query) :
    (call query : Method DataConnection _).Ends supplies (fun _ => kept) (Spent start) :=
  call_ends (fun _ => rising) query

theorem recv_ends (stream : OutputStream) :
    (recv stream callback).Ends supplies (fun _ => kept) (Spent start) := by
  have loop : (Program.loop fun fuel => recvLoop callback fuel stream).Ends supplies
      (fun _ => kept) (Spent start) := by
    intro fuel connection taken holds
    simp only [Program.wp_loop]
    refine Program.wp_mono (recvLoop_ends callback fuel stream connection taken)
      (fun _ _ last later => rising taken last later holds) ?_
    intro _ _ last spent spins
    have spent := spent spins
    show fuel ≤ start + 2 * last
    omega
  have tail (stream : OutputStream) (ec : Option ErrorCode) :
      (recvTail stream ec).Ends supplies (fun _ => kept) (Spent start) :=
    .bind (throwUnless_ends _ _ _) fun _ =>
      .bind (.on fun _ => OutputStream.flush_ends rising) fun _ => .pure _
  refine .ite (.bind (ask_kept rising _) fun _ => .ite (.pure _) ?_) ?_
  · exact .bind (ask_kept rising _) fun _ => .bind loop fun ended => .bind (tail ended.1 ended.2)
      fun _ => .bind (ask_kept rising _) fun _ => .pure _
  · exact .bind loop fun ended => tail ended.1 ended.2

theorem send_ends (stream : InputStream) (fresh : held stream = 0) :
    (send stream callback).Ends supplies (fun _ => kept) (Spent start) := by
  have loop : (Program.loop fun fuel => sendLoop callback fuel stream).Ends supplies
      (fun _ => kept) (Spent start) := by
    intro fuel connection taken holds
    simp only [Program.wp_loop]
    refine Program.wp_mono (sendLoop_ends callback fuel stream connection taken (by omega))
      (fun _ _ last later => rising taken last later holds) ?_
    intro _ _ last spent spins
    show fuel ≤ start + 2 * last
    rcases spent spins with spent | spent
    · omega
    · omega
  refine .ite (.bind (ask_kept rising _) fun _ => .ite (.pure _) ?_) loop
  exact .bind (ask_kept rising _) fun _ => .bind loop fun _ => .bind (ask_kept rising _) fun _ =>
    .pure _

end Transfers

end DataConnection

end LibFtp
