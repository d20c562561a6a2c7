import LibFtp.Control.Network

/-! Reading several replies from a stream that arrives in pieces. -/

namespace LibFtp

open Effect

/-- A read ends with `rest` still to come. -/
def EndsAt (stream : Bytes) (pieces : List Bytes) (rest : Bytes) : Prop :=
  ∃ front back, pieces = front ++ back ∧ front ≠ [] ∧ stream = front.flatten ++ rest

/-- Where a read must not end: between the CR and the LF that close a reply with
more behind it, and, when a reply makes the client close the connection, before
the bytes of the later replies have arrived. The last LF may be missing. -/
inductive Spoils (replies : List ServerReply) : Bytes → Prop where
  | cut (split : replies = before ++ reply :: after) (more : after ≠ []) :
      Spoils replies (lf :: wire after)
  | unavailable (split : replies = before ++ reply :: after) (closes : reply.code.value = 421)
      (more : after ≠ []) (missing : 2 ≤ rest.length) (late : rest.length ≤ (wire after).length) :
      Spoils replies rest

/-- No read ends where it must not, no closing call reports an error, and the
connection is closed once only. -/
structure Undisturbed (replies : List ServerReply) (events : List BoundaryEvent) : Prop where
  ends : ∀ rest, EndsAt (wire replies) (reads events) rest → ¬ Spoils replies rest
  closes : ∀ event ∈ events, ¬ Refuses event.query event.answer
  once : ∀ before reply after, replies = before ++ reply :: after → reply.code.value = 421 →
    ∀ other ∈ after, other.code.value ≠ 421

theorem EndsAt.append (ends : EndsAt stream pieces rest) (more : List Bytes) :
    EndsAt stream (pieces ++ more) rest := by
  obtain ⟨front, back, rfl, nonempty, stream⟩ := ends
  exact ⟨front, back ++ more, by simp, nonempty, stream⟩

theorem Undisturbed.earlier (undisturbed : Undisturbed replies (past ++ later)) :
    Undisturbed replies past where
  ends rest ends := undisturbed.ends rest (by
    rw [reads, List.filterMap_append]
    exact ends.append _)
  closes event member := undisturbed.closes event (List.mem_append_left _ member)
  once := undisturbed.once

theorem wire_append (front back : List ServerReply) : wire (front ++ back) = wire front ++ wire back := by
  simp [wire]

theorem wire_cons (reply : ServerReply) (rest : List ServerReply) :
    wire (reply :: rest) = reply.wire ++ wire rest := by
  simp [wire]

theorem ServerReply.wire_length (reply : ServerReply) : 2 ≤ reply.wire.length := by
  simp only [ReplyShape.wire, List.length_append, crlf, List.length_cons, List.length_nil]
  omega

theorem reads_snoc (past : List BoundaryEvent) (event : BoundaryEvent) :
    reads (past ++ [event]) = reads past ++ (controlRead event).toList := by
  cases same : controlRead event <;> simp [reads, same]

theorem endsAt_snoc : EndsAt stream (pieces ++ [piece]) rest ↔
    EndsAt stream pieces rest ∨ stream = (pieces ++ [piece]).flatten ++ rest := by
  constructor
  · rintro ⟨front, back, same, nonempty, stream⟩
    rcases List.eq_nil_or_concat back with rfl | ⟨back, last, rfl⟩
    · rw [List.append_nil] at same
      exact .inr (same ▸ stream)
    · rw [List.concat_eq_append, ← List.append_assoc] at same
      exact .inl ⟨front, back, List.append_inj_left' same rfl, nonempty, stream⟩
  · rintro (⟨front, back, rfl, nonempty, stream⟩ | stream)
    · exact ⟨front, back ++ [piece], by simp, nonempty, stream⟩
    · exact ⟨pieces ++ [piece], [], by simp, by simp, stream⟩

/-- The two ways to split one list compared. -/
theorem split_cases {done before after other : List α} (same : done ++ item :: after = before ++ mark :: other) :
    (∃ more, done = before ++ mark :: more ∧ other = more ++ item :: after) ∨
      (done = before ∧ item = mark ∧ after = other) ∨
      (∃ more, before = done ++ item :: more ∧ after = more ++ mark :: other) := by
  rcases List.append_eq_append_iff.mp same with ⟨more, same, rest⟩ | ⟨more, same, rest⟩
  · cases more with
    | nil =>
      simp only [List.nil_append, List.cons.injEq] at rest
      exact .inr (.inl ⟨by simpa using same.symm, rest.1, rest.2⟩)
    | cons first more =>
      simp only [List.cons_append, List.cons.injEq] at rest
      exact .inr (.inr ⟨more, rest.1 ▸ same, rest.2⟩)
  · cases more with
    | nil =>
      simp only [List.nil_append, List.cons.injEq] at rest
      exact .inr (.inl ⟨by simpa using same, rest.1.symm, rest.2.symm⟩)
    | cons first more =>
      simp only [List.cons_append, List.cons.injEq] at rest
      exact .inl ⟨more, rest.1 ▸ same, rest.2⟩

/-- While one reply is read with the connection open, no place between its line
ends is one where a read must not end. -/
theorem not_spoils (split : replies = done ++ reply :: after)
    (available : ∀ earlier ∈ done, earlier.code.value ≠ 421)
    (lower : (wire after).length + 2 ≤ rest.length)
    (upper : rest.length ≤ reply.wire.length + (wire after).length) : ¬ Spoils replies rest := by
  subst split
  intro spoils
  cases spoils with
  | @cut before mark other split more =>
    rcases split_cases split with ⟨between, -, rfl⟩ | ⟨-, -, rfl⟩ | ⟨between, -, rfl⟩
    · simp only [wire_append, wire_cons, List.length_cons, List.length_append] at upper
      omega
    · simp only [List.length_cons] at lower
      omega
    · simp only [wire_append, wire_cons, List.length_cons, List.length_append] at lower
      omega
  | @unavailable before mark other _ split closes more missing late =>
    rcases split_cases split with ⟨between, rfl, -⟩ | ⟨-, -, rfl⟩ | ⟨between, -, rfl⟩
    · exact available mark (by simp) closes
    · omega
    · simp only [wire_append, wire_cons, List.length_append] at lower
      omega

theorem Spoils.shorter (spoils : Spoils replies rest) : rest.length < (wire replies).length := by
  cases spoils with
  | @cut before reply after split more =>
    have long := reply.wire_length
    simp only [split, wire_append, wire_cons, List.length_append, List.length_cons]
    omega
  | @unavailable before reply after _ split closes more missing late =>
    have long := reply.wire_length
    simp only [split, wire_append, wire_cons, List.length_append]
    omega

theorem Spoils.long (spoils : Spoils replies rest) : 2 ≤ rest.length := by
  cases spoils with
  | @cut before reply after split more =>
    obtain ⟨first, others, rfl⟩ := List.exists_cons_of_ne_nil more
    have long := first.wire_length
    simp only [wire_cons, List.length_append, List.length_cons]
    omega
  | unavailable split closes more missing late => exact missing

/-- What is still to come, and what has happened. -/
abbrev Progress := Bytes × List BoundaryEvent

def progress : Monitor boundary Progress := deliver.both Monitor.history

theorem progress_read {layer : Layer} {chunk : Chunk maxSize} {ghost after : Progress}
    (step : progress.step ghost ⟨.readSome .control layer maxSize, .ok chunk⟩ after) :
    ghost.1 = chunk.data ++ after.1 ∧ reads after.2 = reads ghost.2 ++ [chunk.data] := by
  obtain ⟨delivered, past⟩ := step
  exact ⟨delivered, by rw [past, reads_snoc]; rfl⟩

theorem progress_closing {ghost after : Progress} (which : Closing query)
    (step : progress.step ghost ⟨query, answer⟩ after) :
    after.1 = ghost.1 ∧ reads after.2 = reads ghost.2 ∧ after.2 = ghost.2 ++ [⟨query, answer⟩] := by
  obtain ⟨delivered, past⟩ := step
  cases which <;> exact ⟨delivered, by rw [past, reads_snoc]; exact List.append_nil _, past⟩

/-- The reads of a closed socket stand in the history behind what there is. -/
theorem missed_history {ghost after : Progress} (missed : Missed progress ghost after) :
    ∃ more, after.2 = ghost.2 ++ more := by
  induction missed with
  | refl => exact ⟨[], (List.append_nil _).symm⟩
  | tail _ misses ih =>
    obtain ⟨more, same⟩ := ih
    obtain ⟨layer, maxSize, ec, step⟩ := misses
    refine ⟨more ++ [⟨.unopened .control layer (.readSome maxSize), ec⟩], ?_⟩
    rw [step.2, same]
    exact List.append_assoc _ _ _

/-- Nothing but the bytes behind the reply is asked for. -/
def Beyond (behind : Bytes) (found : Bytes) (_ : Progress) : Prop := found = behind

theorem beyond_supply (behind : Bytes) (size : Nat) :
    Supply progress Prod.fst size (Beyond behind) fun _ => True where
  read layer maxSize chunk found ghost after same _ _ step :=
    ⟨[], by simpa using (progress_read step).1.symm, by simpa [Beyond] using same⟩
  delivers layer maxSize ec found ghost after _ lower room step := by
    have none : ghost.1 = [] := step.1.1.resolve_right (by omega)
    simp [none] at lower
  closing query answer found ghost after which _ same step :=
    ⟨[], by simpa using (progress_closing which step).1, by simpa [Beyond] using same⟩
  refused _ _ _ _ _ _ _ _ := True.intro

/-- What has been read fits the stream, nothing was refused, and only the end of
the last read may be one that spoils. -/
structure Sound (replies : List ServerReply) (ghost : Progress) : Prop where
  read : wire replies = (reads ghost.2).flatten ++ ghost.1
  settled : ∀ rest, EndsAt (wire replies) (reads ghost.2) rest → Spoils replies rest → rest = ghost.1
  closes : ∀ event ∈ ghost.2, ¬ Refuses event.query event.answer

def SoundBeyond (replies : List ServerReply) (behind : Bytes) (found : Bytes) (ghost : Progress) :
    Prop :=
  found = behind ∧ Sound replies ghost

theorem sound_supply {replies done after : List ServerReply} {reply : ServerReply}
    (split : replies = done ++ reply :: after)
    (available : ∀ earlier ∈ done, earlier.code.value ≠ 421) :
    Supply progress Prod.fst reply.wire.length (SoundBeyond replies (wire after))
      fun ghost => ∃ event ∈ ghost.2, Refuses event.query event.answer where
  read layer maxSize chunk found ghost last held lower upper step := by
    obtain ⟨rfl, sound⟩ := held
    obtain ⟨delivered, pieces⟩ := progress_read step
    refine ⟨[], by simpa using delivered.symm, by simp, ⟨?_, ?_, ?_⟩⟩
    · rw [sound.read, pieces, delivered]
      simp
    · intro rest ends spoils
      rw [pieces, endsAt_snoc] at ends
      rcases ends with early | last
      · have old := sound.settled rest early spoils
        exact (not_spoils split available (by rw [old]; exact lower) (by rw [old]; exact upper) spoils).elim
      · rw [sound.read, delivered] at last
        simpa using last.symm
    · intro event member
      rw [step.2] at member
      rcases List.mem_append.mp member with early | last
      · exact sound.closes event early
      · rw [List.mem_singleton.mp last]
        rintro ⟨⟩
  delivers layer maxSize ec found ghost last held lower room step := by
    have none : ghost.1 = [] := step.1.1.resolve_right (by omega)
    simp [none] at lower
  closing query answer found ghost last which quiet held step := by
    obtain ⟨rfl, sound⟩ := held
    obtain ⟨same, pieces, past⟩ := progress_closing which step
    refine ⟨[], by simpa using same, by simp, ⟨?_, ?_, ?_⟩⟩
    · rw [sound.read, pieces, same]
    · rw [pieces, same]
      exact sound.settled
    · intro event member
      rw [past] at member
      rcases List.mem_append.mp member with early | last
      · exact sound.closes event early
      · rw [List.mem_singleton.mp last]
        exact quiet
  refused query answer found ghost last refuses held step :=
    ⟨⟨query, answer⟩, by rw [step.2]; simp, refuses⟩

/-- `recv` once for each reply. -/
def ControlConnection.receive : Nat → Method ControlConnection (List Reply)
  | 0 => return []
  | count + 1 => do
    let reply ← ControlConnection.recv
    let rest ← receive count
    return reply :: rest

/-- Where the client stands when `done` has been received and `todo` has not. -/
structure Standing (replies done todo : List ServerReply) (cut : Bool)
    (connection : ControlConnection) (ghost : Progress) : Prop where
  stream : connection.buffer ++ ghost.1 = dangling cut ++ wire todo
  empty : cut = true → connection.buffer = []
  begun : cut = true → done ≠ []
  sound : Sound replies ghost
  isOpen : connection.socket.isOpen = true ↔ ∀ reply ∈ done, reply.code.value ≠ 421
  once : ∀ before reply after, done = before ++ reply :: after → reply.code.value = 421 →
    ∀ other ∈ after, other.code.value ≠ 421

namespace Standing

variable {replies done todo : List ServerReply} {cut : Bool} {connection : ControlConnection}
  {ghost : Progress}

/-- A place that spoils is spoilt for good. -/
theorem disturbed (standing : Standing replies done todo cut connection ghost)
    (spoils : Spoils replies ghost.1) : ¬ Undisturbed replies ghost.2 := by
  intro undisturbed
  refine undisturbed.ends ghost.1 ⟨reads ghost.2, [], by simp, ?_, standing.sound.read⟩ spoils
  intro none
  have all := standing.sound.read
  rw [none, List.flatten_nil, List.nil_append] at all
  have shorter := spoils.shorter
  rw [all] at shorter
  omega

/-- The closed socket holds back bytes of a reply. -/
theorem withheld (standing : Standing replies done todo false connection ghost)
    (split : replies = done ++ todo) (closed : connection.socket.isOpen = false)
    (missing : 2 ≤ ghost.1.length) : Spoils replies ghost.1 := by
  have some421 : ∃ reply ∈ done, reply.code.value = 421 := by
    by_contra none
    have available : connection.socket.isOpen = true :=
      standing.isOpen.mpr fun reply member same => none ⟨reply, member, same⟩
    simp [closed] at available
  obtain ⟨reply, member, closes⟩ := some421
  obtain ⟨before, after, rfl⟩ := List.append_of_mem member
  have length := congrArg List.length standing.stream
  simp only [dangling, Bool.false_eq_true, if_false, List.nil_append, List.length_append] at length
  have more : todo ≠ [] := by
    rintro rfl
    have none : (wire []).length = 0 := rfl
    omega
  have split : replies = before ++ reply :: (after ++ todo) := by
    rw [split]
    simp
  refine .unavailable split closes (by simp [more]) missing ?_
  rw [wire_append, List.length_append]
  omega

/-- All replies are received. -/
theorem complete (standing : Standing replies done [] cut connection ghost)
    (split : replies = done) : Undisturbed replies ghost.2 := by
  have length := congrArg List.length standing.stream
  have short : (dangling cut).length ≤ 1 := by cases cut <;> simp [dangling]
  have none : (wire []).length = 0 := rfl
  simp only [List.length_append, none] at length
  refine ⟨fun rest ends spoils => ?_, standing.sound.closes, split ▸ standing.once⟩
  have long := spoils.long
  rw [standing.sound.settled rest ends spoils] at long
  omega

/-- The next reply is received. -/
theorem next {reply : ServerReply} {after : List ServerReply} {last : Progress}
    {state : ControlConnection} (standing : Standing replies done (reply :: after) false connection ghost)
    (cut : Bool) (stream : state.buffer ++ last.1 = dangling cut ++ wire after)
    (empty : cut = true → state.buffer = []) (sound : Sound replies last)
    (isOpen : state.socket.isOpen = (connection.socket.isOpen && reply.code.value != 421))
    (wasOpen : reply.code.value = 421 → connection.socket.isOpen = true) :
    Standing replies (done ++ [reply]) after cut state last := by
  refine ⟨stream, empty, by simp, sound, ?_, ?_⟩
  · rw [isOpen, Bool.and_eq_true, standing.isOpen]
    simp [or_imp, forall_and]
  · intro before mark others split closes other member
    rcases split_cases split with ⟨more, rfl, rfl⟩ | ⟨-, -, rfl⟩ | ⟨more, -, none⟩
    · rcases List.mem_append.mp member with early | last
      · exact standing.once before mark more rfl closes other early
      · rw [List.mem_singleton.mp last]
        intro again
        exact standing.isOpen.mp (wasOpen again) mark (by simp) closes
    · cases member
    · simp at none

/-- A client that has to read on from behind a cut fails: the LF is no reply. -/
theorem cut_fails {reply : ServerReply} {after : List ServerReply}
    (standing : Standing replies done (reply :: after) true connection ghost)
    (split : replies = done ++ reply :: after) {fuel : Nat} :
    ControlConnection.recv.wp progress fuel (fun _ _ _ => False)
      (fun _ _ last => ¬ Undisturbed replies last.2) connection ghost := by
  have spoils : Spoils replies ghost.1 := by
    obtain ⟨before, last, same⟩ := List.eq_nil_or_concat done |>.resolve_left (standing.begun rfl)
    have stream := standing.stream
    rw [standing.empty rfl] at stream
    have left : ghost.1 = lf :: wire (reply :: after) := stream
    rw [left]
    have split : replies = before ++ last :: (reply :: after) := by
      rw [split, same]
      simp
    exact .cut split (by simp)
  have alone (buffer left : Bytes) {rest : Bytes} (plain : Plain buffer) (stream : buffer ++ left = lf :: rest) :
      buffer = [] := by
    cases buffer with
    | nil => rfl
    | cons ch buffer =>
      simp only [List.cons_append, List.cons.injEq] at stream
      exact ((plain ch (List.mem_cons_self ..)).2 stream.1).elim
  simp only [ControlConnection.recv, Program.wp_bind]
  refine ControlConnection.readLine_wp
    (fun buffer last => buffer ++ last.1 = lf :: wire (reply :: after) ∧ ¬ Undisturbed replies last.2)
    (fun _ _ last => ¬ Undisturbed replies last.2) connection ghost
    ⟨standing.stream, standing.disturbed spoils⟩ ?_ ?_ ?_ ?_ ?_ ?_ ?_
  · rintro buffer before chunk last - ⟨stream, disturbed⟩ - step
    refine ⟨?_, fun undisturbed => disturbed ?_⟩
    · rw [List.append_assoc, ← (progress_read step).1, stream]
    · rw [step.2] at undisturbed
      exact undisturbed.earlier
  · rintro buffer before ec last - ⟨stream, -⟩ plain short step
    have none : before.1 = [] := step.1.1.resolve_right (by omega)
    rw [alone buffer before.1 plain stream, none] at stream
    cases stream
  · rintro buffer before ec last - ⟨-, disturbed⟩ - - step undisturbed
    rw [step.2] at undisturbed
    exact disturbed undisturbed.earlier
  · rintro buffer len last ⟨stream, disturbed⟩ found
    cases buffer with
    | nil => cases found
    | cons ch buffer =>
      simp only [List.cons_append, List.cons.injEq] at stream
      rw [stream.1, Socket.matchEol_lf] at found
      cases found
      rw [stream.1]
      exact disturbed
  · rintro error buffer last ⟨stream, -⟩ plain long
    rw [alone buffer last.1 plain stream] at long
    cases long
  · exact fun _ _ disturbed => disturbed
  · exact fun _ _ _ _ _ disturbed => disturbed

end Standing

/-- From where the client stands, it receives the rest exactly when nothing
disturbs it. -/
theorem receive_spec (replies done todo : List ServerReply) (cut : Bool)
    (connection : ControlConnection) (ghost : Progress) {fuel : Nat}
    (enough : ∀ reply ∈ replies, 2 * reply.lines.length ≤ fuel)
    (split : replies = done ++ todo) (standing : Standing replies done todo cut connection ghost) :
    (ControlConnection.receive todo.length).wp progress fuel
      (fun value _ last => value = todo.map (fun reply => reply.reply) ∧ Undisturbed replies last.2)
      (fun _ _ last => ¬ Undisturbed replies last.2) connection ghost := by
  induction todo generalizing done cut connection ghost with
  | nil => exact ⟨rfl, standing.complete (by simpa using split)⟩
  | cons reply after ih =>
    simp only [List.length_cons, ControlConnection.receive, Program.wp_bind, Program.wp_pure]
    cases cut with
    | true => exact Program.wp_mono (standing.cut_fails split) (fun _ _ _ never => never.elim) (fun _ _ _ => id)
    | false =>
      have member : reply ∈ replies := by simp [split]
      have tail (cut state last) (standing : Standing replies (done ++ [reply]) after cut state last) :=
        ih (done ++ [reply]) cut state last (by rw [split]; simp) standing
      have received (value : Reply) (state last) (same : value = reply.reply)
          (standing : ∃ cut, Standing replies (done ++ [reply]) after cut state last) :
          (ControlConnection.receive after.length).wp progress fuel
            (fun rest _ last => value :: rest = (reply :: after).map (fun reply => reply.reply) ∧
              Undisturbed replies last.2)
            (fun _ _ last => ¬ Undisturbed replies last.2) state last := by
        obtain ⟨cut, standing⟩ := standing
        refine Program.wp_mono (tail cut state last standing) ?_ (fun _ _ _ => id)
        rintro rest _ last ⟨rfl, undisturbed⟩
        exact ⟨by rw [same]; rfl, undisturbed⟩
      have stream : connection.buffer ++ ghost.1 = reply.wire ++ wire after := by
        rw [standing.stream, wire_cons]
        rfl
      cases isOpen : connection.socket.isOpen with
      | true =>
        have supply := sound_supply split (standing.isOpen.mp isOpen)
        refine Program.wp_mono (ControlConnection.recv_spec supply reply (enough reply member) le_rfl
          connection ghost ⟨⟨wire after, stream, rfl, standing.sound⟩, fun never => nomatch never⟩) ?_ ?_
        · rintro value state last ⟨same, ⟨cut, ⟨_, stream, rfl, sound⟩, empty⟩, -, opened, wasOpen, -⟩
          exact received value state last same ⟨cut, standing.next cut stream empty sound opened wasOpen⟩
        · rintro stop state last (⟨closed, -⟩ | ⟨-, closed | refused⟩)
          · simp [isOpen] at closed
          · simp [isOpen] at closed
          · obtain ⟨event, member, refuses⟩ := refused
            exact fun undisturbed => undisturbed.closes event member refuses
      | false =>
        have supply := beyond_supply (wire after) reply.wire.length
        refine Program.wp_mono (ControlConnection.recv_spec supply reply (enough reply member) le_rfl
          connection ghost ⟨⟨wire after, stream, rfl⟩, fun never => nomatch never⟩) ?_ ?_
        · rintro value state last ⟨same, ⟨cut, ⟨_, stream, rfl⟩, empty⟩, -, opened, wasOpen, still⟩
          cases still isOpen
          exact received value state ghost same
            ⟨cut, standing.next cut stream empty standing.sound opened wasOpen⟩
        · rintro stop state last (⟨-, missing, missed⟩ | ⟨again, -⟩) undisturbed
          · have spoils := standing.withheld split isOpen missing
            obtain ⟨more, same⟩ := missed_history missed
            rw [same] at undisturbed
            exact standing.disturbed spoils undisturbed.earlier
          · have available : ∀ earlier ∈ done, earlier.code.value ≠ 421 := by
              intro earlier member closes
              obtain ⟨before, between, rfl⟩ := List.append_of_mem member
              exact undisturbed.once before earlier (between ++ reply :: after) (by rw [split]; simp) closes
                reply (by simp) again
            simp [standing.isOpen.mpr available] at isOpen

/-- Over any network that delivers the replies, in reads of any sizes, `recv` once
for each reply gives exactly these replies if and only if nothing disturbs it. -/
theorem ControlConnection.receive_iff_undisturbed (replies : List ServerReply)
    (host : Host boundary World) (view : World → Bytes) (network : Network host view) (world : World)
    (stream : view world = wire replies) (fuel : Nat)
    (enough : ∀ reply ∈ replies, 2 * reply.lines.length ≤ fuel) (layer : Layer) :
    ((receive replies.length).run host fuel ⟨[], ⟨layer, true⟩⟩ world).value.1 =
        .ok (replies.map fun reply => reply.reply) ↔
      Undisturbed replies ((receive replies.length).run host fuel ⟨[], ⟨layer, true⟩⟩ world).events := by
  have standing : Standing replies [] replies false ⟨[], ⟨layer, true⟩⟩ (view world, []) :=
    { stream := stream
      empty := fun never => nomatch never
      begun := fun never => nomatch never
      sound := ⟨stream.symm, by
        rintro rest ⟨front, back, none, nonempty, -⟩
        exact (nonempty (List.append_eq_nil_iff.mp none.symm).1).elim, fun _ member => nomatch member⟩
      isOpen := by simp
      once := by simp }
  have drives := (network.drives (receive replies.length fuel ⟨[], ⟨layer, true⟩⟩) world).both
    (Monitor.history_drives [] _)
  rcases Program.wp_run (receive_spec replies [] replies false _ _ enough rfl standing) host world drives
    with ⟨value, same, rfl, undisturbed⟩ | ⟨stop, same, disturbed⟩
  · exact iff_of_true same undisturbed
  · exact iff_of_false (by rw [same]; simp) disturbed

/-- A greeting of three lines. -/
def ServerReply.greeting : ServerReply where
  code := ⟨2, 2, 0⟩
  opening := some (text "a", [text "b"])
  text := text "ready"
  plain := by decide +kernel
  fits := by simp [ReplyShape.lines, ReplyShape.front, ReplyShape.lastLine, ReplyCode.digits, text]
  unclosed := by simp [ControlConnection.isLastLine, text]

/-- `331 p`. -/
def ServerReply.password : ServerReply where
  code := ⟨3, 3, 1⟩
  opening := none
  text := text "p"
  plain := by decide +kernel
  fits := by simp [ReplyShape.lines, ReplyShape.front, ReplyShape.lastLine, ReplyCode.digits, text]
  unclosed := by simp

/-- Two replies over a network that delivers four bytes at a time. -/
theorem ControlConnection.receive_iff_undisturbed_ready :
    let replies := [ServerReply.greeting, ServerReply.password]
    let run := (receive replies.length).run (Network.cutting 3) 6 ⟨[], ⟨.plain, true⟩⟩ (wire replies)
    run.value.1 = .ok (replies.map fun reply => reply.reply) ↔ Undisturbed replies run.events := by
  intro replies run
  exact receive_iff_undisturbed replies (Network.cutting 3) id (Network.cutting_network 3)
    (wire replies) rfl 6 (by decide) .plain

/-- The same bytes in two segmentations. In the second a read ends between the CR
and the LF of the first reply, and the second `recv` throws. -/
theorem ControlConnection.receive_depends_on_segmentation :
    ((receive 2).run Script.host 9 ⟨[], ⟨.plain, true⟩⟩
        (.ofReplies [text "220 a\r\n331 b\r\n"])).value.1 =
      .ok [⟨220, text "220 a"⟩, ⟨331, text "331 b"⟩] ∧
    ((receive 2).run Script.host 9 ⟨[], ⟨.plain, true⟩⟩
        (.ofReplies [text "220 a\r", text "\n331 b\r\n"])).value.1 =
      .error (.raised ⟨"Cannot parse a status code from the server reply: '%1%'.", [[lf]], none⟩) := by
  decide +kernel

end LibFtp
