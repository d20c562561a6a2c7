import LibFtp.Control.Closing
import LibFtp.Control.ServerReply

/-! Receiving well-formed replies from any surroundings that supply them in
order. A read may end between the CR and the LF of a line; the LF is then a line
of its own, which does no harm inside a reply. -/

namespace LibFtp

open Effect

/-- Surroundings that hold bytes for the control connection. `left` is what they
hold, `Behind` what is known of the part behind the reply being read. Reads
deliver from the front, and more may arrive at the end. -/
structure Supply {Ghost : Type} (monitor : Monitor boundary Ghost) (left : Ghost → Bytes)
    (size : Nat) (Behind : Bytes → Ghost → Prop) (Refused : Ghost → Prop) : Prop where
  read : ∀ layer maxSize chunk behind ghost after, Behind behind ghost →
    behind.length + 2 ≤ (left ghost).length → (left ghost).length ≤ size + behind.length →
    monitor.step ghost ⟨.readSome .control layer maxSize, .ok chunk⟩ after →
    ∃ more, chunk.data ++ left after = left ghost ++ more ∧ Behind (behind ++ more) after
  delivers : ∀ layer maxSize ec behind ghost after, Behind behind ghost →
    behind.length + 2 ≤ (left ghost).length → 0 < maxSize →
    ¬ monitor.step ghost ⟨.readSome .control layer maxSize, .error ec⟩ after
  closing : ∀ query answer behind ghost after, Closing query → ¬ Refuses query answer →
    Behind behind ghost → monitor.step ghost ⟨query, answer⟩ after →
    ∃ more, left after = left ghost ++ more ∧ Behind (behind ++ more) after
  refused : ∀ query answer behind ghost after, Refuses query answer → Behind behind ghost →
    monitor.step ghost ⟨query, answer⟩ after → Refused after

/-- A read of a control connection that is not open is answered. -/
def Misses {Ghost : Type} (monitor : Monitor boundary Ghost) (ghost after : Ghost) : Prop :=
  ∃ layer maxSize, ∃ ec : ErrorCode,
    monitor.step ghost ⟨.unopened .control layer (.readSome maxSize), ec⟩ after

/-- Any number of them. -/
def Missed {Ghost : Type} (monitor : Monitor boundary Ghost) : Ghost → Ghost → Prop :=
  Relation.ReflTransGen (Misses monitor)

/-- The LF that a read has cut off from its CR. -/
def dangling (cut : Bool) : Bytes := if cut then [lf] else []

/-- The client stands before `front`, or before the LF that goes before it. -/
structure Ahead {Ghost : Type} (left : Ghost → Bytes) (Behind : Bytes → Ghost → Prop) (cut : Bool)
    (front : Bytes) (connection : ControlConnection) (ghost : Ghost) : Prop where
  stream : ∃ behind, connection.buffer ++ left ghost = dangling cut ++ (front ++ behind) ∧
    Behind behind ghost
  empty : cut = true → connection.buffer = []

namespace ControlConnection

variable {Ghost : Type} {monitor : Monitor boundary Ghost} {left : Ghost → Bytes} {size : Nat}
  {Behind : Bytes → Ghost → Prop} {Refused : Ghost → Prop} {fuel : Nat}
  {buffer ahead line rest : Bytes}

/-- A buffer without line end does not reach the first line end of the stream. -/
private theorem plain_prefix (plain : Plain buffer) (eol : ch = cr ∨ ch = lf)
    (stream : buffer ++ ahead = line ++ ch :: rest) :
    ∃ more, line = buffer ++ more ∧ ahead = more ++ ch :: rest := by
  rcases List.append_eq_append_iff.mp stream with ⟨more, same, rest⟩ | ⟨more, same, rest⟩
  · exact ⟨more, same, rest⟩
  · cases more with
    | nil => exact ⟨[], by simpa using same.symm, by simpa using rest.symm⟩
    | cons first more =>
      have first : first = ch := by simpa using (congrArg List.head? rest).symm
      obtain ⟨notCr, notLf⟩ := plain ch (by simp [same, first])
      rcases eol with rfl | rfl <;> contradiction

/-- What is taken as the first line of a buffer, when the stream goes on with a line. -/
private theorem matchEol_line (plain : Plain line)
    (stream : buffer ++ ahead = line ++ cr :: lf :: rest) (found : Socket.matchEol buffer = some len) :
    (buffer.take len = line ++ crlf ∧ buffer.drop len ++ ahead = rest) ∨
      (buffer.take len = line ++ [cr] ∧ buffer.drop len = [] ∧ ahead = lf :: rest) := by
  rcases List.append_eq_append_iff.mp stream with ⟨more, same, -⟩ | ⟨more, same, others⟩
  · have short : Plain buffer := fun ch member => plain ch (by simp [same, member])
    rw [Socket.matchEol_none.mpr short] at found
    cases found
  · subst same
    rw [Socket.matchEol_plain_append plain] at found
    cases more with
    | nil => simp [Socket.matchEol] at found
    | cons first more =>
      simp only [List.cons_append, List.cons.injEq] at others
      obtain ⟨rfl, others⟩ := others
      cases more with
      | nil =>
        have len : line.length + 1 = len := by
          simpa [Socket.matchEol, cr, lf, Nat.add_comm] using found
        subst len
        refine .inr ⟨List.take_of_length_le (by simp), List.drop_of_length_le (by simp), ?_⟩
        simpa using others.symm
      | cons second more =>
        simp only [List.cons_append, List.cons.injEq] at others
        obtain ⟨rfl, others⟩ := others
        have len : (line ++ crlf).length = len := by
          simpa [Socket.matchEol_crlf, crlf, Nat.add_comm] using found
        have same : line ++ cr :: lf :: more = (line ++ crlf) ++ more := by simp [crlf]
        rw [same, List.take_left' len, List.drop_left' len]
        exact .inl ⟨rfl, others.symm⟩

section Lines
variable (supply : Supply monitor left size Behind Refused) (connection : ControlConnection)
  {post : Bytes → ControlConnection → Ghost → Prop}
  {fail : Stop FtpException → ControlConnection → Ghost → Prop}

include supply in
/-- Reading a line while more of the reply follows behind its first line end. -/
private theorem readLine_front (line rest : Bytes) (eol : ch = cr ∨ ch = lf) (fits : line.length < 8192)
    (more : 0 < rest.length) (within : line.length + 1 + rest.length ≤ size) (ghost : Ghost)
    (ahead : ∃ behind, connection.buffer ++ left ghost = line ++ ch :: (rest ++ behind) ∧
      Behind behind ghost)
    (taken : ∀ buffer len behind after, (connection.socket.isOpen = false → after = ghost) →
      Socket.matchEol buffer = some len → Behind behind after →
      buffer ++ left after = line ++ ch :: (rest ++ behind) →
      post (buffer.take len) { connection with buffer := buffer.drop len } after)
    (starves : connection.socket.isOpen = false → 2 ≤ (left ghost).length → ∀ buffer after,
      Plain buffer → Misses monitor ghost after → post [] { connection with buffer } after ∧
        ∀ error, fail (.raised error) { connection with buffer } after) :
    readLine.wp monitor fuel post fail connection ghost := by
  let Held (buffer : Bytes) (after : Ghost) : Prop :=
    (connection.socket.isOpen = false → after = ghost) ∧
      ∃ behind, buffer ++ left after = line ++ ch :: (rest ++ behind) ∧ Behind behind after
  have reach (buffer : Bytes) (after : Ghost) (plain : Plain buffer) (behind : Bytes)
      (stream : buffer ++ left after = line ++ ch :: (rest ++ behind)) :
      buffer.length ≤ line.length ∧ behind.length + 2 ≤ (left after).length ∧
        (left after).length ≤ size + behind.length := by
    obtain ⟨more, same, others⟩ := plain_prefix plain eol stream
    rw [others]
    simp only [same, List.length_append, List.length_cons] at within ⊢
    omega
  let Broken (_ : ErrorCode) (buffer : Bytes) (after : Ghost) : Prop :=
    connection.socket.isOpen = false ∧ 2 ≤ (left ghost).length ∧ Plain buffer ∧
      Misses monitor ghost after
  refine readLine_wp Held Broken connection ghost ?_ ?_ ?_ ?_ ?_ ?_ ?_ ?_
  · exact ⟨fun _ => rfl, ahead⟩
  · rintro buffer ghost chunk after isOpen ⟨-, behind, stream, held⟩ plain step
    obtain ⟨-, lower, upper⟩ := reach buffer ghost plain behind stream
    obtain ⟨more, grown, held⟩ := supply.read _ _ _ _ _ _ held lower upper step
    refine ⟨fun closed => by simp [isOpen] at closed, behind ++ more, ?_, held⟩
    rw [List.append_assoc, grown, ← List.append_assoc, stream]
    simp
  · rintro buffer ghost ec after isOpen ⟨-, behind, stream, held⟩ plain short step
    obtain ⟨-, lower, -⟩ := reach buffer ghost plain behind stream
    exact (supply.delivers _ _ _ _ _ _ held lower (by omega) step).elim
  · rintro buffer middle ec after closed ⟨same, behind, stream, held⟩ plain short step
    obtain ⟨-, lower, -⟩ := reach buffer middle plain behind stream
    cases same closed
    exact ⟨closed, by omega, plain, _, _, ec, step⟩
  · rintro buffer len after ⟨same, behind, stream, held⟩ found
    exact taken buffer len behind after same found held stream
  · rintro error buffer after ⟨-, behind, stream, held⟩ plain long
    obtain ⟨short, -, -⟩ := reach buffer after plain behind stream
    omega
  · rintro buffer after ⟨closed, lower, plain, missed⟩
    exact (starves closed lower buffer after plain missed).1
  · rintro error ec buffer after - ⟨closed, lower, plain, missed⟩
    exact (starves closed lower buffer after plain missed).2 error

include supply in
/-- One line of a reply, whole or cut off behind its CR. -/
private theorem readLine_line (plain : Plain line) (fits : line.length + 2 ≤ 8192)
    (within : line.length + 2 + rest.length ≤ size) (ghost : Ghost)
    (ahead : Ahead left Behind false (line ++ cr :: lf :: rest) connection ghost)
    (taken : ∀ cut buffer after, (connection.socket.isOpen = false → after = ghost) →
      Ahead left Behind cut rest { connection with buffer } after →
      ∀ value, value ++ dangling cut = line ++ crlf →
      post value { connection with buffer } after)
    (starves : connection.socket.isOpen = false → 2 ≤ (left ghost).length → ∀ buffer after,
      Plain buffer → Misses monitor ghost after → post [] { connection with buffer } after ∧
        ∀ error, fail (.raised error) { connection with buffer } after) :
    readLine.wp monitor fuel post fail connection ghost := by
  obtain ⟨behind, stream, held⟩ := ahead.stream
  refine readLine_front supply connection line (lf :: rest) (.inl rfl) (by omega) (by simp)
    (by simp only [List.length_cons]; omega) ghost ⟨behind, by simpa [dangling] using stream, held⟩ ?_ starves
  intro buffer len behind after same found held stream
  rcases matchEol_line plain stream found with ⟨value, others⟩ | ⟨value, none, others⟩
  · refine taken false _ after same ⟨⟨behind, others, held⟩, fun never => nomatch never⟩ _ ?_
    simp [value, dangling]
  · refine taken true _ after same ⟨⟨behind, ?_, held⟩, fun _ => none⟩ _ ?_
    · simp [dangling, none, others]
    · simp [value, dangling, crlf]

include supply in
/-- The LF that was cut off, read as a line of its own. -/
private theorem readLine_lf (nonempty : 0 < rest.length) (within : rest.length + 1 ≤ size)
    (ghost : Ghost) (ahead : Ahead left Behind true rest connection ghost)
    (taken : ∀ buffer after, (connection.socket.isOpen = false → after = ghost) →
      Ahead left Behind false rest { connection with buffer } after →
      post [lf] { connection with buffer } after)
    (starves : connection.socket.isOpen = false → 2 ≤ (left ghost).length → ∀ buffer after,
      Plain buffer → Misses monitor ghost after → post [] { connection with buffer } after ∧
        ∀ error, fail (.raised error) { connection with buffer } after) :
    readLine.wp monitor fuel post fail connection ghost := by
  obtain ⟨behind, stream, held⟩ := ahead.stream
  refine readLine_front supply connection [] rest (.inr rfl) (by decide) nonempty
    (by simp only [List.length_nil]; omega) ghost ⟨behind, by simpa [dangling] using stream, held⟩ ?_ starves
  intro buffer len behind after same found held stream
  cases buffer with
  | nil => cases found
  | cons ch buffer =>
    simp only [List.nil_append, List.cons_append, List.cons.injEq] at stream
    obtain ⟨rfl, stream⟩ := stream
    rw [Socket.matchEol_lf] at found
    cases found
    exact taken buffer after same ⟨⟨behind, stream, held⟩, fun never => nomatch never⟩

/-- A line that was taken ends in CRLF, or in a CR cut off from its LF. -/
private theorem line_taken (whole : value ++ dangling cut = line ++ crlf) :
    ∃ eol, (eol = [cr] ∨ eol = crlf) ∧ value = line ++ eol := by
  cases cut with
  | false => exact ⟨crlf, .inr rfl, by simpa [dangling] using whole⟩
  | true =>
    have same : value ++ [lf] = (line ++ [cr]) ++ [lf] := by simpa [dangling, crlf] using whole
    exact ⟨[cr], .inl rfl, List.append_cancel_right same⟩

/-- The bytes of some lines. -/
private def flat (lines : List Bytes) : Bytes := lines.flatMap (· ++ crlf)

private theorem flat_cons (line : Bytes) (lines : List Bytes) :
    flat (line :: lines) = line ++ cr :: lf :: flat lines := by
  simp [flat, crlf]

/-- How receiving ends: with the client behind the reply, or stopped because it
has to read from a socket that is closed. -/
private def Taken (left : Ghost → Bytes) (Behind : Bytes → Ghost → Prop) (whole : Bytes)
    (connection : ControlConnection) (ghost : Ghost) (value : Bytes) (state : ControlConnection)
    (after : Ghost) : Prop :=
  ∃ cut, value ++ dangling cut = whole ∧ Ahead left Behind cut [] state after ∧
    state.socket = connection.socket ∧ (connection.socket.isOpen = false → after = ghost)

private def Starved (monitor : Monitor boundary Ghost) (left : Ghost → Bytes)
    (connection : ControlConnection) (ghost : Ghost) (_ : Stop FtpException)
    (_ : ControlConnection) (after : Ghost) : Prop :=
  connection.socket.isOpen = false ∧ 2 ≤ (left ghost).length ∧ Missed monitor ghost after

/-- From some lines on, whether or not a cut goes before them. -/
private def Receives (monitor : Monitor boundary Ghost) (left : Ghost → Bytes)
    (Behind : Bytes → Ghost → Prop) (fuel : Nat) (code : UInt16) (lines : List Bytes) (cut : Bool) :
    Prop :=
  ∀ (rounds : Nat) (acc : Bytes) (connection : ControlConnection) (ghost : Ghost),
    2 * lines.length ≤ rounds + (if cut then 0 else 1) →
    Ahead left Behind cut (flat lines) connection ghost →
    (recvLines code rounds acc).wp monitor fuel
      (Taken left Behind (acc ++ dangling cut ++ flat lines) connection ghost)
      (Starved monitor left connection ghost) connection ghost

private theorem Taken.later {middle : Ghost} (same : connection.socket.isOpen = false → middle = ghost)
    (taken : Taken left Behind whole { connection with buffer } middle value state after) :
    Taken left Behind whole connection ghost value state after := by
  obtain ⟨cut, whole, ahead, socket, still⟩ := taken
  exact ⟨cut, whole, ahead, socket, fun closed => (still closed).trans (same closed)⟩

private theorem Starved.later {middle : Ghost}
    (same : connection.socket.isOpen = false → middle = ghost)
    (starved : Starved monitor left { connection with buffer } middle stop state after) :
    Starved monitor left connection ghost stop state after := by
  obtain ⟨closed, short, missed⟩ := starved
  cases same closed
  exact ⟨closed, short, missed⟩

/-- On a closed socket no line is completed, however often it is asked for one. -/
private theorem recvLines_starved (code : UInt16) (rounds : Nat) (acc : Bytes)
    (connection : ControlConnection) (closed : connection.socket.isOpen = false)
    (plain : Plain connection.buffer) (ghost : Ghost) :
    (recvLines code rounds acc).wp monitor fuel (fun _ _ _ => False)
      (fun _ _ after => Missed monitor ghost after) connection ghost := by
  induction rounds generalizing acc connection ghost with
  | zero => exact .refl
  | succ rounds ih =>
    simp only [recvLines, Program.wp_bind]
    let Held (buffer : Bytes) (after : Ghost) : Prop := buffer = connection.buffer ∧ after = ghost
    let Broken (_ : ErrorCode) (buffer : Bytes) (after : Ghost) : Prop :=
      buffer = connection.buffer ∧ Misses monitor ghost after
    refine readLine_wp Held Broken connection ghost ⟨rfl, rfl⟩ ?_ ?_ ?_ ?_ ?_ ?_ ?_
    · exact fun _ _ _ _ isOpen => by simp [closed] at isOpen
    · exact fun _ _ _ _ isOpen => by simp [closed] at isOpen
    · rintro buffer middle ec after - ⟨same, rfl⟩ - - step
      exact ⟨same, _, _, ec, step⟩
    · rintro buffer len after ⟨rfl, -⟩ found
      rw [Socket.matchEol_none.mpr plain] at found
      cases found
    · rintro error buffer after ⟨-, rfl⟩ - -
      exact .refl
    · rintro buffer after ⟨rfl, missed⟩
      refine Program.wp_mono (ih (acc ++ []) connection closed plain after) (fun _ _ _ never => never) ?_
      exact fun _ _ _ => .head missed
    · rintro error ec buffer after - ⟨-, missed⟩
      exact .single missed

/-- A missed line is not the last one: the lines that follow are missed, too. -/
private theorem starves_on (code : UInt16) (rounds : Nat) (acc : Bytes)
    {ends : Bytes → ControlConnection → Ghost → Prop}
    (closed : connection.socket.isOpen = false) (short : 2 ≤ (left ghost).length) (buffer : Bytes)
    (after : Ghost) (plain : Plain buffer) (missed : Misses monitor ghost after) :
    (if isLastLine [] code = true then (pure (acc ++ []) : Method ControlConnection Bytes)
      else recvLines code rounds (acc ++ [])).wp monitor fuel ends
        (Starved monitor left connection ghost) { connection with buffer } after ∧
      ∀ error, Starved monitor left connection ghost (.raised error) { connection with buffer } after := by
  refine ⟨?_, fun _ => ⟨closed, short, .single missed⟩⟩
  refine Program.wp_mono (recvLines_starved code rounds _ { connection with buffer } closed plain after)
    (fun _ _ _ never => never.elim) ?_
  exact fun _ _ _ more => ⟨closed, short, .head missed more⟩

include supply in
/-- A cut costs one round more, and leads back to the same lines without it. -/
private theorem receives_cut (code : UInt16) (line : Bytes) (lines : List Bytes)
    (within : (flat (line :: lines)).length + 1 ≤ size)
    (clean : Receives monitor left Behind fuel code (line :: lines) false) :
    Receives monitor left Behind fuel code (line :: lines) true := by
  intro rounds acc connection ghost enough ahead
  obtain ⟨rounds, rfl⟩ : ∃ fewer, rounds = fewer + 1 := ⟨rounds - 1, by simp at enough; omega⟩
  have nonempty : 0 < (flat (line :: lines)).length := by
    simp only [flat_cons, List.length_append, List.length_cons]
    omega
  simp only [recvLines, Program.wp_bind]
  refine readLine_lf supply connection nonempty within ghost ahead ?_ ?_
  · intro buffer after same ahead
    rw [isLastLine_lf]
    have rest := clean rounds (acc ++ [lf]) { connection with buffer } after
      (by simp at enough ⊢; omega) ahead
    simp only [dangling, Bool.false_eq_true, if_false, List.append_nil] at rest
    exact Program.wp_mono rest (fun _ _ _ => Taken.later connection same) (fun _ _ _ => Starved.later connection same)
  · exact starves_on connection _ _ _

include supply in
/-- The last line ends the loop. -/
private theorem receives_last (reply : ReplyShape) (plain : Plain reply.lastLine)
    (fits : reply.lastLine.length + 2 ≤ 8192) (within : (flat [reply.lastLine]).length + 1 ≤ size) :
    Receives monitor left Behind fuel reply.code.value [reply.lastLine] false := by
  intro rounds acc connection ghost enough ahead
  obtain ⟨rounds, rfl⟩ : ∃ fewer, rounds = fewer + 1 := ⟨rounds - 1, by simp at enough; omega⟩
  rw [flat_cons] at ahead within ⊢
  simp only [List.length_append, List.length_cons] at within
  simp only [recvLines, Program.wp_bind]
  refine readLine_line supply connection plain fits (by omega) ghost ahead ?_ ?_
  · intro cut buffer after same ahead value whole
    have last : isLastLine value reply.code.value = true := by
      obtain ⟨eol, -, same⟩ := line_taken whole
      rw [same]
      exact isLastLine_last reply eol
    rw [last]
    refine ⟨cut, ?_, ahead, rfl, same⟩
    simp [dangling, flat, crlf] at whole ⊢
    exact whole
  · exact starves_on connection _ _ _

include supply in
/-- An inner line leads to the lines behind it, with a cut or without one. -/
private theorem receives_inner (code : UInt16) (line : Bytes) (lines : List Bytes)
    (plain : Plain line) (fits : line.length + 2 ≤ 8192) (unclosed : isLastLine line code = false)
    (within : (flat (line :: lines)).length + 1 ≤ size)
    (rest : ∀ cut, Receives monitor left Behind fuel code lines cut) :
    Receives monitor left Behind fuel code (line :: lines) false := by
  intro rounds acc connection ghost enough ahead
  obtain ⟨rounds, rfl⟩ : ∃ fewer, rounds = fewer + 1 := ⟨rounds - 1, by simp at enough; omega⟩
  rw [flat_cons] at ahead within ⊢
  simp only [List.length_append, List.length_cons] at within
  simp only [recvLines, Program.wp_bind]
  refine readLine_line supply connection plain fits (by omega) ghost ahead ?_ ?_
  · intro cut buffer after same ahead value whole
    have inner : isLastLine value code = false := by
      obtain ⟨eol, ends, same⟩ := line_taken whole
      have lineEnd : LineEnd eol := by
        rcases ends with short | long
        · exact short ▸ lineEnd_cr
        · exact long ▸ lineEnd_crlf
      rw [same, isLastLine_eol lineEnd]
      exact unclosed
    rw [inner]
    have tail := rest cut rounds (acc ++ value) { connection with buffer } after
      (by cases cut <;> simp at enough ⊢ <;> omega) ahead
    rw [List.append_assoc acc, whole] at tail
    simp only [dangling, Bool.false_eq_true, if_false, List.append_nil]
    have flat : acc ++ (line ++ crlf) ++ flat lines = acc ++ (line ++ cr :: lf :: flat lines) := by
      simp [crlf]
    rw [flat] at tail
    exact Program.wp_mono tail (fun _ _ _ => Taken.later connection same) (fun _ _ _ => Starved.later connection same)
  · exact starves_on connection _ _ _

include supply in
/-- The loop takes the inner lines and the last one, wherever the reads end. -/
private theorem recvLines_spec (reply : ReplyShape) (inner : List Bytes)
    (plain : ∀ line ∈ inner ++ [reply.lastLine], Plain line)
    (fits : ∀ line ∈ inner ++ [reply.lastLine], line.length + 2 ≤ 8192)
    (unclosed : ∀ line ∈ inner, isLastLine line reply.code.value = false)
    (within : (flat (inner ++ [reply.lastLine])).length + 1 ≤ size) (cut : Bool) :
    Receives monitor left Behind fuel reply.code.value (inner ++ [reply.lastLine]) cut := by
  induction inner generalizing cut with
  | nil =>
    have clean : Receives monitor left Behind fuel _ _ false :=
      receives_last supply reply (plain _ (by simp)) (fits _ (by simp)) within
    cases cut with
    | false => exact clean
    | true => exact receives_cut supply _ _ _ within clean
  | cons line inner ih =>
    rw [List.cons_append] at within plain fits ⊢
    have shorter : (flat (inner ++ [reply.lastLine])).length + 1 ≤ size := by
      rw [flat_cons] at within
      simp only [List.length_append, List.length_cons] at within
      omega
    have clean : Receives monitor left Behind fuel _ _ false :=
      receives_inner supply reply.code.value line (inner ++ [reply.lastLine])
      (plain line (List.mem_cons_self ..)) (fits line (List.mem_cons_self ..))
      (unclosed line (List.mem_cons_self ..)) within
      (ih (fun other member => plain other (List.mem_cons_of_mem _ member))
        (fun other member => fits other (List.mem_cons_of_mem _ member))
        (fun other member => unclosed other (List.mem_cons_of_mem _ member)) shorter)
    cases cut with
    | false => exact clean
    | true => exact receives_cut supply _ _ _ within clean

end Lines

/-- The reply has been read: the client stands behind it, or has yet to read its
last LF. A 421 has closed the connection. -/
structure Received (left : Ghost → Bytes) (Behind : Bytes → Ghost → Prop) (reply : ServerReply)
    (connection : ControlConnection) (ghost : Ghost) (value : Reply) (state : ControlConnection)
    (after : Ghost) : Prop where
  value : value = reply.reply
  ahead : ∃ cut, Ahead left Behind cut [] state after
  layer : state.socket.layer = connection.socket.layer
  isOpen : state.socket.isOpen = (connection.socket.isOpen && reply.code.value != 421)
  wasOpen : reply.code.value = 421 → connection.socket.isOpen = true
  still : connection.socket.isOpen = false → after = ghost

/-- The reply cannot be read from a closed socket, or the closing steps behind a
421 fail. -/
def Unreceived (monitor : Monitor boundary Ghost) (left : Ghost → Bytes) (Refused : Ghost → Prop)
    (reply : ServerReply) (connection : ControlConnection) (ghost : Ghost)
    (_ : Stop FtpException) (_ : ControlConnection) (after : Ghost) : Prop :=
  (connection.socket.isOpen = false ∧ 2 ≤ (left ghost).length ∧ Missed monitor ghost after) ∨
    (reply.code.value = 421 ∧ (connection.socket.isOpen = false ∨ Refused after))

section Reply
variable (supply : Supply monitor left size Behind Refused) (reply : ServerReply)

include supply in
/-- What `recv` does with the lines of a reply. -/
private theorem finish_wp (connection state : ControlConnection) (ghost after : Ghost)
    (statusString : Bytes) (taken : Taken left Behind reply.wire connection ghost statusString state after) :
    (closeIfUnavailable reply.code.value).wp monitor fuel
      (fun _ => Received left Behind reply connection ghost
        ⟨reply.code.value, stripEol statusString⟩)
      (Unreceived monitor left Refused reply connection ghost) state after := by
  obtain ⟨cut, whole, ahead, socket, still⟩ := taken
  have stripped : stripEol statusString = reply.body := by
    obtain ⟨eol, rfl | rfl, same⟩ := line_taken whole
    · rw [same, stripEol_cr]
    · rw [same, stripEol_crlf]
  simp only [closeIfUnavailable, Program.wp_ite, Program.wp_pure, stripped]
  split
  · rename_i closing
    have calm (query answer) (ghost after : Ghost) (which : Closing query) (quiet : ¬ Refuses query answer)
        (ahead : Ahead left Behind cut [] state ghost) (step : monitor.step ghost ⟨query, answer⟩ after) :
        Ahead left Behind cut [] state after := by
      obtain ⟨⟨behind, stream, held⟩, empty⟩ := ahead
      obtain ⟨more, grown, held⟩ := supply.closing _ _ _ _ _ which quiet held step
      refine ⟨⟨behind ++ more, ?_, held⟩, empty⟩
      rw [grown, ← List.append_assoc, stream]
      simp
    have breaks (query answer) (ghost after : Ghost) (refuses : Refuses query answer)
        (ahead : Ahead left Behind cut [] state ghost) (step : monitor.step ghost ⟨query, answer⟩ after) :
        Refused after := by
      obtain ⟨⟨behind, stream, held⟩, empty⟩ := ahead
      exact supply.refused _ _ _ _ _ refuses held step
    refine (closeSteps_spec state calm breaks).apply ⟨rfl, ahead⟩ ?_ ?_
    · rintro _ last finally' ⟨isOpen, rfl, ahead⟩
      rw [socket] at isOpen
      refine ⟨rfl, ⟨cut, ahead.stream, ahead.empty⟩, by simp [socket], by simp [closing],
        fun _ => isOpen, fun closed => by simp [isOpen] at closed⟩
    · rintro stop last finally' ⟨-, failure⟩
      refine .inr ⟨closing, ?_⟩
      cases failure with
      | shut closed => exact .inl (by rw [← socket]; exact closed)
      | sslShutdown _ refused => exact .inr refused
      | shutdown _ refused => exact .inr refused
      | close _ refused => exact .inr refused
  · rename_i ordinary
    refine ⟨rfl, ⟨cut, ahead⟩, by rw [socket], ?_, fun closing => (ordinary closing).elim, still⟩
    simp [socket, ordinary]

private theorem wire_eq_flat : reply.wire = flat reply.lines := by
  simp [ReplyShape.wire, ReplyShape.body, ReplyShape.lines, flat]

include supply in
/-- `recv` reads one well-formed reply, wherever the reads end. -/
theorem recv_spec (enough : 2 * reply.lines.length ≤ fuel) (within : reply.wire.length ≤ size)
    (connection : ControlConnection) (ghost : Ghost)
    (ahead : Ahead left Behind false reply.wire connection ghost) :
    recv.wp monitor fuel (Received left Behind reply connection ghost)
      (Unreceived monitor left Refused reply connection ghost) connection ghost := by
  have starved (stop) (state) (after : Ghost)
      (starved : Starved monitor left connection ghost stop state after) :
      Unreceived monitor left Refused reply connection ghost stop state after := .inl starved
  have plain := reply.plain
  have fits := reply.fits
  have wire := wire_eq_flat reply
  rw [wire] at ahead within
  simp only [recv, Program.wp_bind]
  cases opening : reply.opening with
  | none =>
    have lines : reply.lines = [reply.lastLine] := by simp [ReplyShape.lines, ReplyShape.front, opening]
    rw [lines] at ahead within plain fits wire
    have single := fits _ (List.mem_singleton_self _)
    rw [flat_cons] at ahead within
    simp only [List.length_append, List.length_cons] at within
    refine readLine_line supply connection (plain _ (List.mem_singleton_self _)) single (by omega)
      ghost ahead ?_ fun closed short buffer after _ missed =>
        ⟨.inl ⟨closed, short, .single missed⟩, fun _ => .inl ⟨closed, short, .single missed⟩⟩
    intro cut buffer after same ahead value whole
    obtain ⟨eol, -, line⟩ := line_taken whole
    have code : tryParseStatusCode value = some reply.code.value := by
      rw [line, ReplyShape.lastLine, List.append_assoc]
      exact tryParseStatusCode_digits _ _
    have single : getElem? value 3 ≠ some hyphen := by
      simp [line, ReplyShape.lastLine, ReplyCode.digits, space, hyphen]
    rw [code]
    simp only [Program.wp_bind, if_neg single, Program.wp_pure]
    refine finish_wp supply reply connection _ ghost after value ⟨cut, ?_, ahead, rfl, same⟩
    rw [whole, wire, flat_cons]
    simp [flat, crlf]
  | some parts =>
    obtain ⟨first, inner⟩ := parts
    have lines : reply.lines =
        (reply.code.digits ++ hyphen :: first) :: (inner ++ [reply.lastLine]) := by
      simp [ReplyShape.lines, ReplyShape.front, opening]
    rw [lines] at ahead within plain fits wire enough
    rw [flat_cons] at ahead within
    simp only [List.length_append, List.length_cons] at within enough
    refine readLine_line supply connection (plain _ (List.mem_cons_self ..))
      (fits _ (List.mem_cons_self ..)) (by simp only [List.length_append, List.length_cons]; omega) ghost ahead ?_
      fun closed short buffer after _ missed =>
        ⟨.inl ⟨closed, short, .single missed⟩, fun _ => .inl ⟨closed, short, .single missed⟩⟩
    intro cut buffer after same ahead value whole
    obtain ⟨eol, -, line⟩ := line_taken whole
    have code : tryParseStatusCode value = some reply.code.value := by
      rw [line, List.append_assoc]
      exact tryParseStatusCode_digits _ _
    have multi : getElem? value 3 = some hyphen := by
      simp [line, ReplyCode.digits]
    rw [code]
    simp only [Program.wp_bind, if_pos multi, Program.wp_loop, Program.wp_pure]
    have rest : Receives monitor left Behind fuel reply.code.value (inner ++ [reply.lastLine]) cut :=
      recvLines_spec supply reply.toReplyShape inner
        (fun other member => plain other (List.mem_cons_of_mem _ member))
        (fun other member => fits other (List.mem_cons_of_mem _ member))
        (reply.unclosed first inner opening) (by omega) cut
    refine Program.wp_mono (rest fuel value { connection with buffer } after
      (by simp only [List.length_append, List.length_cons, List.length_nil]; split <;> omega) ahead) ?_ ?_
    · intro statusString state last taken
      have taken := Taken.later connection same taken
      refine finish_wp supply reply connection state ghost last statusString ?_
      have whole : value ++ dangling cut ++ flat (inner ++ [reply.lastLine]) = reply.wire := by
        rw [whole, wire, flat_cons]
        simp [crlf]
      rwa [whole] at taken
    · intro stop state last stopped
      exact starved _ _ _ (Starved.later connection same stopped)

end Reply

end ControlConnection

end LibFtp
