import LibFtp.Detail.ControlConnection

/-! Taking one line from the control connection. The matcher decides on the
bytes buffered so far, so a read that ends behind a CR ends the line there. -/

namespace LibFtp

open Effect

/-- Free of line ends. -/
def Plain (line : Bytes) : Prop := ∀ ch ∈ line, ch ≠ cr ∧ ch ≠ lf

instance (line : Bytes) : Decidable (Plain line) :=
  inferInstanceAs (Decidable (∀ ch ∈ line, ch ≠ cr ∧ ch ≠ lf))

theorem Plain.tail (plain : Plain (ch :: line)) : Plain line :=
  fun other member => plain other (List.mem_cons_of_mem _ member)

namespace Socket

theorem matchEol_other (notCr : ch ≠ cr) (notLf : ch ≠ lf) :
    matchEol (ch :: rest) = (matchEol rest).map (· + 1) := by
  rw [matchEol.eq_def]
  simp only [if_neg notCr, if_neg notLf]

theorem matchEol_none : matchEol bytes = none ↔ Plain bytes := by
  induction bytes with
  | nil => simp [matchEol, Plain]
  | cons ch rest ih =>
    by_cases isLf : ch = lf
    · subst isLf
      simp [matchEol, Plain]
    · by_cases isCr : ch = cr
      · subst isCr
        have never : ¬ Plain (cr :: rest) := fun plain => (plain cr (List.mem_cons_self ..)).1 rfl
        cases rest with
        | nil => simp [matchEol, never]
        | cons next others =>
          refine ⟨fun none => ?_, fun plain => (never plain).elim⟩
          by_cases follows : next = lf <;> simp [matchEol, isLf, follows] at none
      · rw [matchEol_other isCr isLf, Option.map_eq_none_iff, ih]
        simp [Plain, isLf, isCr]

theorem matchEol_plain_append (plain : Plain line) (rest : Bytes) :
    matchEol (line ++ rest) = (matchEol rest).map (· + line.length) := by
  induction line with
  | nil => simp
  | cons ch line ih =>
    obtain ⟨notCr, notLf⟩ := plain ch (List.mem_cons_self ..)
    rw [List.cons_append, matchEol_other notCr notLf, ih plain.tail, Option.map_map]
    congr 1

theorem matchEol_crlf (rest : Bytes) : matchEol (cr :: lf :: rest) = some 2 := rfl

theorem matchEol_lf (rest : Bytes) : matchEol (lf :: rest) = some 1 := rfl

/-- A line splits into what is free of line ends and one line end. -/
theorem matchEol_some (found : matchEol bytes = some len) :
    ∃ line rest, Plain line ∧
      ((bytes = line ++ cr :: lf :: rest ∧ len = line.length + 2) ∨
       (bytes = line ++ lf :: rest ∧ len = line.length + 1) ∨
       (bytes = line ++ cr :: rest ∧ rest.head? ≠ some lf ∧ len = line.length + 1)) := by
  induction bytes generalizing len with
  | nil => cases found
  | cons ch bytes ih =>
    by_cases isLf : ch = lf
    · subst isLf
      cases found
      exact ⟨[], bytes, by simp [Plain], .inr (.inl ⟨rfl, rfl⟩)⟩
    · by_cases isCr : ch = cr
      · subst isCr
        cases bytes with
        | nil =>
          cases found
          exact ⟨[], [], by simp [Plain], .inr (.inr ⟨rfl, by simp, rfl⟩)⟩
        | cons next rest =>
          by_cases follows : next = lf
          · subst follows
            cases found
            exact ⟨[], rest, by simp [Plain], .inl ⟨rfl, rfl⟩⟩
          · simp only [matchEol, if_neg follows] at found
            cases found
            exact ⟨[], next :: rest, by simp [Plain], .inr (.inr ⟨rfl, by simpa using follows, rfl⟩)⟩
      · rw [matchEol_other isCr isLf] at found
        obtain ⟨shorter, inner, rfl⟩ := Option.map_eq_some_iff.mp found
        obtain ⟨line, rest, plain, shape⟩ := ih inner
        refine ⟨ch :: line, rest, ?_, ?_⟩
        · intro other member
          rcases List.mem_cons.mp member with same | later
          · exact same ▸ ⟨isCr, isLf⟩
          · exact plain other later
        · simpa using shape

theorem matchEol_bounds (found : matchEol bytes = some len) : 0 < len ∧ len ≤ bytes.length := by
  obtain ⟨line, rest, -, ⟨rfl, rfl⟩ | ⟨rfl, rfl⟩ | ⟨rfl, -, rfl⟩⟩ := matchEol_some found <;>
    simp only [List.length_append, List.length_cons] <;> omega

/-- How `readUntil` ends: `Held` is what the rounds keep between the buffer and
the surroundings, `Broken` is what a failed read leaves. -/
inductive ReadOutcome {Ghost : Type} (maxSize : Nat) (Held : Bytes → Ghost → Prop)
    (Broken : ErrorCode → Bytes → Ghost → Prop) :
    Bytes × Except ErrorCode Nat → Ghost → Prop where
  | line (held : Held buffer after) (found : matchEol buffer = some len) :
      ReadOutcome maxSize Held Broken (buffer, .ok len) after
  | full (held : Held buffer after) (plain : Plain buffer) (long : maxSize ≤ buffer.length) :
      ReadOutcome maxSize Held Broken (buffer, .error .notFound) after
  | failed (broken : Broken ec buffer after) :
      ReadOutcome maxSize Held Broken (buffer, .error ec) after

variable {Ghost : Type} {monitor : Monitor boundary Ghost} {fuel : Nat} {channel : Channel}
  {maxSize : Nat} {Held : Bytes → Ghost → Prop} {Broken : ErrorCode → Bytes → Ghost → Prop}

/-- The rule for the loop of `readUntil`. The measure is the room left. -/
theorem readUntil_spec (socket : Socket)
    (grow : ∀ buffer ghost chunk after, socket.isOpen = true → Held buffer ghost → Plain buffer →
      monitor.step ghost ⟨.readSome channel socket.layer (maxSize - buffer.length), .ok chunk⟩ after →
      Held (buffer ++ chunk.data) after)
    (fails : ∀ buffer ghost ec after, socket.isOpen = true → Held buffer ghost → Plain buffer →
      buffer.length < maxSize →
      monitor.step ghost ⟨.readSome channel socket.layer (maxSize - buffer.length), .error ec⟩ after →
      Broken ec buffer after)
    (refused : ∀ buffer ghost (ec : ErrorCode) after, socket.isOpen = false → Held buffer ghost →
      Plain buffer → buffer.length < maxSize →
      monitor.step ghost
        ⟨.unopened channel socket.layer (.readSome (maxSize - buffer.length)), ec⟩ after →
      Broken ec buffer after)
    (rounds : Nat) (buffer : Bytes) (enough : maxSize - buffer.length < rounds) :
    Program.Triple monitor fuel (fun state ghost => state = socket ∧ Held buffer ghost)
      (readUntil channel maxSize rounds buffer)
      (fun value state after => state = socket ∧
        ReadOutcome maxSize Held Broken value after)
      (fun _ _ _ => False) := by
  induction rounds generalizing buffer with
  | zero => omega
  | succ rounds ih =>
    rintro state ghost ⟨same, held⟩
    subst state
    rw [readUntil]
    split
    · rename_i len found
      exact ⟨rfl, .line held found⟩
    · rename_i none
      have plain := matchEol_none.mp none
      split
      · rename_i long
        exact ⟨rfl, .full held plain long⟩
      · rename_i short
        simp only [Program.wp_bind, wp_readSome]
        split
        · rename_i isOpen
          intro answer after step
          cases answer with
          | ok chunk =>
            have nonempty := List.length_pos_iff.mpr chunk.nonempty
            exact ih _ (by rw [List.length_append]; omega) socket after
              ⟨rfl, grow buffer ghost chunk after isOpen held plain step⟩
          | error ec => exact ⟨rfl, .failed (fails buffer ghost ec after isOpen held plain (by omega) step)⟩
        · rename_i closed
          intro ec after step
          have closed : socket.isOpen = false := by simpa using closed
          exact ⟨rfl, .failed (refused buffer ghost ec after closed held plain (by omega) step)⟩

end Socket

namespace ControlConnection

variable {Ghost : Type} {monitor : Monitor boundary Ghost} {fuel : Nat}
  (Held : Bytes → Ghost → Prop) (Broken : ErrorCode → Bytes → Ghost → Prop)
  {post : Bytes → ControlConnection → Ghost → Prop}
  {fail : Stop FtpException → ControlConnection → Ghost → Prop}

/-- The rule for `readLine`: what the rounds keep, and what follows from each
way in which they end. -/
theorem readLine_rule (connection : ControlConnection) (ghost : Ghost)
    (held : Held connection.buffer ghost)
    (grow : ∀ buffer ghost chunk after, connection.socket.isOpen = true → Held buffer ghost →
      Plain buffer →
      monitor.step ghost ⟨.readSome .control connection.socket.layer (8192 - buffer.length),
        .ok chunk⟩ after → Held (buffer ++ chunk.data) after)
    (fails : ∀ buffer ghost ec after, connection.socket.isOpen = true → Held buffer ghost →
      Plain buffer → buffer.length < 8192 →
      monitor.step ghost ⟨.readSome .control connection.socket.layer (8192 - buffer.length),
        .error ec⟩ after → Broken ec buffer after)
    (refused : ∀ buffer ghost (ec : ErrorCode) after, connection.socket.isOpen = false →
      Held buffer ghost → Plain buffer → buffer.length < 8192 →
      monitor.step ghost ⟨.unopened .control connection.socket.layer
        (.readSome (8192 - buffer.length)), ec⟩ after → Broken ec buffer after)
    (taken : ∀ buffer len after, Held buffer after → Socket.matchEol buffer = some len →
      post (buffer.take len) { connection with buffer := buffer.drop len } after)
    (full : ∀ buffer after, Held buffer after → Plain buffer → 8192 ≤ buffer.length →
      fail (.raised (.ofCode .notFound "Cannot receive data over control connection"))
        { connection with buffer } after)
    (ended : ∀ buffer after, Broken .eof buffer after →
      post [] { connection with buffer } after)
    (failed : ∀ ec buffer after, ec ≠ .eof → Broken ec buffer after →
      fail (.raised (.ofCode ec "Cannot receive data over control connection"))
        { connection with buffer } after) :
    readLine.wp monitor fuel post fail connection ghost := by
  simp only [readLine, Program.wp_bind, Program.wp_get, onSocket, Program.wp_zoom]
  refine (Socket.readUntil_spec connection.socket grow fails refused _ _ (by omega)).apply ⟨rfl, held⟩ ?_
    (fun _ _ _ never => never.elim)
  rintro value socket after ⟨same, outcome⟩
  subst socket
  cases outcome with
  | line held found => exact taken _ _ _ held found
  | full held plain long => exact full _ _ held plain long
  | @failed ec buffer _ broken =>
    cases ec with
    | eof => exact ended _ _ broken
    | _ => exact failed _ _ _ (by simp) broken

/-- The same where it does not matter what is raised. -/
theorem readLine_wp (connection : ControlConnection) (ghost : Ghost)
    (held : Held connection.buffer ghost)
    (grow : ∀ buffer ghost chunk after, connection.socket.isOpen = true → Held buffer ghost →
      Plain buffer →
      monitor.step ghost ⟨.readSome .control connection.socket.layer (8192 - buffer.length),
        .ok chunk⟩ after → Held (buffer ++ chunk.data) after)
    (fails : ∀ buffer ghost ec after, connection.socket.isOpen = true → Held buffer ghost →
      Plain buffer → buffer.length < 8192 →
      monitor.step ghost ⟨.readSome .control connection.socket.layer (8192 - buffer.length),
        .error ec⟩ after → Broken ec buffer after)
    (refused : ∀ buffer ghost (ec : ErrorCode) after, connection.socket.isOpen = false →
      Held buffer ghost → Plain buffer → buffer.length < 8192 →
      monitor.step ghost ⟨.unopened .control connection.socket.layer
        (.readSome (8192 - buffer.length)), ec⟩ after → Broken ec buffer after)
    (taken : ∀ buffer len after, Held buffer after → Socket.matchEol buffer = some len →
      post (buffer.take len) { connection with buffer := buffer.drop len } after)
    (full : ∀ error buffer after, Held buffer after → Plain buffer → 8192 ≤ buffer.length →
      fail (.raised error) { connection with buffer } after)
    (ended : ∀ buffer after, Broken .eof buffer after →
      post [] { connection with buffer } after)
    (failed : ∀ error ec buffer after, ec ≠ .eof → Broken ec buffer after →
      fail (.raised error) { connection with buffer } after) :
    readLine.wp monitor fuel post fail connection ghost :=
  readLine_rule Held Broken connection ghost held grow fails refused taken
    (fun buffer after => full _ buffer after) ended fun ec buffer after => failed _ ec buffer after

end ControlConnection

section Keeps
variable {Ghost : Type} {monitor : Monitor boundary Ghost} {channel : Channel}
  {kept : Socket → Ghost → Prop}

/-- What a read of the socket keeps, the rounds keep. -/
theorem Socket.readUntil_keeps
    (reads : ∀ maxSize, (readSome channel maxSize).Keeps monitor kept kept) (maxSize rounds : Nat)
    (buffer : Bytes) : (readUntil channel maxSize rounds buffer).Keeps monitor kept kept := by
  induction rounds generalizing buffer with
  | zero => exact .pure _
  | succ rounds ih =>
    unfold readUntil
    cases matchEol buffer with
    | some len => exact .pure _
    | none =>
      refine .ite (.pure _) (.bind (reads _) fun answer => ?_)
      cases answer with
      | ok chunk => exact ih _
      | error ec => exact .pure _

namespace ControlConnection

variable (reads : ∀ maxSize, (Socket.readSome .control maxSize).Keeps monitor kept kept)

include reads

theorem readLine_keeps :
    readLine.Keeps monitor (fun connection => kept connection.socket)
      (fun connection => kept connection.socket) := by
  have take (change : ControlConnection → ControlConnection)
      (same : ∀ connection, (change connection).socket = connection.socket) :
      (Program.modify change : Method ControlConnection Unit).Keeps monitor
        (fun connection => kept connection.socket) (fun connection => kept connection.socket) :=
    .modify fun connection ghost holds => (same connection).symm ▸ holds
  refine .bind .get fun connection => .bind (.zoom (fun _ => ?_) fun _ => rfl) ?_
  · exact Socket.readUntil_keeps reads _ _ _
  · intro ⟨buffer, len⟩
    cases len with
    | ok len => exact .bind (take _ fun _ => rfl) fun _ => .pure _
    | error ec =>
      cases ec with
      | eof => exact .bind (take _ fun _ => rfl) fun _ => .pure _
      | _ => exact .bind (take _ fun _ => rfl) fun _ => .raise _ fun _ _ => id

theorem recvLines_keeps (code : UInt16) (rounds : Nat) (statusString : Bytes) :
    (recvLines code rounds statusString).Keeps monitor (fun connection => kept connection.socket)
      (fun connection => kept connection.socket) := by
  induction rounds generalizing statusString with
  | zero => exact .spin fun _ _ => id
  | succ rounds ih => exact .bind (readLine_keeps reads) fun _ => .ite (.pure _) (ih _)

/-- Receiving keeps what reading keeps, up to a 421 and the closing steps behind it. -/
theorem recv_triple {closed broken : ControlConnection → Ghost → Prop}
    (stops : ∀ connection ghost, kept connection.socket ghost → broken connection ghost)
    (closes : ∀ fuel, Program.Triple monitor fuel (fun connection => kept connection.socket)
      closeSteps (fun _ => closed) (fun _ => broken)) (fuel : Nat) :
    Program.Triple monitor fuel (fun connection => kept connection.socket) recv
      (fun reply connection ghost =>
        if reply.code = 421 then closed connection ghost else kept connection.socket ghost)
      (fun _ => broken) := by
  refine Program.Triple.bind ((readLine_keeps reads).mono stops fuel) fun line => ?_
  cases tryParseStatusCode line with
  | none => exact fun connection ghost holds => stops connection ghost holds
  | some code =>
    have rest (statusString : Bytes) :
        Program.Triple monitor fuel (fun connection => kept connection.socket) (do
            closeIfUnavailable code
            return (⟨code, stripEol statusString⟩ : Reply))
          (fun reply connection ghost =>
            if reply.code = 421 then closed connection ghost else kept connection.socket ghost)
          (fun _ => broken) := by
      intro connection ghost holds
      simp only [closeIfUnavailable, Program.wp_bind, Program.wp_ite, Program.wp_pure]
      split
      · exact closes fuel connection ghost holds
      · exact holds
    by_cases multi : getElem? line 3 = some hyphen
    · simp only [if_pos multi]
      exact Program.Triple.bind
        ((Program.Keeps.loop fun rounds => (recvLines_keeps reads code rounds line).mono stops) fuel) rest
    · simp only [if_neg multi]
      exact Program.Triple.bind (Program.Keeps.pure line fuel) rest

/-- The same where the closing steps keep it too. -/
theorem recv_keeps {broken : ControlConnection → Ghost → Prop}
    (stops : ∀ connection ghost, kept connection.socket ghost → broken connection ghost)
    (closes : closeSteps.Keeps monitor (fun connection => kept connection.socket) broken) :
    recv.Keeps monitor (fun connection => kept connection.socket) broken := by
  refine fun fuel connection ghost holds =>
    (recv_triple reads stops closes fuel).apply holds ?_ fun _ _ _ => id
  intro reply after last kept
  split at kept
  · exact kept
  · exact kept

end ControlConnection

end Keeps

end LibFtp
