import LibFtp.Control.Network

/-! When `recv` ends. The loop over the lines of a multi-line reply stops at the
closing line, at a line that is too long, and at a failed read. The end of the
stream is none of these: it gives an empty line, time and again. -/

namespace LibFtp

open Effect

/-- A network whose stream is finite: once all is delivered, every read reports
the end of the stream. -/
def Expires (left : Bytes) (event : BoundaryEvent) (after : Bytes) : Prop :=
  Delivers left event after ∧
    match event with
    | ⟨.readSome .control _ _, .error ec⟩ => ec = .eof
    | _ => True

def expire : Monitor boundary Bytes := ⟨Expires⟩

def isLineEnd (ch : Byte) : Bool := ch = cr || ch = lf

/-- The stream cut at every CR and every LF. Last comes what follows them. -/
def linePieces (stream : Bytes) : List Bytes := stream.splitOnP isLineEnd

namespace ControlConnection

variable {buffer line rest : Bytes}

/-- None of the complete lines is the closing line of the reply, and none of the
lines is too long. -/
structure Unclosed (code : UInt16) (lines : List Bytes) : Prop where
  inner : ∀ line ∈ lines.dropLast, isLastLine line code = false
  short : ∀ line ∈ lines, line.length < 8192

/-- The stream opens a multi-line reply and breaks off inside it. -/
inductive BreaksOff : List Bytes → Prop where
  | inside {rest : List Bytes} (opens : tryParseStatusCode first = some code) (multi : getElem? first 3 = some hyphen)
      (short : first.length < 8192) (ended : rest ≠ []) (unclosed : Unclosed code rest) :
      BreaksOff (first :: rest)

private theorem isLineEnd_plain (plain : Plain line) : ∀ ch ∈ line, isLineEnd ch = false := by
  intro ch member
  obtain ⟨notCr, notLf⟩ := plain ch member
  simp [isLineEnd, notCr, notLf]

private theorem linePieces_ne_nil (stream : Bytes) : linePieces stream ≠ [] :=
  List.splitOnP_ne_nil _ _

private theorem linePieces_plain (plain : Plain line) : linePieces line = [line] :=
  List.splitOnP_eq_singleton (isLineEnd_plain plain)

private theorem linePieces_line (plain : Plain line) (ends : ch = cr ∨ ch = lf) (rest : Bytes) :
    linePieces (line ++ ch :: rest) = line :: linePieces rest := by
  apply List.splitOnP_append_cons_of_forall_mem (isLineEnd_plain plain)
  rcases ends with same | same <;> subst ch <;> rfl

private theorem linePieces_prefix (plain : Plain buffer) (left : Bytes) :
    ∃ more others, linePieces (buffer ++ left) = (buffer ++ more) :: others := by
  induction buffer with
  | nil =>
    obtain ⟨first, others, same⟩ := List.exists_cons_of_ne_nil (linePieces_ne_nil left)
    exact ⟨first, others, same⟩
  | cons ch buffer ih =>
    obtain ⟨more, others, same⟩ := ih plain.tail
    have ordinary : isLineEnd ch = false := isLineEnd_plain plain ch (by simp)
    refine ⟨more, others, ?_⟩
    unfold linePieces at same ⊢
    rw [List.cons_append, List.splitOnP_cons_eq_if_modifyHead, ordinary, same]
    rfl

private theorem unclosed_cons {rest : List Bytes} (code : UInt16) (nonempty : rest ≠ []) :
    Unclosed code (line :: rest) ↔
      isLastLine line code = false ∧ line.length < 8192 ∧ Unclosed code rest := by
  constructor
  · intro unclosed
    have inner := unclosed.inner
    rw [List.dropLast_cons_of_ne_nil nonempty] at inner
    refine ⟨inner line (by simp), unclosed.short line (by simp), ?_, ?_⟩
    · exact fun other member => inner other (List.mem_cons_of_mem _ member)
    · exact fun other member => unclosed.short other (List.mem_cons_of_mem _ member)
  · intro ⟨open', short, unclosed⟩
    refine ⟨?_, ?_⟩
    · rw [List.dropLast_cons_of_ne_nil nonempty]
      exact List.forall_mem_cons.mpr ⟨open', unclosed.inner⟩
    · exact List.forall_mem_cons.mpr ⟨short, unclosed.short⟩

/-- What `readLine` takes from a buffer is the first piece of the stream with its
line end; the LF of a CRLF may still be to come. -/
private structure TakesPiece (buffer : Bytes) (len : Nat) (left line eol : Bytes)
    (rest : List Bytes) : Prop where
  lineEnd : LineEnd eol
  value : buffer.take len = line ++ eol
  shorter : line.length < len
  first : linePieces (buffer ++ left) = line :: rest
  more : rest ≠ []
  others : ∀ code, Unclosed code rest ↔ Unclosed code (linePieces (buffer.drop len ++ left))

private theorem takesPiece_one (plain : Plain line) (ends : ch = cr ∨ ch = lf) (rest left : Bytes) :
    TakesPiece (line ++ ch :: rest) (line.length + 1) left line [ch] (linePieces (rest ++ left)) where
  lineEnd := by
    intro other member
    rw [List.mem_singleton.mp member]
    exact ends
  value := by simp [List.take_append]
  shorter := by omega
  first := by simpa using linePieces_line plain ends (rest ++ left)
  more := linePieces_ne_nil _
  others code := by
    have same : (line ++ ch :: rest).drop (line.length + 1) = rest := by
      simp [List.drop_append, List.drop_of_length_le]
    rw [same]

private theorem takesPiece_crlf (plain : Plain line) (rest left : Bytes) :
    TakesPiece (line ++ cr :: lf :: rest) (line.length + 2) left line crlf
      ([] :: linePieces (rest ++ left)) where
  lineEnd := lineEnd_crlf
  value := by simp [List.take_append, crlf]
  shorter := by omega
  first := by
    have empty : Plain ([] : Bytes) := by simp [Plain]
    have second : linePieces (lf :: (rest ++ left)) = [] :: linePieces (rest ++ left) :=
      linePieces_line empty (.inr rfl) (rest ++ left)
    have first := linePieces_line plain (.inl rfl) (lf :: (rest ++ left))
    rw [second] at first
    simpa using first
  more := by simp
  others code := by
    have same : (line ++ cr :: lf :: rest).drop (line.length + 2) = rest := by
      simp [List.drop_append]
    rw [same, unclosed_cons code (linePieces_ne_nil _)]
    constructor
    · intro parts
      obtain ⟨_, _, unclosed⟩ := parts
      exact unclosed
    · intro unclosed
      exact ⟨rfl, by decide, unclosed⟩

private theorem takesPiece (found : Socket.matchEol buffer = some len) (left : Bytes) :
    ∃ line eol rest, TakesPiece buffer len left line eol rest := by
  obtain ⟨line, rest, plain, shape⟩ := Socket.matchEol_some found
  rcases shape with ⟨same, length⟩ | ⟨same, length⟩ | ⟨same, -, length⟩ <;> subst buffer len
  · exact ⟨_, _, _, takesPiece_crlf plain rest left⟩
  · exact ⟨_, _, _, takesPiece_one plain (.inr rfl) rest left⟩
  · exact ⟨_, _, _, takesPiece_one plain (.inl rfl) rest left⟩

variable {fuel : Nat}

section Line
variable (connection : ControlConnection) (left : Bytes)
  {post : Bytes → ControlConnection → Bytes → Prop}
  {fail : Stop FtpException → ControlConnection → Bytes → Prop}

/-- The rule for `readLine` on a finite stream, by the pieces of what is still to
be read. -/
private theorem readLine_expire (isOpen : connection.socket.isOpen = true)
    (within : connection.buffer.length ≤ 8192)
    (taken : ∀ line eol rest buffer after, LineEnd eol → line.length < 8192 → rest ≠ [] →
      linePieces (connection.buffer ++ left) = line :: rest → buffer.length ≤ 8192 →
      (buffer ++ after).length < (connection.buffer ++ left).length →
      (∀ code, Unclosed code rest ↔ Unclosed code (linePieces (buffer ++ after))) →
      post (line ++ eol) { connection with buffer } after)
    (long : ∀ error line rest state after, linePieces (connection.buffer ++ left) = line :: rest →
      8192 ≤ line.length → fail (.raised error) state after)
    (ended : ∀ buffer, connection.buffer ++ left = buffer → linePieces buffer = [buffer] →
      buffer.length < 8192 → post [] { connection with buffer } []) :
    readLine.wp expire fuel post fail connection left := by
  let Held (buffer after : Bytes) : Prop :=
    buffer ++ after = connection.buffer ++ left ∧ buffer.length ≤ 8192
  let Ended (ec : ErrorCode) (buffer after : Bytes) : Prop :=
    ec = .eof ∧ after = [] ∧ connection.buffer ++ left = buffer ∧ Plain buffer ∧ buffer.length < 8192
  refine readLine_wp Held Ended connection left ⟨rfl, within⟩ ?_ ?_ ?_ ?_ ?_ ?_ ?_
  · intro buffer before chunk after _ held _ step
    have delivered : before = chunk.data ++ after := step.1
    refine ⟨?_, ?_⟩
    · rw [List.append_assoc, ← delivered]
      exact held.1
    · have fits := chunk.fits
      have bound := held.2
      rw [List.length_append]
      omega
  · intro buffer before ec after _ held plain short step
    have none : before = [] := step.1.1.resolve_right (by omega)
    have still : after = before := step.1.2
    refine ⟨step.2, still.trans none, ?_, plain, short⟩
    rw [← held.1, none, List.append_nil]
  · intro buffer before ec after closed
    simp [isOpen] at closed
  · intro buffer len after held found
    obtain ⟨positive, bound⟩ := Socket.matchEol_bounds found
    obtain ⟨line, eol, rest, takes⟩ := takesPiece found after
    have first := takes.first
    have shorter := takes.shorter
    have limit := held.2
    rw [held.1] at first
    rw [takes.value]
    refine taken line eol rest _ after takes.lineEnd (by omega) takes.more first ?_ ?_ takes.others
    · rw [List.length_drop]
      omega
    · rw [← held.1, List.length_append, List.length_append, List.length_drop]
      omega
  · intro error buffer after held plain full
    obtain ⟨more, others, same⟩ := linePieces_prefix plain after
    rw [held.1] at same
    exact long error _ others _ after same (by rw [List.length_append]; omega)
  · intro buffer after ⟨_, empty, same, plain, short⟩
    subst after
    exact ended buffer same (linePieces_plain plain) short
  · intro error ec buffer after other broken
    exact (other broken.1).elim

/-- While the closing line is missing the loop goes on, whatever its fuel. -/
private theorem recvLines_spins (code : UInt16) (rounds : Nat) (statusString : Bytes)
    (isOpen : connection.socket.isOpen = true) (within : connection.buffer.length ≤ 8192)
    (unclosed : Unclosed code (linePieces (connection.buffer ++ left))) :
    (recvLines code rounds statusString).wp expire fuel (fun _ _ _ => False)
      (fun stop _ _ => stop = .spinning) connection left := by
  induction rounds generalizing statusString connection left with
  | zero => rfl
  | succ rounds ih =>
    simp only [recvLines, Program.wp_bind]
    apply readLine_expire connection left isOpen within
    · intro line eol rest buffer after lineEnd _ more first bound _ others
      rw [first, unclosed_cons code more] at unclosed
      obtain ⟨inner, _, unclosed⟩ := unclosed
      rw [isLastLine_eol lineEnd, inner]
      exact ih { connection with buffer } after _ isOpen bound ((others code).mp unclosed)
    · intro error line rest state after first long
      have short := unclosed.short line (by simp [first])
      omega
    · intro buffer same _ short
      have still : Unclosed code (linePieces (buffer ++ [])) := by
        rw [List.append_nil, ← same]
        exact unclosed
      exact ih { connection with buffer } [] _ isOpen short.le still

/-- Otherwise it takes no more rounds than there are bytes. -/
private theorem recvLines_ends (code : UInt16) (rounds : Nat) (statusString : Bytes)
    (isOpen : connection.socket.isOpen = true) (within : connection.buffer.length ≤ 8192)
    (closed : ¬ Unclosed code (linePieces (connection.buffer ++ left)))
    (enough : (connection.buffer ++ left).length < rounds) :
    (recvLines code rounds statusString).wp expire fuel (fun _ _ _ => True)
      (fun stop _ _ => stop ≠ .spinning) connection left := by
  induction rounds generalizing statusString connection left with
  | zero => omega
  | succ rounds ih =>
    simp only [recvLines, Program.wp_bind]
    apply readLine_expire connection left isOpen within
    · intro line eol rest buffer after lineEnd short more first bound shorter others
      rw [isLastLine_eol lineEnd]
      by_cases last : isLastLine line code = true
      · rw [if_pos last]
        trivial
      · rw [if_neg last]
        have still : ¬ Unclosed code (linePieces (buffer ++ after)) := by
          intro unclosed
          apply closed
          rw [first, unclosed_cons code more]
          exact ⟨by simpa using last, short, (others code).mpr unclosed⟩
        exact ih { connection with buffer } after _ isOpen bound still (by simp only; omega)
    · intro error line rest state after first long never
      cases never
    · intro buffer same alone short
      refine (closed ?_).elim
      rw [same, alone]
      exact ⟨by simp, by simpa using short⟩

end Line

private theorem closeIfUnavailable_ends (code : UInt16) (connection : ControlConnection)
    (left : Bytes) : (closeIfUnavailable code).wp expire fuel (fun _ _ _ => True)
      (fun stop _ _ => stop ≠ .spinning) connection left := by
  simp only [closeIfUnavailable, Program.wp_ite, Program.wp_pure]
  split
  · apply Program.wp_mono (closeSteps_state connection left)
    · exact fun _ _ _ _ => trivial
    · intro stop state after both spins
      obtain ⟨⟨error, raised⟩, _⟩ := both
      rw [raised] at spins
      cases spins
  · trivial

section Reply
variable (connection : ControlConnection) (left : Bytes)

private theorem recv_spins (isOpen : connection.socket.isOpen = true)
    (within : connection.buffer.length ≤ 8192)
    (breaksOff : BreaksOff (linePieces (connection.buffer ++ left))) :
    recv.wp expire fuel (fun _ _ _ => False) (fun stop _ _ => stop = .spinning) connection left := by
  unfold recv
  rw [Program.wp_bind]
  apply readLine_expire connection left isOpen within
  · intro line eol rest buffer after lineEnd _ _ first bound _ others
    rw [first] at breaksOff
    cases breaksOff with
    | @inside _ code _ opens multi _ _ unclosed =>
      have fourth := (fourth_eol lineEnd line (show hyphen ≠ cr by decide) (by decide)).mpr multi
      rw [tryParseStatusCode_eol lineEnd, opens]
      simp only [Program.wp_bind, if_pos fourth, Program.wp_loop]
      apply Program.wp_mono (recvLines_spins { connection with buffer } after code fuel _ isOpen bound
        ((others code).mp unclosed))
      · exact fun _ _ _ never => never.elim
      · exact fun _ _ _ same => same
  · intro error line rest state after first long
    rw [first] at breaksOff
    cases breaksOff with
    | inside opens multi short ended unclosed => omega
  · intro buffer same alone short
    rw [same, alone] at breaksOff
    cases breaksOff with
    | inside opens multi short ended unclosed => exact (ended rfl).elim

private theorem recv_ends (isOpen : connection.socket.isOpen = true)
    (within : connection.buffer.length ≤ 8192)
    (whole : ¬ BreaksOff (linePieces (connection.buffer ++ left)))
    (enough : (connection.buffer ++ left).length < fuel) :
    recv.wp expire fuel (fun _ _ _ => True) (fun stop _ _ => stop ≠ .spinning) connection left := by
  unfold recv
  rw [Program.wp_bind]
  apply readLine_expire connection left isOpen within
  · intro line eol rest buffer after lineEnd short more first bound shorter others
    have fourth := fourth_eol lineEnd line (show hyphen ≠ cr by decide) (by decide)
    rw [tryParseStatusCode_eol lineEnd]
    cases opens : tryParseStatusCode line with
    | none => simp
    | some code =>
      by_cases multi : getElem? line 3 = some hyphen
      · have closed : ¬ Unclosed code (linePieces (buffer ++ after)) := by
          intro unclosed
          apply whole
          rw [first]
          exact .inside opens multi short more ((others code).mpr unclosed)
        simp only [Program.wp_bind, if_pos (fourth.mpr multi), Program.wp_loop]
        apply Program.wp_mono (recvLines_ends { connection with buffer } after code fuel _ isOpen bound
          closed (by simp only; omega))
        · exact fun statusString state last _ => closeIfUnavailable_ends code state last
        · exact fun _ _ _ ends => ends
      · simp only [Program.wp_bind, if_neg (fun other => multi (fourth.mp other)), Program.wp_pure]
        exact closeIfUnavailable_ends code _ after
  · intro error line rest state after first long never
    cases never
  · intro buffer same alone short never
    cases never

end Reply

/-- On a finite stream, in reads of any sizes, `recv` ends if and only if the stream
does not break off inside a multi-line reply. -/
theorem recv_ends_iff (host : Host boundary World) (view : World → Bytes)
    (finite : host.Follows expire view) (buffer : Bytes) (within : buffer.length ≤ 8192)
    (layer : Layer) (world : World) :
    (∃ enough, ∀ fuel ≥ enough,
      (recv.run host fuel ⟨buffer, ⟨layer, true⟩⟩ world).value.1 ≠ .error .spinning) ↔
      ¬ BreaksOff (linePieces (buffer ++ view world)) := by
  constructor
  · intro ⟨enough, ends⟩ breaksOff
    rcases Program.wp_run (recv_spins ⟨buffer, ⟨layer, true⟩⟩ (view world) rfl within breaksOff) host
      world (finite.drives _ world) with ⟨_, _, never⟩ | ⟨stop, same, spins⟩
    · exact never
    · exact ends enough le_rfl (spins ▸ same)
  · intro whole
    refine ⟨(buffer ++ view world).length + 1, fun fuel enough => ?_⟩
    rcases Program.wp_run (recv_ends ⟨buffer, ⟨layer, true⟩⟩ (view world) rfl within whole enough) host
      world (finite.drives _ world) with ⟨value, same, _⟩ | ⟨stop, same, ends⟩
    · rw [same]
      exact fun never => nomatch never
    · rw [same]
      intro never
      cases never
      exact ends rfl

theorem full_expires : Network.full.Follows expire id where
  step query left := by
    refine ⟨Network.full_network.step query left, ?_⟩
    cases query with
    | readSome channel layer maxSize =>
      cases channel with
      | data => trivial
      | control => by_cases room : left ≠ [] ∧ 0 < maxSize <;> simp [Network.full, room]
    | _ => trivial

/-- A reply of three lines, and then the end of the stream. -/
theorem recv_ends_iff_ready :
    let stream := text "220-a\r\n b\r\n220 ready\r\n"
    (∃ enough, ∀ fuel ≥ enough,
      (recv.run Network.full fuel ⟨[], ⟨.plain, true⟩⟩ stream).value.1 ≠ .error .spinning) ↔
      ¬ BreaksOff (linePieces ([] ++ stream)) :=
  recv_ends_iff Network.full id full_expires [] (by decide) .plain
    (text "220-a\r\n b\r\n220 ready\r\n")

/-- The server opens a multi-line reply and goes away. -/
theorem recv_spins_forever :
    ¬ ∃ fuel, (recv.run Network.full fuel ⟨[], ⟨.plain, true⟩⟩ (text "220-a\r\n")).value.1 ≠
      .error .spinning := by
  intro ⟨fuel, ends⟩
  have cut : linePieces (text "220-a\r\n") = [text "220-a", [], []] := by decide
  have opens : tryParseStatusCode (text "220-a") = some 220 := by decide
  have unclosed : Unclosed 220 [[], []] := ⟨by simp [isLastLine], by simp⟩
  have breaksOff : BreaksOff (linePieces (text "220-a\r\n")) := by
    rw [cut]
    exact .inside opens (by decide) (by decide) (by simp) unclosed
  rcases Program.wp_run (recv_spins ⟨[], ⟨.plain, true⟩⟩ (text "220-a\r\n") rfl (by simp) breaksOff)
    Network.full _ (full_expires.drives _ _) with ⟨_, _, never⟩ | ⟨stop, same, spins⟩
  · exact never
  · exact ends (spins ▸ same)

end ControlConnection

end LibFtp
