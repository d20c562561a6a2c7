import LibFtp.Client.Receiving
import LibFtp.Control.Grammar
import LibFtp.Text.Strewn

/-! The stream of the control connection over a whole session. Every reply that the observers
are told of stands in what was read, behind the one told before it, and while the operations
return nothing else stands there. -/

namespace LibFtp

open Effect Text

/-- What was read from the control connection, and the replies that were told. -/
structure Intake where
  received : Bytes
  told : List Reply
  deriving DecidableEq, Repr

namespace Intake

def empty : Intake := ⟨[], []⟩

def advance (intake : Intake) : BoundaryEvent → Intake
  | ⟨.readSome .control _ _, .ok chunk⟩ => { intake with received := intake.received ++ chunk.data }
  | ⟨.notifyReply _ reply, _⟩ => { intake with told := intake.told ++ [reply] }
  | _ => intake

def of (events : List BoundaryEvent) : Intake := events.foldl advance empty

/-- A reply that is told has its words in the stream, behind those of the replies before. -/
def Worded (intake : Intake) (event : BoundaryEvent) : Prop :=
  ∀ observers reply, event.query = .notifyReply observers reply →
    ∃ taken piece rest, intake.received = taken ++ piece ++ rest ∧
      Strewn True Wording taken intake.told ∧ Wording piece reply

abbrev intakes : Monitor boundary (Intake × Prop) := watch advance Worded

private theorem deaf_apart (query : Boundary.Query) (deaf : Deaf query) :
    Program.Ignored (watching advance Worded) query := by
  intro moment answer
  have still : advance moment.1 ⟨query, answer⟩ = moment.1 := by
    cases query with
    | readSome channel => cases channel with
      | control => exact deaf.elim
      | data => rfl
    | notifyReply => exact deaf.elim
    | _ => rfl
  have worded : Worded moment.1 ⟨query, answer⟩ := by
    rintro observers reply rfl
    exact deaf.elim
  exact Prod.ext still (propext (and_iff_left worded))

end Intake

open Intake

/-- Behind what was taken the buffer stands, and the given replies were told. -/
private def Drawn (taken : Bytes) (told : List Reply) (buffer : Bytes) (moment : Intake × Prop) :
    Prop :=
  moment.1 = ⟨taken ++ buffer, told⟩ ∧ moment.2

variable {taken : Bytes} {told : List Reply}

private theorem Drawn.read {buffer : Bytes} {moment after : Intake × Prop} {chunk : Chunk maxSize}
    (drawn : Drawn taken told buffer moment)
    (step : intakes.step moment ⟨.readSome .control layer maxSize, .ok chunk⟩ after) :
    Drawn taken told (buffer ++ chunk.data) after := by
  have step : after = watching advance Worded moment ⟨.readSome .control layer maxSize, .ok chunk⟩ :=
    step
  subst step
  refine ⟨?_, drawn.2, nofun⟩
  rw [watching, drawn.1, ← List.append_assoc]
  rfl

private theorem Drawn.failed {buffer : Bytes} {moment after : Intake × Prop} {ec : ErrorCode}
    (drawn : Drawn taken told buffer moment)
    (step : intakes.step moment ⟨.readSome .control layer maxSize, .error ec⟩ after) :
    Drawn taken told buffer after := by
  have step : after = watching advance Worded moment ⟨.readSome .control layer maxSize, .error ec⟩ :=
    step
  subst step
  exact ⟨drawn.1, drawn.2, nofun⟩

namespace ControlConnection

variable {fuel : Nat}

/-- Something was taken from the stream without a reply coming of it. -/
private def Spilled (taken : Bytes) (told : List Reply) (_ : Stop FtpException)
    (connection : ControlConnection) (moment : Intake × Prop) : Prop :=
  ∃ more, Drawn (taken ++ more) told connection.buffer moment

/-- One line is taken from the stream, or at its end nothing. -/
private theorem readLine_drawn (connection : ControlConnection) (moment : Intake × Prop)
    (drawn : Drawn taken told connection.buffer moment) :
    readLine.wp intakes fuel
      (fun value state after => Drawn (taken ++ value) told state.buffer after ∧
        (value = [] ∨ ∃ line : ServerLine, value = line.whole))
      (Spilled taken told) connection moment := by
  have spilled (buffer : Bytes) (after : Intake × Prop) (drawn : Drawn taken told buffer after) :
      ∃ more, Drawn (taken ++ more) told buffer after := ⟨[], by rwa [List.append_nil]⟩
  refine readLine_wp (Drawn taken told) (fun _ => Drawn taken told) connection moment drawn
    ?_ ?_ ?_ ?_ ?_ ?_ ?_
  · exact fun _ _ _ _ _ drawn _ step => drawn.read step
  · exact fun _ _ _ _ _ drawn _ _ step => drawn.failed step
  · intro buffer before ec after _ drawn _ _ step
    have deaf : Deaf (.unopened .control connection.socket.layer (.readSome (8192 - buffer.length))) :=
      trivial
    rw [show after = before from step.trans (deaf_apart _ deaf before ec)]
    exact drawn
  · intro buffer len after drawn found
    refine ⟨⟨?_, drawn.2⟩, .inr (ServerLine.ofMatch found)⟩
    rw [List.append_assoc, List.take_append_drop]
    exact drawn.1
  · exact fun _ buffer after drawn _ _ => spilled buffer after drawn
  · exact fun buffer after drawn => ⟨by rwa [List.append_nil], .inl rfl⟩
  · exact fun _ _ buffer after _ drawn => spilled buffer after drawn

/-- The lines behind the first one, up to the last one. -/
private theorem recvLines_drawn (code : ReplyCode) (rounds : Nat) (statusString : Bytes)
    (connection : ControlConnection) (moment : Intake × Prop)
    (drawn : Drawn (taken ++ statusString) told connection.buffer moment) :
    (recvLines code.value rounds statusString).wp intakes fuel
      (fun value state after => Drawn (taken ++ value) told state.buffer after ∧
        ∃ (inner : List ServerLine) (last : ServerLine),
          value = statusString ++ wholes inner ++ last.whole ∧
          (∀ line ∈ inner, ¬ line.Opens code space) ∧ last.Opens code space)
      (Spilled taken told) connection moment := by
  induction rounds generalizing statusString connection moment with
  | zero => exact ⟨statusString, drawn⟩
  | succ rounds ih =>
    simp only [recvLines, Program.wp_bind]
    refine Program.wp_mono (readLine_drawn connection moment drawn) ?_ ?_
    · rintro value state after ⟨drawn, shape⟩
      rw [List.append_assoc] at drawn
      by_cases last : isLastLine value code.value = true
      · simp only [if_pos last]
        rcases shape with none | ⟨line, same⟩
        · subst value
          cases last
        · subst value
          exact ⟨drawn, [], line, by simp [wholes], by simp, (line.last_whole code).mp last⟩
      · simp only [if_neg last]
        refine Program.wp_mono (ih (statusString ++ value) state after drawn) ?_ fun _ _ _ => id
        rintro result settled final ⟨drawn, inner, closing, same, goesOn, closes⟩
        refine ⟨drawn, ?_⟩
        rcases shape with none | ⟨line, whole⟩
        · subst value
          exact ⟨inner, closing, by rw [same, List.append_nil], goesOn, closes⟩
        · subst value
          refine ⟨line :: inner, closing, by simp [same, wholes], ?_, closes⟩
          intro other member
          rcases List.mem_cons.mp member with first | later
          · subst other
            exact fun opens => last ((line.last_whole code).mpr opens)
          · exact goesOn other later
    · rintro stop state after ⟨more, drawn⟩
      exact ⟨statusString ++ more, by rwa [← List.append_assoc]⟩

private theorem closeIfUnavailable_drawn (code : UInt16) :
    (closeIfUnavailable code).Keeps intakes (Beside (Drawn taken told)) (Beside (Drawn taken told)) :=
  .ite (closeSteps_beside deaf_apart) (.pure _)

/-- What `recv` takes from the stream is one reply. -/
private theorem recv_drawn (connection : ControlConnection) (moment : Intake × Prop)
    (drawn : Drawn taken told connection.buffer moment) :
    recv.wp intakes fuel
      (fun reply state after => ∃ piece, Drawn (taken ++ piece) told state.buffer after ∧
        Wording piece reply)
      (Spilled taken told) connection moment := by
  have finish (code : UInt16) (piece : Bytes) (state : ControlConnection) (middle : Intake × Prop)
      (drawn : Drawn (taken ++ piece) told state.buffer middle)
      (wording : Wording piece ⟨code, stripEol piece⟩) :
      (do
        closeIfUnavailable code
        return (⟨code, stripEol piece⟩ : Reply) : Method ControlConnection Reply).wp intakes fuel
        (fun reply state after => ∃ piece, Drawn (taken ++ piece) told state.buffer after ∧
          Wording piece reply)
        (Spilled taken told) state middle := by
    simp only [Program.wp_bind, Program.wp_pure]
    exact Program.wp_mono (closeIfUnavailable_drawn code fuel state middle drawn)
      (fun _ _ _ drawn => ⟨piece, drawn, wording⟩) fun _ _ _ drawn => ⟨piece, drawn⟩
  unfold recv
  rw [Program.wp_bind]
  refine Program.wp_mono (readLine_drawn connection moment drawn) ?_ fun _ _ _ => id
  rintro value state after ⟨drawn, shape⟩
  cases parsed : tryParseStatusCode value with
  | none => exact ⟨value, drawn⟩
  | some number =>
    rcases shape with none | ⟨line, same⟩
    · subst value
      cases parsed
    · subst value
      obtain ⟨code, rest, opens, rfl⟩ := ServerLine.code_whole parsed
      have nonempty := ServerLine.text_ne_nil opens
      have fourth : getElem? line.whole 3 = some hyphen ↔ rest.head? = some hyphen := by
        rw [ServerLine.whole, fourth_eol line.lineEnd _ (by decide) (by decide), opens,
          List.getElem?_append_right (by simp [ReplyCode.digits])]
        cases rest <;> simp [ReplyCode.digits]
      by_cases multi : getElem? line.whole 3 = some hyphen
      · simp only [if_pos multi]
        rw [Program.wp_bind, Program.wp_loop]
        refine Program.wp_mono (recvLines_drawn code fuel line.whole state after drawn) ?_
          fun _ _ _ => id
        rintro text settled final ⟨drawn, inner, last, same, goesOn, closes⟩
        have whole : text = wholes (line :: inner) ++ last.whole := by
          rw [same, wholes, wholes, List.flatMap_cons]
        obtain ⟨others, closing⟩ := closes
        have first : line.Opens code hyphen := by
          obtain ⟨more, same⟩ := List.head?_eq_some_iff.mp (fourth.mp multi)
          exact ⟨more, by rw [opens, same]⟩
        refine finish _ text settled final drawn ?_
        rw [whole, ServerLine.stripEol_whole _ (ServerLine.text_ne_nil closing)]
        exact .several code line inner last first goesOn ⟨others, closing⟩
      · simp only [if_neg multi]
        rw [Program.wp_bind, Program.wp_pure]
        refine finish _ line.whole state after drawn ?_
        have stripped : stripEol line.whole = line.text := ServerLine.stripEol_whole [] nonempty
        rw [stripped]
        exact .single code line rest opens fun hyphen => multi (fourth.mpr hyphen)

end ControlConnection

namespace Client

variable {loose : Prop}

/-- The replies that were told stand in what was taken from the stream. -/
def Strung (loose : Prop) (buffer : Bytes) (intake : Intake) : Prop :=
  ∃ taken, intake.received = taken ++ buffer ∧ Strewn loose Wording taken intake.told

abbrev Reads (loose : Prop) : Client → Intake × Prop → Prop :=
  OfBuffer fun buffer moment => Strung loose buffer moment.1 ∧ moment.2

/-- The reply that was read is told, and stands behind the ones before. -/
private theorem recv_reads : recv.Keeps intakes (Reads loose) (Reads True) := by
  rintro fuel client moment ⟨⟨taken, received, strewn⟩, fine⟩
  have drawn : Drawn taken moment.1.told client.control.buffer moment :=
    ⟨congrArg (Intake.mk · moment.1.told) received, fine⟩
  simp only [recv, onControl, notifyReply, Program.wp_bind, Program.wp_zoom, Program.wp_get,
    wp_call, Program.wp_pure]
  refine Program.wp_mono (ControlConnection.recv_drawn client.control moment drawn) ?_ ?_
  · rintro reply control middle ⟨piece, ⟨same, fine⟩, wording⟩ answer after step
    have step : after = watching advance Worded middle
      ⟨.notifyReply client.observers reply, answer⟩ := step
    subst step
    rw [watching, same]
    refine ⟨⟨taken ++ piece, rfl, strewn.piece wording⟩, fine, ?_⟩
    intro observers other same
    obtain ⟨rfl, rfl⟩ := Boundary.Query.notifyReply.inj same
    exact ⟨taken, piece, control.buffer, rfl, strewn.loosen, wording⟩
  · rintro _ control after ⟨more, same, fine⟩
    refine ⟨⟨taken ++ more, by rw [same], ?_⟩, fine⟩
    rw [same]
    exact strewn.loosen.other trivial more

theorem reads_upholds :
    UpholdsLink intakes (Reads loose) (Reads True) (fun _ => True) := by
  refine receiving_upholds deaf_apart (fun buffer moment reads => ?_) recv_reads
  obtain ⟨⟨taken, received, strewn⟩, fine⟩ := reads
  exact ⟨⟨taken, received, strewn.loosen⟩, fine⟩

section Sessions
variable (mode : TransferMode) (type : TransferType) (context support : Bool)
  (host : Host boundary World) (fuel : Nat) (world : World) (operations : List Operation)

/-- In every session, whatever the server sends, a reply that the observers are told of is
worded by a piece of what was read, behind the pieces of all replies told before. As long as
the operations return, those pieces and what is left in the buffer are all that was read. -/
theorem replies_stand_in_stream :
    (∀ front observers reply back,
      exchanged (session invoke host fuel operations (Client.new mode type context support) world) =
        front ++ ⟨.notifyReply observers reply, ()⟩ :: back →
      ∃ taken piece rest, (Intake.of front).received = taken ++ piece ++ rest ∧
        Strewn True Wording taken (Intake.of front).told ∧ Wording piece reply) ∧
    ∀ front record back,
      session invoke host fuel operations (Client.new mode type context support) world =
        front ++ record :: back →
      (∀ other ∈ front ++ [record], other.Normal) →
      ∃ pieces, (Intake.of (exchanged (front ++ [record]))).received =
          pieces.flatten ++ record.after.control.buffer ∧
        List.Forall₂ Wording pieces (Intake.of (exchanged (front ++ [record]))).told := by
  have initial (loose : Prop) :
      Strung loose (Client.new mode type context support).control.buffer .empty := ⟨[], rfl, .nil⟩
  constructor
  · intro front observers reply back split
    have keeps (operation : Operation) : (invoke operation).Keeps intakes
        (Watched fun client => Strung True client.control.buffer)
        (Watched fun client => Strung True client.control.buffer) :=
      reads_upholds.invoke operation fun _ _ => trivial
    exact session_always host fuel keeps operations _ world _ (initial True) front _ back split
      observers reply rfl
  · intro front record back split normal
    have keeps (operation : Operation) : (invoke operation).Keeps intakes (Reads False) (Reads True) :=
      reads_upholds.invoke operation fun _ _ => trivial
    have reads := session_returning host fuel keeps operations _ world (Intake.empty, True)
      ⟨initial False, trivial⟩ front record back split normal
    rw [foldl_watching] at reads
    obtain ⟨⟨taken, received, strewn⟩, _⟩ := reads
    obtain ⟨pieces, rfl, worded⟩ := strewn.pieces
    exact ⟨pieces, received, worded⟩

end Sessions

section Cases

/-- A server that greets the client with two lines and answers its first command. -/
private def chatting :=
  session invoke Script.host 9 [.connect (text "h") 21 none [], .sendNoop]
    (Client.new .passive .binary false true)
    (Script.ofReplies [text "220-a\r\n220 b\r\n", text "200 c\r\n"])

theorem replies_stand_in_stream_noop :
    ∃ pieces, (Intake.of (exchanged chatting)).received = pieces.flatten ∧
      List.Forall₂ Wording pieces [⟨220, text "220-a\r\n220 b"⟩, ⟨200, text "200 c"⟩] := by
  have some' : chatting.getLast?.isSome = true := by decide +kernel
  obtain ⟨record, last⟩ := Option.isSome_iff_exists.mp some'
  have split : chatting.dropLast ++ [record] = chatting :=
    List.dropLast_append_getLast? record last
  have normal := all_normal (show (chatting.all fun record => record.outcome.isOk) = true by
    decide +kernel)
  have told : (Intake.of (exchanged chatting)).told =
      [⟨220, text "220-a\r\n220 b"⟩, ⟨200, text "200 c"⟩] := by decide +kernel
  have buffer : (chatting.getLast?.map (·.after.control.buffer)) = some [] := by decide +kernel
  have emptied : record.after.control.buffer = [] := by simpa [last] using buffer
  obtain ⟨pieces, received, worded⟩ := (replies_stand_in_stream .passive .binary false true
    Script.host 9 _ _).2 _ record [] split.symm (fun other member => normal other (split ▸ member))
  have whole : exchanged (chatting.dropLast ++ [record]) = exchanged chatting := by rw [split]
  refine ⟨pieces, ?_, ?_⟩
  · rw [← whole, received, emptied, List.append_nil]
  · rw [← told, ← whole]
    exact worded

end Cases

end Client

end LibFtp
