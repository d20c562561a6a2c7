import LibFtp.Control.Closing
import LibFtp.Control.Network
import LibFtp.Control.ServerReply

/-! What `recv` is to make of any byte stream, put as a function of the stream, and that
it does so wherever no read ends inside a CRLF. -/

namespace LibFtp

open Effect

namespace Reference

/-- The first line of a stream without its line end, the line end, and what follows. -/
def cutLine : Bytes → Option (Bytes × Bytes × Bytes)
  | [] => none
  | ch :: rest =>
    if ch = lf then some ([], [lf], rest)
    else if ch = cr then
      if rest.head? = some lf then some ([], crlf, rest.drop 1) else some ([], [cr], rest)
    else (cutLine rest).map fun (line, eol, others) => (ch :: line, eol, others)

def isDigit (ch : Byte) : Bool := 48 ≤ ch && ch ≤ 57

def digit (ch : Byte) : Nat := (ch - 48).toNat

/-- The number that a line starts with, when it starts with three decimal digits. -/
def statusCode : Bytes → Option UInt16
  | hundreds :: tens :: units :: _ =>
    if isDigit hundreds && isDigit tens && isDigit units then
      some (UInt16.ofNat (100 * digit hundreds + 10 * digit tens + digit units))
    else none
  | _ => none

/-- The lines up to and including the first one that starts with the digits and a space,
without the end of that one, and what follows. -/
def untilLast (digits : Bytes) : Nat → Bytes → Option (Bytes × Bytes)
  | 0, _ => none
  | lines + 1, stream => do
    let (line, eol, rest) ← cutLine stream
    if line.take 4 = digits ++ [space] then return (line, rest)
    else
      let (text, rest) ← untilLast digits lines rest
      return (line ++ eol ++ text, rest)

/-- The reply at the front of a stream and what follows it, or the line that is no reply.
A stream has fewer lines than bytes; there is no result when it ends too early. -/
def parse (stream : Bytes) : Option (Except Bytes Reply × Bytes) := do
  let (line, eol, rest) ← cutLine stream
  match statusCode line with
  | none => return (.error (line ++ eol), rest)
  | some code =>
    if getElem? line 3 ≠ some hyphen then return (.ok ⟨code, line⟩, rest)
    else
      let (text, rest) ← untilLast (line.take 3) stream.length rest
      return (.ok ⟨code, line ++ eol ++ text⟩, rest)

example : parse (text "220-a\n220 b\r331\r\n") =
    some (.ok ⟨220, text "220-a\n220 b"⟩, text "331\r\n") := by decide

theorem cutLine_append {line : Bytes} (plain : Plain line) (stream : Bytes) :
    cutLine (line ++ stream) =
      (cutLine stream).map fun (front, eol, rest) => (line ++ front, eol, rest) := by
  induction line with
  | nil => simp
  | cons ch line ih =>
    obtain ⟨notCr, notLf⟩ := plain ch (List.mem_cons_self ..)
    rw [List.cons_append, cutLine, if_neg notLf, if_neg notCr, ih plain.tail, Option.map_map]
    rfl

/-- The three line ends. A CR is one only where no LF follows it. -/
inductive Eol : Bytes → Bytes → Prop where
  | lf : Eol [lf] rest
  | crlf : Eol crlf rest
  | cr (alone : rest.head? ≠ some lf) : Eol [cr] rest

theorem Eol.lineEnd (eol : Eol bytes rest) : ControlConnection.LineEnd bytes := by
  cases eol with
  | lf => exact ControlConnection.lineEnd_lf
  | crlf => exact ControlConnection.lineEnd_crlf
  | cr alone => exact ControlConnection.lineEnd_cr

theorem Eol.cut (eol : Eol bytes rest) : cutLine (bytes ++ rest) = some ([], bytes, rest) := by
  cases eol with
  | lf => rfl
  | crlf => rfl
  | cr alone => simp [cutLine, alone, show LibFtp.cr ≠ LibFtp.lf by decide]

/-- What the cut says about the stream. -/
theorem cutLine_some {stream : Bytes} (found : cutLine stream = some (line, eol, rest)) :
    stream = line ++ eol ++ rest ∧ Plain line ∧ Eol eol rest := by
  induction stream generalizing line with
  | nil => cases found
  | cons ch stream ih =>
    have nothing : Plain ([] : Bytes) := fun _ member => absurd member List.not_mem_nil
    by_cases isLf : ch = lf
    · subst ch
      cases found
      exact ⟨rfl, nothing, .lf⟩
    · by_cases isCr : ch = cr
      · subst ch
        by_cases follows : stream.head? = some lf
        · rw [cutLine, if_neg isLf, if_pos rfl, if_pos follows] at found
          cases found
          cases stream with
          | nil => cases follows
          | cons next others =>
            have next : next = lf := Option.some.inj follows
            subst next
            exact ⟨rfl, nothing, .crlf⟩
        · rw [cutLine, if_neg isLf, if_pos rfl, if_neg follows] at found
          cases found
          exact ⟨rfl, nothing, .cr follows⟩
      · rw [cutLine, if_neg isLf, if_neg isCr] at found
        obtain ⟨⟨front, _, _⟩, inner, same⟩ := Option.map_eq_some_iff.mp found
        cases same
        obtain ⟨split, plain, ends⟩ := ih inner
        refine ⟨by rw [split]; rfl, ?_, ends⟩
        intro other member
        rcases List.mem_cons.mp member with first | later
        · exact first ▸ ⟨isCr, isLf⟩
        · exact plain other later

/-- The matcher decides as the reference does, unless a CR is the last byte buffered and
its LF is still to come. -/
theorem matchEol_cutLine {buffer left : Bytes} (found : Socket.matchEol buffer = some len)
    (whole : ¬ (buffer.getLast? = some cr ∧ left.head? = some lf)) :
    ∃ line eol, cutLine (buffer ++ left) = some (line, eol, buffer.drop len ++ left) ∧
      buffer.take len = line ++ eol := by
  obtain ⟨line, rest, plain, shape⟩ := Socket.matchEol_some found
  have cut (eol : Bytes) (ends : Eol eol (rest ++ left)) (same : buffer = line ++ eol ++ rest)
      (length : len = line.length + eol.length) :
      ∃ line eol, cutLine (buffer ++ left) = some (line, eol, buffer.drop len ++ left) ∧
        buffer.take len = line ++ eol := by
    have length : (line ++ eol).length = len := by
      rw [length, List.length_append]
    refine ⟨line, eol, ?_, ?_⟩
    · rw [same, List.drop_left' length, List.append_assoc, List.append_assoc, cutLine_append plain,
        ends.cut]
      simp
    · rw [same, List.take_left' length]
  rcases shape with ⟨same, length⟩ | ⟨same, length⟩ | ⟨same, alone, length⟩
  · exact cut crlf .crlf (by rw [same]; simp [crlf]) length
  · exact cut [lf] .lf (by rw [same]; simp) length
  · refine cut [cr] (.cr ?_) (by rw [same]; simp) length
    cases rest with
    | nil => exact fun follows => whole ⟨by simp [same], follows⟩
    | cons next others => simpa using alone

private theorem isDigit_digit {ch : Byte} (isDigit : isDigit ch = true) :
    ∃ value : Fin 10, ReplyCode.digit value = ch ∧ digit ch = value.val := by
  obtain ⟨value, rfl⟩ := ReplyCode.digit_of_isDigit isDigit
  refine ⟨value, rfl, ?_⟩
  revert value
  decide

private theorem digits_code {hundreds tens units : Byte}
    (all : (isDigit hundreds && isDigit tens && isDigit units) = true) :
    ∃ code : ReplyCode, [hundreds, tens, units] = code.digits ∧
      UInt16.ofNat (100 * digit hundreds + 10 * digit tens + digit units) = code.value := by
  simp only [Bool.and_eq_true] at all
  obtain ⟨first, same, value⟩ := isDigit_digit all.1.1
  obtain ⟨second, same', value'⟩ := isDigit_digit all.1.2
  obtain ⟨third, same'', value''⟩ := isDigit_digit all.2
  refine ⟨⟨first, second, third⟩, ?_, ?_⟩
  · rw [ReplyCode.digits, same, same', same'']
  · rw [ReplyCode.value, value, value', value'']

/-- The parser of the client reads the code off the first three bytes. -/
theorem tryParseStatusCode_eq (line : Bytes) :
    ControlConnection.tryParseStatusCode line = statusCode line := by
  match line with
  | [] | [_] | [_, _] => rfl
  | hundreds :: tens :: units :: rest =>
    have front : ControlConnection.tryParseStatusCode (hundreds :: tens :: units :: rest) =
        Utils.tryParseUint16 [hundreds, tens, units] := by
      have long : ¬ (hundreds :: tens :: units :: rest).length < 3 := by
        simp only [List.length_cons]
        omega
      have taken : substr (hundreds :: tens :: units :: rest) 0 3 = [hundreds, tens, units] := rfl
      rw [ControlConnection.tryParseStatusCode, if_neg long, taken]
    rw [front, statusCode]
    by_cases all : (isDigit hundreds && isDigit tens && isDigit units) = true
    · obtain ⟨code, digits, value⟩ := digits_code all
      rw [if_pos all, digits, value]
      exact code.tryParse_digits
    · rw [if_neg all]
      have other : ∃ ch ∈ [hundreds, tens, units], isDigit ch = false := by
        simpa [Bool.and_eq_true, or_assoc, imp_iff_not_or] using all
      obtain ⟨ch, member, other⟩ := other
      exact Utils.tryParseUint16_none fun both => both.1.plain other member

theorem statusCode_some {line : Bytes} (found : statusCode line = some code) :
    ∃ digits : ReplyCode, line.take 3 = digits.digits ∧ digits.value = code := by
  match line with
  | [] | [_] | [_, _] => cases found
  | hundreds :: tens :: units :: rest =>
    rw [statusCode] at found
    by_cases all : (isDigit hundreds && isDigit tens && isDigit units) = true
    · rw [if_pos all] at found
      obtain ⟨digits, same, value⟩ := digits_code all
      exact ⟨digits, same, value.symm.trans (Option.some.inj found)⟩
    · rw [if_neg all] at found
      cases found

theorem tryParseStatusCode_bound {line : Bytes} {value : UInt16}
    (found : ControlConnection.tryParseStatusCode line = some value) : value.toNat < 1000 := by
  rw [tryParseStatusCode_eq] at found
  obtain ⟨⟨hundreds, tens, units⟩, _, same⟩ := statusCode_some found
  rw [← same, ReplyCode.value_toNat]
  omega

/-- The client compares numbers where the reference compares digits. -/
theorem isLastLine_eq {first : Bytes} (found : statusCode first = some code) (line : Bytes) :
    ControlConnection.isLastLine line code = decide (line.take 4 = first.take 3 ++ [space]) := by
  obtain ⟨digits, same, value⟩ := statusCode_some found
  rw [same]
  by_cases closes : line.take 4 = digits.digits ++ [space]
  · obtain ⟨rest, line'⟩ : ∃ rest, line = digits.digits ++ space :: rest := by
      refine ⟨line.drop 4, ?_⟩
      calc line = line.take 4 ++ line.drop 4 := (List.take_append_drop 4 line).symm
        _ = digits.digits ++ space :: line.drop 4 := by rw [closes]; simp
    have last := ControlConnection.isLastLine_last ⟨digits, none, rest⟩ []
    rw [List.append_nil, value] at last
    rw [decide_eq_true closes, line']
    exact last
  · rw [decide_eq_false closes]
    by_contra other
    have last : ControlConnection.isLastLine line code = true := by simpa using other
    unfold ControlConnection.isLastLine at last
    split_ifs at last with short open'
    have code' : statusCode line = some code := by
      rw [← tryParseStatusCode_eq]
      exact of_decide_eq_true last
    obtain ⟨digits', same', value'⟩ := statusCode_some code'
    have equal := ReplyCode.value_inj (value'.trans value.symm)
    subst digits'
    refine closes ?_
    have fourth : getElem? line 3 = some space := not_not.mp open'
    rw [List.take_add_one, same', fourth]
    rfl

theorem stripEol_line {line : Bytes} (front : Bytes) (plain : Plain line)
    (nonempty : line ≠ []) (ends : Eol eol rest) :
    ControlConnection.stripEol (front ++ line ++ eol) = front ++ line := by
  cases ends with
  | crlf => exact ControlConnection.stripEol_crlf _
  | cr alone => exact ControlConnection.stripEol_cr _
  | lf =>
    have notCr : (front ++ line).getLast? ≠ some cr := by
      rw [List.getLast?_append_of_ne_nil _ nonempty]
      exact fun last => (plain cr (List.mem_of_getLast? last)).1 rfl
    have last : (front ++ line ++ [lf]).getLast? = some lf := List.getLast?_concat ..
    have dropped : (front ++ line ++ [lf]).dropLast = front ++ line := List.dropLast_concat ..
    simp only [ControlConnection.stripEol, last, dropped, if_true, if_neg notCr]

end Reference

/-- A network that delivers on the control connection what is left, no read ending inside
a CRLF, and whose closing calls report no error. -/
def Intact (left : Bytes) (event : BoundaryEvent) (after : Bytes) : Prop :=
  Delivers left event after ∧ ¬ Refuses event.query event.answer ∧
    match event with
    | ⟨.readSome .control _ _, .ok chunk⟩ =>
      ¬ (chunk.data.getLast? = some cr ∧ after.head? = some lf)
    | _ => True

def intact : Monitor boundary Bytes := ⟨Intact⟩

/-- Every line of the stream has at most 8192 bytes, its line end included. -/
def LinesFit (stream : Bytes) : Prop :=
  ∀ tail line eol rest, tail <:+ stream → Reference.cutLine tail = some (line, eol, rest) →
    (line ++ eol).length ≤ 8192

theorem LinesFit.ofShort {stream : Bytes} (short : stream.length ≤ 8192) : LinesFit stream := by
  intro tail line eol rest suffix found
  obtain ⟨split, _, _⟩ := Reference.cutLine_some found
  have within := suffix.length_le
  rw [split, List.length_append] at within
  omega

namespace ControlConnection

open Reference

variable {fuel : Nat}

/-- Between the buffer and what is left no CRLF is torn apart. -/
def Untorn (buffer left : Bytes) : Prop := ¬ (buffer.getLast? = some cr ∧ left.head? = some lf)

theorem readLine_cut (connection : ControlConnection) (left : Bytes)
    (isOpen : connection.socket.isOpen = true) (untorn : Untorn connection.buffer left)
    (found : cutLine (connection.buffer ++ left) = some (line, eol, rest))
    (fits : (line ++ eol).length ≤ 8192) :
    readLine.wp intact fuel
      (fun value state after => value = line ++ eol ∧ state.socket = connection.socket ∧
        state.buffer ++ after = rest ∧ Untorn state.buffer after)
      (fun _ _ _ => False) connection left := by
  let Held (buffer after : Bytes) : Prop :=
    buffer ++ after = connection.buffer ++ left ∧ Untorn buffer after
  have reach (buffer after : Bytes) (held : Held buffer after) (plain : Plain buffer) :
      buffer.length < (line ++ eol).length ∧ after ≠ [] := by
    have cut := found
    rw [← held.1, cutLine_append plain] at cut
    obtain ⟨⟨front, _, _⟩, inner, same⟩ := Option.map_eq_some_iff.mp cut
    cases same
    obtain ⟨split, _, ends⟩ := cutLine_some inner
    have positive : 0 < eol.length := by
      cases ends <;> decide
    refine ⟨?_, ?_⟩
    · rw [List.length_append, List.length_append]
      omega
    · rintro rfl
      cases inner
  refine readLine_wp Held (fun _ _ _ => False) connection left ⟨rfl, untorn⟩ ?_ ?_ ?_ ?_ ?_ ?_ ?_
  · intro buffer ghost chunk after _ held _ step
    have delivered : ghost = chunk.data ++ after := step.1
    refine ⟨?_, ?_⟩
    · rw [List.append_assoc, ← delivered]
      exact held.1
    · unfold Untorn
      rw [List.getLast?_append_of_ne_nil _ chunk.nonempty]
      exact step.2.2
  · intro buffer ghost ec after _ held plain short step
    have reached := reach buffer ghost held plain
    rcases step.1.1 with nothing | full
    · exact reached.2 nothing
    · omega
  · intro buffer ghost ec after closed
    simp [isOpen] at closed
  · intro buffer len after held matched
    obtain ⟨line', eol', cut, value⟩ := matchEol_cutLine matched held.2
    rw [held.1, found] at cut
    cases cut
    refine ⟨value, rfl, rfl, fun torn => held.2 ⟨?_, torn.2⟩⟩
    have last := torn.1
    rw [List.getLast?_drop] at last
    split at last
    · cases last
    · exact last
  · intro error buffer after held plain long
    have reached := reach buffer after held plain
    omega
  · exact fun _ _ never => never.elim
  · exact fun _ _ _ _ _ never => never.elim

/-- The loop over the later lines takes the lines of the reference. -/
private theorem recvLines_untilLast {first body rest : Bytes} {value : UInt16}
    (code : statusCode first = some value) (lines steps : Nat) (acc : Bytes)
    (connection : ControlConnection) (left : Bytes) (isOpen : connection.socket.isOpen = true)
    (untorn : Untorn connection.buffer left) (fit : LinesFit (connection.buffer ++ left))
    (enough : lines ≤ steps)
    (found : untilLast (first.take 3) lines (connection.buffer ++ left) = some (body, rest)) :
    (recvLines value steps acc).wp intact fuel
      (fun whole state after => stripEol whole = acc ++ body ∧
        state.socket = connection.socket ∧ state.buffer ++ after = rest ∧ Untorn state.buffer after)
      (fun _ _ _ => False) connection left := by
  induction lines generalizing steps acc connection left body with
  | zero => cases found
  | succ lines ih =>
    obtain ⟨fewer, same⟩ : ∃ fewer, steps = fewer + 1 := ⟨steps - 1, by omega⟩
    subst same
    simp only [untilLast, bind, Option.bind_eq_some_iff] at found
    obtain ⟨⟨line, eol, others⟩, cut, found⟩ := found
    obtain ⟨split, plain, ends⟩ := cutLine_some cut
    simp only [recvLines, Program.wp_bind]
    refine Program.wp_mono (readLine_cut connection left isOpen untorn cut
      (fit _ _ _ _ List.suffix_rfl cut)) ?_ fun _ _ _ never => never.elim
    intro whole state after parts
    obtain ⟨same, socket, behind, untorn⟩ := parts
    subst whole
    rw [isLastLine_eol ends.lineEnd, isLastLine_eq code]
    by_cases closes : line.take 4 = first.take 3 ++ [space]
    · simp only [if_pos closes, pure, Option.some.injEq, Prod.mk.injEq] at found
      obtain ⟨same, remaining⟩ := found
      subst same remaining
      have nonempty : line ≠ [] := by
        rintro rfl
        simp at closes
      simp only [closes, decide_true, if_true, Program.wp_pure]
      refine ⟨?_, socket, behind, untorn⟩
      rw [← List.append_assoc]
      exact stripEol_line acc plain nonempty ends
    · simp only [if_neg closes, Option.bind_eq_some_iff, pure, Option.some.injEq,
        Prod.mk.injEq] at found
      obtain ⟨⟨later, remaining⟩, found, same, last⟩ := found
      subst body last
      simp only [closes, decide_false, Bool.false_eq_true, if_false]
      subst others
      have shorter : LinesFit (state.buffer ++ after) := by
        intro tail line eol rest suffix
        refine fit tail line eol rest (suffix.trans ?_)
        rw [split]
        exact List.suffix_append ..
      have isOpen : state.socket.isOpen = true := by
        rw [socket]
        exact isOpen
      refine Program.wp_mono (ih fewer (acc ++ (line ++ eol)) state after isOpen untorn shorter
        (by omega) found) ?_ fun _ _ _ never => never.elim
      intro whole last finally' parts
      obtain ⟨stripped, still, behind, untorn⟩ := parts
      refine ⟨?_, still.trans socket, behind, untorn⟩
      rw [stripped]
      simp

/-- What is left of `recv` once it has the text of the reply. -/
private theorem finish_parsed (code : UInt16) (connection : ControlConnection) (left : Bytes) :
    (closeIfUnavailable code).wp intact fuel
      (fun _ state after => state.buffer = connection.buffer ∧ after = left)
      (fun _ _ _ => connection.socket.isOpen = false) connection left := by
  simp only [closeIfUnavailable, Program.wp_ite, Program.wp_pure]
  split
  · have calm (query answer) (ghost after : Bytes) (which : Closing query)
        (_ : ¬ Refuses query answer) (same : ghost = left)
        (step : intact.step ghost ⟨query, answer⟩ after) : after = left := by
      have delivers : Delivers ghost ⟨query, answer⟩ after := step.1
      cases which <;> exact delivers.trans same
    have breaks (query answer) (ghost after : Bytes) (refuses : Refuses query answer)
        (_ : ghost = left) (step : intact.step ghost ⟨query, answer⟩ after) : False :=
      step.2.1 refuses
    refine (closeSteps_spec connection calm breaks).apply ⟨rfl, rfl⟩ ?_ ?_
    · rintro _ state after ⟨_, same, still⟩
      exact ⟨by rw [same]; rfl, still⟩
    · rintro stop state after ⟨_, failure⟩
      cases failure with
      | shut closed => exact closed
      | sslShutdown _ never | shutdown _ never | close _ never => exact never.elim
  · exact ⟨rfl, rfl⟩

/-- How `recv` reports what the reference makes of the stream. -/
def reported : Except Bytes Reply → Except (Stop FtpException) Reply
  | .error line => .error (.raised
      ⟨"Cannot parse a status code from the server reply: '%1%'.", [line], none⟩)
  | .ok reply => .ok reply

private theorem recv_parse_wp (connection : ControlConnection) (left : Bytes)
    (isOpen : connection.socket.isOpen = true) (untorn : Untorn connection.buffer left)
    (fit : LinesFit (connection.buffer ++ left))
    (enough : (connection.buffer ++ left).length ≤ fuel)
    (found : parse (connection.buffer ++ left) = some (outcome, rest)) :
    recv.wp intact fuel
      (fun reply state after => outcome = .ok reply ∧ state.buffer ++ after = rest)
      (fun stop state after => reported outcome = .error stop ∧ state.buffer ++ after = rest)
      connection left := by
  simp only [parse, bind, Option.bind_eq_some_iff] at found
  obtain ⟨⟨line, eol, others⟩, cut, found⟩ := found
  obtain ⟨split, plain, ends⟩ := cutLine_some cut
  simp only [recv, Program.wp_bind]
  refine Program.wp_mono (readLine_cut connection left isOpen untorn cut
    (fit _ _ _ _ List.suffix_rfl cut)) ?_ fun _ _ _ never => never.elim
  intro whole state after ⟨same, socket, behind, untorn⟩
  subst same
  have stillOpen : state.socket.isOpen = true := by
    rw [socket]
    exact isOpen
  rw [tryParseStatusCode_eol ends.lineEnd, tryParseStatusCode_eq]
  cases code : statusCode line with
  | none =>
    simp only [code, Option.some.injEq, Prod.mk.injEq, pure] at found
    obtain ⟨same, last⟩ := found
    subst same last
    exact ⟨rfl, behind⟩
  | some value =>
    have fourth := fourth_eol ends.lineEnd line (show hyphen ≠ cr by decide) (by decide)
    simp only [code] at found
    by_cases multi : getElem? line 3 = some hyphen
    · rw [if_neg (not_not.mpr multi)] at found
      simp only [Option.bind_eq_some_iff, Option.some.injEq, Prod.mk.injEq, pure] at found
      obtain ⟨⟨body, remaining⟩, later, same, last⟩ := found
      subst same last
      simp only [Program.wp_bind, if_pos (fourth.mpr multi), Program.wp_loop, Program.wp_pure]
      rw [← behind] at later
      have shorter : LinesFit (state.buffer ++ after) := by
        intro tail line eol rest suffix
        refine fit tail line eol rest (suffix.trans ?_)
        rw [split, behind]
        exact List.suffix_append ..
      refine Program.wp_mono (recvLines_untilLast code _ fuel (line ++ eol) state after stillOpen
        untorn shorter enough later) ?_ fun _ _ _ never => never.elim
      intro whole last finally' ⟨stripped, still, behind, untorn⟩
      refine Program.wp_mono (finish_parsed value last finally') ?_ ?_
      · intro _ closed ending ⟨buffer, same⟩
        rw [stripped, buffer, same]
        exact ⟨rfl, behind⟩
      · intro stop closed ending shut
        rw [still, stillOpen] at shut
        cases shut
    · rw [if_pos multi] at found
      simp only [Option.some.injEq, Prod.mk.injEq, pure] at found
      obtain ⟨same, last⟩ := found
      subst same last
      have nonempty : line ≠ [] := by
        rintro rfl
        cases code
      have stripped : stripEol (line ++ eol) = line := stripEol_line [] plain nonempty ends
      simp only [Program.wp_bind, if_neg (fun other => multi (fourth.mp other)), Program.wp_pure]
      refine Program.wp_mono (finish_parsed value state after) ?_ ?_
      · intro _ closed ending ⟨buffer, same⟩
        rw [stripped, buffer, same]
        exact ⟨rfl, behind⟩
      · intro stop closed ending shut
        rw [stillOpen] at shut
        cases shut

/-- Every reply has a code of three digits. -/
theorem recv_digits {Ghost : Type} {monitor : Monitor boundary Ghost}
    (connection : ControlConnection) (ghost : Ghost) :
    recv.wp monitor fuel (fun reply _ _ => reply.code.toNat < 1000) (fun _ _ _ => True) connection
      ghost := by
  unfold recv
  rw [Program.wp_bind]
  refine Program.wp_always _ (fun line state after => ?_) fun _ _ _ => trivial
  cases found : tryParseStatusCode line with
  | none => exact trivial
  | some code =>
    have rest (statusString : Bytes) (state : ControlConnection) (after : Ghost) :
        Program.wp monitor fuel (do
          closeIfUnavailable code
          return (⟨code, stripEol statusString⟩ : Reply))
          (fun reply _ _ => reply.code.toNat < 1000) (fun _ _ _ => True) state after := by
      rw [Program.wp_bind]
      exact Program.wp_always _ (fun _ _ _ => tryParseStatusCode_bound found) fun _ _ _ => trivial
    by_cases multi : getElem? line 3 = some hyphen
    · simp only [if_pos multi]
      rw [Program.wp_bind]
      exact Program.wp_always _ (fun _ => rest _) fun _ _ _ => trivial
    · simp only [if_neg multi]
      exact rest line state after

/-- The reply, the error and the bytes that are left are those of the reference. -/
theorem recv_parses (host : Host boundary World) (world : World) (connection : ControlConnection)
    (left last : Bytes) (isOpen : connection.socket.isOpen = true)
    (untorn : Untorn connection.buffer left) (fit : LinesFit (connection.buffer ++ left))
    (enough : (connection.buffer ++ left).length ≤ fuel)
    (found : parse (connection.buffer ++ left) = some (outcome, rest)) :
    let run := recv.run host fuel connection world
    intact.Drives left run.events last →
      run.value.1 = reported outcome ∧ run.value.2.buffer ++ last = rest := by
  intro run drives
  rcases Program.wp_run (recv_parse_wp connection left isOpen untorn fit enough found) host world
    drives with ⟨reply, returned, parsed, behind⟩ | ⟨stop, stopped, parsed, behind⟩
  · refine ⟨?_, behind⟩
    rw [parsed]
    exact returned
  · exact ⟨stopped.trans parsed.symm, behind⟩

theorem recv_parses_mixed :
    let pieces := [text "220-a\n221 b\r\n\r220", text " c\r331 d\r\n"]
    let run := recv.run Script.host 40 ⟨[], ⟨.plain, true⟩⟩ (.ofReplies pieces)
    run.value.1 = reported (.ok ⟨220, text "220-a\n221 b\r\n\r220 c"⟩) ∧
      run.value.2.buffer ++ [] = text "331 d\r\n" := by
  intro pieces
  have untorn : Untorn [] pieces.flatten := fun torn => nomatch torn.1
  have fit : LinesFit ([] ++ pieces.flatten) := .ofShort (by decide)
  have found : parse ([] ++ pieces.flatten) =
      some (.ok ⟨220, text "220-a\n221 b\r\n\r220 c"⟩, text "331 d\r\n") := by decide
  have first : ¬ ((text "220-a\n221 b\r\n\r220").getLast? = some cr ∧
      (text " c\r331 d\r\n").head? = some lf) := by decide
  have second : ¬ ((text " c\r331 d\r\n").getLast? = some cr ∧ ([] : Bytes).head? = some lf) := by
    decide
  have events : (recv.run Script.host 40 ⟨[], ⟨.plain, true⟩⟩ (.ofReplies pieces)).events =
      [⟨.readSome .control .plain 8192, .ok ⟨text "220-a\n221 b\r\n\r220", by decide, by decide⟩⟩,
        ⟨.readSome .control .plain 8189, .ok ⟨text " c\r331 d\r\n", by decide, by decide⟩⟩] := by
    decide +kernel
  have enough : ([] ++ pieces.flatten).length ≤ 40 := by decide
  have drives : intact.Drives pieces.flatten
      (recv.run Script.host 40 ⟨[], ⟨.plain, true⟩⟩ (.ofReplies pieces)).events [] := by
    rw [events]
    exact .cons ⟨rfl, (nomatch ·), first⟩ (.cons ⟨rfl, (nomatch ·), second⟩ .nil)
  have parses := recv_parses Script.host (.ofReplies pieces) ⟨[], ⟨.plain, true⟩⟩ pieces.flatten []
    rfl untorn fit enough found drives
  exact parses

end ControlConnection

end LibFtp
