import LibFtp.Control.Reference

/-! Which bytes make a reply, whatever the server sends and however the reads cut it. What
`recv` takes from the stream is one reply by this grammar, or it returns none. -/

namespace LibFtp

open Effect

/-- A line and its line end. Where a read has cut a CR off from its LF, the CR ends the line
and the LF is the end of a line without text. -/
structure ServerLine where
  text : Bytes
  eol : Bytes
  plain : Plain text
  ending : eol = crlf ∨ eol = [lf] ∨ eol = [cr]

namespace ServerLine

def whole (line : ServerLine) : Bytes := line.text ++ line.eol

/-- The line opens with the digits of the code and the byte. -/
def Opens (line : ServerLine) (code : ReplyCode) (mark : Byte) : Prop :=
  ∃ rest, line.text = code.digits ++ mark :: rest

theorem lineEnd (line : ServerLine) : ControlConnection.LineEnd line.eol := by
  rcases line.ending with same | same | same <;> rw [same]
  · exact ControlConnection.lineEnd_crlf
  · exact ControlConnection.lineEnd_lf
  · exact ControlConnection.lineEnd_cr

/-- What is taken up to a line end is a line. -/
theorem ofMatch {buffer : Bytes} (found : Socket.matchEol buffer = some len) :
    ∃ line : ServerLine, buffer.take len = line.whole := by
  obtain ⟨text, rest, plain, ⟨same, length⟩ | ⟨same, length⟩ | ⟨same, _, length⟩⟩ :=
    Socket.matchEol_some found
  · exact ⟨⟨text, crlf, plain, .inl rfl⟩, by simp [whole, same, length, crlf, List.take_append]⟩
  · exact ⟨⟨text, [lf], plain, .inr (.inl rfl)⟩, by simp [whole, same, length, List.take_append]⟩
  · exact ⟨⟨text, [cr], plain, .inr (.inr rfl)⟩, by simp [whole, same, length, List.take_append]⟩

/-- The code that the client reads off a line is that of its text. -/
theorem code_whole {line : ServerLine}
    (found : ControlConnection.tryParseStatusCode line.whole = some number) :
    ∃ (code : ReplyCode) (rest : Bytes), line.text = code.digits ++ rest ∧ code.value = number := by
  rw [whole, ControlConnection.tryParseStatusCode_eol line.lineEnd,
    Reference.tryParseStatusCode_eq] at found
  obtain ⟨code, digits, value⟩ := Reference.statusCode_some found
  refine ⟨code, line.text.drop 3, ?_, value⟩
  rw [← digits, List.take_append_drop]

/-- The last line is found by the digits of the first one. -/
theorem last_whole (line : ServerLine) (code : ReplyCode) :
    ControlConnection.isLastLine line.whole code.value = true ↔ line.Opens code space := by
  have first : Reference.statusCode code.digits = some code.value := by
    rw [← Reference.tryParseStatusCode_eq]
    simpa using ControlConnection.tryParseStatusCode_digits code []
  have three : code.digits.take 3 = code.digits := rfl
  rw [whole, ControlConnection.isLastLine_eol line.lineEnd, Reference.isLastLine_eq first,
    decide_eq_true_eq, three]
  constructor
  · intro opens
    refine ⟨line.text.drop 4, ?_⟩
    calc line.text = line.text.take 4 ++ line.text.drop 4 := (List.take_append_drop 4 _).symm
      _ = code.digits ++ space :: line.text.drop 4 := by rw [opens]; simp
  · rintro ⟨rest, same⟩
    rw [same]
    rfl

theorem text_ne_nil {line : ServerLine} (same : line.text = ReplyCode.digits code ++ rest) :
    line.text ≠ [] := by
  simp [same, ReplyCode.digits]

theorem stripEol_whole {line : ServerLine} (front : Bytes) (nonempty : line.text ≠ []) :
    ControlConnection.stripEol (front ++ line.whole) = front ++ line.text := by
  rw [whole, ← List.append_assoc]
  have ends : Reference.Eol line.eol [] := by
    rcases line.ending with same | same | same <;> rw [same]
    · exact .crlf
    · exact .lf
    · exact .cr (by simp)
  exact Reference.stripEol_line front line.plain nonempty ends

end ServerLine

def wholes (lines : List ServerLine) : Bytes := lines.flatMap ServerLine.whole

/-- The bytes are one reply. Its text goes up to the end of its last line: of the only one, or
where a hyphen stands behind the code, of the first one that opens with the code and a space. -/
inductive Wording : Bytes → Reply → Prop where
  | single (code : ReplyCode) (line : ServerLine) (rest : Bytes)
      (opens : line.text = code.digits ++ rest) (alone : rest.head? ≠ some hyphen) :
      Wording line.whole ⟨code.value, line.text⟩
  | several (code : ReplyCode) (first : ServerLine) (inner : List ServerLine) (last : ServerLine)
      (opens : first.Opens code hyphen) (goesOn : ∀ line ∈ inner, ¬ line.Opens code space)
      (closes : last.Opens code space) :
      Wording (wholes (first :: inner) ++ last.whole) ⟨code.value, wholes (first :: inner) ++ last.text⟩

end LibFtp
