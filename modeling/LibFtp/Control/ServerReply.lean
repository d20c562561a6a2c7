import LibFtp.Control.Line
import LibFtp.Detail.Decimal

/-! Replies as a server puts them on the wire, and what the client makes of
their lines. -/

namespace LibFtp

open Effect

structure ReplyCode where
  hundreds : Fin 10
  tens : Fin 10
  units : Fin 10
  deriving DecidableEq, Repr

namespace ReplyCode

def digit (value : Fin 10) : Byte := UInt8.ofNat (48 + value.val)

def digits (code : ReplyCode) : Bytes := [digit code.hundreds, digit code.tens, digit code.units]

def value (code : ReplyCode) : UInt16 :=
  UInt16.ofNat (100 * code.hundreds.val + 10 * code.tens.val + code.units.val)

theorem isDigit_digit (value : Fin 10) : isDigit (digit value) = true := by
  revert value
  decide

theorem digitValue_digit (value : Fin 10) : digitValue (digit value) = value.val := by
  revert value
  decide

theorem digit_of_isDigit {ch : Byte} (isDigit : isDigit ch = true) : ∃ value, digit value = ch := by
  obtain ⟨lower, upper⟩ := (isDigit_iff ch).mp isDigit
  refine ⟨⟨ch.toNat - 48, by omega⟩, UInt8.toNat_inj.mp ?_⟩
  simp only [digit, UInt8.toNat_ofNat']
  omega

theorem isNumeral_digits (code : ReplyCode) : IsNumeral code.digits := by
  refine ⟨List.cons_ne_nil _ _, fun ch member => ?_⟩
  simp only [digits, List.mem_cons, List.not_mem_nil, or_false] at member
  rcases member with rfl | rfl | rfl <;> exact isDigit_digit _

theorem value_toNat (code : ReplyCode) :
    code.value.toNat = 100 * code.hundreds.val + 10 * code.tens.val + code.units.val := by
  have hundreds := code.hundreds.isLt
  have tens := code.tens.isLt
  have units := code.units.isLt
  exact Nat.mod_eq_of_lt (by omega)

theorem decimal_digits (code : ReplyCode) : decimal code.digits = code.value.toNat := by
  rw [value_toNat]
  simp only [decimal, digits, List.map_cons, List.map_nil, digitValue_digit, Text.numeral,
    Text.readDigits_cons, Text.readDigits_nil]
  omega

theorem tryParse_digits (code : ReplyCode) :
    Utils.tryParseUint16 code.digits = some code.value :=
  (Utils.tryParseUint16_iff _ _).mpr ⟨code.isNumeral_digits, code.decimal_digits⟩

/-- Codes with one value have the same digits. -/
theorem value_inj {code other : ReplyCode} (same : code.value = other.value) : code = other := by
  obtain ⟨⟨hundreds, _⟩, ⟨tens, _⟩, ⟨units, _⟩⟩ := code
  obtain ⟨⟨hundreds', _⟩, ⟨tens', _⟩, ⟨units', _⟩⟩ := other
  have numbers := congrArg UInt16.toNat same
  rw [value_toNat, value_toNat] at numbers
  simp only at numbers
  obtain ⟨rfl, rfl, rfl⟩ : hundreds = hundreds' ∧ tens = tens' ∧ units = units' := by omega
  rfl

/-- Three bytes that parse are the digits of a code. -/
theorem digits_of_parse {number : UInt16} (three : bytes.length = 3)
    (parsed : Utils.tryParseUint16 bytes = some number) :
    ∃ code : ReplyCode, bytes = code.digits ∧ number = code.value := by
  obtain ⟨x, y, z, rfl⟩ := List.length_eq_three.mp three
  obtain ⟨⟨_, all⟩, _⟩ := (Utils.tryParseUint16_iff _ _).mp parsed
  obtain ⟨hundreds, rfl⟩ := digit_of_isDigit (all x (by simp))
  obtain ⟨tens, rfl⟩ := digit_of_isDigit (all y (by simp))
  obtain ⟨units, rfl⟩ := digit_of_isDigit (all z (by simp))
  have code := tryParse_digits ⟨hundreds, tens, units⟩
  exact ⟨⟨hundreds, tens, units⟩, rfl, Option.some.inj (parsed.symm.trans code)⟩

end ReplyCode

/-- A single-line reply `ddd text`, or a multi-line reply `ddd-…`, inner lines,
`ddd text`. -/
structure ReplyShape where
  code : ReplyCode
  opening : Option (Bytes × List Bytes)
  text : Bytes
  deriving DecidableEq, Repr

namespace ReplyShape

def lastLine (reply : ReplyShape) : Bytes := reply.code.digits ++ space :: reply.text

/-- The lines before the last one. -/
def front (reply : ReplyShape) : List Bytes :=
  match reply.opening with
  | none => []
  | some (first, inner) => (reply.code.digits ++ hyphen :: first) :: inner

def lines (reply : ReplyShape) : List Bytes := reply.front ++ [reply.lastLine]

/-- Everything but the CRLF of the last line. -/
def body (reply : ReplyShape) : Bytes := reply.front.flatMap (· ++ crlf) ++ reply.lastLine

def wire (reply : ReplyShape) : Bytes := reply.body ++ crlf

/-- What the client is to make of it. -/
def reply (reply : ReplyShape) : Reply := ⟨reply.code.value, reply.body⟩

end ReplyShape

/-- A well-formed reply: no line holds a line end or is too long for the client,
and no inner line looks like the last one. -/
structure ServerReply extends ReplyShape where
  plain : ∀ line ∈ toReplyShape.lines, Plain line
  fits : ∀ line ∈ toReplyShape.lines, line.length + 2 ≤ 8192
  unclosed : ∀ first inner, toReplyShape.opening = some (first, inner) →
    ∀ line ∈ inner, ControlConnection.isLastLine line code.value = false
  deriving DecidableEq

/-- The byte stream of several replies. -/
def wire (replies : List ServerReply) : Bytes := replies.flatMap fun reply => reply.wire

namespace ControlConnection

theorem tryParseStatusCode_digits (code : ReplyCode) (rest : Bytes) :
    tryParseStatusCode (code.digits ++ rest) = some code.value := by
  rw [tryParseStatusCode, if_neg (by simp [ReplyCode.digits])]
  exact code.tryParse_digits

theorem isLastLine_last (reply : ReplyShape) (eol : Bytes) :
    isLastLine (reply.lastLine ++ eol) reply.code.value = true := by
  have parsed : tryParseStatusCode (reply.lastLine ++ eol) = some reply.code.value := by
    rw [ReplyShape.lastLine, List.append_assoc]
    exact tryParseStatusCode_digits _ _
  rw [isLastLine, if_neg (by simp [ReplyShape.lastLine, ReplyCode.digits]), if_neg, parsed]
  · exact decide_eq_true rfl
  · simp [ReplyShape.lastLine, ReplyCode.digits]

/-- What follows the text of a line. -/
def LineEnd (eol : Bytes) : Prop := ∀ ch ∈ eol, ch = cr ∨ ch = lf

theorem lineEnd_crlf : LineEnd crlf := by
  simp [LineEnd, crlf]

theorem lineEnd_cr : LineEnd [cr] := by
  simp [LineEnd]

theorem lineEnd_lf : LineEnd [lf] := by
  simp [LineEnd]

theorem tryParseStatusCode_eol (ends : LineEnd eol) (line : Bytes) :
    tryParseStatusCode (line ++ eol) = tryParseStatusCode line := by
  unfold tryParseStatusCode
  by_cases long : 3 ≤ line.length
  · have front : substr (line ++ eol) 0 3 = substr line 0 3 := by
      simp only [substr, List.drop_zero]
      exact List.take_append_of_le_length long
    rw [if_neg (by simp; omega), if_neg (by omega), front]
  · rw [if_pos (show line.length < 3 by omega)]
    split
    · rfl
    · rename_i enough
      obtain ⟨ch, others, same⟩ : ∃ ch others, eol = ch :: others := by
        cases eol with
        | nil => simp at enough; omega
        | cons ch others => exact ⟨ch, others, rfl⟩
      have member : ch ∈ substr (line ++ eol) 0 3 := by
        rw [substr, List.drop_zero, same, List.take_append, List.take_of_length_le (by omega)]
        obtain ⟨more, room⟩ : ∃ more, 3 - line.length = more + 1 := ⟨2 - line.length, by omega⟩
        simp [room]
      have other : isDigit ch = false := by
        rcases ends ch (by simp [same]) with rfl | rfl <;> decide
      exact Utils.tryParseUint16_none fun both => both.1.plain other member

/-- The fourth byte is looked at to tell the kinds of lines apart. -/
theorem fourth_eol (ends : LineEnd eol) (line : Bytes) (notCr : mark ≠ cr) (notLf : mark ≠ lf) :
    getElem? (line ++ eol) 3 = some mark ↔ getElem? line 3 = some mark := by
  by_cases long : 4 ≤ line.length
  · rw [List.getElem?_append_left (by omega)]
  · rw [List.getElem?_append_right (by omega), List.getElem?_eq_none (show line.length ≤ 3 by omega)]
    refine iff_of_false (fun found => ?_) (by simp)
    rcases ends mark (List.mem_of_getElem? found) with same | same
    · exact notCr same
    · exact notLf same

theorem isLastLine_eol (ends : LineEnd eol) (line : Bytes) (code : UInt16) :
    isLastLine (line ++ eol) code = isLastLine line code := by
  have fourth := fourth_eol ends line (show space ≠ cr by decide) (by decide)
  unfold isLastLine
  by_cases found : getElem? line 3 = some space
  · have long : 4 ≤ line.length := by
      obtain ⟨bound, -⟩ := List.getElem?_eq_some_iff.mp found
      omega
    rw [if_neg (show ¬ (line ++ eol).length < 4 by simp; omega),
      if_neg (show ¬ line.length < 4 by omega), if_neg (not_not.mpr (fourth.mpr found)),
      if_neg (not_not.mpr found), tryParseStatusCode_eol ends]
  · rw [if_pos (show getElem? (line ++ eol) 3 ≠ some space from fun other => found (fourth.mp other)),
      if_pos (show getElem? line 3 ≠ some space from found), ite_self, ite_self]

theorem isLastLine_lf (code : UInt16) : isLastLine [lf] code = false := rfl

/-- Both ways in which the last line may have been cut off leave the same reply. -/
theorem stripEol_crlf (body : Bytes) : stripEol (body ++ crlf) = body := by
  simp [stripEol, crlf, cr, lf, List.getLast?_append, List.dropLast_append_of_ne_nil]

theorem stripEol_cr (body : Bytes) : stripEol (body ++ [cr]) = body := by
  simp [stripEol, cr, lf]

end ControlConnection

end LibFtp
