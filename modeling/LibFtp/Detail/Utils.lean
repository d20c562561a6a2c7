import Mathlib.Data.UInt

/-! Byte strings and the string utilities shared by the reply parsers. -/

namespace LibFtp

abbrev Byte := UInt8
abbrev Bytes := List Byte

/-- The bytes of an ASCII literal. -/
def text (literal : String) : Bytes := literal.toList.map fun ch => UInt8.ofNat ch.toNat

def cr : Byte := 13
def lf : Byte := 10
def space : Byte := 32
def hyphen : Byte := 45
def crlf : Bytes := [cr, lf]

/-- `std::to_string` of an unsigned number. -/
def toDecimal (value : Nat) : Bytes :=
  (Nat.toDigits 10 value).map fun ch => UInt8.ofNat ch.toNat

/-- `std::string::find` of one character. -/
def find (ch : Byte) (str : Bytes) : Option Nat := str.findIdx? (· == ch)

/-- `std::string::rfind` of one character. -/
def rfind (ch : Byte) (str : Bytes) : Option Nat :=
  (find ch str.reverse).map fun fromEnd => str.length - 1 - fromEnd

def substr (str : Bytes) (pos count : Nat) : Bytes := (str.drop pos).take count

namespace Utils

def splitLoop (del : Byte) : Bytes → Bytes → List Bytes → List Bytes
  | [], _, result => result
  | ch :: rest, substr, result =>
    if ch = del then splitLoop del rest [] (result ++ [substr])
    else if rest.isEmpty then splitLoop del rest [] (result ++ [substr ++ [ch]])
    else splitLoop del rest (substr ++ [ch]) result

def splitString (str : Bytes) (del : Byte) : List Bytes := splitLoop del str [] []

def parseLoop : Bytes → UInt64 → Option UInt64
  | [], value => some value
  | ch :: rest, value =>
    if ch < 48 || ch > 57 then none
    else
      let digit := (ch - 48).toUInt64
      if value > 0xffffffffffffffff / 10 then none
      else
        let scaled := value * 10
        if scaled > 0xffffffffffffffff - digit then none
        else parseLoop rest (scaled + digit)

def tryParseUint64 (str : Bytes) : Option UInt64 :=
  if str.isEmpty then none else parseLoop str 0

/-- The narrower parsers are the 64-bit parser with an upper bound. -/
def tryParseBounded (max : UInt64) (str : Bytes) : Option UInt64 := do
  let value ← tryParseUint64 str
  if value > max then none else some value

def tryParseUint8 (str : Bytes) : Option UInt8 :=
  (tryParseBounded 0xff str).map UInt64.toUInt8

def tryParseUint16 (str : Bytes) : Option UInt16 :=
  (tryParseBounded 0xffff str).map UInt64.toUInt16

def tryParseUint32 (str : Bytes) : Option UInt32 :=
  (tryParseBounded 0xffffffff str).map UInt64.toUInt32

example : tryParseUint16 (text "65535") = some 65535 := by decide
example : splitString (text "a,,b,") 44 = [text "a", [], text "b"] := by decide

end Utils

end LibFtp
