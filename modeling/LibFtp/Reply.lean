import LibFtp.Detail.Utils

/-! Replies as the client hands them out: single replies, the list of replies
of one operation, and the replies that carry a parsed value. -/

namespace LibFtp

structure Reply where
  code : UInt16
  statusString : Bytes
  deriving DecidableEq, Repr

namespace Reply

def unspecified : UInt16 := 0xffff

def isPositive (reply : Reply) : Bool := reply.code != unspecified && reply.code < 400
def isNegative (reply : Reply) : Bool := reply.code != unspecified && reply.code ≥ 400

theorem not_negative (reply : Reply) (positive : reply.isPositive = true) :
    reply.isNegative = false := by
  simp only [isPositive, Bool.and_eq_true, decide_eq_true_eq] at positive
  have small : ¬ reply.code ≥ 400 := UInt16.not_le.mpr positive.2
  simp [isNegative, small]

theorem not_unavailable (reply : Reply) (positive : reply.isNegative = false) :
    reply.code ≠ 421 := by
  intro same
  simp [isNegative, unspecified, same] at positive

/-- A code of three digits is never the unspecified one. -/
theorem isNegative_iff {reply : Reply} (digits : reply.code.toNat < 1000) :
    reply.isNegative = true ↔ 400 ≤ reply.code := by
  have specified : reply.code ≠ unspecified := by
    intro same
    rw [same] at digits
    exact absurd digits (by decide)
  simp [isNegative, specified]

def IsPreliminary (reply : Reply) : Prop := 100 ≤ reply.code ∧ reply.code < 200

def IsCompletion (reply : Reply) : Prop := 200 ≤ reply.code ∧ reply.code < 300

instance (reply : Reply) : Decidable reply.IsPreliminary := inferInstanceAs (Decidable (_ ∧ _))

instance (reply : Reply) : Decidable reply.IsCompletion := inferInstanceAs (Decidable (_ ∧ _))

theorem IsPreliminary.accepts {reply : Reply} (preliminary : reply.IsPreliminary) :
    reply.isNegative = false := by
  have small : reply.code < 400 := UInt16.lt_trans preliminary.2 (by decide)
  simp [isNegative, small]

theorem IsCompletion.code_ne {reply : Reply} (completion : reply.IsCompletion) :
    reply.code ≠ 426 := by
  intro same
  exact absurd completion.2 (by rw [same]; decide)

end Reply

structure Replies where
  isPositive : Bool
  statusString : Bytes
  replies : List Reply
  deriving DecidableEq, Repr

namespace Replies

def empty : Replies := ⟨false, [], []⟩

def append (all : Replies) (reply : Reply) : Replies :=
  let verdict :=
    if all.replies.isEmpty then reply.isPositive
    else if reply.isPositive then all.isPositive
    else false
  let separator := if all.replies.isEmpty then [] else crlf
  ⟨verdict, all.statusString ++ separator ++ reply.statusString, all.replies ++ [reply]⟩

@[simp] theorem append_replies (all : Replies) (reply : Reply) :
    (all.append reply).replies = all.replies ++ [reply] := rfl

end Replies

structure FileListReply extends Replies where
  fileListStr : Bytes
  fileList : List Bytes
  deriving DecidableEq, Repr

namespace FileListReply

/-- `std::getline` until the stream fails: a last line without a line feed
counts when it is not empty. -/
def getLines : Bytes → Bytes → List Bytes
  | [], line => if line.isEmpty then [] else [line]
  | ch :: rest, line =>
    if ch = lf then line :: getLines rest [] else getLines rest (line ++ [ch])

def parseFileList (fileListStr : Bytes) : List Bytes :=
  (getLines fileListStr []).map fun line =>
    if line.getLast? = some cr then line.dropLast else line

def ofReplies (replies : Replies) (fileListStr : Bytes) : FileListReply :=
  { replies with fileListStr, fileList := parseFileList fileListStr }

end FileListReply

structure FileSizeReply extends Reply where
  size : Option UInt64
  deriving DecidableEq, Repr

namespace FileSizeReply

def parseSize (reply : Reply) : Option UInt64 :=
  if reply.code ≠ 213 then none
  -- Code, space, and at least one character.
  else if reply.statusString.length < 5 then none
  else Utils.tryParseUint64 (reply.statusString.drop 4)

def ofReply (reply : Reply) : FileSizeReply := { reply with size := parseSize reply }

end FileSizeReply

structure Datetime where
  year : UInt16
  month : UInt8
  day : UInt8
  hour : UInt8
  minute : UInt8
  second : UInt8
  fractions : UInt32
  deriving DecidableEq, Repr

structure FileModifiedTimeReply extends Reply where
  datetime : Option Datetime
  deriving DecidableEq, Repr

namespace FileModifiedTimeReply

def minTimeValSize : Nat := 14
def fractionsPos : Nat := minTimeValSize + 1

def parseTimeVal (timeVal : Bytes) : Option Datetime := do
  if timeVal.length < minTimeValSize then none
  let year ← Utils.tryParseUint16 (substr timeVal 0 4)
  let month ← Utils.tryParseUint8 (substr timeVal 4 2)
  let day ← Utils.tryParseUint8 (substr timeVal 6 2)
  let hour ← Utils.tryParseUint8 (substr timeVal 8 2)
  let minute ← Utils.tryParseUint8 (substr timeVal 10 2)
  let second ← Utils.tryParseUint8 (substr timeVal 12 2)
  -- Are there any characters after the '.'?
  let fractions ←
    if timeVal.length > fractionsPos then Utils.tryParseUint32 (timeVal.drop fractionsPos)
    else some 0
  return { year, month, day, hour, minute, second, fractions }

def parseDatetime (reply : Reply) : Option Datetime :=
  if reply.code ≠ 213 then none
  else if reply.statusString.length < 5 then none
  else parseTimeVal (reply.statusString.drop 4)

def ofReply (reply : Reply) : FileModifiedTimeReply :=
  { reply with datetime := parseDatetime reply }

end FileModifiedTimeReply

end LibFtp
