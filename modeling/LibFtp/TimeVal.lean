import LibFtp.Reply
import LibFtp.Detail.Decimal

/-! The reply to MDTM: `213 time-val`, where `time-val = 14DIGIT [ "." 1*DIGIT ]`. -/

namespace LibFtp

/-- A status string cut at fixed positions. -/
structure Columns where
  mark : Bytes
  year : Bytes
  month : Bytes
  day : Bytes
  hour : Bytes
  minute : Bytes
  second : Bytes
  tail : Bytes
  deriving DecidableEq

namespace Columns

def stamp (columns : Columns) : Bytes :=
  columns.year ++ columns.month ++ columns.day ++ columns.hour ++ columns.minute ++ columns.second

def toText (columns : Columns) : Bytes := columns.mark ++ columns.stamp ++ columns.tail

structure Widths (columns : Columns) : Prop where
  mark : columns.mark.length = 4
  year : columns.year.length = 4
  month : columns.month.length = 2
  day : columns.day.length = 2
  hour : columns.hour.length = 2
  minute : columns.minute.length = 2
  second : columns.second.length = 2

def Digits (columns : Columns) : Prop := ∀ ch ∈ columns.stamp, isDigit ch

/-- The ranges of the fields. -/
structure InRange (columns : Columns) : Prop where
  year : 1000 ≤ decimal columns.year ∧ decimal columns.year ≤ 9999
  month : 1 ≤ decimal columns.month ∧ decimal columns.month ≤ 12
  day : 1 ≤ decimal columns.day ∧ decimal columns.day ≤ 31
  hour : decimal columns.hour ≤ 23
  minute : decimal columns.minute ≤ 59
  second : decimal columns.second ≤ 60

/-- `[ "." 1*DIGIT ]`. -/
def Fractional (tail : Bytes) : Prop := tail = [] ∨ ∃ digits, tail = 46 :: digits ∧ IsNumeral digits

/-- `213 time-val`. -/
structure Valid (columns : Columns) : Prop where
  mark : columns.mark = text "213 "
  digits : columns.Digits
  inRange : columns.InRange
  tail : Fractional columns.tail

/-- The six fields stand for those of the datetime. -/
structure Dates (columns : Columns) (datetime : Datetime) : Prop where
  year : decimal columns.year = datetime.year.toNat
  month : decimal columns.month = datetime.month.toNat
  day : decimal columns.day = datetime.day.toNat
  hour : decimal columns.hour = datetime.hour.toNat
  minute : decimal columns.minute = datetime.minute.toNat
  second : decimal columns.second = datetime.second.toNat

/-- The tails that the parser takes: a number of 32 bits behind any one character, or no
more than that character. -/
def Readable (tail : Bytes) : Prop :=
  tail.length ≤ 1 ∨ ∃ separator digits, tail = separator :: digits ∧ IsNumeral digits ∧
    decimal digits < 2 ^ 32

/-- The number that the parser reads from such a tail. -/
def Reads (tail : Bytes) (fractions : UInt32) : Prop :=
  tail.length ≤ 1 ∧ fractions = 0 ∨ ∃ separator digits, tail = separator :: digits ∧
    IsNumeral digits ∧ decimal digits = fractions.toNat

/-- Accepted without being a time-val: the text in front is another one, a field is out of
its range, or a character that is no period, or that nothing follows, stands behind the digits. -/
def Overread (columns : Columns) : Prop :=
  columns.Digits ∧ Readable columns.tail ∧ (columns.mark ≠ text "213 " ∨ ¬ columns.InRange ∨
    columns.tail.length = 1 ∨ ∃ separator digits, columns.tail = separator :: digits ∧ separator ≠ 46)

/-- A time-val whose fraction, read as a whole number, has more than 32 bits. -/
def Underread (columns : Columns) : Prop :=
  columns.Valid ∧ ∃ digits, columns.tail = 46 :: digits ∧ 2 ^ 32 ≤ decimal digits

variable {columns other : Columns}

theorem Widths.stamp_length (widths : columns.Widths) : columns.stamp.length = 14 := by
  simp only [stamp, List.length_append, widths.year, widths.month, widths.day, widths.hour,
    widths.minute, widths.second]

/-- A text of that length has its columns. -/
theorem exists_of_length {str : Bytes} (long : 18 ≤ str.length) :
    ∃ columns : Columns, columns.Widths ∧ str = columns.toText := by
  refine ⟨⟨str.take 4, substr str 4 4, substr str 8 2, substr str 10 2, substr str 12 2,
    substr str 14 2, substr str 16 2, str.drop 18⟩, ?_, ?_⟩
  · constructor <;> simp only [substr, List.length_take, List.length_drop] <;> omega
  · have next (position width : Nat) :
        str.drop position = substr str position width ++ str.drop (position + width) := by
      rw [substr, ← List.drop_drop, List.take_append_drop]
    calc str = str.take 4 ++ str.drop 4 := (List.take_append_drop 4 str).symm
      _ = _ := by
        rw [next 4 4, next 8 2, next 10 2, next 12 2, next 14 2, next 16 2]
        simp only [toText, stamp, List.append_assoc]

/-- The columns of a text are unique. -/
theorem Widths.unique (widths : columns.Widths) (widths' : other.Widths)
    (same : columns.toText = other.toText) : columns = other := by
  simp only [toText, stamp, List.append_assoc] at same
  obtain ⟨mark, same⟩ := List.append_inj same (widths.mark.trans widths'.mark.symm)
  obtain ⟨year, same⟩ := List.append_inj same (widths.year.trans widths'.year.symm)
  obtain ⟨month, same⟩ := List.append_inj same (widths.month.trans widths'.month.symm)
  obtain ⟨day, same⟩ := List.append_inj same (widths.day.trans widths'.day.symm)
  obtain ⟨hour, same⟩ := List.append_inj same (widths.hour.trans widths'.hour.symm)
  obtain ⟨minute, same⟩ := List.append_inj same (widths.minute.trans widths'.minute.symm)
  obtain ⟨second, tail⟩ := List.append_inj same (widths.second.trans widths'.second.symm)
  cases columns
  cases other
  simp only [Columns.mk.injEq]
  exact ⟨mark, year, month, day, hour, minute, second, tail⟩

/-- Digits everywhere make each field a numeral. -/
theorem Widths.digits_iff (widths : columns.Widths) : columns.Digits ↔
    IsNumeral columns.year ∧ IsNumeral columns.month ∧ IsNumeral columns.day ∧
      IsNumeral columns.hour ∧ IsNumeral columns.minute ∧ IsNumeral columns.second := by
  have given {field : Bytes} {width : Nat} (wide : field.length = width) (positive : 0 < width) :
      field ≠ [] := List.length_pos_iff.mp (wide ▸ positive)
  simp only [Digits, stamp, List.forall_mem_append, IsNumeral, ne_eq, given widths.year (by decide),
    given widths.month (by decide), given widths.day (by decide), given widths.hour (by decide),
    given widths.minute (by decide), given widths.second (by decide), not_false_iff, true_and,
    and_assoc]

end Columns

namespace FileModifiedTimeReply
open Columns

private theorem substr_field (front field back : Bytes) {position width : Nat}
    (starts : front.length = position) (wide : field.length = width) :
    substr (front ++ (field ++ back)) position width = field := by
  rw [substr, ← starts, List.drop_left, ← wide, List.take_left]

private def readTail (tail : Bytes) : Option UInt32 :=
  if tail.length > 1 then Utils.tryParseUint32 (tail.drop 1) else some 0

private theorem readTail_iff (tail : Bytes) (fractions : UInt32) :
    readTail tail = some fractions ↔ Reads tail fractions := by
  unfold readTail Reads
  split
  · rename_i long
    obtain ⟨separator, digits, rfl⟩ : ∃ separator digits, tail = separator :: digits :=
      List.exists_cons_of_length_pos (by omega)
    rw [List.drop_succ_cons, List.drop_zero, Utils.tryParseUint32_iff]
    constructor
    · intro ⟨numeral, value⟩
      exact .inr ⟨separator, digits, rfl, numeral, value⟩
    · intro reads
      rcases reads with ⟨short, _⟩ | ⟨_, _, same, numeral, value⟩
      · omega
      · cases same
        exact ⟨numeral, value⟩
  · rename_i short
    constructor
    · intro same
      exact .inl ⟨by omega, (Option.some.inj same).symm⟩
    · intro reads
      rcases reads with ⟨_, same⟩ | ⟨_, digits, same, numeral, _⟩
      · rw [same]
      · have positive := List.length_pos_iff.mpr numeral.1
        rw [same, List.length_cons] at short
        omega

/-- The parser, with the substrings that it takes as columns. -/
private theorem parseTimeVal_columns {columns : Columns} (widths : columns.Widths) :
    parseTimeVal (columns.stamp ++ columns.tail) = (do
      let year ← Utils.tryParseUint16 columns.year
      let month ← Utils.tryParseUint8 columns.month
      let day ← Utils.tryParseUint8 columns.day
      let hour ← Utils.tryParseUint8 columns.hour
      let minute ← Utils.tryParseUint8 columns.minute
      let second ← Utils.tryParseUint8 columns.second
      let fractions ← readTail columns.tail
      return { year, month, day, hour, minute, second, fractions }) := by
  have column (front field back : Bytes) {position width : Nat}
      (same : columns.stamp ++ columns.tail = front ++ (field ++ back))
      (starts : front.length = position) (wide : field.length = width) :
      substr (columns.stamp ++ columns.tail) position width = field := by
    rw [same, substr_field front field back starts wide]
  have year : substr (columns.stamp ++ columns.tail) 0 4 = columns.year :=
    column [] columns.year _ (by simp only [stamp, List.append_assoc, List.nil_append]; rfl) rfl
      widths.year
  have month : substr (columns.stamp ++ columns.tail) 4 2 = columns.month :=
    column columns.year columns.month _ (by simp only [stamp, List.append_assoc]; rfl) widths.year
      widths.month
  have day : substr (columns.stamp ++ columns.tail) 6 2 = columns.day :=
    column (columns.year ++ columns.month) columns.day _ (by simp only [stamp, List.append_assoc]; rfl)
      (by rw [List.length_append, widths.year, widths.month]) widths.day
  have hour : substr (columns.stamp ++ columns.tail) 8 2 = columns.hour :=
    column (columns.year ++ columns.month ++ columns.day) columns.hour _
      (by simp only [stamp, List.append_assoc]; rfl)
      (by simp only [List.length_append, widths.year, widths.month, widths.day]) widths.hour
  have minute : substr (columns.stamp ++ columns.tail) 10 2 = columns.minute :=
    column (columns.year ++ columns.month ++ columns.day ++ columns.hour) columns.minute _
      (by simp only [stamp, List.append_assoc]; rfl)
      (by simp only [List.length_append, widths.year, widths.month, widths.day, widths.hour])
      widths.minute
  have second : substr (columns.stamp ++ columns.tail) 12 2 = columns.second :=
    column (columns.year ++ columns.month ++ columns.day ++ columns.hour ++ columns.minute)
      columns.second columns.tail (by simp only [stamp, List.append_assoc])
      (by simp only [List.length_append, widths.year, widths.month, widths.day, widths.hour,
        widths.minute]) widths.second
  have behind : (columns.stamp ++ columns.tail).drop fractionsPos = columns.tail.drop 1 := by
    rw [show fractionsPos = columns.stamp.length + 1 by rw [widths.stamp_length]; rfl,
      ← List.drop_drop, List.drop_left]
  have length : (columns.stamp ++ columns.tail).length = 14 + columns.tail.length := by
    rw [List.length_append, widths.stamp_length]
  have longer : (columns.stamp ++ columns.tail).length > fractionsPos ↔ columns.tail.length > 1 := by
    rw [length, fractionsPos, minTimeValSize]
    omega
  have enough : ¬ (columns.stamp ++ columns.tail).length < minTimeValSize := by
    rw [length, minTimeValSize]
    omega
  simp only [parseTimeVal, bind, if_neg enough, year, month, day, hour, minute, second, behind,
    longer, readTail]
  by_cases long : columns.tail.length > 1
  · simp only [if_pos long]
  · simp only [if_neg long]

theorem parseTimeVal_iff {columns : Columns} (widths : columns.Widths) (datetime : Datetime) :
    parseTimeVal (columns.stamp ++ columns.tail) = some datetime ↔
      columns.Digits ∧ columns.Dates datetime ∧ Reads columns.tail datetime.fractions := by
  rw [parseTimeVal_columns widths, widths.digits_iff]
  simp only [bind, Option.bind_eq_some_iff, Utils.tryParseUint16_iff, Utils.tryParseUint8_iff,
    readTail_iff]
  constructor
  · intro ⟨year, ⟨years, sameYear⟩, month, ⟨months, sameMonth⟩, day, ⟨days, sameDay⟩, hour,
      ⟨hours, sameHour⟩, minute, ⟨minutes, sameMinute⟩, second, ⟨seconds, sameSecond⟩, fractions,
      reads, same⟩
    cases same
    exact ⟨⟨years, months, days, hours, minutes, seconds⟩,
      ⟨sameYear, sameMonth, sameDay, sameHour, sameMinute, sameSecond⟩, reads⟩
  · intro ⟨⟨years, months, days, hours, minutes, seconds⟩, dates, reads⟩
    exact ⟨_, ⟨years, dates.year⟩, _, ⟨months, dates.month⟩, _, ⟨days, dates.day⟩, _,
      ⟨hours, dates.hour⟩, _, ⟨minutes, dates.minute⟩, _, ⟨seconds, dates.second⟩, _, reads, rfl⟩

private theorem parseDatetime_iff {reply : Reply} {columns : Columns} (widths : columns.Widths)
    (same : reply.statusString = columns.toText) (datetime : Datetime) :
    parseDatetime reply = some datetime ↔ reply.code = 213 ∧
      columns.Digits ∧ columns.Dates datetime ∧ Reads columns.tail datetime.fractions := by
  have long : ¬ reply.statusString.length < 5 := by
    rw [same, toText, List.length_append, List.length_append, widths.mark, widths.stamp_length]
    omega
  have body : reply.statusString.drop 4 = columns.stamp ++ columns.tail := by
    rw [same, toText, List.append_assoc, ← widths.mark, List.drop_left]
  rw [parseDatetime, if_neg long, body, ← parseTimeVal_iff widths]
  by_cases code : reply.code = 213
  · rw [if_neg (not_not.mpr code)]
    exact (and_iff_right code).symm
  · rw [if_pos code]
    exact iff_of_false nofun fun both => code both.1

/-- A shorter text is no time-val. -/
private theorem parseDatetime_short {reply : Reply} (short : reply.statusString.length < 18) :
    parseDatetime reply = none := by
  have few : (reply.statusString.drop 4).length < minTimeValSize := by
    rw [List.length_drop, minTimeValSize]
    omega
  have none : parseTimeVal (reply.statusString.drop 4) = none := by
    simp only [parseTimeVal, if_pos few]
    rfl
  unfold parseDatetime
  split
  · rfl
  · split
    · rfl
    · exact none

private theorem exists_dates {columns : Columns} (widths : columns.Widths) (digits : columns.Digits)
    (fractions : UInt32) : ∃ datetime : Datetime, columns.Dates datetime ∧
      datetime.fractions = fractions := by
  obtain ⟨year, month, day, hour, minute, second⟩ := widths.digits_iff.mp digits
  have small {field : Bytes} (numeral : IsNumeral field) (wide : field.length = 2) :
      decimal field = (UInt8.ofNat (decimal field)).toNat := by
    have bound := decimal_lt numeral.2
    rw [wide] at bound
    exact (UInt8.toNat_ofNat_of_lt (Nat.lt_of_lt_of_le bound (by decide))).symm
  have bound := decimal_lt year.2
  rw [widths.year] at bound
  refine ⟨⟨UInt16.ofNat (decimal columns.year), UInt8.ofNat (decimal columns.month),
    UInt8.ofNat (decimal columns.day), UInt8.ofNat (decimal columns.hour),
    UInt8.ofNat (decimal columns.minute), UInt8.ofNat (decimal columns.second), fractions⟩, ?_, rfl⟩
  exact ⟨(UInt16.toNat_ofNat_of_lt (Nat.lt_of_lt_of_le bound (by decide))).symm,
    small month widths.month, small day widths.day, small hour widths.hour,
    small minute widths.minute, small second widths.second⟩

private theorem exists_reads (tail : Bytes) : (∃ fractions, Reads tail fractions) ↔ Readable tail := by
  constructor
  · intro ⟨fractions, reads⟩
    rcases reads with ⟨short, _⟩ | ⟨separator, digits, same, numeral, value⟩
    · exact .inl short
    · exact .inr ⟨separator, digits, same, numeral, value ▸ fractions.toNat_lt⟩
  · intro readable
    rcases readable with short | ⟨separator, digits, same, numeral, small⟩
    · exact ⟨0, .inl ⟨short, rfl⟩⟩
    · exact ⟨UInt32.ofNat (decimal digits), .inr ⟨separator, digits, same, numeral,
        (UInt32.toNat_ofNat_of_lt small).symm⟩⟩

private theorem accepts_iff {reply : Reply} {columns : Columns} (widths : columns.Widths)
    (same : reply.statusString = columns.toText) :
    (ofReply reply).datetime.isSome ↔
      reply.code = 213 ∧ columns.Digits ∧ Readable columns.tail := by
  rw [Option.isSome_iff_exists]
  constructor
  · intro ⟨datetime, parsed⟩
    obtain ⟨code, digits, _, reads⟩ := (parseDatetime_iff widths same datetime).mp parsed
    exact ⟨code, digits, (exists_reads _).mp ⟨_, reads⟩⟩
  · intro ⟨code, digits, readable⟩
    obtain ⟨fractions, reads⟩ := (exists_reads _).mpr readable
    obtain ⟨datetime, dates, value⟩ := exists_dates widths digits fractions
    exact ⟨datetime, (parseDatetime_iff widths same datetime).mpr
      ⟨code, digits, dates, value ▸ reads⟩⟩

private theorem overread_iff (columns : Columns) :
    columns.Overread ↔ columns.Digits ∧ Readable columns.tail ∧ ¬ columns.Valid := by
  constructor
  · intro ⟨digits, readable, wrong⟩
    refine ⟨digits, readable, fun valid => ?_⟩
    rcases wrong with mark | range | single | ⟨separator, rest, same, other⟩
    · exact mark valid.mark
    · exact range valid.inRange
    · rcases valid.tail with none | ⟨digits, same, numeral⟩
      · simp [none] at single
      · rw [same, List.length_cons, Nat.add_eq_right] at single
        exact numeral.1 (List.length_eq_zero_iff.mp single)
    · rcases valid.tail with none | ⟨digits, same', _⟩
      · exact absurd (same.symm.trans none) (List.cons_ne_nil _ _)
      · exact other (List.cons.inj (same.symm.trans same')).1
  · intro ⟨digits, readable, invalid⟩
    refine ⟨digits, readable, ?_⟩
    by_contra right
    simp only [not_or, ne_eq, not_not, not_exists, not_and] at right
    obtain ⟨mark, inRange, single, period⟩ := right
    refine invalid ⟨mark, digits, inRange, ?_⟩
    rcases readable with short | ⟨separator, rest, same, numeral, _⟩
    · exact .inl (List.length_eq_zero_iff.mp (by omega))
    · exact .inr ⟨rest, period separator rest same ▸ same, numeral⟩

private theorem underread_iff (columns : Columns) :
    columns.Underread ↔ columns.Valid ∧ ¬ Readable columns.tail := by
  constructor
  · intro ⟨valid, digits, same, large⟩
    refine ⟨valid, fun readable => ?_⟩
    rcases readable with short | ⟨separator, rest, same', _, small⟩
    · have positive : digits ≠ [] := by
        rcases valid.tail with none | ⟨rest, same', numeral⟩
        · exact absurd (same.symm.trans none) (List.cons_ne_nil _ _)
        · exact (List.cons.inj (same.symm.trans same')).2 ▸ numeral.1
      have longer := List.length_pos_iff.mpr positive
      rw [same, List.length_cons] at short
      omega
    · have rest := (List.cons.inj (same.symm.trans same')).2
      rw [rest] at large
      omega
  · intro ⟨valid, unreadable⟩
    rcases valid.tail with none | ⟨digits, same, numeral⟩
    · exact absurd (.inl (by simp [none])) unreadable
    · refine ⟨valid, digits, same, Nat.le_of_not_lt fun small => ?_⟩
      exact unreadable (.inr ⟨46, digits, same, numeral, small⟩)

/-- A datetime stands for a time-val behind the code, and its fields are those of the text. -/
def Faithful (reply : Reply) : Prop :=
  ((ofReply reply).datetime.isSome ↔ reply.code = 213 ∧
      ∃ columns : Columns, columns.Widths ∧ columns.Valid ∧ reply.statusString = columns.toText) ∧
    ∀ (columns : Columns) (datetime : Datetime), columns.Widths →
      reply.statusString = columns.toText → (ofReply reply).datetime = some datetime →
        columns.Dates datetime

/-- The grammar is kept but for the texts that are overread or underread. -/
theorem faithful_iff (reply : Reply) :
    Faithful reply ↔ ¬ (reply.code = 213 ∧ ∃ columns : Columns, columns.Widths ∧
      reply.statusString = columns.toText ∧ (columns.Overread ∨ columns.Underread)) := by
  have dates (columns : Columns) (datetime : Datetime) (widths : columns.Widths)
      (same : reply.statusString = columns.toText)
      (parsed : (ofReply reply).datetime = some datetime) : columns.Dates datetime :=
    ((parseDatetime_iff widths same datetime).mp parsed).2.2.1
  rw [Faithful, and_iff_left dates]
  by_cases long : 18 ≤ reply.statusString.length
  · obtain ⟨columns, widths, same⟩ := exists_of_length long
    have only {other : Columns} (widths' : other.Widths) (same' : reply.statusString = other.toText) :
        other = columns := widths'.unique widths (same'.symm.trans same)
    have valid : (∃ other : Columns, other.Widths ∧ other.Valid ∧
        reply.statusString = other.toText) ↔ columns.Valid :=
      ⟨fun ⟨_, widths', valid, same'⟩ => only widths' same' ▸ valid,
        fun valid => ⟨columns, widths, valid, same⟩⟩
    have wrong : (∃ other : Columns, other.Widths ∧ reply.statusString = other.toText ∧
        (other.Overread ∨ other.Underread)) ↔ columns.Overread ∨ columns.Underread :=
      ⟨fun ⟨_, widths', same', wrong⟩ => only widths' same' ▸ wrong,
        fun wrong => ⟨columns, widths, same, wrong⟩⟩
    rw [accepts_iff widths same, valid, wrong, overread_iff, underread_iff]
    constructor
    · intro exact ⟨code, wrong⟩
      rcases wrong with ⟨digits, readable, invalid⟩ | ⟨valid, unreadable⟩
      · exact invalid (exact.mp ⟨code, digits, readable⟩).2
      · exact unreadable (exact.mpr ⟨code, valid⟩).2.2
    · intro right
      constructor
      · intro ⟨code, digits, readable⟩
        refine ⟨code, ?_⟩
        by_contra invalid
        exact right ⟨code, .inl ⟨digits, readable, invalid⟩⟩
      · intro ⟨code, valid⟩
        refine ⟨code, valid.digits, ?_⟩
        by_contra unreadable
        exact right ⟨code, .inr ⟨valid, unreadable⟩⟩
  · have short : reply.statusString.length < 18 := Nat.lt_of_not_le long
    have none : (ofReply reply).datetime = none := parseDatetime_short short
    have narrow {columns : Columns} (widths : columns.Widths)
        (same : reply.statusString = columns.toText) : False := by
      rw [same, toText, List.length_append, List.length_append, widths.mark,
        widths.stamp_length] at short
      omega
    rw [none]
    refine iff_of_true (iff_of_false nofun ?_) ?_
    · exact fun ⟨_, _, widths, _, same⟩ => narrow widths same
    · exact fun ⟨_, _, widths, same, _⟩ => narrow widths same

/-- The month in this reply is 13. -/
private def thirteenth : Columns :=
  ⟨text "213 ", text "2024", text "13", text "04", text "17", text "07", text "49", []⟩

/-- A month of 13 is accepted. -/
theorem month_thirteen_accepted :
    (ofReply ⟨213, text "213 20241304170749"⟩).datetime = some ⟨2024, 13, 4, 17, 7, 49, 0⟩ ∧
      ¬ Faithful ⟨213, text "213 20241304170749"⟩ := by
  have accepted : (ofReply ⟨213, text "213 20241304170749"⟩).datetime =
      some ⟨2024, 13, 4, 17, 7, 49, 0⟩ := by decide
  refine ⟨accepted, fun faithful => ?_⟩
  obtain ⟨_, columns, widths, valid, same⟩ := faithful.1.mp (by rw [accepted]; rfl)
  have cut : thirteenth.Widths := ⟨rfl, rfl, rfl, rfl, rfl, rfl, rfl⟩
  have month : columns = thirteenth := widths.unique cut same.symm
  exact absurd (month ▸ valid.inRange.month.2) (by decide)

section Fractions

/-- A time-val with the given digits behind the period. -/
def withFraction (columns : Columns) (digits : Bytes) : Columns :=
  { columns with tail := 46 :: digits }

/-- The digits as a decimal fraction of a second. -/
def fractionOf (digits : Bytes) : ℚ := Text.fraction 10 (digits.map digitValue)

/-- Fractions that are in one order as whole numbers and as fractions: they have as many
digits, or the shorter one is zero, or the longer one is smaller as a whole number, or larger
than the shorter one with zeros at its end. -/
def Comparable (short long : Bytes) : Prop :=
  short.length = long.length ∨ short.length < long.length ∧
    (decimal short = 0 ∨ decimal long < decimal short ∨
      decimal short * 10 ^ (long.length - short.length) < decimal long)

/-- Two datetimes are compared like the fractions of a second they were read from. -/
def Compares (before after : Datetime) (left right : Bytes) : Prop :=
  (before = after ↔ fractionOf left = fractionOf right) ∧
    (before.fractions < after.fractions ↔ fractionOf left < fractionOf right) ∧
    (after.fractions < before.fractions ↔ fractionOf right < fractionOf left)

variable {columns : Columns} {before after : Datetime} {left right : Bytes}

/-- What the parser keeps of a time-val with a fraction. -/
private theorem accepted_fraction {reply : Reply} {digits : Bytes} {datetime : Datetime}
    (widths : columns.Widths) (valid : (withFraction columns digits).Valid)
    (same : reply.statusString = (withFraction columns digits).toText)
    (accepted : (ofReply reply).datetime = some datetime) :
    columns.Dates datetime ∧ decimal digits = datetime.fractions.toNat := by
  have wide : (withFraction columns digits).Widths := ⟨widths.mark, widths.year, widths.month,
    widths.day, widths.hour, widths.minute, widths.second⟩
  obtain ⟨_, _, dates, reads⟩ := (parseDatetime_iff wide same datetime).mp accepted
  refine ⟨⟨dates.year, dates.month, dates.day, dates.hour, dates.minute, dates.second⟩, ?_⟩
  rcases reads with ⟨short, _⟩ | ⟨_, _, same, _, value⟩
  · rcases valid.tail with none | ⟨rest, same, numeral⟩
    · exact absurd none (List.cons_ne_nil _ _)
    · have positive := List.length_pos_iff.mpr numeral.1
      rw [same, List.length_cons] at short
      omega
  · cases same
    exact value

private theorem datetime_eq_iff (first : columns.Dates before) (second : columns.Dates after) :
    before = after ↔ before.fractions = after.fractions := by
  constructor
  · exact congrArg Datetime.fractions
  · intro fractions
    have year := UInt16.toNat_inj.mp (first.year.symm.trans second.year)
    have month := UInt8.toNat_inj.mp (first.month.symm.trans second.month)
    have day := UInt8.toNat_inj.mp (first.day.symm.trans second.day)
    have hour := UInt8.toNat_inj.mp (first.hour.symm.trans second.hour)
    have minute := UInt8.toNat_inj.mp (first.minute.symm.trans second.minute)
    have seconds := UInt8.toNat_inj.mp (first.second.symm.trans second.second)
    cases before
    cases after
    simp only at year month day hour minute seconds fractions
    rw [year, month, day, hour, minute, seconds, fractions]

private theorem compares_shorter (first : columns.Dates before) (second : columns.Dates after)
    (sameLeft : decimal left = before.fractions.toNat)
    (sameRight : decimal right = after.fractions.toNat) (shorter : left.length ≤ right.length) :
    Compares before after left right ↔ Comparable left right := by
  have longer : (left.map digitValue).length + (right.length - left.length) =
      (right.map digitValue).length := by
    simp only [List.length_map]
    omega
  have order := Text.fraction_order_iff (by decide : 0 < 10) (by decide : 1 < 10) longer
  have equal : before = after ↔ decimal left = decimal right := by
    rw [datetime_eq_iff first second, sameLeft, sameRight, UInt32.toNat_inj]
  have less : before.fractions < after.fractions ↔ decimal left < decimal right := by
    rw [sameLeft, sameRight, UInt32.lt_iff_toNat_lt]
  have greater : after.fractions < before.fractions ↔ decimal right < decimal left := by
    rw [sameLeft, sameRight, UInt32.lt_iff_toNat_lt]
  have padded : Comparable left right ↔ right.length - left.length = 0 ∨ decimal left = 0 ∨
      decimal right < decimal left ∨
        decimal left * 10 ^ (right.length - left.length) < decimal right := by
    unfold Comparable
    constructor
    · intro comparable
      rcases comparable with same | ⟨_, order⟩
      · exact .inl (by omega)
      · exact .inr order
    · intro comparable
      by_cases same : left.length = right.length
      · exact .inl same
      · exact .inr ⟨by omega, comparable.resolve_left (by omega)⟩
  rw [Compares, equal, less, greater, padded]
  exact order

private theorem Compares.swap (compares : Compares before after left right) :
    Compares after before right left := by
  obtain ⟨equal, less, greater⟩ := compares
  refine ⟨⟨fun same => ?_, fun same => ?_⟩, greater, less⟩
  · exact (equal.mp same.symm).symm
  · exact (equal.mpr same.symm).symm

/-- Datetimes are compared like the fractions in their replies just where the fractions
are comparable. -/
theorem compares_iff {first second : Reply} (widths : columns.Widths)
    (validLeft : (withFraction columns left).Valid) (validRight : (withFraction columns right).Valid)
    (sameLeft : first.statusString = (withFraction columns left).toText)
    (sameRight : second.statusString = (withFraction columns right).toText)
    (acceptedLeft : (ofReply first).datetime = some before)
    (acceptedRight : (ofReply second).datetime = some after) :
    Compares before after left right ↔ Comparable left right ∨ Comparable right left := by
  obtain ⟨datesLeft, valueLeft⟩ := accepted_fraction widths validLeft sameLeft acceptedLeft
  obtain ⟨datesRight, valueRight⟩ := accepted_fraction widths validRight sameRight acceptedRight
  by_cases shorter : left.length ≤ right.length
  · rw [compares_shorter datesLeft datesRight valueLeft valueRight shorter]
    refine ⟨.inl, fun either => either.elim id fun other => ?_⟩
    rcases other with same | ⟨longer, _⟩
    · exact .inl same.symm
    · omega
  · have longer : right.length ≤ left.length := Nat.le_of_not_le shorter
    have swapped := compares_shorter datesRight datesLeft valueRight valueLeft longer
    refine ⟨fun compares => .inr (swapped.mp compares.swap), fun either => ?_⟩
    rcases either with (same | ⟨shorter', _⟩) | comparable
    · exact (swapped.mpr (.inl same.symm)).swap
    · omega
    · exact (swapped.mpr comparable).swap

private def noon : Columns :=
  ⟨text "213 ", text "2024", text "11", text "04", text "12", text "00", text "00", []⟩

private theorem noon_widths : noon.Widths := ⟨rfl, rfl, rfl, rfl, rfl, rfl, rfl⟩

private theorem noon_valid {digits : Bytes} (numeral : IsNumeral digits) :
    (withFraction noon digits).Valid where
  mark := rfl
  digits := show noon.Digits by unfold Columns.Digits; decide +kernel
  inRange := by
    have inRange : noon.InRange := by constructor <;> decide
    exact ⟨inRange.year, inRange.month, inRange.day, inRange.hour, inRange.minute, inRange.second⟩
  tail := .inr ⟨digits, rfl, numeral⟩

/-- Fractions of three digits. -/
theorem compares_iff_milliseconds :
    Compares ⟨2024, 11, 4, 12, 0, 0, 14⟩ ⟨2024, 11, 4, 12, 0, 0, 140⟩ (text "014") (text "140") ↔
      Comparable (text "014") (text "140") ∨ Comparable (text "140") (text "014") :=
  compares_iff noon_widths (noon_valid (by decide +kernel)) (noon_valid (by decide +kernel))
    (show (⟨213, text "213 20241104120000.014"⟩ : Reply).statusString = _ from by decide)
    (show (⟨213, text "213 20241104120000.140"⟩ : Reply).statusString = _ from by decide)
    (by decide) (by decide)

/-- 0.5 s is read as 5 and 0.25 s as 25. -/
theorem half_before_quarter :
    (ofReply ⟨213, text "213 20241104120000.5"⟩).datetime = some ⟨2024, 11, 4, 12, 0, 0, 5⟩ ∧
      (ofReply ⟨213, text "213 20241104120000.25"⟩).datetime = some ⟨2024, 11, 4, 12, 0, 0, 25⟩ ∧
      ¬ Compares ⟨2024, 11, 4, 12, 0, 0, 5⟩ ⟨2024, 11, 4, 12, 0, 0, 25⟩ (text "5") (text "25") := by
  refine ⟨by decide, by decide, fun compares => ?_⟩
  have less := compares.2.1.mp (by decide)
  unfold fractionOf at less
  rw [Text.fraction_lt_iff (by decide)] at less
  exact absurd less (by decide)

end Fractions

end FileModifiedTimeReply

end LibFtp
