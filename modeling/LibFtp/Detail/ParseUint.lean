import LibFtp.Detail.Decimal
import LibFtp.Reply

/-! The bounded parsers with the result passed by reference, and with the products and
sums that are computed on the way to it. -/

namespace LibFtp

/-- A product or a sum of 64-bit numbers. -/
inductive Computed where
  | product (left right : UInt64)
  | sum (left right : UInt64)
  deriving DecidableEq, Repr

/-- The computed number is that of the unbounded numbers. -/
def Computed.Exact : Computed → Prop
  | .product left right => (left * right).toNat = left.toNat * right.toNat
  | .sum left right => (left + right).toNat = left.toNat + right.toNat

/-- What a parser returns, and the result as the caller finds it afterwards. -/
structure Parsed (Word : Type) where
  returned : Bool
  result : Word
  computed : List Computed
  deriving DecidableEq, Repr

namespace Utils

def parseLoopInto (result : UInt64) : Bytes → UInt64 → List Computed → Parsed UInt64
  | [], value, computed => ⟨true, value, computed⟩
  | ch :: rest, value, computed =>
    if ch < 48 || ch > 57 then ⟨false, result, computed⟩
    else
      let digit := (ch - 48).toUInt64
      if value > 0xffffffffffffffff / 10 then ⟨false, result, computed⟩
      else
        let scaled := value * 10
        let computed := computed ++ [.product value 10]
        if scaled > 0xffffffffffffffff - digit then ⟨false, result, computed⟩
        else parseLoopInto result rest (scaled + digit) (computed ++ [.sum scaled digit])

def tryParseUint64Into (str : Bytes) (result : UInt64) : Parsed UInt64 :=
  if str.isEmpty then ⟨false, result, []⟩ else parseLoopInto result str 0 []

/-- The local value of a narrower parser is unset before the call of the 64-bit parser. -/
def tryParseBoundedInto {Word : Type} (max : UInt64) (narrow : UInt64 → Word) (unset : UInt64)
    (str : Bytes) (result : Word) : Parsed Word :=
  let value := tryParseUint64Into str unset
  if ¬ value.returned then ⟨false, result, value.computed⟩
  else if value.result > max then ⟨false, result, value.computed⟩
  else ⟨true, narrow value.result, value.computed⟩

def tryParseUint8Into (unset : UInt64) : Bytes → UInt8 → Parsed UInt8 :=
  tryParseBoundedInto 0xff UInt64.toUInt8 unset

def tryParseUint16Into (unset : UInt64) : Bytes → UInt16 → Parsed UInt16 :=
  tryParseBoundedInto 0xffff UInt64.toUInt16 unset

def tryParseUint32Into (unset : UInt64) : Bytes → UInt32 → Parsed UInt32 :=
  tryParseBoundedInto 0xffffffff UInt64.toUInt32 unset

section Answers
variable {Word : Type}

/-- The flag and the result say what the answer says. -/
def Answers (parsed : Parsed Word) (before : Word) (answer : Option Word) : Prop :=
  parsed.returned = answer.isSome ∧ parsed.result = answer.getD before

private theorem parseLoopInto_answers (result : UInt64) (str : Bytes) (value : UInt64)
    (computed : List Computed) :
    Answers (parseLoopInto result str value computed) result (parseLoop str value) := by
  induction str generalizing value computed with
  | nil => exact ⟨rfl, rfl⟩
  | cons ch rest ih =>
    simp only [parseLoopInto, parseLoop]
    split
    · exact ⟨rfl, rfl⟩
    · split
      · exact ⟨rfl, rfl⟩
      · split
        · exact ⟨rfl, rfl⟩
        · exact ih _ _

theorem tryParseUint64Into_answers (str : Bytes) (result : UInt64) :
    Answers (tryParseUint64Into str result) result (tryParseUint64 str) := by
  unfold tryParseUint64Into tryParseUint64
  split
  · exact ⟨rfl, rfl⟩
  · exact parseLoopInto_answers result str 0 []

theorem tryParseBoundedInto_answers (max : UInt64) (narrow : UInt64 → Word) (unset : UInt64)
    (str : Bytes) (result : Word) :
    Answers (tryParseBoundedInto max narrow unset str result) result
      ((tryParseBounded max str).map narrow) := by
  obtain ⟨returned, value⟩ := tryParseUint64Into_answers str unset
  unfold tryParseBoundedInto tryParseBounded
  cases parsed : tryParseUint64 str with
  | none =>
    rw [parsed] at returned
    simp [Answers, returned]
  | some number =>
    rw [parsed] at returned value
    by_cases large : number > max
    · simp [Answers, returned, value, large]
    · simp [Answers, returned, value, large]

end Answers

section Wrapping

/-- Both checks of the loop stand before the operation that they keep in range. -/
private theorem parseLoopInto_exact (result : UInt64) (str : Bytes) (value : UInt64)
    (computed : List Computed) (held : ∀ step ∈ computed, step.Exact) :
    ∀ step ∈ (parseLoopInto result str value computed).computed, step.Exact := by
  induction str generalizing value computed with
  | nil => exact held
  | cons ch rest ih =>
    simp only [parseLoopInto]
    split
    · exact held
    · split
      · exact held
      · rename_i low
        have product : (Computed.product value 10).Exact := product_toNat low
        have scaled : ∀ step ∈ computed ++ [Computed.product value 10], step.Exact :=
          List.forall_mem_append.mpr ⟨held, List.forall_mem_singleton.mpr product⟩
        split
        · exact scaled
        · rename_i room
          have sum : (Computed.sum (value * 10) (ch - 48).toUInt64).Exact := sum_toNat room
          exact ih _ _ (List.forall_mem_append.mpr ⟨scaled, List.forall_mem_singleton.mpr sum⟩)

theorem tryParseUint64Into_exact (str : Bytes) (result : UInt64) :
    ∀ step ∈ (tryParseUint64Into str result).computed, step.Exact := by
  unfold tryParseUint64Into
  split
  · exact List.forall_mem_nil _
  · exact parseLoopInto_exact result str 0 [] (List.forall_mem_nil _)

/-- A narrower parser computes what the 64-bit parser computes. -/
theorem tryParseBoundedInto_computed {Word : Type} (max : UInt64) (narrow : UInt64 → Word)
    (unset : UInt64) (str : Bytes) (result : Word) :
    (tryParseBoundedInto max narrow unset str result).computed =
      (tryParseUint64Into str unset).computed := by
  simp only [tryParseBoundedInto]
  split
  · rfl
  · split <;> rfl

end Wrapping

section Exactness
variable {Word : Type} {bits : Nat} {toNat : Word → Nat} {parse : Bytes → Word → Parsed Word}
  {answer : Bytes → Option Word}

/-- The parser returns true just on the numerals of numbers with so many bits; the result is
then the number and else as before, and nothing that is computed wraps. -/
def ParsesExactly (bits : Nat) (toNat : Word → Nat) (parse : Bytes → Word → Parsed Word) : Prop :=
  ∀ str result,
    let parsed := parse str result
    (parsed.returned = true ↔ IsNumeral str ∧ decimal str < 2 ^ bits) ∧
      (parsed.returned = true → toNat parsed.result = decimal str) ∧
      (parsed.returned = false → parsed.result = result) ∧
      ∀ step ∈ parsed.computed, step.Exact

private theorem parsesExactly
    (answers : ∀ str result, Answers (parse str result) result (answer str))
    (reads : ∀ str word, answer str = some word ↔ IsNumeral str ∧ decimal str = toNat word)
    (range : ∀ number, number < 2 ^ bits ↔ ∃ word, number = toNat word)
    (wraps : ∀ str result, ∀ step ∈ (parse str result).computed, step.Exact) :
    ParsesExactly bits toNat parse := by
  intro str result
  obtain ⟨returned, value⟩ := answers str result
  refine ⟨?_, fun accepted => ?_, fun rejected => ?_, wraps str result⟩
  · rw [returned, Option.isSome_iff_exists, range]
    simp only [reads]
    exact exists_and_left
  · obtain ⟨word, read⟩ := Option.isSome_iff_exists.mp (returned.symm.trans accepted)
    rw [value, read]
    exact ((reads str word).mp read).2.symm
  · have none := Option.isSome_eq_false_iff.mp (returned.symm.trans rejected)
    rw [value, Option.isNone_iff_eq_none.mp none]
    rfl

private theorem bounded_exact (max : UInt64) (narrow : UInt64 → Word) (unset : UInt64)
    (reads : ∀ str word, (tryParseBounded max str).map narrow = some word ↔
      IsNumeral str ∧ decimal str = toNat word)
    (range : ∀ number, number < 2 ^ bits ↔ ∃ word, number = toNat word) :
    ParsesExactly bits toNat (tryParseBoundedInto max narrow unset) := by
  refine parsesExactly (tryParseBoundedInto_answers max narrow unset) reads range ?_
  intro str result
  rw [tryParseBoundedInto_computed]
  exact tryParseUint64Into_exact str unset

theorem tryParseUint64_toDecimal (value : Nat) :
    (tryParseUint64 (toDecimal value)).map UInt64.toNat =
      if value < 2 ^ 64 then some value else none := by
  by_cases fits : value < 2 ^ 64
  · have same : value = (UInt64.ofNat value).toNat := (UInt64.toNat_ofNat_of_lt' fits).symm
    have read := (tryParseUint64_iff (toDecimal value) (UInt64.ofNat value)).mpr
      ⟨isNumeral_toDecimal value, (decimal_toDecimal value).trans same⟩
    rw [read, if_pos fits, Option.map_some, ← same]
  · rw [if_neg fits, Option.map_eq_none_iff, Option.eq_none_iff_forall_ne_some]
    intro number read
    obtain ⟨_, same⟩ := (tryParseUint64_iff _ _).mp read
    rw [decimal_toDecimal] at same
    exact fits (same ▸ number.toNat_lt)

end Exactness

end Utils

/-- What stands behind the code and the space is parsed. -/
theorem FileSizeReply.parseSize_numeral {numeral : Bytes} (given : numeral ≠ []) :
    parseSize ⟨213, text "213 " ++ numeral⟩ = Utils.tryParseUint64 numeral := by
  have mark : (text "213 ").length = 4 := rfl
  have long : ¬ (text "213 " ++ numeral).length < 5 := by
    have some := List.length_pos_iff.mpr given
    rw [List.length_append, mark]
    omega
  rw [parseSize, if_neg (fun other => other rfl), if_neg long, List.drop_left' mark]

/-- Each parser is exact for its width, and so is the size in a reply to SIZE. -/
theorem Utils.bounded_parsing_exact :
    (∀ unset, ParsesExactly 8 UInt8.toNat (tryParseUint8Into unset)) ∧
      (∀ unset, ParsesExactly 16 UInt16.toNat (tryParseUint16Into unset)) ∧
      (∀ unset, ParsesExactly 32 UInt32.toNat (tryParseUint32Into unset)) ∧
      ParsesExactly 64 UInt64.toNat tryParseUint64Into ∧
      ∀ value : Nat,
        (FileSizeReply.ofReply ⟨213, text "213 " ++ toDecimal value⟩).size.map UInt64.toNat =
          if value < 2 ^ 64 then some value else none := by
  refine ⟨fun unset => ?_, fun unset => ?_, fun unset => ?_, ?_, fun value => ?_⟩
  · refine bounded_exact _ _ unset tryParseUint8_iff fun number => ⟨fun small => ?_, ?_⟩
    · exact ⟨UInt8.ofNat number, (UInt8.toNat_ofNat_of_lt' small).symm⟩
    · exact fun ⟨word, same⟩ => same ▸ word.toNat_lt
  · refine bounded_exact _ _ unset tryParseUint16_iff fun number => ⟨fun small => ?_, ?_⟩
    · exact ⟨UInt16.ofNat number, (UInt16.toNat_ofNat_of_lt' small).symm⟩
    · exact fun ⟨word, same⟩ => same ▸ word.toNat_lt
  · refine bounded_exact _ _ unset tryParseUint32_iff fun number => ⟨fun small => ?_, ?_⟩
    · exact ⟨UInt32.ofNat number, (UInt32.toNat_ofNat_of_lt' small).symm⟩
    · exact fun ⟨word, same⟩ => same ▸ word.toNat_lt
  · refine parsesExactly tryParseUint64Into_answers tryParseUint64_iff
      (fun number => ⟨fun small => ?_, ?_⟩) tryParseUint64Into_exact
    · exact ⟨UInt64.ofNat number, (UInt64.toNat_ofNat_of_lt' small).symm⟩
    · exact fun ⟨word, same⟩ => same ▸ word.toNat_lt
  · rw [FileSizeReply.ofReply, FileSizeReply.parseSize_numeral (isNumeral_toDecimal value).1]
    exact tryParseUint64_toDecimal value

example : Utils.tryParseUint8Into 0 (text "256") 7 = ⟨false, 7, [.product 0 10, .sum 0 2,
    .product 2 10, .sum 20 5, .product 25 10, .sum 250 6]⟩ := by decide +kernel

end LibFtp
