import LibFtp.Detail.Utils
import LibFtp.Text.Numeral

/-! Decimal numerals as bytes, and what the bounded parsers make of them. -/

namespace LibFtp

def isDigit (ch : Byte) : Bool := 48 ≤ ch && ch ≤ 57

/-- A non-empty string of decimal digits; leading zeros are allowed. -/
def IsNumeral (str : Bytes) : Prop := str ≠ [] ∧ ∀ ch ∈ str, isDigit ch

instance (str : Bytes) : Decidable (IsNumeral str) := inferInstanceAs (Decidable (_ ∧ _))

def digitValue (ch : Byte) : Nat := ch.toNat - 48

/-- The number that the digits stand for. -/
def decimal (str : Bytes) : Nat := Text.numeral 10 (str.map digitValue)

theorem isDigit_iff (ch : Byte) : isDigit ch = true ↔ 48 ≤ ch.toNat ∧ ch.toNat ≤ 57 := by
  simp only [isDigit, Bool.and_eq_true, decide_eq_true_eq, UInt8.le_iff_toNat_le]
  exact Iff.rfl

theorem digitValue_lt {ch : Byte} (digit : isDigit ch = true) : digitValue ch < 10 := by
  have bounds := (isDigit_iff ch).mp digit
  unfold digitValue
  omega

theorem decimal_lt {str : Bytes} (digits : ∀ ch ∈ str, isDigit ch) :
    decimal str < 10 ^ str.length := by
  have small : ∀ digit ∈ str.map digitValue, digit < 10 := by
    intro digit member
    obtain ⟨ch, found, same⟩ := List.mem_map.mp member
    rw [← same]
    exact digitValue_lt (digits ch found)
  simpa [decimal] using Text.numeral_lt small

namespace Utils

private theorem outside_iff (ch : Byte) : (ch < 48 || ch > 57) = true ↔ ¬ isDigit ch = true := by
  have lower : ch < 48 ↔ ch.toNat < 48 := UInt8.lt_iff_toNat_lt
  have upper : ch > 57 ↔ 57 < ch.toNat := UInt8.lt_iff_toNat_lt
  rw [isDigit_iff, Bool.or_eq_true, decide_eq_true_eq, decide_eq_true_eq, lower, upper]
  omega

private theorem digit_toNat {ch : Byte} (digit : isDigit ch = true) :
    (ch - 48).toUInt64.toNat = digitValue ch := by
  have least : (48 : Byte) ≤ ch := UInt8.le_iff_toNat_le.mpr ((isDigit_iff ch).mp digit).1
  exact (UInt8.toNat_toUInt64 _).trans (UInt8.toNat_sub_of_le _ _ least)

private theorem greater_iff (left right : UInt64) : left > right ↔ right.toNat < left.toNat :=
  UInt64.lt_iff_toNat_lt

private theorem tenth_toNat : (0xffffffffffffffff / 10 : UInt64).toNat = 1844674407370955161 := by
  decide

private theorem rest_toNat (digit : UInt64) :
    (0xffffffffffffffff - digit).toNat = 18446744073709551615 - digit.toNat := by
  have below : digit ≤ 0xffffffffffffffff :=
    UInt64.le_iff_toNat_le.mpr (Nat.le_of_lt_succ (UInt64.toNat_lt _))
  rw [UInt64.toNat_sub_of_le _ _ below]
  rfl

/-- Behind the first check the product has 64 bits. -/
theorem product_toNat {value : UInt64} (fits : ¬ value > 0xffffffffffffffff / 10) :
    (value * 10).toNat = value.toNat * 10 := by
  rw [greater_iff, tenth_toNat] at fits
  rw [UInt64.toNat_mul, show (10 : UInt64).toNat = 10 from rfl, Nat.mod_eq_of_lt (by omega)]

/-- Behind the second check the sum has 64 bits. -/
theorem sum_toNat {scaled digit : UInt64} (fits : ¬ scaled > 0xffffffffffffffff - digit) :
    (scaled + digit).toNat = scaled.toNat + digit.toNat := by
  have bound := digit.toNat_lt
  rw [greater_iff, rest_toNat] at fits
  rw [UInt64.toNat_add, Nat.mod_eq_of_lt (by omega)]

/-- One more digit: the loop gives up just where the number has no 64 bits. -/
private theorem parseLoop_digit {ch : Byte} (digit : isDigit ch = true) (rest : Bytes)
    (start : UInt64) :
    2 ^ 64 ≤ 10 * start.toNat + digitValue ch ∧ parseLoop (ch :: rest) start = none ∨
      ∃ next : UInt64, next.toNat = 10 * start.toNat + digitValue ch ∧
        parseLoop (ch :: rest) start = parseLoop rest next := by
  have within : ¬ (ch < 48 || ch > 57) = true := fun without => (outside_iff ch).mp without digit
  have value := digit_toNat digit
  have small := digitValue_lt digit
  simp only [parseLoop, if_neg within]
  by_cases high : start > 0xffffffffffffffff / 10
  · have large := high
    rw [greater_iff, tenth_toNat] at large
    exact .inl ⟨by omega, if_pos high⟩
  · have scaled := product_toNat high
    rw [if_neg high]
    by_cases full : start * 10 > 0xffffffffffffffff - (ch - 48).toUInt64
    · have large := full
      rw [greater_iff, rest_toNat, scaled, value] at large
      exact .inl ⟨by omega, if_pos full⟩
    · refine .inr ⟨start * 10 + (ch - 48).toUInt64, ?_, if_neg full⟩
      rw [sum_toNat full, scaled, value, Nat.mul_comm]

/-- The loop reads the digits on from the value so far. -/
theorem parseLoop_iff (str : Bytes) (start result : UInt64) :
    parseLoop str start = some result ↔
      (∀ ch ∈ str, isDigit ch) ∧
        Text.readDigits 10 start.toNat (str.map digitValue) = result.toNat := by
  induction str generalizing start with
  | nil =>
    simp only [parseLoop, Option.some.injEq, List.map_nil, Text.readDigits_nil]
    exact ⟨fun same => ⟨nofun, congrArg _ same⟩, fun both => UInt64.toNat_inj.mp both.2⟩
  | cons ch rest ih =>
    rw [List.map_cons, Text.readDigits_cons, List.forall_mem_cons]
    by_cases digit : isDigit ch = true
    · rcases parseLoop_digit digit rest start with ⟨large, none⟩ | ⟨next, value, same⟩
      · have grows : 10 * start.toNat + digitValue ch ≤
            Text.readDigits 10 (10 * start.toNat + digitValue ch) (rest.map digitValue) :=
          Text.le_readDigits (by decide) _
        have bound := result.toNat_lt
        rw [none]
        exact iff_of_false nofun fun both => by omega
      · rw [same, ih, value]
        exact ⟨fun both => ⟨⟨digit, both.1⟩, both.2⟩, fun both => ⟨both.1.2, both.2⟩⟩
    · rw [parseLoop, if_pos ((outside_iff ch).mpr digit)]
      exact iff_of_false nofun fun both => digit both.1.1

theorem tryParseUint64_iff (str : Bytes) (result : UInt64) :
    tryParseUint64 str = some result ↔ IsNumeral str ∧ decimal str = result.toNat := by
  unfold tryParseUint64
  cases str with
  | nil => exact iff_of_false nofun fun both => both.1.1 rfl
  | cons ch rest =>
    rw [List.isEmpty_cons, if_neg Bool.false_ne_true, parseLoop_iff]
    exact ⟨fun both => ⟨⟨List.cons_ne_nil _ _, both.1⟩, both.2⟩, fun both => ⟨both.1.2, both.2⟩⟩

theorem tryParseBounded_iff (max : UInt64) (str : Bytes) (result : UInt64) :
    tryParseBounded max str = some result ↔
      IsNumeral str ∧ decimal str = result.toNat ∧ result ≤ max := by
  simp only [tryParseBounded, bind, Option.bind_eq_some_iff]
  constructor
  · intro ⟨value, parsed, bounded⟩
    split at bounded
    · cases bounded
    · rename_i fits
      cases bounded
      obtain ⟨numeral, same⟩ := (tryParseUint64_iff str result).mp parsed
      exact ⟨numeral, same, UInt64.not_lt.mp fits⟩
  · intro ⟨numeral, same, fits⟩
    exact ⟨result, (tryParseUint64_iff str result).mpr ⟨numeral, same⟩, if_neg (UInt64.not_lt.mpr fits)⟩

/-- A narrower parser is exact where narrowing is. -/
private theorem narrow_iff {Word : Type} {narrow : UInt64 → Word} {toNat : Word → Nat} {max : UInt64}
    (faithful : ∀ value ≤ max, toNat (narrow value) = value.toNat)
    (onto : ∀ word, ∃ value ≤ max, narrow value = word) (str : Bytes) (word : Word) :
    (tryParseBounded max str).map narrow = some word ↔ IsNumeral str ∧ decimal str = toNat word := by
  simp only [Option.map_eq_some_iff, tryParseBounded_iff]
  constructor
  · intro ⟨value, ⟨numeral, same, fits⟩, narrowed⟩
    exact ⟨numeral, by rw [same, ← narrowed, faithful value fits]⟩
  · intro ⟨numeral, same⟩
    obtain ⟨value, fits, narrowed⟩ := onto word
    exact ⟨value, ⟨numeral, by rw [same, ← narrowed, faithful value fits], fits⟩, narrowed⟩

theorem tryParseUint8_iff (str : Bytes) (result : UInt8) :
    tryParseUint8 str = some result ↔ IsNumeral str ∧ decimal str = result.toNat := by
  refine narrow_iff (fun value fits => ?_) (fun word => ⟨word.toUInt64, ?_, by simp⟩) str result
  · have small : value.toNat ≤ 255 := UInt64.le_iff_toNat_le.mp fits
    rw [UInt64.toNat_toUInt8, Nat.mod_eq_of_lt (by omega)]
  · have bound := word.toNat_lt
    exact UInt64.le_iff_toNat_le.mpr (by rw [UInt8.toNat_toUInt64]; exact Nat.le_of_lt_succ bound)

theorem tryParseUint16_iff (str : Bytes) (result : UInt16) :
    tryParseUint16 str = some result ↔ IsNumeral str ∧ decimal str = result.toNat := by
  refine narrow_iff (fun value fits => ?_) (fun word => ⟨word.toUInt64, ?_, by simp⟩) str result
  · have small : value.toNat ≤ 65535 := UInt64.le_iff_toNat_le.mp fits
    rw [UInt64.toNat_toUInt16, Nat.mod_eq_of_lt (by omega)]
  · have bound := word.toNat_lt
    exact UInt64.le_iff_toNat_le.mpr (by rw [UInt16.toNat_toUInt64]; exact Nat.le_of_lt_succ bound)

theorem tryParseUint32_iff (str : Bytes) (result : UInt32) :
    tryParseUint32 str = some result ↔ IsNumeral str ∧ decimal str = result.toNat := by
  refine narrow_iff (fun value fits => ?_) (fun word => ⟨word.toUInt64, ?_, by simp⟩) str result
  · have small : value.toNat ≤ 4294967295 := UInt64.le_iff_toNat_le.mp fits
    rw [UInt64.toNat_toUInt32, Nat.mod_eq_of_lt (by omega)]
  · have bound := word.toNat_lt
    exact UInt64.le_iff_toNat_le.mpr (by rw [UInt32.toNat_toUInt64]; exact Nat.le_of_lt_succ bound)

/-- A parser that reads a number rejects everything else. -/
theorem tryParseUint16_none {str : Bytes} (other : ¬ (IsNumeral str ∧ decimal str < 2 ^ 16)) :
    tryParseUint16 str = none := by
  cases parsed : tryParseUint16 str with
  | none => rfl
  | some value =>
    obtain ⟨numeral, same⟩ := (tryParseUint16_iff str value).mp parsed
    exact absurd ⟨numeral, same ▸ value.toNat_lt⟩ other

end Utils

section Rendering

private theorem byte_digitChar (digit : Nat) (small : digit < 10) :
    isDigit (UInt8.ofNat (Nat.digitChar digit).toNat) = true ∧
      digitValue (UInt8.ofNat (Nat.digitChar digit).toNat) = digit := by
  have all : ∀ digit : Fin 10, isDigit (UInt8.ofNat (Nat.digitChar digit).toNat) = true ∧
      digitValue (UInt8.ofNat (Nat.digitChar digit).toNat) = digit := by decide
  exact all ⟨digit, small⟩

/-- The numeral of a number of more than one digit. -/
private theorem toDecimal_snoc {value : Nat} (large : 10 ≤ value) :
    toDecimal value =
      toDecimal (value / 10) ++ [UInt8.ofNat (Nat.digitChar (value % 10)).toNat] := by
  rw [toDecimal, Nat.toDigits_of_base_le (by decide) large, List.map_append]
  rfl

private theorem toDecimal_small {value : Nat} (small : value < 10) :
    toDecimal value = [UInt8.ofNat (Nat.digitChar value).toNat] := by
  rw [toDecimal, Nat.toDigits_of_lt_base small]
  rfl

theorem isNumeral_toDecimal (value : Nat) : IsNumeral (toDecimal value) := by
  induction value using Nat.strong_induction_on with
  | h value ih =>
    by_cases small : value < 10
    · rw [toDecimal_small small]
      exact ⟨List.cons_ne_nil _ _, by simpa using (byte_digitChar value small).1⟩
    · obtain ⟨_, digits⟩ := ih (value / 10) (by omega)
      rw [toDecimal_snoc (by omega)]
      refine ⟨by simp, fun ch member => ?_⟩
      rcases List.mem_append.mp member with front | last
      · exact digits ch front
      · rw [List.mem_singleton.mp last]
        exact (byte_digitChar _ (by omega)).1

/-- A numeral written down reads as the number. -/
theorem decimal_toDecimal (value : Nat) : decimal (toDecimal value) = value := by
  induction value using Nat.strong_induction_on with
  | h value ih =>
    by_cases small : value < 10
    · rw [toDecimal_small small]
      simpa [decimal, Text.numeral] using (byte_digitChar value small).2
    · have front := ih (value / 10) (by omega)
      have last := (byte_digitChar (value % 10) (by omega)).2
      rw [toDecimal_snoc (by omega), decimal, List.map_append, Text.numeral_append]
      rw [decimal] at front
      rw [front]
      simp only [List.map_cons, List.map_nil, last, List.length_singleton, Text.numeral,
        Text.readDigits_cons, Text.readDigits_nil]
      omega

/-- No other byte stands in a numeral. -/
theorem IsNumeral.plain {str : Bytes} (numeral : IsNumeral str) {ch : Byte}
    (other : isDigit ch = false) : ch ∉ str :=
  fun member => absurd ((numeral.2 ch member).symm.trans other) nofun

theorem toDecimal_plain (value : Nat) {ch : Byte} (other : isDigit ch = false) :
    ch ∉ toDecimal value :=
  (isNumeral_toDecimal value).plain other

end Rendering

end LibFtp
