import Mathlib.Algebra.Order.Field.Basic
import Mathlib.Data.Rat.Cast.Order
import Mathlib.Tactic.Ring

/-! Numerals: digits read as a whole number, most significant digit first, and the same
digits read behind a decimal point. -/

namespace LibFtp.Text

/-- Read more digits behind the number read so far. -/
def readDigits (base start : Nat) (digits : List Nat) : Nat :=
  digits.foldl (fun value digit => base * value + digit) start

def numeral (base : Nat) (digits : List Nat) : Nat := readDigits base 0 digits

/-- The digits behind the point. -/
def fraction (base : Nat) (digits : List Nat) : ℚ :=
  (numeral base digits : ℚ) / (base : ℚ) ^ digits.length

variable {base start : Nat} {front back : List Nat}

@[simp] theorem readDigits_nil : readDigits base start [] = start := rfl

@[simp] theorem readDigits_cons (digit : Nat) (rest : List Nat) :
    readDigits base start (digit :: rest) = readDigits base (base * start + digit) rest := rfl

theorem readDigits_append (front back : List Nat) :
    readDigits base start (front ++ back) = readDigits base (readDigits base start front) back :=
  List.foldl_append

/-- The number in front is moved up by the digits behind it. -/
theorem readDigits_eq (digits : List Nat) :
    readDigits base start digits = start * base ^ digits.length + numeral base digits := by
  induction digits generalizing start with
  | nil => simp [numeral]
  | cons digit rest ih =>
    have first : numeral base (digit :: rest) = readDigits base (base * 0 + digit) rest := rfl
    rw [readDigits_cons, ih, first, ih, List.length_cons]
    ring

theorem numeral_cons (digit : Nat) (rest : List Nat) :
    numeral base (digit :: rest) = digit * base ^ rest.length + numeral base rest := by
  rw [numeral, readDigits_cons, Nat.mul_zero, Nat.zero_add, readDigits_eq]

theorem numeral_append (front back : List Nat) :
    numeral base (front ++ back) = numeral base front * base ^ back.length + numeral base back := by
  rw [numeral, readDigits_append, readDigits_eq]
  rfl

/-- Reading on never makes a number smaller. -/
theorem le_readDigits (positive : 0 < base) (digits : List Nat) :
    start ≤ readDigits base start digits := by
  rw [readDigits_eq]
  have power : 0 < base ^ digits.length := Nat.pow_pos positive
  have scaled := Nat.le_mul_of_pos_right start power
  omega

theorem numeral_lt {digits : List Nat} (small : ∀ digit ∈ digits, digit < base) :
    numeral base digits < base ^ digits.length := by
  induction digits with
  | nil => simp [numeral]
  | cons digit rest ih =>
    have first := small digit List.mem_cons_self
    have others := ih fun other member => small other (List.mem_cons_of_mem digit member)
    rw [numeral_cons, List.length_cons]
    calc digit * base ^ rest.length + numeral base rest
        < digit * base ^ rest.length + base ^ rest.length := by omega
      _ = (digit + 1) * base ^ rest.length := by ring
      _ ≤ base * base ^ rest.length := Nat.mul_le_mul_right _ first
      _ = base ^ (rest.length + 1) := by ring

section Fractions
variable (positive : 0 < base) (first second : List Nat)

include positive

/-- Fractions are compared as the numerals padded to one length. -/
theorem fraction_lt_iff : fraction base first < fraction base second ↔
    numeral base first * base ^ second.length < numeral base second * base ^ first.length := by
  have scale (digits : List Nat) : (0 : ℚ) < (base : ℚ) ^ digits.length :=
    pow_pos (Nat.cast_pos.mpr positive) _
  rw [fraction, fraction, div_lt_div_iff₀ (scale first) (scale second)]
  exact_mod_cast Iff.rfl

theorem fraction_eq_iff : fraction base first = fraction base second ↔
    numeral base first * base ^ second.length = numeral base second * base ^ first.length := by
  have scale (digits : List Nat) : (base : ℚ) ^ digits.length ≠ 0 :=
    (pow_pos (Nat.cast_pos.mpr positive) _).ne'
  rw [fraction, fraction, div_eq_div_iff (scale first) (scale second)]
  exact_mod_cast Iff.rfl

variable {first second}

/-- Behind the point the shorter numeral is padded with zeros. -/
theorem fraction_padded {padding : Nat} (longer : first.length + padding = second.length) :
    (fraction base first = fraction base second ↔
        numeral base first * base ^ padding = numeral base second) ∧
      (fraction base first < fraction base second ↔
        numeral base first * base ^ padding < numeral base second) ∧
      (fraction base second < fraction base first ↔
        numeral base second < numeral base first * base ^ padding) := by
  have scale : 0 < base ^ first.length := Nat.pow_pos positive
  have split : numeral base first * base ^ second.length =
      numeral base first * base ^ padding * base ^ first.length := by
    rw [← longer, Nat.pow_add]
    ring
  rw [fraction_eq_iff positive, fraction_lt_iff positive, fraction_lt_iff positive, split,
    Nat.mul_lt_mul_right scale, Nat.mul_lt_mul_right scale]
  exact ⟨⟨Nat.eq_of_mul_eq_mul_right scale, fun same => same ▸ rfl⟩, Iff.rfl, Iff.rfl⟩

/-- Two numerals are in the same order in front of the point and behind it, just where they
are of one length, or the shorter is zero, or the longer is smaller as a number, or larger
than the shorter with its padding. -/
theorem fraction_order_iff {padding : Nat} (larger : 1 < base)
    (longer : first.length + padding = second.length) :
    ((numeral base first = numeral base second ↔ fraction base first = fraction base second) ∧
      (numeral base first < numeral base second ↔ fraction base first < fraction base second) ∧
      (numeral base second < numeral base first ↔ fraction base second < fraction base first)) ↔
        padding = 0 ∨ numeral base first = 0 ∨ numeral base second < numeral base first ∨
          numeral base first * base ^ padding < numeral base second := by
  obtain ⟨equal, less, greater⟩ := fraction_padded positive longer
  rw [equal, less, greater]
  by_cases unpadded : padding = 0
  · simp [unpadded]
  · by_cases zero : numeral base first = 0
    · simp [zero]
    · have scale : 1 < base ^ padding := Nat.one_lt_pow unpadded larger
      have grows := Nat.mul_lt_mul_of_pos_left scale (Nat.pos_of_ne_zero zero)
      rw [Nat.mul_one] at grows
      omega

end Fractions

end LibFtp.Text
