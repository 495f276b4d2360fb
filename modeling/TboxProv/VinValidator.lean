import TboxProv.Json.Utf8

/-!
# VIN validation

`VinValidator` of the source, over arbitrary byte strings.  The character
functions are those of the C locale.
-/

namespace TboxProv

/-- `std::isalnum` -/
def isAlnum (c : UInt8) : Bool :=
  (48 ≤ c && c ≤ 57) || (65 ≤ c && c ≤ 90) || (97 ≤ c && c ≤ 122)

/-- `std::toupper` -/
def toUpper (c : UInt8) : UInt8 := if 97 ≤ c ∧ c ≤ 122 then c - 32 else c

namespace VinConstraints

def vinLength : ℕ := 17
def excludedChars : Bytes := bytes "IOQ"
def checkDigitPosition : ℕ := 9

end VinConstraints

namespace VinValidator

def checkLength (vin : Bytes) : Bool := vin.length == VinConstraints.vinLength

def checkCharset (vin : Bytes) : Bool :=
  vin.all fun c ↦ isAlnum c && !VinConstraints.excludedChars.contains (toUpper c)

def transliteration : List (Char × ℕ) :=
  [('A', 1), ('B', 2), ('C', 3), ('D', 4), ('E', 5), ('F', 6), ('G', 7), ('H', 8),
   ('J', 1), ('K', 2), ('L', 3), ('M', 4), ('N', 5), ('P', 7), ('R', 9),
   ('S', 2), ('T', 3), ('U', 4), ('V', 5), ('W', 6), ('X', 7), ('Y', 8), ('Z', 9),
   ('1', 1), ('2', 2), ('3', 3), ('4', 4), ('5', 5), ('6', 6), ('7', 7), ('8', 8), ('9', 9),
   ('0', 0)]

def transliterate (c : UInt8) : Option ℕ := transliteration.lookup (Char.ofNat c.toNat)

def weights : List ℕ := [8, 7, 6, 5, 4, 3, 2, 10, 0, 9, 8, 7, 6, 5, 4, 3, 2]

/-- The loop of `calculate_check_digit`: no sum at an unknown character. -/
def weightedSum : List ℕ → Bytes → ℕ → Option ℕ
  | w :: ws, c :: cs, sum =>
      match transliterate (toUpper c) with
      | none => none
      | some v => weightedSum ws cs (sum + v * w)
  | _, _, sum => some sum

def calculateCheckDigit (vin : Bytes) : UInt8 :=
  match weightedSum weights vin 0 with
  | none => 88 -- 'X'
  | some sum => if sum % 11 = 10 then 88 else 48 + UInt8.ofNat (sum % 11)

def checkDigit (vin : Bytes) : Bool :=
  if vin.length ≠ VinConstraints.vinLength then false
  else calculateCheckDigit vin == toUpper (vin.getD (VinConstraints.checkDigitPosition - 1) 0)

def validate (vin : Bytes) : Bool := checkLength vin && checkCharset vin && checkDigit vin

def getValidationError (vin : Bytes) : Bytes :=
  if !checkLength vin then bytes "VIN长度必须为17位"
  else if !checkCharset vin then bytes "VIN包含非法字符（I、O、Q不允许）"
  else if !checkDigit vin then bytes "VIN校验位不正确"
  else []

theorem ascii_of_isAlnum {c : UInt8} (h : isAlnum c = true) : c < 128 := by
  simp only [isAlnum, Bool.or_eq_true, Bool.and_eq_true, decide_eq_true_eq] at h
  rcases h with (⟨_, h⟩ | ⟨_, h⟩) | ⟨_, h⟩ <;> exact UInt8.lt_of_le_of_lt h (by decide)

theorem utf8_of_validate {vin : Bytes} (h : validate vin = true) : Utf8 vin := by
  simp only [validate, checkCharset, Bool.and_eq_true, List.all_eq_true] at h
  exact Utf8.of_ascii fun c hc ↦ ascii_of_isAlnum (h.1.2 c hc).1

example : validate (bytes "1HGBH41JXMN109186") = true := by decide

example : validate (bytes "1HGBH41JXMN109187") = false := by decide

end VinValidator

end TboxProv
