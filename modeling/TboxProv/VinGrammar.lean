import Mathlib.Algebra.Field.ZMod
import Mathlib.Data.Fin.VecNotation
import TboxProv.Checksum
import TboxProv.VinValidator

/-!
# The grammar of VINs

A VIN has 17 characters, and the ninth denotes the remainder of a weighted sum.  The
checks of `VinValidator` accept exactly these, and the sum modulo the prime 11 shows every
single mistake and every exchange of neighbours that changes a value.
-/

namespace TboxProv

open Checksum

namespace VinGrammar

/-! ## Characters -/

def IsDigit (c : UInt8) : Prop := 48 ≤ c.toNat ∧ c.toNat ≤ 57

def IsLetter (c : UInt8) : Prop :=
  65 ≤ c.toNat ∧ c.toNat ≤ 90 ∨ 97 ≤ c.toNat ∧ c.toNat ≤ 122

/-- A digit, or a letter in either case other than `I`, `O` and `Q`. -/
def Allowed (c : UInt8) : Prop := IsDigit c ∨ IsLetter c ∧ toUpper c ∉ bytes "IOQ"

instance : DecidablePred Allowed := fun _ ↦ inferInstanceAs (Decidable (_ ∧ _ ∨ (_ ∨ _) ∧ _))

/-- The number that a character stands for in the sum. -/
def value (c : UInt8) : ℕ :=
  let u := (toUpper c).toNat
  if 48 ≤ u ∧ u ≤ 57 then u - 48 -- `0` to `9`
  else if 65 ≤ u ∧ u ≤ 72 then u - 64 -- `A` to `H`
  else if 74 ≤ u ∧ u ≤ 78 then u - 73 -- `J` to `N`
  else if u = 80 then 7 -- `P`
  else if u = 82 then 9 -- `R`
  else if 83 ≤ u ∧ u ≤ 90 then u - 81 -- `S` to `Z`
  else 0

def weight : Fin 17 → ℕ := ![8, 7, 6, 5, 4, 3, 2, 10, 0, 9, 8, 7, 6, 5, 4, 3, 2]

/-- A remainder is written as one character, with `X` for ten. -/
def Denotes (c : UInt8) (r : ℕ) : Prop := r < 10 ∧ c.toNat = 48 + r ∨ r = 10 ∧ c.toNat = 88

def char (s : Bytes) (i : Fin 17) : UInt8 := s.getD i 0

/-- The weighted sum of all characters. -/
def total (s : Bytes) : ℕ := ∑ i, weight i * value (char s i)

/-! ## Words -/

inductive Check
  | length
  | charset
  | checkDigit
  deriving DecidableEq

namespace Check

def Holds (s : Bytes) : Check → Prop
  | length => s.length = 17
  | charset => ∀ c ∈ s, Allowed c
  | checkDigit => Denotes (toUpper (char s 8)) (total s % 11)

def FirstFailing (s : Bytes) : Check → Prop
  | length => ¬ length.Holds s
  | charset => length.Holds s ∧ ¬ charset.Holds s
  | checkDigit => length.Holds s ∧ charset.Holds s ∧ ¬ checkDigit.Holds s

def message : Check → Bytes
  | length => bytes "VIN长度必须为17位"
  | charset => bytes "VIN包含非法字符（I、O、Q不允许）"
  | checkDigit => bytes "VIN校验位不正确"

end Check

def IsVin (s : Bytes) : Prop := ∀ check : Check, check.Holds s

end VinGrammar

open VinGrammar

namespace VinValidator

theorem forall_uint8 {p : UInt8 → Prop} (h : ∀ n < 256, p (UInt8.ofNat n)) (c : UInt8) : p c := by
  rw [← UInt8.ofNat_toNat (x := c)]
  exact h c.toNat c.toNat_lt

theorem allowed_iff (c : UInt8) :
    (isAlnum c && !VinConstraints.excludedChars.contains (toUpper c)) = true ↔ Allowed c := by
  revert c
  apply forall_uint8
  decide +kernel

theorem transliterate_of_allowed {c : UInt8} (hc : Allowed c) :
    transliterate (toUpper c) = some (value c) := by
  revert c
  apply forall_uint8
  decide +kernel

/-! ## The checks -/

variable {s : Bytes}

theorem checkLength_iff : checkLength s = true ↔ Check.length.Holds s :=
  beq_iff_eq

theorem checkCharset_iff : checkCharset s = true ↔ Check.charset.Holds s := by
  rw [checkCharset, List.all_eq_true]
  exact forall₂_congr fun c _ ↦ allowed_iff c

/-- The loop over allowed characters never returns early. -/
theorem weightedSum_of_allowed {ws : List ℕ} {cs : Bytes} (sum : ℕ) (hcs : ∀ c ∈ cs, Allowed c) :
    weightedSum ws cs sum = some (sum + (List.zipWith (fun w c ↦ w * value c) ws cs).sum) := by
  induction ws generalizing cs sum with
  | nil => simp [weightedSum]
  | cons w ws ih =>
      cases cs with
      | nil => simp [weightedSum]
      | cons c cs =>
          have hhead := transliterate_of_allowed (hcs c (by simp))
          have htail := ih (sum + value c * w) fun d hd ↦ hcs d (List.mem_cons_of_mem c hd)
          simp only [weightedSum, hhead, htail, List.zipWith_cons_cons, List.sum_cons]
          rw [Nat.add_assoc, Nat.mul_comm w]

theorem weightedSum_weights (hlen : Check.length.Holds s) (hset : Check.charset.Holds s) :
    weightedSum weights s 0 = some (total s) := by
  rw [weightedSum_of_allowed 0 hset, sum_zipWith value 0 weights s hlen, Nat.zero_add]
  rfl

theorem denotes_iff {c : UInt8} {r : ℕ} (hr : r < 11) :
    (if r = 10 then 88 else 48 + UInt8.ofNat r) = c ↔ Denotes c r := by
  unfold Denotes
  rw [← UInt8.toNat_inj]
  split
  case isTrue h =>
    subst h
    simp [eq_comm]
  case isFalse h =>
    have hmod : (48 + UInt8.ofNat r).toNat = 48 + r := by
      rw [UInt8.toNat_add, UInt8.toNat_ofNat']
      simp
      omega
    rw [hmod]
    omega

theorem checkDigit_iff (hlen : Check.length.Holds s) (hset : Check.charset.Holds s) :
    checkDigit s = true ↔ Check.checkDigit.Holds s := by
  have hlength : ¬ s.length ≠ VinConstraints.vinLength := not_not.2 hlen
  rw [checkDigit, if_neg hlength, beq_iff_eq, calculateCheckDigit, weightedSum_weights hlen hset]
  exact denotes_iff (Nat.mod_lt _ (by decide))

theorem isVin_iff : IsVin s ↔
    Check.length.Holds s ∧ Check.charset.Holds s ∧ Check.checkDigit.Holds s := by
  constructor
  · intro h
    exact ⟨h .length, h .charset, h .checkDigit⟩
  · rintro ⟨hlen, hset, hdigit⟩ check
    cases check <;> assumption

theorem validate_iff_isVin : validate s = true ↔ IsVin s := by
  rw [validate, Bool.and_eq_true, Bool.and_eq_true, checkLength_iff, checkCharset_iff, and_assoc,
    isVin_iff]
  constructor
  · rintro ⟨hlen, hset, hdigit⟩
    exact ⟨hlen, hset, (checkDigit_iff hlen hset).1 hdigit⟩
  · rintro ⟨hlen, hset, hdigit⟩
    exact ⟨hlen, hset, (checkDigit_iff hlen hset).2 hdigit⟩

/-! ## The error -/

theorem getValidationError_of_firstFailing {check : Check} (h : check.FirstFailing s) :
    getValidationError s = check.message := by
  unfold getValidationError
  cases check with
  | length => simp [checkLength_iff.not.2 h, Check.message]
  | charset =>
      obtain ⟨hlen, hset⟩ := h
      simp [checkLength_iff.2 hlen, checkCharset_iff.not.2 hset, Check.message]
  | checkDigit =>
      obtain ⟨hlen, hset, hdigit⟩ := h
      simp [checkLength_iff.2 hlen, checkCharset_iff.2 hset,
        (checkDigit_iff hlen hset).not.2 hdigit, Check.message]

theorem getValidationError_of_isVin (h : IsVin s) : getValidationError s = [] := by
  obtain ⟨hlen, hset, hdigit⟩ := isVin_iff.1 h
  simp [getValidationError, checkLength_iff.2 hlen, checkCharset_iff.2 hset,
    (checkDigit_iff hlen hset).2 hdigit]

theorem message_injective : Function.Injective Check.message := by
  intro a b
  cases a <;> cases b <;> decide

theorem message_ne_nil (check : Check) : check.message ≠ [] := by
  cases check <;> decide

/-- A byte string is a VIN or has a first failing check. -/
theorem isVin_or_firstFailing (s : Bytes) : IsVin s ∨ ∃ check : Check, check.FirstFailing s := by
  by_cases hlen : Check.length.Holds s
  · by_cases hset : Check.charset.Holds s
    · by_cases hdigit : Check.checkDigit.Holds s
      · exact Or.inl (isVin_iff.2 ⟨hlen, hset, hdigit⟩)
      · exact Or.inr ⟨.checkDigit, hlen, hset, hdigit⟩
    · exact Or.inr ⟨.charset, hlen, hset⟩
  · exact Or.inr ⟨.length, hlen⟩

theorem not_isVin_of_firstFailing {check : Check} (h : check.FirstFailing s) : ¬ IsVin s := by
  intro hvin
  have hnil := getValidationError_of_isVin hvin
  rw [getValidationError_of_firstFailing h] at hnil
  exact message_ne_nil check hnil

/-- The validator accepts exactly the VINs, and its error names the first failing check. -/
theorem accepts_exactly_grammar (s : Bytes) :
    (validate s = true ↔ IsVin s) ∧ (getValidationError s = [] ↔ validate s = true) ∧
      ∀ check : Check, getValidationError s = check.message ↔ check.FirstFailing s := by
  rw [validate_iff_isVin]
  rcases isVin_or_firstFailing s with hvin | ⟨first, hfirst⟩
  · have hnil := getValidationError_of_isVin hvin
    refine ⟨Iff.rfl, iff_of_true hnil hvin, fun check ↦ iff_of_false ?_ ?_⟩
    · rw [hnil]
      exact (message_ne_nil check).symm
    · intro hcheck
      exact not_isVin_of_firstFailing hcheck hvin
  · have herror := getValidationError_of_firstFailing hfirst
    have hno := not_isVin_of_firstFailing hfirst
    refine ⟨Iff.rfl, iff_of_false ?_ hno, fun check ↦ ⟨?_, getValidationError_of_firstFailing⟩⟩
    · rw [herror]
      exact message_ne_nil first
    · intro hcheck
      rw [herror] at hcheck
      rwa [← message_injective hcheck]

end VinValidator

/-! ## Mistakes -/

namespace VinGrammar

/-- One mistake in writing down a VIN. -/
inductive Mistake (s : Bytes) : Bytes → Prop
  | value {i : Fin 17} {c : UInt8} (hi : i ≠ 8) (hc : Allowed c)
      (hne : value c ≠ value (char s i)) : Mistake s (s.set i c)
  | checkDigit {c : UInt8} (hne : toUpper c ≠ toUpper (char s 8)) : Mistake s (s.set 8 c)
  | exchange {i j : Fin 17} (hij : j.val = i.val + 1) (hi : i ≠ 8) (hj : j ≠ 8)
      (hne : value (char s i) ≠ value (char s j)) :
      Mistake s ((s.set i (char s j)).set j (char s i))

variable {s : Bytes} {i j : Fin 17} {c d : UInt8}

instance fact_prime_eleven : Fact (Nat.Prime 11) := ⟨by decide⟩

/-- The values of the characters, modulo 11. -/
def digits (s : Bytes) (i : Fin 17) : ZMod 11 := (value (char s i) : ℕ)

def weightMod (i : Fin 17) : ZMod 11 := (weight i : ℕ)

theorem weightMod_ne_zero : ∀ i : Fin 17, i ≠ 8 → weightMod i ≠ 0 := by
  decide

theorem weightMod_ne_next :
    ∀ i j : Fin 17, j.val = i.val + 1 → i ≠ 8 → j ≠ 8 → weightMod i ≠ weightMod j := by
  decide

theorem total_mod : ((total s : ℕ) : ZMod 11) = checksum weightMod (digits s) :=
  natCast_checksum weight fun i ↦ value (char s i)

theorem value_lt (c : UInt8) : value c < 11 := by
  unfold value
  dsimp only
  split_ifs <;> omega

/-- Two values that differ do so modulo 11. -/
theorem value_mod_ne (h : value c ≠ value d) : (value c : ZMod 11) ≠ value d := by
  intro heq
  rw [ZMod.natCast_eq_natCast_iff', Nat.mod_eq_of_lt (value_lt c),
    Nat.mod_eq_of_lt (value_lt d)] at heq
  exact h heq

theorem char_set (hlen : Check.length.Holds s) (i : Fin 17) (c : UInt8) :
    char (s.set i c) = Function.update (char s) i c := by
  have hlt : i.val < s.length := by rw [hlen]; exact i.isLt
  funext k
  unfold char
  by_cases hk : k = i
  · subst hk
    simp [hlt]
  · have hval : i.val ≠ k.val := fun h ↦ hk (Fin.ext h.symm)
    rw [Function.update_of_ne hk]
    simp [hval]

theorem length_set (hlen : Check.length.Holds s) : Check.length.Holds (s.set i c) :=
  (List.length_set ..).trans hlen

theorem digits_set (hlen : Check.length.Holds s) :
    digits (s.set i c) = Function.update (digits s) i (value c : ℕ) := by
  funext k
  unfold digits
  rw [char_set hlen]
  by_cases hk : k = i
  · subst hk
    simp
  · simp [hk]

theorem Denotes.remainder {r r' : ℕ} (h : Denotes c r) (h' : Denotes c r') : r = r' := by
  unfold Denotes at h h'
  omega

theorem Denotes.character {r : ℕ} (h : Denotes c r) (h' : Denotes d r) : c = d := by
  unfold Denotes at h h'
  rw [← UInt8.toNat_inj]
  omega

theorem checksum_eq_iff {t : Bytes} : checksum weightMod (digits t) = checksum weightMod (digits s) ↔
    total t % 11 = total s % 11 := by
  rw [← total_mod, ← total_mod, ZMod.natCast_eq_natCast_iff']

/-- Two VINs with the same ninth character have the same sum modulo 11. -/
theorem IsVin.checksum_eq {t : Bytes} (hs : IsVin s) (ht : IsVin t)
    (hchar : char t 8 = char s 8) :
    checksum weightMod (digits t) = checksum weightMod (digits s) := by
  have hcheck : Denotes (toUpper (char t 8)) (total t % 11) := ht .checkDigit
  rw [hchar] at hcheck
  exact checksum_eq_iff.2 (hcheck.remainder (hs .checkDigit))

theorem not_isVin_value (hs : IsVin s) (hi : i ≠ 8) (hne : value c ≠ value (char s i)) :
    ¬ IsVin (s.set i c) := by
  intro ht
  have hlen := hs .length
  have hdigit : (value c : ZMod 11) ≠ digits s i := value_mod_ne hne
  apply checksum_update_ne (weightMod_ne_zero i hi) hdigit
  rw [← digits_set hlen]
  apply hs.checksum_eq ht
  rw [char_set hlen, Function.update_of_ne hi.symm]

theorem not_isVin_checkDigit (hs : IsVin s) (hne : toUpper c ≠ toUpper (char s 8)) :
    ¬ IsVin (s.set 8 c) := by
  intro ht
  have hlen := hs .length
  -- the ninth character has no weight
  have hsum : checksum weightMod (digits (s.set 8 c)) = checksum weightMod (digits s) := by
    rw [show s.set 8 c = s.set (8 : Fin 17) c from rfl, digits_set hlen]
    apply checksum_congr
    intro k hk
    have hk8 : k ≠ 8 := by
      rintro rfl
      exact hk rfl
    rw [Function.update_of_ne hk8]
  have hnew : Denotes (toUpper (char (s.set 8 c) 8)) (total (s.set 8 c) % 11) := ht .checkDigit
  have hchar : char (s.set 8 c) 8 = c := by
    rw [show s.set 8 c = s.set (8 : Fin 17) c from rfl, char_set hlen, Function.update_self]
  rw [hchar, checksum_eq_iff.1 hsum] at hnew
  exact hne (hnew.character (hs .checkDigit))

theorem not_isVin_exchange (hs : IsVin s) (hij : j.val = i.val + 1) (hi : i ≠ 8) (hj : j ≠ 8)
    (hne : value (char s i) ≠ value (char s j)) :
    ¬ IsVin ((s.set i (char s j)).set j (char s i)) := by
  intro ht
  have hlen := hs .length
  have hdistinct : i ≠ j := by
    rintro rfl
    omega
  have hdigit : digits s i ≠ digits s j := value_mod_ne hne
  apply checksum_exchange_ne hdistinct (weightMod_ne_next i j hij hi hj) hdigit
  have hdigits : digits ((s.set i (char s j)).set j (char s i)) = exchange (digits s) i j := by
    rw [digits_set (length_set hlen), digits_set hlen]
    rfl
  rw [← hdigits]
  apply hs.checksum_eq ht
  rw [char_set (length_set hlen), char_set hlen, Function.update_of_ne hj.symm,
    Function.update_of_ne hi.symm]

/-- No mistake in an accepted VIN is accepted. -/
theorem mistake_rejected {v w : Bytes} (hv : VinValidator.validate v = true)
    (h : Mistake v w) : VinValidator.validate w = false := by
  rw [VinValidator.validate_iff_isVin] at hv
  rw [← Bool.not_eq_true, VinValidator.validate_iff_isVin]
  cases h with
  | value hi _ hne => exact not_isVin_value hv hi hne
  | checkDigit hne => exact not_isVin_checkDigit hv hne
  | exchange hij hi hj hne => exact not_isVin_exchange hv hij hi hj hne

theorem mistake_rejected_sample :
    VinValidator.validate (bytes "1HGBH41JXMN109187") = false ∧
      VinValidator.validate (bytes "1HGBH41J0MN109186") = false ∧
        VinValidator.validate (bytes "1GHBH41JXMN109186") = false :=
  ⟨mistake_rejected (v := bytes "1HGBH41JXMN109186") (by decide)
      (.value (i := 16) (c := 55) (by decide) (by decide) (by decide)),
    mistake_rejected (v := bytes "1HGBH41JXMN109186") (by decide) (.checkDigit (c := 48) (by decide)),
    mistake_rejected (v := bytes "1HGBH41JXMN109186") (by decide)
      (.exchange (i := 1) (j := 2) (by decide) (by decide) (by decide) (by decide))⟩

end VinGrammar

end TboxProv
