import Mathlib.Data.List.TakeWhile
import Mathlib.Data.Nat.Digits.Defs
import TboxProv.Json.Value

/-!
# JSON text: tokens

Strings, keys and integers as they are written and scanned.  A string is written
with the escapes of the library's `dump`: the short forms, `\u00xx` for the other
control characters, every other byte as it is.  The scanner is an automaton that
takes one byte at a time and knows all escapes.
-/

namespace TboxProv.JsonText

/-! ## Writing -/

def hexDigit (n : ℕ) : UInt8 := if n < 10 then 48 + UInt8.ofNat n else 87 + UInt8.ofNat n

def escapeByte (c : UInt8) : Bytes :=
  if c = 8 then bytes "\\b"
  else if c = 9 then bytes "\\t"
  else if c = 10 then bytes "\\n"
  else if c = 12 then bytes "\\f"
  else if c = 13 then bytes "\\r"
  else if c = 34 then bytes "\\\""
  else if c = 92 then bytes "\\\\"
  else if c < 32 then
    bytes "\\u00" ++ [hexDigit (c.toNat / 16), hexDigit (c.toNat % 16)]
  else [c]

def printString (s : Bytes) : Bytes := 34 :: (s.flatMap escapeByte ++ [34])

def digitByte (d : ℕ) : UInt8 := 48 + UInt8.ofNat d

def printNat (n : ℕ) : Bytes :=
  if n = 0 then [48] else ((Nat.digits 10 n).map digitByte).reverse

def printInt (z : ℤ) : Bytes := if z < 0 then 45 :: printNat z.natAbs else printNat z.natAbs

/-! ## Scanning -/

def isWs (c : UInt8) : Bool := c == 32 || c == 9 || c == 10 || c == 13

def skipWs (s : Bytes) : Bytes := s.dropWhile isWs

def isDigit (c : UInt8) : Bool := 48 ≤ c && c ≤ 57

/-- The decimal number that a run of digits writes; no leading zeros. -/
def readNat (digits : Bytes) : Option ℕ :=
  let n := Nat.ofDigits 10 (digits.reverse.map fun c ↦ c.toNat - 48)
  if printNat n = digits then some n else none

def scanNat (s : Bytes) : Option (ℕ × Bytes) :=
  match s.dropWhile isDigit with
  | [] => (readNat (s.takeWhile isDigit)).map fun n ↦ (n, [])
  | c :: rest =>
      -- a fraction or an exponent: not an integer
      if c = 46 ∨ c = 69 ∨ c = 101 then none
      else (readNat (s.takeWhile isDigit)).map fun n ↦ (n, c :: rest)

/-- An integer token, if it fits the library's 64-bit types. -/
def integerToken (z : ℤ) (rest : Bytes) : Option (Json × Bytes) :=
  if -2 ^ 63 ≤ z ∧ z < 2 ^ 64 then some (.integer z, rest) else none

def scanInt : Bytes → Option (Json × Bytes)
  | [] => none
  | c :: s =>
      if c = 45 then (scanNat s).bind fun (n, rest) ↦ integerToken (-n) rest
      else (scanNat (c :: s)).bind fun (n, rest) ↦ integerToken n rest

def hexValue (c : UInt8) : Option ℕ :=
  if 48 ≤ c ∧ c ≤ 57 then some (c.toNat - 48)
  else if 97 ≤ c ∧ c ≤ 102 then some (c.toNat - 87)
  else if 65 ≤ c ∧ c ≤ 70 then some (c.toNat - 55)
  else none

def shortEscape (c : UInt8) : Option UInt8 :=
  if c = 34 ∨ c = 47 ∨ c = 92 then some c
  else if c = 98 then some 8
  else if c = 102 then some 12
  else if c = 110 then some 10
  else if c = 114 then some 13
  else if c = 116 then some 9
  else none

/-- Where the scanner is inside a string. -/
inductive Scan where
  | plain
  | escape
  /-- Inside `\u`: digits still to come, the value so far, a leading surrogate. -/
  | hex (left : ℕ) (code : ℕ) (high : Option ℕ)
  | lowBackslash (high : ℕ)
  | lowU (high : ℕ)
  deriving DecidableEq

/-- What a complete `\u` escape stands for, and where the scanner goes on. -/
def codeUnit (code : ℕ) : Option ℕ → Option (Bytes × Scan)
  | none =>
      if 0xD800 ≤ code ∧ code < 0xDC00 then some ([], .lowBackslash code)
      else if 0xDC00 ≤ code ∧ code < 0xE000 then none
      else some (String.utf8EncodeChar (Char.ofNat code), .plain)
  | some high =>
      if 0xDC00 ≤ code ∧ code < 0xE000 then
        some (String.utf8EncodeChar
          (Char.ofNat (0x10000 + (high - 0xD800) * 0x400 + (code - 0xDC00))), .plain)
      else none

/-- One byte inside a string: the bytes it adds and the next position. -/
def scanStep : Scan → UInt8 → Option (Bytes × Scan)
  | .plain, c =>
      if c = 92 then some ([], .escape) else if c < 32 then none else some ([c], .plain)
  | .escape, c =>
      if c = 117 then some ([], .hex 3 0 none)
      else (shortEscape c).map fun b ↦ ([b], .plain)
  | .hex left code high, c => do
      let code := 16 * code + (← hexValue c)
      match left with
      | 0 => codeUnit code high
      | left + 1 => return ([], .hex left code high)
  | .lowBackslash high, c => if c = 92 then some ([], .lowU high) else none
  | .lowU high, c => if c = 117 then some ([], .hex 3 0 (some high)) else none

def scanBody : Scan → Bytes → Option (Bytes × Bytes)
  | _, [] => none
  | q, c :: rest =>
      if q = .plain ∧ c = 34 then some ([], rest)
      else (scanStep q c).bind fun (out, q') ↦
        (scanBody q' rest).map fun (s, rest') ↦ (out ++ s, rest')

/-- A string token after its opening quote; its content must be UTF-8. -/
def scanString (s : Bytes) : Option (Bytes × Bytes) := do
  let (content, rest) ← scanBody .plain s
  if Utf8 content then return (content, rest) else none

def readKey (key : Bytes) : Option String := String.fromUTF8? key.toByteArray

/-! ## Numbers read back -/

theorem digitByte_toNat {d : ℕ} (h : d < 10) : (digitByte d).toNat - 48 = d := by
  simp only [digitByte, UInt8.toNat_add, UInt8.toNat_ofNat']
  change (48 + d % 2 ^ 8) % 2 ^ 8 - 48 = d
  omega

theorem isDigit_digitByte {d : ℕ} (h : d < 10) : isDigit (digitByte d) = true := by
  have hnat : (digitByte d).toNat = 48 + d := by
    simp only [digitByte, UInt8.toNat_add, UInt8.toNat_ofNat']
    change (48 + d % 2 ^ 8) % 2 ^ 8 = 48 + d
    omega
  simp only [isDigit, Bool.and_eq_true, decide_eq_true_eq, UInt8.le_iff_toNat_le, hnat]
  change 48 ≤ 48 + d ∧ 48 + d ≤ 57
  omega

theorem isDigit_of_mem_printNat {n : ℕ} {c : UInt8} (h : c ∈ printNat n) :
    isDigit c = true := by
  unfold printNat at h
  split at h
  · rw [List.mem_singleton.1 h]
    rfl
  · rw [List.mem_reverse, List.mem_map] at h
    obtain ⟨d, hd, rfl⟩ := h
    exact isDigit_digitByte (Nat.digits_lt_base (by decide) hd)

theorem readNat_printNat (n : ℕ) : readNat (printNat n) = some n := by
  have hvalue : Nat.ofDigits 10 ((printNat n).reverse.map fun c ↦ c.toNat - 48) = n := by
    unfold printNat
    split
    case isTrue h =>
      subst h
      rfl
    case isFalse h =>
      rw [List.reverse_reverse, List.map_map]
      have hdigits : (Nat.digits 10 n).map ((fun c : UInt8 ↦ c.toNat - 48) ∘ digitByte) =
          Nat.digits 10 n := by
        conv_rhs => rw [← List.map_id (Nat.digits 10 n)]
        apply List.map_congr_left
        intro d hd
        exact digitByte_toNat (Nat.digits_lt_base (by decide) hd)
      rw [hdigits, Nat.ofDigits_digits]
  simp only [readNat, hvalue, if_true]

def NumberEnd (rest : Bytes) : Prop :=
  ∀ c rest', rest = c :: rest' → isDigit c = false ∧ c ≠ 46 ∧ c ≠ 69 ∧ c ≠ 101

theorem NumberEnd.nil : NumberEnd [] := by
  intro c rest' h
  cases h

theorem scanNat_printNat (n : ℕ) {rest : Bytes} (h : NumberEnd rest) :
    scanNat (printNat n ++ rest) = some (n, rest) := by
  have hall : ∀ c ∈ printNat n, isDigit c = true := fun c hc ↦ isDigit_of_mem_printNat hc
  cases rest with
  | nil =>
      rw [List.append_nil]
      have hdrop : (printNat n).dropWhile isDigit = [] := List.dropWhile_eq_nil_iff.2 hall
      have htake : (printNat n).takeWhile isDigit = printNat n :=
        List.takeWhile_eq_self_iff.2 hall
      simp [scanNat, hdrop, htake, readNat_printNat]
  | cons c rest' =>
      obtain ⟨hdigit, hdot, hupper, hlower⟩ := h c rest' rfl
      have hdrop : (printNat n ++ c :: rest').dropWhile isDigit = c :: rest' := by
        rw [List.dropWhile_append_of_pos hall, List.dropWhile_cons_of_neg (by simp [hdigit])]
      have htake : (printNat n ++ c :: rest').takeWhile isDigit = printNat n := by
        rw [List.takeWhile_append_of_pos hall, List.takeWhile_cons_of_neg (by simp [hdigit]),
          List.append_nil]
      simp [scanNat, hdrop, htake, hdot, hupper, hlower, readNat_printNat]

theorem printNat_ne_nil (n : ℕ) : printNat n ≠ [] := by
  unfold printNat
  split
  case isTrue => simp
  case isFalse h => simpa using Nat.digits_ne_nil_iff_ne_zero.2 h

theorem printInt_cons (z : ℤ) :
    ∃ c cs, printInt z = c :: cs ∧ (c = 45 ∨ isDigit c = true) := by
  unfold printInt
  split
  · exact ⟨45, _, rfl, .inl rfl⟩
  · cases h : printNat z.natAbs with
    | nil => exact absurd h (printNat_ne_nil _)
    | cons c cs => exact ⟨c, cs, rfl, .inr (isDigit_of_mem_printNat (h ▸ List.mem_cons_self))⟩

theorem scanInt_printInt {z : ℤ} (hlo : -2 ^ 63 ≤ z) (hhi : z < 2 ^ 64) {rest : Bytes}
    (h : NumberEnd rest) : scanInt (printInt z ++ rest) = some (.integer z, rest) := by
  have htoken : integerToken z rest = some (.integer z, rest) := if_pos ⟨hlo, hhi⟩
  have hscan := scanNat_printNat z.natAbs h
  by_cases hneg : z < 0
  · have habs : -(z.natAbs : ℤ) = z := by omega
    rw [printInt, if_pos hneg, List.cons_append, scanInt, if_pos rfl, hscan, Option.bind_some]
    simpa only [habs] using htoken
  · have habs : (z.natAbs : ℤ) = z := by omega
    obtain ⟨c, cs, hcs⟩ := List.exists_cons_of_ne_nil (printNat_ne_nil z.natAbs)
    have hc : c ≠ 45 := by
      rintro rfl
      have hdigit : isDigit 45 = true := isDigit_of_mem_printNat (hcs ▸ List.mem_cons_self)
      simp [isDigit] at hdigit
    rw [hcs, List.cons_append] at hscan
    rw [printInt, if_neg hneg, hcs, List.cons_append, scanInt, if_neg hc, hscan,
      Option.bind_some]
    simpa only [habs] using htoken

/-! ## Strings read back -/

theorem hexValue_hexDigit : ∀ n < 16, hexValue (hexDigit n) = some n := by decide

theorem scanBody_of_step {q q' : Scan} {c : UInt8} {out rest : Bytes}
    (h : ¬ (q = .plain ∧ c = 34)) (hstep : scanStep q c = some (out, q')) :
    scanBody q (c :: rest) = (scanBody q' rest).map fun (s, r) ↦ (out ++ s, r) := by
  rw [scanBody, if_neg h, hstep, Option.bind_some]

theorem scanBody_short {e c : UInt8} (rest : Bytes) (hu : e ≠ 117)
    (h : shortEscape e = some c) :
    scanBody .plain (92 :: e :: rest) =
      (scanBody .plain rest).map fun (s, r) ↦ (c :: s, r) := by
  have hescape : scanStep .escape e = some ([c], .plain) := by simp [scanStep, hu, h]
  rw [scanBody_of_step (by decide) rfl, scanBody_of_step (by simp) hescape]
  cases scanBody .plain rest <;> rfl

theorem scanBody_long {c : UInt8} (rest : Bytes) (h : c < 128) :
    scanBody .plain
        (92 :: 117 :: 48 :: 48 :: hexDigit (c.toNat / 16) :: hexDigit (c.toNat % 16) :: rest) =
      (scanBody .plain rest).map fun (s, r) ↦ (c :: s, r) := by
  have hn : c.toNat < 128 := h
  have hhigh := hexValue_hexDigit (c.toNat / 16) (by omega)
  have hlow := hexValue_hexDigit (c.toNat % 16) (by omega)
  have hcode : 16 * (16 * 0 + c.toNat / 16) + c.toNat % 16 = c.toNat := by omega
  have hzero : ∀ left, scanStep (.hex (left + 1) 0 none) 48 = some ([], .hex left 0 none) :=
    fun _ ↦ rfl
  have hstep₁ : scanStep (.hex 1 0 none) (hexDigit (c.toNat / 16)) =
      some ([], .hex 0 (16 * 0 + c.toNat / 16) none) := by
    simp [scanStep, hhigh]
  have hstep₀ : scanStep (.hex 0 (16 * 0 + c.toNat / 16) none) (hexDigit (c.toNat % 16)) =
      some ([c], .plain) := by
    simp only [scanStep, hlow, Option.bind_eq_bind, Option.bind_some, hcode, codeUnit]
    rw [if_neg (by omega), if_neg (by omega), Utf8.encode_ascii h]
  rw [scanBody_of_step (by decide) rfl, scanBody_of_step (by decide) rfl,
    scanBody_of_step (by decide) (hzero 2), scanBody_of_step (by decide) (hzero 1),
    scanBody_of_step (by simp) hstep₁, scanBody_of_step (by simp) hstep₀]
  cases scanBody .plain rest <;> rfl

theorem scanBody_escapeByte (c : UInt8) (rest : Bytes) :
    scanBody .plain (escapeByte c ++ rest) =
      (scanBody .plain rest).map fun (s, r) ↦ (c :: s, r) := by
  unfold escapeByte
  split_ifs with h8 h9 h10 h12 h13 h34 h92 h32
  · exact h8 ▸ scanBody_short rest (by decide) rfl
  · exact h9 ▸ scanBody_short rest (by decide) rfl
  · exact h10 ▸ scanBody_short rest (by decide) rfl
  · exact h12 ▸ scanBody_short rest (by decide) rfl
  · exact h13 ▸ scanBody_short rest (by decide) rfl
  · exact h34 ▸ scanBody_short rest (by decide) rfl
  · exact h92 ▸ scanBody_short rest (by decide) rfl
  · exact scanBody_long rest (UInt8.lt_trans h32 (by decide : (32 : UInt8) < 128))
  · have hplain : scanStep .plain c = some ([c], .plain) := by simp [scanStep, h92, h32]
    exact scanBody_of_step (by simp [h34]) hplain

theorem scanBody_printString (s rest : Bytes) :
    scanBody .plain (s.flatMap escapeByte ++ 34 :: rest) = some (s, rest) := by
  induction s with
  | nil => rfl
  | cons c s ih =>
      rw [List.flatMap_cons, List.append_assoc, scanBody_escapeByte, ih]
      rfl

theorem scanString_printString {s : Bytes} (hs : Utf8 s) (rest : Bytes) :
    scanString (s.flatMap escapeByte ++ 34 :: rest) = some (s, rest) := by
  simp [scanString, scanBody_printString, hs]

theorem readKey_bytes (key : String) : readKey (bytes key) = some key := by
  have harray : (bytes key).toByteArray = key.toByteArray := String.utf8Encode_toList
  rw [readKey, harray, String.fromUTF8?, dif_pos key.isValidUTF8]
  rfl

/-! ## Written text is UTF-8 -/

theorem escapeByte_of_nonascii {c : UInt8} (h : ¬ c < 128) : escapeByte c = [c] := by
  have hn : ¬ c.toNat < 128 := h
  have hne : ∀ b : UInt8, b.toNat < 128 → c ≠ b := by
    rintro b hb rfl
    exact hn hb
  have h32 : ¬ c < 32 := fun hlt ↦ h (UInt8.lt_trans hlt (by decide : (32 : UInt8) < 128))
  simp [escapeByte, hne 8 (by decide), hne 9 (by decide), hne 10 (by decide),
    hne 12 (by decide), hne 13 (by decide), hne 34 (by decide), hne 92 (by decide), h32]

theorem nonascii_of_mem_encode {ch : Char} {b : UInt8} (hch : ¬ ch.val.toNat ≤ 127)
    (h : b ∈ String.utf8EncodeChar ch) : ¬ b < 128 := by
  have hbyte : ∀ n : ℕ, 128 ≤ n % 256 → ¬ UInt8.ofNat n < 128 := by
    intro n hn hlt
    have hnat : (UInt8.ofNat n).toNat < 128 := hlt
    rw [UInt8.toNat_ofNat'] at hnat
    omega
  simp only [String.utf8EncodeChar, hch, if_false] at h
  split_ifs at h <;>
    simp only [List.mem_cons, List.not_mem_nil, or_false] at h <;>
    rcases h with rfl | rfl | rfl | rfl <;>
    exact hbyte _ (by omega)

theorem ascii_hexDigit : ∀ n < 16, hexDigit n < 128 := by decide

theorem utf8_escapeByte_ascii {c : UInt8} (h : c < 128) : Utf8 (escapeByte c) := by
  have hn : c.toNat < 128 := h
  unfold escapeByte
  split_ifs with h8 h9 h10 h12 h13 h34 h92 h32
  · exact Utf8.bytes _
  · exact Utf8.bytes _
  · exact Utf8.bytes _
  · exact Utf8.bytes _
  · exact Utf8.bytes _
  · exact Utf8.bytes _
  · exact Utf8.bytes _
  · refine (Utf8.bytes _).append (Utf8.of_ascii fun b hb ↦ ?_)
    simp only [List.mem_cons, List.not_mem_nil, or_false] at hb
    rcases hb with rfl | rfl
    · exact ascii_hexDigit _ (by omega)
    · exact ascii_hexDigit _ (by omega)
  · apply Utf8.of_ascii
    intro b hb
    rw [List.mem_singleton.1 hb]
    exact h

/-- Escaping works byte by byte, and leaves the bytes of other characters alone. -/
theorem utf8_escape_encode (ch : Char) :
    Utf8 ((String.utf8EncodeChar ch).flatMap escapeByte) := by
  by_cases hch : ch.val.toNat ≤ 127
  · refine Utf8.flatMap fun b hb ↦ utf8_escapeByte_ascii ?_
    simp only [String.utf8EncodeChar, hch, if_true, List.mem_singleton] at hb
    subst hb
    change (UInt8.ofNat ch.val.toNat).toNat < 128
    rw [UInt8.toNat_ofNat']
    omega
  · refine ⟨[ch], ?_⟩
    have hsame : ∀ bs : Bytes, (∀ b ∈ bs, ¬ b < 128) → bs.flatMap escapeByte = bs := by
      intro bs hbs
      induction bs with
      | nil => rfl
      | cons b bs ih =>
          rw [List.flatMap_cons, escapeByte_of_nonascii (hbs b (by simp)),
            ih fun b' hb' ↦ hbs b' (by simp [hb'])]
          rfl
    rw [hsame _ fun b hb ↦ nonascii_of_mem_encode hch hb]
    simp

theorem utf8_printString {s : Bytes} (hs : Utf8 s) : Utf8 (printString s) := by
  obtain ⟨cs, rfl⟩ := hs
  have hbody : Utf8 ((cs.flatMap String.utf8EncodeChar).flatMap escapeByte) := by
    rw [List.flatMap_assoc]
    exact Utf8.flatMap fun ch _ ↦ utf8_escape_encode ch
  exact (Utf8.bytes "\"").append (hbody.append (Utf8.bytes "\""))

theorem utf8_printNat (n : ℕ) : Utf8 (printNat n) := by
  apply Utf8.of_ascii
  intro c hc
  have hdigit := isDigit_of_mem_printNat hc
  simp only [isDigit, Bool.and_eq_true, decide_eq_true_eq] at hdigit
  exact UInt8.lt_of_le_of_lt hdigit.2 (by decide)

theorem utf8_printInt (z : ℤ) : Utf8 (printInt z) := by
  unfold printInt
  split
  · exact (Utf8.bytes "-").append (utf8_printNat _)
  · exact utf8_printNat _

end TboxProv.JsonText
