import TboxProv.Json.Value

/-!
# The JSON library as a parameter

The text format itself is the business of an external library.  It enters as a
parameter: `parse`, `dump`, and what the platform makes of a double that does
not fit the integer type it is narrowed to.  `Lawful` collects what callers may
rely on.
-/

namespace TboxProv

structure JsonLib where
  parse : Bytes → Throws Json
  /-- `dump indent j`; an indent of `-1` is the compact form. -/
  dump : ℤ → Json → Throws Bytes
  /-- The conversion of a double outside the range of the integer type. -/
  outOfRange : ℚ → ℤ

namespace JsonLib

/-- The documented behaviour of the library on the values the code dumps. -/
structure Lawful (lib : JsonLib) : Prop where
  parse_dump : ∀ indent j, j.Plain → j.Utf8 →
    ∃ s, lib.dump indent j = .ok s ∧ lib.parse s = .ok j
  dump_invalid : ∀ indent j, ¬ j.Utf8 → ∃ e, lib.dump indent j = .error e
  dump_utf8 : ∀ indent j s, lib.dump indent j = .ok s → Utf8 s

/-- What the library says of a value it cannot dump is text itself: the offending byte is
reported in hexadecimal digits. -/
def ReportsInUtf8 (lib : JsonLib) : Prop :=
  ∀ indent j e, lib.dump indent j = .error e → Utf8 e.what

namespace Lawful

variable {lib : JsonLib} (hlib : lib.Lawful) {indent : ℤ} {j : Json} {s : Bytes}
include hlib

theorem exists_dump (indent : ℤ) (hplain : j.Plain) (hutf8 : j.Utf8) :
    ∃ s, lib.dump indent j = .ok s := by
  obtain ⟨s, hs, _⟩ := hlib.parse_dump indent j hplain hutf8
  exact ⟨s, hs⟩

theorem utf8_of_dump (h : lib.dump indent j = .ok s) : j.Utf8 := by
  by_contra hn
  obtain ⟨e, he⟩ := hlib.dump_invalid indent j hn
  rw [he] at h
  cases h

theorem parse_of_dump (hplain : j.Plain) (h : lib.dump indent j = .ok s) :
    lib.parse s = .ok j := by
  obtain ⟨s', hs', hparse⟩ := hlib.parse_dump indent j hplain (hlib.utf8_of_dump h)
  rw [h] at hs'
  cases hs'
  exact hparse

end Lawful

variable (lib : JsonLib)

/-! ## Conversions to machine integers -/

/-- The conversion of a double to an integer type: it drops the fraction. -/
def truncate (lo hi : ℤ) (q : ℚ) : ℤ :=
  let z := q.num.tdiv q.den
  if lo ≤ z ∧ z ≤ hi then z else lib.outOfRange q

def getUInt8 (j : Json) : Throws UInt8 :=
  (j.getNumber (lib.truncate 0 (2 ^ 8 - 1))).map UInt8.ofInt

def getUInt32 (j : Json) : Throws UInt32 :=
  (j.getNumber (lib.truncate 0 (2 ^ 32 - 1))).map UInt32.ofInt

def getInt32 (j : Json) : Throws Int32 :=
  (j.getNumber (lib.truncate (-2 ^ 31) (2 ^ 31 - 1))).map Int32.ofInt

/-- `int64_t` is the library's own integer type: booleans are refused. -/
def getInt64 (j : Json) : Throws Int64 :=
  (j.getArithmetic (lib.truncate (-2 ^ 63) (2 ^ 63 - 1))).map Int64.ofInt

/-- An enumeration over `uint8_t`: read as a number, booleans refused, and cast. -/
def getEnum8 (j : Json) : Throws UInt8 :=
  (j.getArithmetic (lib.truncate 0 (2 ^ 8 - 1))).map UInt8.ofInt

section Integers

variable (z : ℤ)

@[simp] theorem getUInt8_integer : lib.getUInt8 (.integer z) = .ok (UInt8.ofInt z) := rfl

@[simp] theorem getUInt32_integer : lib.getUInt32 (.integer z) = .ok (UInt32.ofInt z) := rfl

@[simp] theorem getInt32_integer : lib.getInt32 (.integer z) = .ok (Int32.ofInt z) := rfl

@[simp] theorem getInt64_integer : lib.getInt64 (.integer z) = .ok (Int64.ofInt z) := rfl

@[simp] theorem getEnum8_integer : lib.getEnum8 (.integer z) = .ok (UInt8.ofInt z) := rfl

end Integers

end JsonLib

end TboxProv
