import Mathlib.Data.List.Basic

/-!
# Byte strings and UTF-8

A C++ `std::string` is a list of bytes with no promise about its encoding.
`Utf8` singles out the byte strings that encode a list of characters; it agrees
with the validity predicate of the core library's `String`.
-/

namespace TboxProv

abbrev Bytes := List UInt8

def bytes (s : String) : Bytes := s.toList.flatMap String.utf8EncodeChar

theorem bytes_append (s t : String) : bytes (s ++ t) = bytes s ++ bytes t := by simp [bytes]

def Utf8 (s : Bytes) : Prop := ∃ cs : List Char, cs.flatMap String.utf8EncodeChar = s

theorem utf8_iff_isValidUTF8 (s : Bytes) : Utf8 s ↔ s.toByteArray.IsValidUTF8 := by
  constructor
  · rintro ⟨cs, rfl⟩
    exact .intro cs rfl
  · rintro ⟨cs, hcs⟩
    refine ⟨cs, ?_⟩
    have h := congrArg ByteArray.data hcs
    simpa [List.utf8Encode] using h.symm

instance (s : Bytes) : Decidable (Utf8 s) :=
  decidable_of_iff _ (utf8_iff_isValidUTF8 s).symm

namespace Utf8

@[simp] theorem nil : Utf8 [] := ⟨[], rfl⟩

@[simp] theorem bytes (s : String) : Utf8 (bytes s) := ⟨s.toList, rfl⟩

theorem append {s t : Bytes} (hs : Utf8 s) (ht : Utf8 t) : Utf8 (s ++ t) := by
  obtain ⟨cs, rfl⟩ := hs
  obtain ⟨ds, rfl⟩ := ht
  exact ⟨cs ++ ds, List.flatMap_append⟩

theorem flatMap {α : Type*} {f : α → Bytes} {xs : List α} (h : ∀ x ∈ xs, Utf8 (f x)) :
    Utf8 (xs.flatMap f) := by
  induction xs with
  | nil => exact nil
  | cons x xs ih =>
      rw [List.flatMap_cons]
      exact (h x (by simp)).append (ih fun y hy ↦ h y (by simp [hy]))

theorem encode_ascii {b : UInt8} (hb : b < 128) :
    String.utf8EncodeChar (Char.ofNat b.toNat) = [b] := by
  have hn : b.toNat < 128 := hb
  have hvalid : b.toNat.isValidChar := Or.inl (by omega)
  have hv : (Char.ofNat b.toNat).val.toNat = b.toNat := by
    rw [Char.ofNat, dif_pos hvalid]
    rfl
  simp [String.utf8EncodeChar, hv, show b.toNat ≤ 127 by omega]

theorem of_ascii {s : Bytes} (h : ∀ b ∈ s, b < 128) : Utf8 s := by
  refine ⟨s.map fun b ↦ Char.ofNat b.toNat, ?_⟩
  induction s with
  | nil => rfl
  | cons b s ih =>
      rw [List.map_cons, List.flatMap_cons, encode_ascii (h b (by simp)),
        ih fun c hc ↦ h c (by simp [hc])]
      rfl

end Utf8

end TboxProv
