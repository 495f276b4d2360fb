import TboxProv.Json.Value

/-!
# YAML trees

The tree that the YAML library's loader delivers, and the library's `operator[]` on
it as a parameter.  A subscript that finds nothing yields an undefined node, which
is `none` here.
-/

namespace TboxProv

/-- A scalar is a tag and a text; which value they stand for is up to a schema. -/
structure Scalar where
  tag : Bytes
  text : Bytes
  deriving DecidableEq

inductive Yaml where
  | null
  | scalar (s : Scalar)
  | sequence (items : List Yaml)
  | mapping (entries : List (Yaml × Yaml))

namespace Yaml

def isMap : Yaml → Bool
  | .mapping _ => true
  | _ => false

def isScalar : Yaml → Bool
  | .scalar _ => true
  | _ => false

def isSequence : Yaml → Bool
  | .sequence _ => true
  | _ => false

def items : Yaml → List Yaml
  | .sequence items => items
  | _ => []

def ScalarWith (p : Scalar → Prop) : Yaml → Prop
  | .scalar s => p s
  | _ => False

/-- A key is compared by its text, whatever its tag. -/
def hasText (key : String) : Yaml → Bool
  | .scalar s => s.text == bytes key
  | _ => false

/-- The value of the first entry with this key. -/
def lookup (key : String) : List (Yaml × Yaml) → Option Yaml
  | [] => none
  | (k, v) :: rest => if k.hasText key then some v else lookup key rest

def keys : Yaml → List Yaml
  | .mapping entries => entries.map Prod.fst
  | _ => []

def member (key : String) : Yaml → Option Yaml
  | .mapping entries => lookup key entries
  | _ => none

/-- Where a path of keys leads to, through mappings all the way. -/
def field : List String → Yaml → Option Yaml
  | [], y => some y
  | key :: path, y => (y.member key).bind (field path)

/-- A scalar stands where a key of the path would be looked up. -/
inductive Blocked : List String → Yaml → Prop
  | scalar (key : String) (path : List String) (s : Scalar) : Blocked (key :: path) (.scalar s)
  | member {key : String} {path : List String} {y z : Yaml} (hz : y.member key = some z)
      (h : Blocked path z) : Blocked (key :: path) y

/-! ## Writing trees down -/

def plain (text : String) : Yaml := .scalar ⟨bytes "?", bytes text⟩

def quoted (text : String) : Yaml := .scalar ⟨bytes "!", bytes text⟩

def ofFields (fields : List (String × Yaml)) : Yaml :=
  .mapping (fields.map fun f ↦ (plain f.1, f.2))

/-! ## Members and paths -/

section Equations

variable {key : String} {path rest : List String} {y z : Yaml}

theorem isMap_iff : y.isMap = true ↔ ∃ entries, y = .mapping entries := by
  cases y <;> simp [isMap]

theorem isScalar_iff : y.isScalar = true ↔ ∃ s, y = .scalar s := by
  cases y <;> simp [isScalar]

theorem scalarWith_iff {p : Scalar → Prop} : y.ScalarWith p ↔ ∃ s, y = .scalar s ∧ p s := by
  cases y <;> simp [ScalarWith]

@[simp] theorem field_nil : field [] y = some y := rfl

@[simp] theorem field_cons : field (key :: path) y = (y.member key).bind (field path) := rfl

theorem lookup_eq_none_iff {entries : List (Yaml × Yaml)} :
    lookup key entries = none ↔ ∀ k ∈ entries.map Prod.fst, k.hasText key = false := by
  induction entries with
  | nil => simp [lookup]
  | cons entry entries ih =>
      obtain ⟨k, v⟩ := entry
      rw [lookup, List.map_cons, List.forall_mem_cons, ← ih]
      cases k.hasText key <;> simp

theorem member_eq_none_iff :
    y.member key = none ↔ ∀ k ∈ y.keys, k.hasText key = false := by
  cases y with
  | mapping entries => exact lookup_eq_none_iff
  | null | scalar s | sequence items => simp [member, keys]

theorem isMap_of_member (h : y.member key = some z) : y.isMap = true := by
  cases y with
  | mapping entries => rfl
  | null | scalar s | sequence items => cases h

theorem isMap_of_field_cons (h : field (key :: path) y = some z) : y.isMap = true := by
  obtain ⟨w, hw, -⟩ := Option.bind_eq_some_iff.1 h
  exact isMap_of_member hw

theorem field_append : field (path ++ rest) y = (field path y).bind (field rest) := by
  induction path generalizing y with
  | nil => rfl
  | cons key path ih =>
      rw [List.cons_append, field_cons, field_cons]
      cases y.member key with
      | none => rfl
      | some z => exact ih

/-- Every node on the way of a path is a mapping. -/
theorem isMap_of_field (path : List String) (h : field (path ++ key :: rest) y = some z) :
    ∃ entries, field path y = some (.mapping entries) := by
  rw [field_append, Option.bind_eq_some_iff] at h
  obtain ⟨x, hx, h⟩ := h
  obtain ⟨entries, rfl⟩ := isMap_iff.1 (isMap_of_field_cons h)
  exact ⟨entries, hx⟩

theorem not_blocked_nil : ¬ Blocked [] y := by
  intro h
  cases h

/-- A path is blocked at its first key or behind it. -/
theorem blocked_cons_iff :
    Blocked (key :: path) y ↔
      (∃ s, y = .scalar s) ∨ ∃ z, y.member key = some z ∧ Blocked path z := by
  constructor
  · intro h
    cases h with
    | scalar _ _ s => exact .inl ⟨s, rfl⟩
    | member hz h => exact .inr ⟨_, hz, h⟩
  · rintro (⟨s, rfl⟩ | ⟨z, hz, h⟩)
    · exact .scalar key path s
    · exact .member hz h

theorem blocked_singleton_iff : Blocked [key] y ↔ ∃ s, y = .scalar s := by
  rw [blocked_cons_iff, or_iff_left]
  rintro ⟨z, -, h⟩
  exact not_blocked_nil h

/-- Past the nodes that a path reaches, only the rest of it can be blocked. -/
theorem blocked_append_iff (h : field path y = some z) :
    Blocked (path ++ rest) y ↔ Blocked rest z := by
  induction path generalizing y with
  | nil =>
      cases h
      exact Iff.rfl
  | cons key path ih =>
      rw [field_cons, Option.bind_eq_some_iff] at h
      obtain ⟨x, hx, h⟩ := h
      rw [List.cons_append, blocked_cons_iff, ← ih h]
      constructor
      · rintro (⟨s, rfl⟩ | ⟨w, hw, hblocked⟩)
        · cases hx
        · rw [hx] at hw
          cases hw
          exact hblocked
      · intro hblocked
        exact .inr ⟨x, hx, hblocked⟩

theorem blocked_of_scalar (path : List String) {s : Scalar} (h : field path y = some (.scalar s)) :
    Blocked (path ++ key :: rest) y := by
  rw [blocked_append_iff h]
  exact .scalar key rest s

theorem not_blocked_of_isMap (path : List String) (h : field path y = some z) (hz : z.isMap = true) :
    ¬ Blocked (path ++ [key]) y := by
  rw [blocked_append_iff h, blocked_singleton_iff]
  rintro ⟨s, rfl⟩
  cases hz

end Equations

end Yaml

end TboxProv
