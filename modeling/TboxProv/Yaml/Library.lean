import TboxProv.Yaml.Node

/-!
# The YAML library as a parameter

Loading and subscripting belong to an external library.  `operator[]` enters as a
parameter, and `Lawful` collects what is documented of it: a scalar has no members
and the attempt throws, a missing key yields an undefined node, and a sequence that
is asked for a key turns into a mapping from positions.
-/

namespace TboxProv

/-- `Node::operator[]` with a string key; no node means an undefined one. -/
structure YamlLib where
  subscript : Yaml → String → Throws (Option Yaml)

namespace YamlLib

/-- A text that may be the position of an item. -/
def Index (key : String) : Prop := key.toList.all Char.isDigit = true

instance (key : String) : Decidable (Index key) :=
  inferInstanceAs (Decidable (key.toList.all Char.isDigit = true))

structure Lawful (Y : YamlLib) : Prop where
  scalar (s : Scalar) (key : String) : ∃ e, Y.subscript (.scalar s) key = .error e
  mapping (entries : List (Yaml × Yaml)) (key : String) :
    Y.subscript (.mapping entries) key = .ok (Yaml.lookup key entries)
  null (key : String) : Y.subscript .null key = .ok none
  sequence (items : List Yaml) {key : String} (h : ¬ Index key) :
    Y.subscript (.sequence items) key = .ok none

section Paths

variable (Y : YamlLib)

/-- `node[key₁][key₂]…`: an undefined node stays undefined under a further key. -/
def node : List String → Yaml → Throws (Option Yaml)
  | [], y => .ok (some y)
  | key :: path, y => do
      match ← Y.subscript y key with
      | some z => node path z
      | none => .ok none

/-- The conversion of a node to `bool`. -/
def isDefined (path : List String) (y : Yaml) : Throws Bool :=
  Option.isSome <$> Y.node path y

/-- `IsScalar`, which an undefined node is not. -/
def isScalar (path : List String) (y : Yaml) : Throws Bool :=
  Option.any Yaml.isScalar <$> Y.node path y

variable {Y} {path rest : List String} {key : String} {y z : Yaml}

theorem node_append_of_error {e : Exception} (h : Y.node path y = .error e) :
    Y.node (path ++ rest) y = .error e := by
  induction path generalizing y with
  | nil => cases h
  | cons key path ih =>
      rw [node] at h
      rw [List.cons_append, node]
      rcases hkey : Y.subscript y key with e' | _ | z
      · rw [hkey] at h
        exact h
      · rw [hkey] at h
        cases h
      · rw [hkey] at h
        exact ih h

theorem node_append_of_none (h : Y.node path y = .ok none) :
    Y.node (path ++ rest) y = .ok none := by
  induction path generalizing y with
  | nil => cases h
  | cons key path ih =>
      rw [node] at h
      rw [List.cons_append, node]
      rcases hkey : Y.subscript y key with e' | _ | z
      · rw [hkey] at h
        cases h
      · rfl
      · rw [hkey] at h
        exact ih h

/-- Asking for a path after asking for the way to it says no more than the last question. -/
theorem isDefined_or_append (path rest : List String) :
    (notM (Y.isDefined path y) <||> notM (Y.isDefined (path ++ rest) y)) =
      notM (Y.isDefined (path ++ rest) y) := by
  unfold isDefined
  rcases h : Y.node path y with e | _ | z
  · rw [node_append_of_error h]
    rfl
  · rw [node_append_of_none h]
    rfl
  · rfl

namespace Lawful

variable (hY : Y.Lawful)
include hY

theorem subscript_eq (hkey : ¬ Index key) (h : y.isScalar = false) :
    Y.subscript y key = .ok (y.member key) := by
  cases y with
  | null => exact hY.null key
  | scalar s => cases h
  | sequence items => exact hY.sequence items hkey
  | mapping entries => exact hY.mapping entries key

theorem node_eq (hpath : ∀ key ∈ path, ¬ Index key) (h : ¬ Yaml.Blocked path y) :
    Y.node path y = .ok (y.field path) := by
  induction path generalizing y with
  | nil => rfl
  | cons key path ih =>
      rw [Yaml.blocked_cons_iff, not_or, not_exists, not_exists] at h
      obtain ⟨hscalar, hrest⟩ := h
      have hy : y.isScalar = false := by
        rw [Bool.eq_false_iff, ne_eq, Yaml.isScalar_iff]
        rintro ⟨s, hs⟩
        exact hscalar s hs
      rw [node, hY.subscript_eq (hpath key List.mem_cons_self) hy, Yaml.field_cons]
      cases hz : y.member key with
      | none => rfl
      | some z =>
          apply ih
          · intro k hk
            exact hpath k (List.mem_cons_of_mem key hk)
          · intro hblocked
            exact hrest z ⟨hz, hblocked⟩

theorem node_error (hpath : ∀ key ∈ path, ¬ Index key) (h : Yaml.Blocked path y) :
    ∃ e, Y.node path y = .error e := by
  induction h with
  | scalar key path s =>
      obtain ⟨e, he⟩ := hY.scalar s key
      refine ⟨e, ?_⟩
      rw [node, he]
      rfl
  | @member key path y z hz _ ih =>
      obtain ⟨e, he⟩ := ih fun k hk ↦ hpath k (List.mem_cons_of_mem key hk)
      refine ⟨e, ?_⟩
      have hy : y.isScalar = false := by
        cases y with
        | scalar s => cases hz
        | null | sequence items | mapping entries => rfl
      rw [node, hY.subscript_eq (hpath key List.mem_cons_self) hy, hz]
      exact he

theorem isDefined_eq (hpath : ∀ key ∈ path, ¬ Index key) (h : ¬ Yaml.Blocked path y) :
    Y.isDefined path y = .ok (y.field path).isSome := by
  rw [isDefined, hY.node_eq hpath h, Throws.map_eq]

theorem isScalar_eq (hpath : ∀ key ∈ path, ¬ Index key) (h : ¬ Yaml.Blocked path y) :
    Y.isScalar path y = .ok ((y.field path).any Yaml.isScalar) := by
  rw [isScalar, hY.node_eq hpath h, Throws.map_eq]

theorem isDefined_under (path : List String) (hpath : ∀ k ∈ path ++ [key], ¬ Index k)
    (h : y.field path = some z) (hz : z.isMap = true) :
    Y.isDefined (path ++ [key]) y = .ok (y.field (path ++ [key])).isSome :=
  hY.isDefined_eq hpath (Yaml.not_blocked_of_isMap path h hz)

theorem isDefined_error (hpath : ∀ key ∈ path, ¬ Index key) (h : Yaml.Blocked path y) :
    ∃ e, Y.isDefined path y = .error e := by
  obtain ⟨e, he⟩ := hY.node_error hpath h
  refine ⟨e, ?_⟩
  rw [isDefined, he]
  rfl

end Lawful

end Paths

/-! ## An instance -/

/-- The item whose position is written like this. -/
def itemAt (key : String) : ℕ → List Yaml → Option Yaml
  | _, [] => none
  | i, item :: items => if toString i = key then some item else itemAt key (i + 1) items

theorem index_toString (i : ℕ) : Index (toString i) := by
  apply List.all_eq_true.2
  intro c hc
  rw [Nat.toString_eq_ofList_toDigits, String.toList_ofList] at hc
  exact Nat.isDigit_of_mem_toDigits (by decide) (by decide) hc

theorem itemAt_eq_none {key : String} (hkey : ¬ Index key) (i : ℕ) (items : List Yaml) :
    itemAt key i items = none := by
  induction items generalizing i with
  | nil => rfl
  | cons item items ih =>
      rw [itemAt, if_neg, ih]
      rintro rfl
      exact hkey (index_toString i)

def yamlCpp : YamlLib where
  subscript
    | .null, _ => .ok none
    | .scalar _, key => .error ⟨bytes ("operator[] call on a scalar (key: \"" ++ key ++ "\")")⟩
    | .sequence items, key => .ok (itemAt key 0 items)
    | .mapping entries, key => .ok (Yaml.lookup key entries)

theorem yamlCpp_lawful : yamlCpp.Lawful where
  scalar _ _ := ⟨_, rfl⟩
  mapping _ _ := rfl
  null _ := rfl
  sequence items _ h := congrArg Except.ok (itemAt_eq_none h 0 items)

end YamlLib

end TboxProv
