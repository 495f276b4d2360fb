import TboxProv.Json.Text
import TboxProv.Yaml.Node

/-!
# Schemas for YAML trees

A schema is data, and `Conforms` says when a tree meets it.  What a scalar stands for
is a parameter; `coreSchema` is the usual reading.
-/

namespace TboxProv

inductive ScalarType where
  | string
  | boolean
  | integer (z : ℤ)
  | float
  deriving DecidableEq

namespace ScalarType

/-- An integer between the bounds that are given. -/
def Within (min max : Option ℤ) : ScalarType → Prop
  | .integer z => (∀ m ∈ min, m ≤ z) ∧ ∀ m ∈ max, z ≤ m
  | _ => False

theorem within_some_iff {lo hi : ℤ} {t : ScalarType} :
    t.Within (some lo) (some hi) ↔ ∃ z, t = .integer z ∧ lo ≤ z ∧ z ≤ hi := by
  cases t <;> simp [Within]

end ScalarType

inductive Presence where
  | required
  | optional
  | forbidden
  deriving DecidableEq

inductive Schema where
  | any
  /-- A string, one of the given values if there are any. -/
  | string (values : List String)
  | boolean
  | integer (min max : Option ℤ)
  | sequence (items : Schema)
  /-- A closed mapping has no keys but those of its fields. -/
  | mapping (closed : Bool) (fields : List (String × Presence × Schema))

namespace Schema

def member (key : String) : Schema → Option (Presence × Schema)
  | .mapping _ fields => fields.lookup key
  | _ => none

/-- What a schema says of the node at the end of a path. -/
def field : List String → Presence × Schema → Option (Presence × Schema)
  | [], f => some f
  | key :: path, f => (f.2.member key).bind (field path)

variable (resolve : Scalar → ScalarType)

mutual

def Conforms : Schema → Yaml → Prop
  | .any, _ => True
  | .string values, y =>
      y.ScalarWith fun s ↦
        resolve s = .string ∧ (values = [] ∨ ∃ value ∈ values, s.text = bytes value)
  | .boolean, y => y.ScalarWith fun s ↦ resolve s = .boolean
  | .integer min max, y => y.ScalarWith fun s ↦ (resolve s).Within min max
  | .sequence items, y => y.isSequence = true ∧ ∀ z ∈ y.items, Conforms items z
  | .mapping closed fields, y =>
      y.isMap = true ∧
        (closed = true → ∀ key ∈ y.keys, ∃ f ∈ fields, key.hasText f.1 = true) ∧
          FieldsConform fields y

def FieldsConform : List (String × Presence × Schema) → Yaml → Prop
  | [], _ => True
  | (key, presence, schema) :: fields, y =>
      (match y.member key with
      | none => presence ≠ .required
      | some z => presence ≠ .forbidden ∧ Conforms schema z) ∧ FieldsConform fields y

end

section Decidable

instance (p : Scalar → Prop) [DecidablePred p] : DecidablePred (Yaml.ScalarWith p)
  | .scalar s => inferInstanceAs (Decidable (p s))
  | .null | .sequence _ | .mapping _ => isFalse id

instance (min max : Option ℤ) : DecidablePred (ScalarType.Within min max)
  | .integer z => inferInstanceAs (Decidable ((∀ m ∈ min, m ≤ z) ∧ ∀ m ∈ max, z ≤ m))
  | .string | .boolean | .float => isFalse id

mutual

def decideConforms : (schema : Schema) → (y : Yaml) → Decidable (Conforms resolve schema y)
  | .any, _ => isTrue trivial
  | .string values, y =>
      inferInstanceAs (Decidable (y.ScalarWith fun s ↦
        resolve s = .string ∧ (values = [] ∨ ∃ value ∈ values, s.text = bytes value)))
  | .boolean, y => inferInstanceAs (Decidable (y.ScalarWith fun s ↦ resolve s = .boolean))
  | .integer min max, y =>
      inferInstanceAs (Decidable (y.ScalarWith fun s ↦ (resolve s).Within min max))
  | .sequence items, y =>
      haveI := fun z ↦ decideConforms items z
      inferInstanceAs (Decidable (y.isSequence = true ∧ ∀ z ∈ y.items, Conforms resolve items z))
  | .mapping closed fields, y =>
      haveI := decideFieldsConform fields y
      inferInstanceAs (Decidable (y.isMap = true ∧
        (closed = true → ∀ key ∈ y.keys, ∃ f ∈ fields, key.hasText f.1 = true) ∧
          FieldsConform resolve fields y))

def decideFieldsConform : (fields : List (String × Presence × Schema)) → (y : Yaml) →
    Decidable (FieldsConform resolve fields y)
  | [], _ => isTrue trivial
  | (key, presence, schema) :: fields, y =>
      haveI := decideFieldsConform fields y
      haveI : Decidable (match y.member key with
          | none => presence ≠ .required
          | some z => presence ≠ .forbidden ∧ Conforms resolve schema z) :=
        match y.member key with
        | none => inferInstanceAs (Decidable (presence ≠ .required))
        | some z =>
            haveI := decideConforms schema z
            inferInstanceAs (Decidable (presence ≠ .forbidden ∧ Conforms resolve schema z))
      inferInstanceAs (Decidable (_ ∧ FieldsConform resolve fields y))

end

instance (schema : Schema) : DecidablePred (Conforms resolve schema) :=
  decideConforms resolve schema

end Decidable

/-! ## Along a path -/

variable {resolve} {closed : Bool} {fields : List (String × Presence × Schema)} {key : String}
  {path : List String} {f g : Presence × Schema} {y z : Yaml}

theorem FieldsConform.of_mem (h : FieldsConform resolve fields y) (hf : (key, f) ∈ fields)
    (hz : y.member key = some z) : f.1 ≠ .forbidden ∧ Conforms resolve f.2 z := by
  induction fields with
  | nil => cases hf
  | cons field fields ih =>
      obtain ⟨name, presence, schema⟩ := field
      rw [FieldsConform] at h
      rcases List.mem_cons.1 hf with hhead | htail
      · cases hhead
        have hfirst := h.1
        rw [hz] at hfirst
        exact hfirst
      · exact ih h.2 htail

theorem Conforms.of_member (h : Conforms resolve f.2 y) (hg : f.2.member key = some g)
    (hz : y.member key = some z) : g.1 ≠ .forbidden ∧ Conforms resolve g.2 z := by
  obtain ⟨presence, schema⟩ := f
  cases schema with
  | mapping closed fields =>
      obtain ⟨before, after, hfields, -⟩ := List.lookup_eq_some_iff.1 hg
      rw [Conforms] at h
      apply h.2.2.of_mem _ hz
      rw [hfields]
      exact List.mem_append_right before List.mem_cons_self
  | any | string values | boolean | integer min max | sequence items => cases hg

/-- In a tree that meets a schema every node meets what the schema says at its path. -/
theorem Conforms.of_field (h : Conforms resolve f.2 y) (hf : f.1 ≠ .forbidden)
    (hg : field path f = some g) (hz : y.field path = some z) :
    g.1 ≠ .forbidden ∧ Conforms resolve g.2 z := by
  induction path generalizing f y with
  | nil =>
      cases hg
      cases hz
      exact ⟨hf, h⟩
  | cons key path ih =>
      obtain ⟨f', hf', hg⟩ := Option.bind_eq_some_iff.1 hg
      obtain ⟨y', hy', hz⟩ := Option.bind_eq_some_iff.1 hz
      have hmember := h.of_member hf' hy'
      exact ih hmember.2 hmember.1 hg hz

theorem Conforms.field_eq_none (h : Conforms resolve f.2 y) (hf : f.1 ≠ .forbidden)
    (hg : field path f = some g) (hforbidden : g.1 = .forbidden) : y.field path = none := by
  cases hz : y.field path with
  | none => rfl
  | some z => exact absurd hforbidden (h.of_field hf hg hz).1

end Schema

/-! ## The core schema -/

namespace CoreSchema

def booleans : List String := ["true", "True", "TRUE", "false", "False", "FALSE"]

def isDigits (s : Bytes) : Bool := !s.isEmpty && s.all JsonText.isDigit

def unsigned : Bytes → Bytes
  | [] => []
  | c :: s => if c = 43 ∨ c = 45 then s else c :: s

def readDigits (base : ℕ) (s : Bytes) : Option ℕ := do
  let digits ← s.mapM fun c ↦ (JsonText.hexValue c).filter (· < base)
  if digits = [] then none else some (Nat.ofDigits base digits.reverse)

/-- Decimal with an optional sign, or octal or hexadecimal without one. -/
def readInteger : Bytes → Option ℤ
  | 48 :: 111 :: s => (readDigits 8 s).map Int.ofNat
  | 48 :: 120 :: s => (readDigits 16 s).map Int.ofNat
  | 43 :: s => (readDigits 10 s).map Int.ofNat
  | 45 :: s => (readDigits 10 s).map fun n ↦ -Int.ofNat n
  | s => (readDigits 10 s).map Int.ofNat

def isFloat (s : Bytes) : Bool :=
  let (mantissa, exponent) := (unsigned s).span fun c ↦ c ≠ 69 ∧ c ≠ 101
  let (whole, fraction) := mantissa.span (· ≠ 46)
  let mantissaOk := isDigits whole && fraction.tail.all JsonText.isDigit ||
    whole.isEmpty && isDigits fraction.tail
  let special := unsigned s ∈ [".inf", ".Inf", ".INF"].map bytes ∨
    s ∈ [".nan", ".NaN", ".NAN"].map bytes
  special || mantissaOk && (exponent.isEmpty || isDigits (unsigned exponent.tail))

/-- A scalar that is quoted or tagged as a string is one; else its text decides. -/
def resolve (s : Scalar) : ScalarType :=
  if s.tag = bytes "!" ∨ s.tag = bytes "tag:yaml.org,2002:str" then .string
  else if s.text ∈ booleans.map bytes then .boolean
  else
    match readInteger s.text with
    | some z => .integer z
    | none => if isFloat s.text then .float else .string

end CoreSchema

end TboxProv
