import Mathlib.Algebra.Ring.Int.Defs
import Mathlib.Data.List.Induction
import Mathlib.Data.List.Pairwise
import Mathlib.Data.Rat.Defs
import Mathlib.Data.String.Basic
import TboxProv.Json.Utf8

/-!
# JSON values

The value type of the JSON library and the accessors that the code calls on it.
An object keeps its members sorted by key, as the library's `std::map` does.
Integers are unbounded here; `Plain` says when a value is one the library can
hold as 64-bit integers.  Accessors throw, so they return `Except`.
-/

namespace TboxProv

/-- A C++ exception, known by the text of `what()`. -/
structure Exception where
  what : Bytes
  deriving DecidableEq

abbrev Throws (α : Type) := Except Exception α

namespace Throws

variable {α β : Type}

@[simp] theorem ok_bind (a : α) (f : α → Throws β) : (Except.ok a : Throws α) >>= f = f a := rfl

@[simp] theorem error_bind (e : Exception) (f : α → Throws β) :
    (Except.error e : Throws α) >>= f = .error e := rfl

@[simp] theorem pure_eq (a : α) : (pure a : Throws α) = .ok a := rfl

@[simp] theorem map_eq (f : α → β) (a : α) : f <$> (Except.ok a : Throws α) = .ok (f a) := rfl

@[simp] theorem notM_ok (b : Bool) : notM (.ok b : Throws Bool) = .ok !b := rfl

@[simp] theorem notM_error (e : Exception) : notM (.error e : Throws Bool) = .error e := rfl

@[simp] theorem orM_ok (b c : Bool) : ((.ok b : Throws Bool) <||> .ok c) = .ok (b || c) := by
  cases b <;> rfl

@[simp] theorem andM_ok (b c : Bool) : ((.ok b : Throws Bool) <&&> .ok c) = .ok (b && c) := by
  cases b <;> rfl

theorem andM_error (e : Exception) (x : Throws Bool) :
    ((.error e : Throws Bool) <&&> x) = .error e := rfl

end Throws

inductive Json where
  | null
  | boolean (b : Bool)
  | integer (z : ℤ)
  | float (q : ℚ)
  | string (s : Bytes)
  | array (xs : List Json)
  | object (fields : List (String × Json))

namespace Json

def typeName : Json → String
  | .null => "null"
  | .boolean _ => "boolean"
  | .integer _ => "number"
  | .float _ => "number"
  | .string _ => "string"
  | .array _ => "array"
  | .object _ => "object"

/-- `type_error`: the message names the type of the offending value. -/
def typeError (id message : String) (j : Json) : Exception :=
  ⟨bytes ("[json.exception.type_error." ++ id ++ "] " ++ message ++ j.typeName)⟩

/-! ## Members -/

/-- Assigning a member: replaced in place, or inserted at its key's position. -/
def insertField (key : String) (value : Json) :
    List (String × Json) → List (String × Json)
  | [] => [(key, value)]
  | (k, v) :: rest =>
      if key = k then (key, value) :: rest
      else if key < k then (key, value) :: (k, v) :: rest
      else (k, v) :: insertField key value rest

/-- `j[key] = value`.  A null value turns into an object. -/
def assign (j : Json) (key : String) (value : Json) : Throws Json :=
  match j with
  | .null => .ok (.object [(key, value)])
  | .object fields => .ok (.object (insertField key value fields))
  | j => .error (typeError "305" "cannot use operator[] with a string argument with " j)

def ofFields (members : List (String × Json)) : Json :=
  .object (members.foldl (fun fields m ↦ insertField m.1 m.2 fields) [])

/-- Reading `j[key]` of a non-const value: a missing member is created as null. -/
def subscript (key : String) : Json → Throws Json
  | .null => .ok .null
  | .object fields => .ok ((fields.lookup key).getD .null)
  | j => .error (typeError "305" "cannot use operator[] with a string argument with " j)

def contains (key : String) : Json → Bool
  | .object fields => (fields.lookup key).isSome
  | _ => false

/-- `j.value(key, default)` at the target type read by `get`. -/
def value {α : Type} (get : Json → Throws α) (key : String) (default : α) : Json → Throws α
  | .object fields =>
      match fields.lookup key with
      | some v => get v
      | none => .ok default
  | j => .error (typeError "306" "cannot use value() with " j)

/-! ## Conversions -/

def getString : Json → Throws Bytes
  | .string s => .ok s
  | j => .error (typeError "302" "type must be string, but is " j)

def getBool : Json → Throws Bool
  | .boolean b => .ok b
  | j => .error (typeError "302" "type must be boolean, but is " j)

def getArray : Json → Throws (List Json)
  | .array xs => .ok xs
  | j => .error (typeError "302" "type must be array, but is " j)

/-- `get_arithmetic_value`: the number as an integer, before it is narrowed to
the target type.  `truncate` is the conversion of a double. -/
def getArithmetic (truncate : ℚ → ℤ) : Json → Throws ℤ
  | .integer z => .ok z
  | .float q => .ok (truncate q)
  | j => .error (typeError "302" "type must be number, but is " j)

/-- The conversion to the arithmetic types that are not the library's own: it
takes booleans as well. -/
def getNumber (truncate : ℚ → ℤ) : Json → Throws ℤ
  | .boolean b => .ok (if b then 1 else 0)
  | j => j.getArithmetic truncate

@[simp] theorem getString_string (s : Bytes) : (string s).getString = .ok s := rfl

@[simp] theorem getBool_boolean (b : Bool) : (boolean b).getBool = .ok b := rfl

@[simp] theorem getArray_array (xs : List Json) : (array xs).getArray = .ok xs := rfl

@[simp] theorem getArithmetic_integer (truncate : ℚ → ℤ) (z : ℤ) :
    (integer z).getArithmetic truncate = .ok z := rfl

@[simp] theorem getNumber_integer (truncate : ℚ → ℤ) (z : ℤ) :
    (integer z).getNumber truncate = .ok z := rfl

/-! ## Well-formedness -/

mutual

def Utf8 : Json → Prop
  | .string s => TboxProv.Utf8 s
  | .array xs => Utf8List xs
  | .object fields => Utf8Fields fields
  | _ => True

def Utf8List : List Json → Prop
  | [] => True
  | x :: xs => x.Utf8 ∧ Utf8List xs

def Utf8Fields : List (String × Json) → Prop
  | [] => True
  | (_, v) :: fields => v.Utf8 ∧ Utf8Fields fields

end

mutual

/-- No floating-point numbers, integers of 64 bits, and keys in order. -/
def Plain : Json → Prop
  | .integer z => -2 ^ 63 ≤ z ∧ z < 2 ^ 64
  | .float _ => False
  | .array xs => PlainList xs
  | .object fields => (fields.map Prod.fst).Pairwise (· < ·) ∧ PlainFields fields
  | _ => True

def PlainList : List Json → Prop
  | [] => True
  | x :: xs => x.Plain ∧ PlainList xs

def PlainFields : List (String × Json) → Prop
  | [] => True
  | (_, v) :: fields => v.Plain ∧ PlainFields fields

end

/-! ## Members of built objects -/

theorem lookup_cons_ite (k k' : String) (v : Json) (rest : List (String × Json)) :
    List.lookup k ((k', v) :: rest) = if k = k' then some v else rest.lookup k := by
  by_cases h : k = k'
  · simp [h]
  · simp [List.lookup_cons, beq_false_of_ne h, h]

@[simp] theorem lookup_insertField (key k : String) (value : Json)
    (fields : List (String × Json)) :
    (insertField key value fields).lookup k =
      if k = key then some value else fields.lookup k := by
  induction fields with
  | nil => rw [insertField, lookup_cons_ite]
  | cons field rest ih =>
      obtain ⟨k', v'⟩ := field
      unfold insertField
      split
      case isTrue hkey =>
        subst hkey
        rw [lookup_cons_ite, lookup_cons_ite]
        split <;> rfl
      case isFalse hkey =>
        split
        · rw [lookup_cons_ite]
        · rw [lookup_cons_ite, lookup_cons_ite, ih]
          by_cases hk : k = k'
          · simp [hk, Ne.symm hkey]
          · simp [hk]

theorem mem_keys_insertField {key k : String} {value : Json} {fields : List (String × Json)}
    (h : k ∈ (insertField key value fields).map Prod.fst) :
    k = key ∨ k ∈ fields.map Prod.fst := by
  induction fields with
  | nil => simpa [insertField] using h
  | cons field rest ih =>
      obtain ⟨k', v'⟩ := field
      unfold insertField at h
      split at h
      · simp at h ⊢
        tauto
      · split at h
        · simp at h ⊢
          tauto
        · simp only [List.map_cons, List.mem_cons] at h ⊢
          rcases h with h | h
          · exact .inr (.inl h)
          · rcases ih h with h | h
            · exact .inl h
            · exact .inr (.inr h)

theorem sorted_insertField (key : String) (value : Json) {fields : List (String × Json)}
    (h : (fields.map Prod.fst).Pairwise (· < ·)) :
    ((insertField key value fields).map Prod.fst).Pairwise (· < ·) := by
  induction fields with
  | nil => simp [insertField]
  | cons field rest ih =>
      obtain ⟨k', v'⟩ := field
      simp only [List.map_cons, List.pairwise_cons] at h
      unfold insertField
      split
      case isTrue heq => simpa [heq] using h
      case isFalse hne =>
        split
        case isTrue hlt =>
          simp only [List.map_cons, List.pairwise_cons, List.mem_cons, forall_eq_or_imp]
          exact ⟨⟨hlt, fun k hk ↦ hlt.trans (h.1 k hk)⟩, h⟩
        case isFalse hge =>
          simp only [List.map_cons, List.pairwise_cons]
          refine ⟨fun k hk ↦ ?_, ih h.2⟩
          rcases mem_keys_insertField hk with rfl | hk
          · exact lt_of_le_of_ne (not_lt.mp hge) (Ne.symm hne)
          · exact h.1 k hk

theorem plainFields_insertField {key : String} {value : Json} {fields : List (String × Json)}
    (hv : value.Plain) (h : PlainFields fields) : PlainFields (insertField key value fields) := by
  induction fields with
  | nil => exact ⟨hv, trivial⟩
  | cons field rest ih =>
      obtain ⟨k', v'⟩ := field
      unfold insertField
      split
      · exact ⟨hv, h.2⟩
      · split
        · exact ⟨hv, h⟩
        · exact ⟨h.1, ih h.2⟩

theorem utf8Fields_insertField {key : String} {value : Json} {fields : List (String × Json)}
    (hv : value.Utf8) (h : Utf8Fields fields) : Utf8Fields (insertField key value fields) := by
  induction fields with
  | nil => exact ⟨hv, trivial⟩
  | cons field rest ih =>
      obtain ⟨k', v'⟩ := field
      unfold insertField
      split
      · exact ⟨hv, h.2⟩
      · split
        · exact ⟨hv, h⟩
        · exact ⟨h.1, ih h.2⟩

theorem lookup_foldl_insertField (members acc : List (String × Json)) (k : String) :
    (members.foldl (fun fields m ↦ insertField m.1 m.2 fields) acc).lookup k =
      (members.reverse.lookup k).or (acc.lookup k) := by
  induction members generalizing acc with
  | nil => simp
  | cons m members ih =>
      obtain ⟨k', v'⟩ := m
      rw [List.foldl_cons, ih, lookup_insertField, List.reverse_cons, List.lookup_append,
        lookup_cons_ite]
      cases members.reverse.lookup k <;> by_cases hk : k = k' <;> simp [hk]

theorem assign_ofFields (members : List (String × Json)) (key : String) (value : Json) :
    (ofFields members).assign key value = .ok (ofFields (members ++ [(key, value)])) := by
  simp [assign, ofFields]

/-- The last assignment to a key decides what it reads. -/
theorem subscript_ofFields (members : List (String × Json)) (key : String) :
    (ofFields members).subscript key = .ok ((members.reverse.lookup key).getD .null) := by
  simp [subscript, ofFields, lookup_foldl_insertField]

theorem contains_ofFields (members : List (String × Json)) (key : String) :
    (ofFields members).contains key = (members.reverse.lookup key).isSome := by
  simp [contains, ofFields, lookup_foldl_insertField]

theorem value_ofFields {α : Type} (get : Json → Throws α) (members : List (String × Json))
    (key : String) (default : α) :
    (ofFields members).value get key default =
      match members.reverse.lookup key with
      | some v => get v
      | none => .ok default := by
  simp [value, ofFields, lookup_foldl_insertField]

section Append

variable {members : List (String × Json)} {value : Json}

theorem ofFields_append (members : List (String × Json)) (key : String) (value : Json) :
    ofFields (members ++ [(key, value)]) =
      .object (insertField key value
        (members.foldl (fun fields m ↦ insertField m.1 m.2 fields) [])) := by
  rw [ofFields, List.foldl_append]
  rfl

theorem plain_ofFields_append (h : (ofFields members).Plain) (key : String)
    (hv : value.Plain) : (ofFields (members ++ [(key, value)])).Plain := by
  obtain ⟨hsorted, hplain⟩ := h
  rw [ofFields_append]
  exact ⟨sorted_insertField _ _ hsorted, plainFields_insertField hv hplain⟩

theorem utf8_ofFields_append (h : (ofFields members).Utf8) (key : String) (hv : value.Utf8) :
    (ofFields (members ++ [(key, value)])).Utf8 := by
  rw [ofFields_append]
  exact utf8Fields_insertField hv h

/-- Members are added one after the other. -/
theorem plain_ofFields (h : ∀ m ∈ members, m.2.Plain) : (ofFields members).Plain := by
  induction members using List.reverseRecOn with
  | nil => exact ⟨List.Pairwise.nil, trivial⟩
  | append_singleton members m ih =>
      have hinit := ih fun m' hm' ↦ h m' (List.mem_append_left _ hm')
      exact plain_ofFields_append hinit m.1 (h m List.mem_concat_self)

theorem utf8_ofFields (h : ∀ m ∈ members, m.2.Utf8) : (ofFields members).Utf8 := by
  induction members using List.reverseRecOn with
  | nil => trivial
  | append_singleton members m ih =>
      have hinit := ih fun m' hm' ↦ h m' (List.mem_append_left _ hm')
      exact utf8_ofFields_append hinit m.1 (h m List.mem_concat_self)

end Append

theorem Utf8Fields.of_lookup {fields : List (String × Json)} (h : Utf8Fields fields)
    {k : String} {v : Json} (hv : fields.lookup k = some v) : v.Utf8 := by
  induction fields with
  | nil => simp at hv
  | cons field rest ih =>
      obtain ⟨k', v'⟩ := field
      rw [lookup_cons_ite] at hv
      split at hv
      · cases hv
        exact h.1
      · exact ih h.2 hv

theorem utf8_member {members : List (String × Json)} (h : (ofFields members).Utf8) (key : String)
    {s : Bytes} (hs : members.reverse.lookup key = some (.string s)) : TboxProv.Utf8 s := by
  have hv : (Json.string s).Utf8 := by
    apply Utf8Fields.of_lookup h
    rw [lookup_foldl_insertField, hs]
    rfl
  exact hv

theorem insertField_of_lt {key : String} {value : Json} {fields : List (String × Json)}
    (h : ∀ k ∈ fields.map Prod.fst, k < key) :
    insertField key value fields = fields ++ [(key, value)] := by
  induction fields with
  | nil => rfl
  | cons field rest ih =>
      obtain ⟨k, v⟩ := field
      simp only [List.map_cons, List.mem_cons, forall_eq_or_imp] at h
      rw [insertField, if_neg (ne_of_gt h.1), if_neg (not_lt_of_gt h.1), ih h.2]
      rfl

theorem ofFields_of_sorted {members : List (String × Json)}
    (h : (members.map Prod.fst).Pairwise (· < ·)) : ofFields members = .object members := by
  induction members using List.reverseRecOn with
  | nil => rfl
  | append_singleton members m ih =>
      obtain ⟨key, value⟩ := m
      rw [List.map_append, List.pairwise_append] at h
      obtain ⟨hinit, -, hlast⟩ := h
      have hlt : ∀ k ∈ members.map Prod.fst, k < key := fun k hk ↦ hlast k hk key (by simp)
      have hfields : members.foldl (fun fields m ↦ insertField m.1 m.2 fields) [] = members :=
        object.inj (ih hinit)
      rw [ofFields_append, hfields, insertField_of_lt hlt]

-- comparing two built objects must not run the insertions
attribute [irreducible] ofFields

end Json

end TboxProv
