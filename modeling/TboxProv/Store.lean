import TboxProv.Crash.Program
import TboxProv.Json.Library

/-!
# The key-value store

`tbox::framework::Store` keeps each key in a JSON file of its own.  The disk
maps the four keys of the service to what the file system holds at their path.
How one call of `atomic_write` turns out is an input, `SaveOutcome`; everything
around it (envelope, parsing, exception handlers) is the code's.
-/

namespace TboxProv

open Crash

/-- What the code is built against: the JSON library and `std::hash`. -/
structure Platform where
  json : JsonLib
  stdHash : Bytes → UInt64

inductive Key where
  | binding
  | config
  | productionInfo
  | protection
  deriving DecidableEq

def Key.name : Key → String
  | .binding => "binding"
  | .config => "config"
  | .productionInfo => "production_info"
  | .protection => "protection"

/-- The state of one path; asking whether an inaccessible path exists throws. -/
inductive Entry where
  | absent
  | file (data : Bytes)
  | unreadable
  | inaccessible (what : Bytes)
  deriving DecidableEq

abbrev Disk := Key → Entry

def Disk.empty : Disk := fun _ ↦ .absent

/-! ## Output -/

inductive FieldValue where
  | str (s : Bytes)
  | int (z : ℤ)
  /-- A measured duration in milliseconds. -/
  | elapsed

inductive Level where
  | debug
  | info
  | warn
  | error

inductive Output where
  | stdout (line : Bytes)
  | stderr (line : Bytes)
  | log (logger : String) (level : Level) (event message : String)
      (fields : List (String × FieldValue))

/-- The disk together with the memory of the running process. -/
structure Machine (μ : Type) where
  disk : Disk
  mem : μ

namespace Machine

variable {μ : Type} (s : Machine μ)

def put (key : Key) (entry : Entry) : Machine μ :=
  { s with disk := Function.update s.disk key entry }

@[simp] theorem put_mem (key : Key) (entry : Entry) : (s.put key entry).mem = s.mem := rfl

@[simp] theorem put_disk (key : Key) (entry : Entry) :
    (s.put key entry).disk = Function.update s.disk key entry := rfl

end Machine

abbrev Action (μ α : Type) := Prog (Machine μ) Output α

/-! ## Writing -/

/-- How one call of `atomic_write` turns out. -/
inductive SaveOutcome where
  | stored
  /-- It returns false with the file as it was; an exception prints its text. -/
  | failed (what : Option Bytes)
  /-- It returns true, but the file is as it was. -/
  | lost
  /-- It returns true, but the path holds something else. -/
  | replaced (entry : Entry)
  | killedBefore
  | killedAfter
  deriving DecidableEq

namespace SaveOutcome

def returned : SaveOutcome → Option Bool
  | .stored | .lost | .replaced _ => some true
  | .failed _ => some false
  | .killedBefore | .killedAfter => none

def leaves (data : Bytes) (old : Entry) : SaveOutcome → Entry
  | .stored | .killedAfter => .file data
  | .failed _ | .lost | .killedBefore => old
  | .replaced entry => entry

/-- The outcomes of a save that either takes effect or fails without one. -/
def AllOrNothing : SaveOutcome → Prop
  | .lost | .replaced _ => False
  | _ => True

theorem AllOrNothing.stored {outcome : SaveOutcome} (h : outcome.AllOrNothing)
    (hret : outcome.returned = some true) : outcome = .stored := by
  cases outcome with
  | stored => rfl
  | lost => exact h.elim
  | replaced entry => exact h.elim
  | failed | killedBefore | killedAfter => cases hret

theorem failed_of_returned {outcome : SaveOutcome} (hret : outcome.returned = some false) :
    ∃ what, outcome = .failed what := by
  cases outcome with
  | failed what => exact ⟨what, rfl⟩
  | stored | lost | replaced | killedBefore | killedAfter => cases hret

theorem leaves_cases (outcome : SaveOutcome) (data : Bytes) (old : Entry) :
    (outcome = .stored ∨ outcome = .killedAfter) ∧ outcome.leaves data old = .file data ∨
      (∃ entry, outcome = .replaced entry ∧ outcome.leaves data old = entry) ∨
      (outcome ≠ .stored ∧ outcome ≠ .killedAfter ∧ ∀ entry, outcome ≠ .replaced entry) ∧
        outcome.leaves data old = old := by
  cases outcome with
  | stored => exact .inl ⟨.inl rfl, rfl⟩
  | killedAfter => exact .inl ⟨.inr rfl, rfl⟩
  | replaced entry => exact .inr (.inl ⟨entry, rfl, rfl⟩)
  | failed | lost | killedBefore => exact .inr (.inr ⟨by simp, rfl⟩)

theorem AllOrNothing.leaves_cases {outcome : SaveOutcome} (h : outcome.AllOrNothing)
    (data : Bytes) (old : Entry) :
    (outcome = .stored ∨ outcome = .killedAfter) ∧ outcome.leaves data old = .file data ∨
      (outcome ≠ .stored ∧ outcome ≠ .killedAfter) ∧ outcome.leaves data old = old := by
  rcases outcome.leaves_cases data old with htaken | ⟨entry, rfl, -⟩ | ⟨⟨hs, hk, -⟩, hold⟩
  · exact .inl htaken
  · exact h.elim
  · exact .inr ⟨⟨hs, hk⟩, hold⟩

end SaveOutcome

namespace Store

variable {μ : Type} (P : Platform)

/-- The effect of `atomic_write` under a given outcome. -/
def atomicWrite (outcome : SaveOutcome) (key : Key) (data : Bytes) : Action μ Bool := do
  match outcome with
  | .failed (some what) => Prog.emit (.stderr (bytes "Atomic write failed: " ++ what))
  | _ => pure ()
  Prog.atomically fun s ↦ (outcome.returned, s.put key (outcome.leaves data (s.disk key)))

def envelope (value : Bytes) : Throws Bytes :=
  P.json.dump 4 (Json.ofFields [("type", .string (bytes "string")), ("value", .string value)])

/-- `Store::save<std::string>` -/
def save (outcome : SaveOutcome) (key : Key) (value : Bytes) : Action μ (Throws Bool) := do
  match envelope P value with
  | .error e => return .error e
  | .ok data => return .ok (← atomicWrite outcome key data)

/-! ## Reading -/

/-- `read_from_file`: a file that cannot be opened reads as empty. -/
def readFromFile : Entry → Bytes
  | .file data => data
  | _ => []

/-- The body of the `try` block of `load`. -/
def openEnvelope (data : Bytes) : Throws (Option Bytes) := do
  let j ← P.json.parse data
  match ← j.subscript "type" with
  | .string kind =>
      if kind = bytes "string" then
        return some (← (← j.subscript "value").getString)
      else return none
  | _ => return none

/-- `Store::load<std::string>`.  `file_exists` is outside the `try` block. -/
def load (key : Key) : Action μ (Throws (Option Bytes)) := do
  match (← Prog.get).disk key with
  | .absent => return .ok none
  | .inaccessible what => return .error ⟨what⟩
  | entry =>
      match openEnvelope P (readFromFile entry) with
      | .ok value => return .ok value
      | .error e =>
          Prog.emit (.stderr (bytes ("Failed to load key " ++ key.name ++ ": ") ++ e.what))
          return .ok none

/-- What `load` gives for an entry, without its output. -/
def loaded : Entry → Throws (Option Bytes)
  | .absent => .ok none
  | .inaccessible what => .error ⟨what⟩
  | entry =>
      match openEnvelope P (readFromFile entry) with
      | .ok value => .ok value
      | .error _ => .ok none

/-! ## Removing -/

/-- How one call of `std::filesystem::remove` turns out. -/
inductive RemoveOutcome where
  | done
  | threw (what : Bytes)
  deriving DecidableEq

/-- It returns whether there was a file; an exception is printed, and false returned. -/
def remove (outcome : RemoveOutcome) (key : Key) : Action μ Bool := do
  match outcome with
  | .threw what =>
      Prog.emit (.stderr (bytes ("Failed to remove key " ++ key.name ++ ": ") ++ what))
      return false
  | .done =>
      Prog.atomically fun s ↦ (some (decide (s.disk key ≠ .absent)), s.put key .absent)

namespace RemoveOutcome

def returned (old : Entry) : RemoveOutcome → Bool
  | .done => decide (old ≠ .absent)
  | .threw _ => false

def leaves (old : Entry) : RemoveOutcome → Entry
  | .done => .absent
  | .threw _ => old

end RemoveOutcome

/-! ## Directories -/

/-- How one call of `create_directory` finds its path. -/
inductive DirOutcome where
  | present
  | created (made : Bool)
  | threw (what : Bytes)
  deriving DecidableEq

def DirOutcome.usable : DirOutcome → Bool
  | .present => true
  | .created made => made
  | .threw _ => false

def createDirectory (outcome : DirOutcome) : Action μ Bool := do
  match outcome with
  | .threw what => Prog.emit (.stderr (bytes "Failed to create directory: " ++ what))
  | _ => pure ()
  return outcome.usable

/-- `Store::initialize`: the root directory, then the service's own. -/
def initializeStore (root service : DirOutcome) : Action μ Bool := do
  if !(← createDirectory root) then return false
  else if !(← createDirectory service) then return false
  else return true

section Equations

variable (s : Machine μ)

@[simp] theorem atomicWrite_val (outcome : SaveOutcome) (key : Key) (data : Bytes) :
    (atomicWrite outcome key data s).val = outcome.returned := by
  unfold atomicWrite
  split <;> simp

@[simp] theorem atomicWrite_state (outcome : SaveOutcome) (key : Key) (data : Bytes) :
    (atomicWrite outcome key data s).state =
      s.put key (outcome.leaves data (s.disk key)) := by
  unfold atomicWrite
  split <;> simp

@[simp] theorem load_val (key : Key) :
    (load P key s).val = some (loaded P (s.disk key)) := by
  simp only [load, Prog.bind_val, Prog.get_val, Prog.get_state, Option.bind_some]
  cases s.disk key with
  | absent => rfl
  | inaccessible what => rfl
  | file data => cases h : openEnvelope P (readFromFile (.file data)) <;> simp [loaded, h]
  | unreadable => cases h : openEnvelope P (readFromFile .unreadable) <;> simp [loaded, h]

@[simp] theorem load_state (key : Key) : (load P key s).state = s := by
  simp only [load, Prog.bind_state, Prog.get_val, Prog.get_state, Option.elim_some]
  cases s.disk key with
  | absent => rfl
  | inaccessible what => rfl
  | file data => cases h : openEnvelope P (readFromFile (.file data)) <;> simp [h]
  | unreadable => cases h : openEnvelope P (readFromFile .unreadable) <;> simp [h]

@[simp] theorem remove_val (outcome : RemoveOutcome) (key : Key) :
    (remove outcome key s).val = some (outcome.returned (s.disk key)) := by
  cases outcome with
  | done => rfl
  | threw what => rfl

@[simp] theorem remove_state (outcome : RemoveOutcome) (key : Key) :
    (remove outcome key s).state = s.put key (outcome.leaves (s.disk key)) := by
  cases outcome with
  | done => rfl
  | threw what =>
      simp [remove, RemoveOutcome.leaves, Machine.put]

@[simp] theorem createDirectory_val (outcome : DirOutcome) :
    (createDirectory outcome s).val = some outcome.usable := by
  unfold createDirectory
  split <;> simp

@[simp] theorem createDirectory_state (outcome : DirOutcome) :
    (createDirectory outcome s).state = s := by
  unfold createDirectory
  split <;> simp

@[simp] theorem initializeStore_val (root service : DirOutcome) :
    (initializeStore root service s).val = some (root.usable && service.usable) := by
  cases hroot : root.usable <;> cases hservice : service.usable <;>
    simp [initializeStore, hroot, hservice]

@[simp] theorem initializeStore_state (root service : DirOutcome) :
    (initializeStore root service s).state = s := by
  cases hroot : root.usable <;> cases hservice : service.usable <;>
    simp [initializeStore, hroot, hservice]

end Equations

/-! ## What was saved is loaded -/

section Lawful

variable {P : Platform} (hP : P.json.Lawful) {value data : Bytes}
include hP

theorem exists_envelope (h : Utf8 value) : ∃ data, envelope P value = .ok data := by
  apply hP.exists_dump
  · apply Json.plain_ofFields
    simp [Json.Plain]
  · apply Json.utf8_ofFields
    simpa [Json.Utf8] using h

theorem openEnvelope_envelope (h : envelope P value = .ok data) :
    openEnvelope P data = .ok (some value) := by
  have hparse : P.json.parse data = .ok (Json.ofFields
      [("type", .string (bytes "string")), ("value", .string value)]) := by
    apply hP.parse_of_dump _ h
    apply Json.plain_ofFields
    simp [Json.Plain]
  simp [openEnvelope, hparse, Json.subscript_ofFields, Json.lookup_cons_ite]

theorem loaded_envelope (h : envelope P value = .ok data) :
    loaded P (.file data) = .ok (some value) := by
  simp [loaded, readFromFile, openEnvelope_envelope hP h]

end Lawful

end Store

end TboxProv
