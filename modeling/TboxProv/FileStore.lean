import TboxProv.AtomicWrite
import TboxProv.Crash.Trace
import TboxProv.Runs

/-!
# The store over files

`Store` as the code has it: a key is a file of the service's directory, a value is wrapped in
JSON and written by `atomic_write`.  What a caller may think of it is a table with a cell for
every key.
-/

namespace TboxProv.FileStore

open Crash StoreFile ProvService

/-- A key names a file: it has no slash and no zero byte. -/
structure Name where
  text : Bytes
  plain : 47 ∉ text ∧ 0 ∉ text
  deriving DecidableEq

/-- `service_path_ + "/" + key + ".json"` -/
def Name.path (dir : Bytes) (key : Name) : Bytes :=
  dir ++ bytes "/" ++ key.text ++ bytes ".json"

/-- What is asked of the store, with the outside of the call. -/
inductive Request where
  | save (outcome : WriteOutcome) (key : Name) (value : Bytes)
  | load (key : Name)
  | keyExists (key : Name)
  | remove (outcome : Store.RemoveOutcome) (key : Name)

inductive Reply where
  | threw (e : Exception)
  | flag (b : Bool)
  | value (v : Option Bytes)
  /-- The process was killed. -/
  | died
  deriving DecidableEq

/-! ## The code -/

section Code

variable (P : Platform) (dir : Bytes)

/-- `Store::file_exists` -/
def fileExists (path : Bytes) : FileAction (Throws Bool) := do
  match (← Prog.get) path with
  | .absent => return .ok false
  | .inaccessible what => return .error ⟨what⟩
  | _ => return .ok true

/-- `Store::save<std::string>` -/
def save (outcome : WriteOutcome) (key : Name) (value : Bytes) :
    FileAction (Throws Bool) := do
  match Store.envelope P value with
  | .error e => return .error e
  | .ok data => return .ok (← atomicWrite outcome (key.path dir) data)

/-- The `try` block of `load` with its handler. -/
def readKey (key : Name) : FileAction (Option Bytes) := do
  let entry := (← Prog.get) (key.path dir)
  match Store.openEnvelope P (Store.readFromFile entry) with
  | .ok value => return value
  | .error e =>
      Prog.emit (.stderr (bytes "Failed to load key " ++ key.text ++ bytes ": " ++ e.what))
      return none

/-- `Store::load<std::string>` -/
def load (key : Name) : FileAction (Throws (Option Bytes)) := do
  match ← fileExists (key.path dir) with
  | .error e => return .error e
  | .ok false => return .ok none
  | .ok true => return .ok (← readKey P dir key)

/-- `Store::remove` -/
def remove (outcome : Store.RemoveOutcome) (key : Name) : FileAction Bool := do
  match outcome with
  | .threw what =>
      Prog.emit
        (.stderr (bytes "Failed to remove key " ++ key.text ++ bytes ": " ++ what))
      return false
  | .done =>
      Prog.atomically fun files ↦
        (some (decide (files (key.path dir) ≠ .absent)),
          Function.update files (key.path dir) .absent)

def Reply.ofFlag : Throws Bool → Reply
  | .error e => .threw e
  | .ok b => .flag b

def Reply.ofValue : Throws (Option Bytes) → Reply
  | .error e => .threw e
  | .ok v => .value v

/-- A call from its start to its end. -/
def serve : Request → FileAction Reply
  | .save outcome key value => return .ofFlag (← save P dir outcome key value)
  | .load key => return .ofValue (← load P dir key)
  | .keyExists key => return .ofFlag (← fileExists (key.path dir))
  | .remove outcome key => return .flag (← remove dir outcome key)

end Code

/-! ## The paths -/

theorem Name.ext {key key' : Name} (h : key.text = key'.text) : key = key' := by
  cases key
  cases key'
  cases h
  rfl

theorem Name.path_injective (dir : Bytes) : Function.Injective (Name.path dir) := by
  intro key key' h
  apply Name.ext
  simpa [Name.path] using h

/-- Keys and temporary files end differently. -/
theorem Name.not_isTemp (dir path : Bytes) (key : Name) : ¬ IsTemp path (key.path dir) := by
  apply not_isTemp_of_getLast?
  rw [Name.path, List.getLast?_append]
  rfl

/-! ## The table -/

/-- What a key holds. -/
inductive Cell where
  | absent
  | value (v : Bytes)
  /-- A file that no value can be read from. -/
  | unreadable
  | inaccessible (what : Bytes)
  deriving DecidableEq

abbrev Table := Name → Cell

namespace Cell

def loaded : Cell → Reply
  | .value v => .value (some v)
  | .absent | .unreadable => .value none
  | .inaccessible what => .threw ⟨what⟩

def found : Cell → Reply
  | .absent => .flag false
  | .inaccessible what => .threw ⟨what⟩
  | .value _ | .unreadable => .flag true

end Cell

/-- What a caller asks of the table. -/
inductive Query where
  | save (key : Name) (value : Bytes)
  | load (key : Name)
  | keyExists (key : Name)
  | remove (key : Name)
  deriving DecidableEq

def Request.query : Request → Query
  | .save _ key value => .save key value
  | .load key => .load key
  | .keyExists key => .keyExists key
  | .remove _ key => .remove key

/-- What may come of a query, all at once. -/
inductive Performs (t : Table) : Query → Reply → Table → Prop
  | saved {key : Name} {value : Bytes} (h : Utf8 value) :
      Performs t (.save key value) (.flag true) (Function.update t key (.value value))
  | notSaved {key : Name} {value : Bytes} : Performs t (.save key value) (.flag false) t
  | diedBefore {key : Name} {value : Bytes} : Performs t (.save key value) .died t
  | diedAfter {key : Name} {value : Bytes} (h : Utf8 value) :
      Performs t (.save key value) .died (Function.update t key (.value value))
  | notText {key : Name} {value : Bytes} {e : Exception} (h : ¬ Utf8 value) :
      Performs t (.save key value) (.threw e) t
  | load {key : Name} : Performs t (.load key) (t key).loaded t
  | keyExists {key : Name} : Performs t (.keyExists key) (t key).found t
  | removed {key : Name} :
      Performs t (.remove key) (.flag (decide (t key ≠ .absent))) (Function.update t key .absent)
  | notRemoved {key : Name} : Performs t (.remove key) (.flag false) t

/-! ## The table of a directory -/

section View

variable (P : Platform) (dir : Bytes)

def cellOf : Entry → Cell
  | .absent => .absent
  | .inaccessible what => .inaccessible what
  | entry =>
      match Store.openEnvelope P (Store.readFromFile entry) with
      | .ok (some value) => .value value
      | _ => .unreadable

def tableOf (files : Files) : Table := fun key ↦ cellOf P (files (key.path dir))

variable {P dir}

theorem cellOf_eq_absent_iff {entry : Entry} : cellOf P entry = .absent ↔ entry = .absent := by
  cases entry with
  | absent => simp [cellOf]
  | inaccessible what => simp [cellOf]
  | file data => simp only [cellOf]; split <;> simp
  | unreadable => simp only [cellOf]; split <;> simp

theorem found_cellOf (entry : Entry) :
    (cellOf P entry).found = match entry with
      | .absent => .flag false
      | .inaccessible what => .threw ⟨what⟩
      | _ => .flag true := by
  cases entry with
  | absent | inaccessible => rfl
  | file data => simp only [cellOf]; split <;> rfl
  | unreadable => simp only [cellOf]; split <;> rfl

theorem cellOf_envelope (hP : P.json.Lawful) {value data : Bytes}
    (h : Store.envelope P value = .ok data) : cellOf P (.file data) = .value value := by
  simp [cellOf, Store.readFromFile, Store.openEnvelope_envelope hP h]

theorem utf8_of_envelope (hP : P.json.Lawful) {value data : Bytes}
    (h : Store.envelope P value = .ok data) : Utf8 value :=
  Json.utf8_member (hP.utf8_of_dump h) "value" (by simp)

/-- A key's cell is as the others leave it. -/
theorem tableOf_congr {files files' : Files} {key : Name}
    (h : ∀ key' ≠ key, files' (Name.path dir key') = files (Name.path dir key')) :
    tableOf P dir files' =
      Function.update (tableOf P dir files) key (cellOf P (files' (key.path dir))) := by
  funext key'
  by_cases hkey : key' = key
  · subst hkey
    rw [Function.update_self, tableOf]
  · rw [Function.update_of_ne hkey, tableOf, tableOf, h key' hkey]

/-- What `read_from_file` and the parser make of an entry that `file_exists` has let pass. -/
theorem readKey_val (hempty : ∃ e, P.json.parse [] = .error e) {files : Files} {key : Name}
    (haccess : ∀ what, files (key.path dir) ≠ .inaccessible what) :
    (readKey P dir key files).val.map Reply.value = some (tableOf P dir files key).loaded := by
  obtain ⟨e, hparse⟩ := hempty
  simp only [readKey, Prog.bind_val, Prog.get_val, Prog.get_state, Option.bind_some, tableOf]
  cases hentry : files (key.path dir) with
  | absent => simp [Store.readFromFile, Store.openEnvelope, hparse, cellOf, Cell.loaded]
  | inaccessible what => exact absurd hentry (haccess what)
  | file data =>
      simp only [cellOf]
      rcases Store.openEnvelope P (Store.readFromFile (.file data)) with _ | _ | _ <;>
        simp [Cell.loaded]
  | unreadable =>
      simp only [cellOf]
      rcases Store.openEnvelope P (Store.readFromFile .unreadable) with _ | _ | _ <;>
        simp [Cell.loaded]

@[simp] theorem readKey_state (key : Name) (files : Files) :
    (readKey P dir key files).state = files := by
  simp only [readKey, Prog.bind_state, Prog.get_val, Prog.get_state, Option.elim_some]
  cases Store.openEnvelope P (Store.readFromFile (files (key.path dir))) <;> simp

end View

/-! ## The four keys -/

/-- The file of a key of the service. -/
def Name.ofKey (key : Key) : Name := ⟨bytes key.name, by cases key <;> decide⟩

theorem path_ofKey (dir : Bytes) (key : Key) : (Name.ofKey key).path dir = keyPath dir key := rfl

/-- A request on files that the service makes. -/
inductive KeyRequest where
  | save (outcome : WriteOutcome) (key : Key) (value : Bytes)
  | load (key : Key)
  | remove (outcome : Store.RemoveOutcome) (key : Key)

/-- The same on a disk. -/
inductive DiskRequest where
  | save (outcome : SaveOutcome) (key : Key) (value : Bytes)
  /-- The process is killed before it has the answer. -/
  | lastSave (outcome : SaveOutcome) (key : Key) (value : Bytes)
  | load (key : Key)
  | remove (outcome : Store.RemoveOutcome) (key : Key)

def KeyRequest.request : KeyRequest → Request
  | .save outcome key value => .save outcome (.ofKey key) value
  | .load key => .load (.ofKey key)
  | .remove outcome key => .remove outcome (.ofKey key)

/-- The file that is renamed holds the wrapped value and nothing else. -/
def WholeSave (P : Platform) (outcome : WriteOutcome) (value : Bytes) : Prop :=
  ∀ data, Store.envelope P value = .ok data → outcome.Renames → outcome.written data = data

/-- A disk request stands for a request on files. -/
inductive StandsFor (P : Platform) : KeyRequest → DiskRequest → Prop
  | save {outcome : WriteOutcome} {saved : SaveOutcome} {key : Key} {value : Bytes}
      (hwhole : WholeSave P outcome value → saved.AllOrNothing) :
      StandsFor P (.save outcome key value) (.save saved key value)
  | lastSave {outcome : WriteOutcome} {saved : SaveOutcome} {key : Key} {value : Bytes}
      (hkilled : outcome.killed = some .renamed)
      (hwhole : WholeSave P outcome value → saved.AllOrNothing) :
      StandsFor P (.save outcome key value) (.lastSave saved key value)
  | load {key : Key} : StandsFor P (.load key) (.load key)
  | remove {outcome : Store.RemoveOutcome} {key : Key} :
      StandsFor P (.remove outcome key) (.remove outcome key)

section Disk

variable (P : Platform) (dir : Bytes)

def serveDisk : DiskRequest → Action Unit Reply
  | .save outcome key value => return .ofFlag (← Store.save P outcome key value)
  | .lastSave outcome key value => do
      let _ ← Store.save P outcome key value
      Prog.atomically fun s ↦ (none, s)
  | .load key => return .ofValue (← Store.load P key)
  | .remove outcome key => return .flag (← Store.remove outcome key)

/-- The answer is the reply, if the process lives to give it, and what has been printed. -/
def fileStep (request : KeyRequest) (files : Files) : (Option Reply × List Output) × Files :=
  let after := serve P dir request.request files
  ((after.val, after.out), after.state)

def diskStep (request : DiskRequest) (s : Machine Unit) :
    (Option Reply × List Output) × Machine Unit :=
  let after := serveDisk P request s
  ((after.val, after.out), after.state)

def diskView (files : Files) : Machine Unit := ⟨diskOf dir files, ()⟩

theorem diskStep_save (outcome : WriteOutcome) (key : Key) (value : Bytes) (files : Files) :
    ∃ request, StandsFor P (.save outcome key value) request ∧
      diskStep P request (diskView dir files) =
        ((fileStep P dir (.save outcome key value) files).1,
          diskView dir (fileStep P dir (.save outcome key value) files).2) := by
  cases hdata : Store.envelope P value with
  | error e =>
      refine ⟨.save .stored key value, .save fun _ ↦ trivial, ?_⟩
      simp [diskStep, fileStep, serveDisk, serve, Store.save, save, KeyRequest.request, hdata]
  | ok data =>
  have hview : ∀ saved, Leaves outcome dir key data files () saved →
      diskView dir (atomicWrite outcome (keyPath dir key) data files).state =
        (Store.atomicWrite saved key data (diskView dir files)).state :=
    fun _ hleaves ↦ congrArg (Machine.mk · ()) hleaves.disk
  by_cases hother : outcome.killed = some .renamed ∧
      outcome.RenamesOther (files (keyPath dir key)) data
  case neg =>
    have hsave : ∃ saved, Refines outcome dir key data files () saved ∧
        (¬ outcome.RenamesOther (files (keyPath dir key)) data → saved.AllOrNothing) :=
      exists_saveOutcome () fun hkilled h ↦ hother ⟨hkilled, h⟩
    obtain ⟨saved, hrefines, hsaved⟩ := hsave
    refine ⟨.save saved key value, .save ?_, ?_⟩
    · intro hwhole
      exact hsaved fun h ↦ h.other (hwhole data hdata h.renames)
    · simp only [diskStep, fileStep, serveDisk, serve, Store.save, save, KeyRequest.request,
        hdata, Prog.bind_pure_bind_pure, Prog.bind_pure_val, Prog.bind_pure_state,
        Prog.bind_pure_out, path_ofKey, hrefines.val, hrefines.out, hview saved hrefines.toLeaves]
      rfl
  case pos =>
    obtain ⟨hkilled, hother⟩ := hother
    obtain ⟨hval, hleaves⟩ : (atomicWrite outcome (keyPath dir key) data files).val = none ∧
        Leaves outcome dir key data files () (.replaced (.file (outcome.written data))) :=
      leaves_of_killed () hkilled hother.renames
    refine ⟨.lastSave (.replaced (.file (outcome.written data))) key value, .lastSave hkilled ?_,
      ?_⟩
    · intro hwhole
      exact absurd (hwhole data hdata hother.renames) hother.other
    · simp only [diskStep, fileStep, serveDisk, serve, Store.save, save, KeyRequest.request,
        hdata, Prog.bind_pure_bind_pure, Prog.bind_pure_val, Prog.bind_pure_state,
        Prog.bind_pure_out, path_ofKey, hval, hleaves.out, hview _ hleaves]
      simp [Prog.bind_assoc, SaveOutcome.returned, diskView]

variable {P}

theorem diskOf_update (key : Key) (files : Files) (entry : Entry) :
    diskOf dir (Function.update files (keyPath dir key) entry) =
      Function.update (diskOf dir files) key entry := by
  funext key'
  by_cases hkey : key' = key
  · subst hkey
    simp [diskOf]
  · have hpath : keyPath dir key' ≠ keyPath dir key := fun h ↦ hkey (keyPath_injective dir h)
    simp [diskOf, hkey, hpath]

theorem diskStep_load (key : Key) (files : Files) :
    diskStep P (.load key) (diskView dir files) =
      ((fileStep P dir (.load key) files).1,
        diskView dir (fileStep P dir (.load key) files).2) := by
  have htext : (Name.ofKey key).text = bytes key.name := rfl
  simp only [diskStep, fileStep, serveDisk, serve, Store.load, load, KeyRequest.request, path_ofKey,
    Prog.bind_val, Prog.bind_state, Prog.bind_out, Prog.get_val, Prog.get_state, Prog.get_out,
    Option.bind_some, Option.elim_some, fileExists, readKey, diskView, diskOf]
  cases hentry : files (keyPath dir key) with
  | absent => rfl
  | inaccessible what => rfl
  | file data =>
      cases hopen : Store.openEnvelope P (Store.readFromFile (.file data)) <;>
        simp [hentry, hopen, htext, bytes_append]
  | unreadable =>
      cases hopen : Store.openEnvelope P (Store.readFromFile .unreadable) <;>
        simp [hentry, hopen, htext, bytes_append]

theorem diskStep_remove (outcome : Store.RemoveOutcome) (key : Key) (files : Files) :
    diskStep P (.remove outcome key) (diskView dir files) =
      ((fileStep P dir (.remove outcome key) files).1,
        diskView dir (fileStep P dir (.remove outcome key) files).2) := by
  cases outcome with
  | threw what =>
      simp [diskStep, fileStep, serveDisk, serve, Store.remove, remove, KeyRequest.request,
        Name.ofKey, bytes_append]
  | done =>
      have hentry : diskOf dir files key = files (keyPath dir key) := rfl
      by_cases habsent : files (keyPath dir key) = .absent <;>
        simp [diskStep, fileStep, serveDisk, serve, Store.remove, remove, KeyRequest.request,
          path_ofKey, diskView, diskOf_update, Machine.put, hentry, habsent]

/-- What a run of the store's calls does to its directory, and what it answers and prints,
is what a run of the same calls on a disk does; where every save is whole, the saves on the
disk are all or nothing. -/
theorem file_run_is_disk_run (requests : List KeyRequest) (files : Files) :
    ∃ on, List.Forall₂ (StandsFor P) requests on ∧
      trace (diskStep P) on (diskView dir files) =
        ((trace (fileStep P dir) requests files).1,
          diskView dir (trace (fileStep P dir) requests files).2) := by
  have hstep : ∀ request files, True →
      ∃ on, StandsFor P request on ∧
        diskStep P on (diskView dir files) =
          ((fileStep P dir request files).1, diskView dir (fileStep P dir request files).2) := by
    intro request files _
    cases request with
    | save outcome key value => exact diskStep_save P dir outcome key value files
    | load key => exact ⟨_, .load, diskStep_load dir key files⟩
    | remove outcome key => exact ⟨_, .remove, diskStep_remove dir outcome key files⟩
  exact exists_trace hstep (fun _ _ ↦ trivial) files

end Disk

end TboxProv.FileStore
