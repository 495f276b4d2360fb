import TboxProv.ErrorCode
import TboxProv.Records

/-!
# Protected storage

`ProtectedStorageImpl`: the four records over one store, and the cached
write-protection flag.  Its memory is the flag; the records live on the disk.
-/

namespace TboxProv

open Crash

structure ProtectedStorageImpl where
  writeProtected : Bool := false
  deriving DecidableEq

namespace ProtectedStorageImpl

open Store

abbrev StorageAction (α : Type) := Action ProtectedStorageImpl α

variable (P : Platform)

/-- `ProtectedStorageImpl::initialize` -/
def initializeStorage (root service : DirOutcome) : StorageAction ErrorCode := do
  if !(← initializeStore root service) then return .storageError
  else
    match ← load P .protection with
    | .error e =>
        Prog.emit (.stderr (bytes "Storage initialization failed: " ++ e.what))
        return .storageError
    | .ok (some data) =>
        Prog.modify fun s ↦ { s with mem := ⟨data == bytes "1"⟩ }
        return .success
    | .ok none => return .success

/-! ## Reading -/

def readVehicleBinding : StorageAction (Option VehicleBinding) := do
  Prog.emit (.stdout (bytes "[storage] read_vehicle_binding called"))
  match ← load P .binding with
  | .error e =>
      Prog.emit (.stderr (bytes "[storage] Failed to read vehicle binding: " ++ e.what))
      return none
  | .ok none =>
      Prog.emit (.stdout (bytes "[storage] load result: nullopt"))
      return none
  | .ok (some data) =>
      Prog.emit (.stdout (bytes "[storage] load result: has_value"))
      Prog.emit (.stdout (bytes "[storage] raw data: \"" ++ data ++ bytes "\""))
      match deserializeBinding P data with
      | .error e =>
          Prog.emit (.stderr (bytes "[storage] Failed to read vehicle binding: " ++ e.what))
          return none
      | .ok result =>
          Prog.emit (.stdout
            (bytes "[storage] deserialize ok, vin=\"" ++ result.vin ++ bytes "\""))
          return some result

/-- The reads of the other two records differ in key, deserializer and message. -/
def readRecord {α : Type} (key : Key) (deserialize : Bytes → Throws α) (message : String) :
    StorageAction (Option α) := do
  match ← load P key with
  | .error e =>
      Prog.emit (.stderr (bytes message ++ e.what))
      return none
  | .ok none => return none
  | .ok (some data) =>
      match deserialize data with
      | .error e =>
          Prog.emit (.stderr (bytes message ++ e.what))
          return none
      | .ok record => return some record

def readVehicleConfig : StorageAction (Option VehicleConfig) :=
  readRecord P .config (deserializeConfig P) "Failed to read vehicle config: "

def readProductionInfo : StorageAction (Option ProductionInfo) :=
  readRecord P .productionInfo (deserializeProductionInfo P) "Failed to read production info: "

/-! ## Writing -/

/-- The writes of the three records differ in key, serializer and message. -/
def writeRecord (outcome : SaveOutcome) (key : Key) (serialized : Throws Bytes)
    (message : String) : StorageAction ErrorCode := do
  if (← Prog.get).mem.writeProtected then return .securityAccessNotGranted
  else
    match serialized with
    | .error e =>
        Prog.emit (.stderr (bytes message ++ e.what))
        return .storageError
    | .ok data =>
        match ← save P outcome key data with
        | .error e =>
            Prog.emit (.stderr (bytes message ++ e.what))
            return .storageError
        | .ok saved => if saved then return .success else return .storageError

def writeVehicleBinding (outcome : SaveOutcome) (binding : VehicleBinding) :
    StorageAction ErrorCode :=
  writeRecord P outcome .binding (serializeBinding P binding)
    "Failed to write vehicle binding: "

def writeVehicleConfig (outcome : SaveOutcome) (config : VehicleConfig) :
    StorageAction ErrorCode :=
  writeRecord P outcome .config (serializeConfig P config) "Failed to write vehicle config: "

def writeProductionInfo (outcome : SaveOutcome) (info : ProductionInfo) :
    StorageAction ErrorCode :=
  writeRecord P outcome .productionInfo (serializeProductionInfo P info)
    "Failed to write production info: "

def flagText (locked : Bool) : Bytes := if locked then bytes "1" else bytes "0"

/-- Unlike the record writes, this one does not look at the flag it sets. -/
def setWriteProtection (outcome : SaveOutcome) (locked : Bool) : StorageAction ErrorCode := do
  match ← save P outcome .protection (flagText locked) with
  | .error e =>
      Prog.emit (.stderr (bytes "Failed to set write protection: " ++ e.what))
      return .storageError
  | .ok saved =>
      if saved then
        Prog.modify fun s ↦ { s with mem := ⟨locked⟩ }
        return .success
      else return .storageError

def isWriteProtected : StorageAction Bool := do
  return (← Prog.get).mem.writeProtected

/-- What `remove` returns is not looked at, and it throws nothing that would reach the
handler here. -/
def clearAll (outcome : Key → RemoveOutcome) : StorageAction ErrorCode := do
  let _ ← remove (outcome .binding) .binding
  let _ ← remove (outcome .config) .config
  let _ ← remove (outcome .productionInfo) .productionInfo
  let _ ← remove (outcome .protection) .protection
  Prog.modify fun s ↦ { s with mem := ⟨false⟩ }
  return .success

/-! ## Specifications -/

section Equations

variable (s : Machine ProtectedStorageImpl)

@[simp] theorem readVehicleBinding_val :
    (readVehicleBinding P s).val = some (bindingIn P (s.disk .binding)) := by
  unfold readVehicleBinding bindingIn recordIn
  rcases hload : loaded P (s.disk .binding) with e | _ | data
  · simp [hload]
  · simp [hload]
  · cases hread : deserializeBinding P data <;> simp [hload, hread, Except.toOption]

@[simp] theorem readVehicleBinding_state : (readVehicleBinding P s).state = s := by
  unfold readVehicleBinding
  rcases hload : loaded P (s.disk .binding) with e | _ | data
  · simp [hload]
  · simp [hload]
  · cases hread : deserializeBinding P data <;> simp [hload, hread]

@[simp] theorem readRecord_val {α : Type} (key : Key) (deserialize : Bytes → Throws α)
    (message : String) :
    (readRecord P key deserialize message s).val =
      some (recordIn P deserialize (s.disk key)) := by
  unfold readRecord recordIn
  rcases hload : loaded P (s.disk key) with e | _ | data
  · simp [hload]
  · simp [hload]
  · cases hread : deserialize data <;> simp [hload, hread, Except.toOption]

@[simp] theorem readRecord_state {α : Type} (key : Key) (deserialize : Bytes → Throws α)
    (message : String) : (readRecord P key deserialize message s).state = s := by
  unfold readRecord
  rcases hload : loaded P (s.disk key) with e | _ | data
  · simp [hload]
  · simp [hload]
  · cases hread : deserialize data <;> simp [hload, hread]

theorem save_val (outcome : SaveOutcome) (key : Key) (value : Bytes) :
    (save P outcome key value s).val =
      match envelope P value with
      | .error e => some (.error e)
      | .ok _ => outcome.returned.map .ok := by
  unfold save
  cases henv : envelope P value with
  | error e => simp
  | ok data => cases hret : outcome.returned <;> simp [hret]

theorem save_state (outcome : SaveOutcome) (key : Key) (value : Bytes) :
    (save P outcome key value s).state =
      match envelope P value with
      | .error _ => s
      | .ok data => s.put key (outcome.leaves data (s.disk key)) := by
  unfold save
  cases henv : envelope P value with
  | error e => simp
  | ok data => cases hret : outcome.returned <;> simp [hret]

def savedCode (saved : Bool) : ErrorCode := if saved then .success else .storageError

section WriteRecord

variable (outcome : SaveOutcome) (key : Key) (serialized : Throws Bytes) (message : String)

theorem writeRecord_protected (h : s.mem.writeProtected = true) :
    (writeRecord P outcome key serialized message s).val = some .securityAccessNotGranted ∧
      (writeRecord P outcome key serialized message s).state = s := by
  simp [writeRecord, h]

theorem writeRecord_error (h : s.mem.writeProtected = false) {e : Exception}
    (hsealed : sealed P serialized = .error e) :
    (writeRecord P outcome key serialized message s).val = some .storageError ∧
      (writeRecord P outcome key serialized message s).state = s := by
  cases serialized with
  | error e' => simp [writeRecord, h]
  | ok data =>
      have henv : envelope P data = .error e := by simpa [sealed] using hsealed
      simp [writeRecord, h, save_val, save_state, henv]

theorem writeRecord_ok (h : s.mem.writeProtected = false) {content : Bytes}
    (hsealed : sealed P serialized = .ok content) :
    (writeRecord P outcome key serialized message s).val =
        outcome.returned.map savedCode ∧
      (writeRecord P outcome key serialized message s).state =
        s.put key (outcome.leaves content (s.disk key)) := by
  cases serialized with
  | error e => simp [sealed] at hsealed
  | ok data =>
      have henv : envelope P data = .ok content := by simpa [sealed] using hsealed
      rcases hret : outcome.returned with _ | saved
      · simp [writeRecord, h, save_val, save_state, henv, hret]
      · cases saved <;>
          simp [writeRecord, h, save_val, save_state, henv, hret, savedCode]

end WriteRecord

theorem setWriteProtection_ok (outcome : SaveOutcome) (locked : Bool) {content : Bytes}
    (henv : envelope P (flagText locked) = .ok content) :
    (setWriteProtection P outcome locked s).val = outcome.returned.map savedCode ∧
      (setWriteProtection P outcome locked s).state =
        { disk := Function.update s.disk .protection
            (outcome.leaves content (s.disk .protection))
          mem := if outcome.returned = some true then ⟨locked⟩ else s.mem } := by
  rcases hret : outcome.returned with _ | saved
  · simp [setWriteProtection, save_val, save_state, henv, hret, Machine.put]
  · cases saved <;>
      simp [setWriteProtection, save_val, save_state, henv, hret, savedCode, Machine.put]

theorem clearAll_val (outcome : Key → RemoveOutcome) :
    (clearAll outcome s).val = some .success := by
  simp [clearAll]

theorem clearAll_state (outcome : Key → RemoveOutcome) :
    (clearAll outcome s).state = ⟨fun key ↦ (outcome key).leaves (s.disk key), ⟨false⟩⟩ := by
  have hdisk : (clearAll outcome s).state.disk = fun key ↦ (outcome key).leaves (s.disk key) := by
    funext key
    cases key <;> simp [clearAll]
  have hmem : (clearAll outcome s).state.mem = ⟨false⟩ := by simp [clearAll]
  rw [← hdisk, ← hmem]

@[simp] theorem isWriteProtected_val :
    (isWriteProtected s).val = some s.mem.writeProtected := by
  simp [isWriteProtected]

@[simp] theorem isWriteProtected_state : (isWriteProtected s).state = s := by
  simp [isWriteProtected]

theorem initializeStorage_val (root service : DirOutcome) :
    (initializeStorage P root service s).val =
      if root.usable && service.usable then
        match loaded P (s.disk .protection) with
        | .error _ => some .storageError
        | .ok _ => some .success
      else some .storageError := by
  unfold initializeStorage
  cases hdirs : root.usable && service.usable with
  | false => simp [hdirs]
  | true => rcases hload : loaded P (s.disk .protection) with e | _ | data <;>
      simp [hdirs, hload]

theorem initializeStorage_disk (root service : DirOutcome) :
    (initializeStorage P root service s).state.disk = s.disk := by
  unfold initializeStorage
  cases hdirs : root.usable && service.usable with
  | false => simp [hdirs]
  | true => rcases hload : loaded P (s.disk .protection) with e | _ | data <;>
      simp [hdirs, hload]

/-- An `initialize` that succeeds leaves the flag as the record has it, unless the flag was
up without the record. -/
theorem initializeStorage_flag (root service : DirOutcome)
    (hraised : s.mem.writeProtected = true → protectedIn P (s.disk .protection) = true)
    (h : (initializeStorage P root service s).val = some .success) :
    (initializeStorage P root service s).state.mem =
      ⟨protectedIn P (s.disk .protection)⟩ := by
  rw [initializeStorage_val] at h
  unfold initializeStorage
  unfold protectedIn at hraised ⊢
  cases hdirs : root.usable && service.usable with
  | false => simp [hdirs] at h
  | true =>
      rcases hload : loaded P (s.disk .protection) with e | _ | data
      · simp [hdirs, hload] at h
      · have hdown : s.mem.writeProtected = false := by simpa [hload] using hraised
        have hmem : s.mem = ⟨false⟩ := congrArg ProtectedStorageImpl.mk hdown
        simp [hdirs, hload, hmem]
      · simp [hdirs, hload]

theorem initializeStorage_mem (root service : DirOutcome) (hfresh : s.mem = {})
    (h : (initializeStorage P root service s).val = some .success) :
    (initializeStorage P root service s).state.mem =
      ⟨protectedIn P (s.disk .protection)⟩ := by
  apply initializeStorage_flag P s root service _ h
  rw [hfresh]
  intro hraised
  cases hraised

theorem initializeStorage_failed (root service : DirOutcome)
    (h : (initializeStorage P root service s).val ≠ some .success) :
    (initializeStorage P root service s).state.mem = s.mem := by
  rw [initializeStorage_val] at h
  unfold initializeStorage
  cases hdirs : root.usable && service.usable with
  | false => simp [hdirs]
  | true =>
      rcases hload : loaded P (s.disk .protection) with e | _ | data
      · simp [hdirs, hload]
      · simp [hdirs, hload] at h
      · simp [hdirs, hload] at h

end Equations

end ProtectedStorageImpl

end TboxProv
