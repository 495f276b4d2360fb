import TboxProv.ProtectedStorage
import TboxProv.Providers
import TboxProv.VinValidator

/-!
# The provisioning service

`ProvService` over its storage.  Every public operation holds the service's
mutex for its whole length, so an operation is one program; what the call gets
from outside (provider results, outcomes of its saves, clock readings) is
collected in `Env`.
-/

namespace TboxProv

open Crash

/-- `hash_identifier`: the type, a dash, and sixteen hexadecimal digits. -/
def hashIdentifier (P : Platform) (type : String) (value : Bytes) : Bytes :=
  bytes (type ++ "-" ++
    String.ofList (List.leftpad 16 '0' (Nat.toDigits 16 (P.stdHash value).toNat)))

structure ProvServiceConfig where
  enableWriteProtection : Bool := true
  maxRetryCount : UInt32 := 3
  deriving DecidableEq

structure ProvService where
  config : ProvServiceConfig
  initialized : Bool := false
  /-- Reached only behind the `initialized` check. -/
  storage : ProtectedStorageImpl := {}
  shuttingDown : Bool := false
  deriving DecidableEq

/-- The outside of one call.  Saves and clock readings are numbered in order. -/
structure Env where
  uid : UidReadResult
  sn : SnReadResult := {}
  rootDir : Store.DirOutcome := .present
  serviceDir : Store.DirOutcome := .present
  save : ℕ → SaveOutcome := fun _ ↦ .stored
  clock : ℕ → TimePoint := fun _ ↦ 0

namespace ProvService

abbrev ServiceAction (α : Type) := Action ProvService α

def onStorage {α : Type} (p : ProtectedStorageImpl.StorageAction α) : ServiceAction α :=
  Prog.zoom (fun s ↦ ⟨s.disk, s.mem.storage⟩)
    (fun t s ↦ ⟨t.disk, { s.mem with storage := t.mem }⟩) p

def log (logger : String) (level : Level) (event message : String)
    (fields : List (String × FieldValue)) : ServiceAction Unit :=
  Prog.emit (.log logger level event message fields)

variable (P : Platform) (env : Env)

def hashVin (vin : Bytes) : FieldValue := .str (hashIdentifier P "vin" vin)
def hashEcuUid (ecuUid : Bytes) : FieldValue := .str (hashIdentifier P "uid" ecuUid)
def hashConfig (config : List UInt8) : FieldValue := .str (hashIdentifier P "cfg" config)
def hashBatch (batch : Bytes) : FieldValue := .str (hashIdentifier P "batch" batch)
def hashStation (station : Bytes) : FieldValue := .str (hashIdentifier P "station" station)
def text (s : String) : FieldValue := .str (bytes s)

/-! ## Lifecycle -/

/-- `ProvService::initialize`, with `initialize_storage`. -/
def initializeService : ServiceAction ErrorCode := do
  if (← Prog.get).mem.initialized then return .success
  else
    -- a new `ProtectedStorageImpl` each time
    Prog.modify fun s ↦ { s with mem := { s.mem with storage := {} } }
    let result ← onStorage
      (ProtectedStorageImpl.initializeStorage P env.rootDir env.serviceDir)
    if result ≠ .success then return result
    else
      Prog.modify fun s ↦ { s with mem := { s.mem with initialized := true } }
      return .success

def beginShutdown : ServiceAction Unit := do
  Prog.modify fun s ↦ { s with mem := { s.mem with shuttingDown := true } }
  log "service" .info "prov.service.shutdown_begin"
    "PROV service entering shutdown, rejecting new writes" []

def isInitialized : ServiceAction Bool := do
  return (← Prog.get).mem.initialized

/-! ## The binding flow -/

def validateVinFormat (vin : Bytes) : ServiceAction ErrorCode := do
  if !VinValidator.validate vin then
    log "vin" .warn "prov.vin.validation_failed" "VIN format validation failed"
      [("vin_hash", hashVin P vin), ("validation_reason", text "invalid_format")]
    return .invalidVinFormat
  else return .success

/-- The record that `establish_binding` prepares for its first write. -/
def newBinding (existing : Option VehicleBinding) (vin ecuUid : Bytes) : VehicleBinding :=
  let binding : VehicleBinding :=
    { vin, ecuUid, state := .vinWritten, locked := false, boundAt := env.clock 0,
      retryCount := 0, rewriteCount := 0 }
  match existing with
  | some old =>
      if old.vin = vin then
        { binding with rewriteCount := old.rewriteCount + 1, lastRewriteAt := env.clock 1 }
      else binding
  | none => binding

/-- Two saves: the record as `VIN_WRITTEN`, then as `BOUND`. -/
def establishBinding (vin ecuUid : Bytes) : ServiceAction ErrorCode := do
  let existing ← onStorage (ProtectedStorageImpl.readVehicleBinding P)
  let binding := newBinding env existing vin ecuUid
  let result ← onStorage (ProtectedStorageImpl.writeVehicleBinding P (env.save 0) binding)
  if result ≠ .success then return .vinWriteFailed
  else
    let binding := { binding with state := .bound }
    let result ← onStorage (ProtectedStorageImpl.writeVehicleBinding P (env.save 1) binding)
    if result ≠ .success then return .vinWriteFailed
    else
      log "binding" .info "prov.binding.created" "VIN-ECU binding established"
        [("vin_hash", hashVin P vin), ("ecu_uid_hash", hashEcuUid P ecuUid),
         ("binding_state", text binding.state.toString),
         ("rewrite_count", .int binding.rewriteCount.toNat)]
      return .success

/-- Only the VIN is compared. -/
def verifyWrite (expectedVin : Bytes) : ServiceAction ErrorCode := do
  match ← onStorage (ProtectedStorageImpl.readVehicleBinding P) with
  | none => return .readbackVerificationFailed
  | some binding =>
      if binding.vin ≠ expectedVin then
        log "binding" .error "prov.binding.readback_failed"
          "Binding readback verification failed"
          [("vin_hash", hashVin P expectedVin), ("ecu_uid_hash", hashEcuUid P binding.ecuUid),
           ("failure_stage", text "vin_mismatch")]
        return .readbackVerificationFailed
      else return .success

def finishVinBindingFlow (vin : Bytes) : ServiceAction ErrorCode := do
  let result ←
    if (← Prog.get).mem.config.enableWriteProtection then
      onStorage (ProtectedStorageImpl.setWriteProtection P (env.save 2) true)
    else pure .success
  if result ≠ .success then return result
  else
    log "vin" .info "prov.vin.write.succeeded" "VIN written successfully"
      [("vin_hash", hashVin P vin), ("duration_ms", .elapsed)]
    return .success

def executeVinBindingFlow (vin : Bytes) : ServiceAction ErrorCode := do
  if !env.uid.success then
    log "vin" .error "prov.uid.read_failed" "Failed to read ECU UID"
      [("error_message", .str env.uid.errorMessage), ("duration_ms", .elapsed)]
    -- the provider's code is passed on unchecked
    return env.uid.errorCode
  else
    let result ← establishBinding P env vin env.uid.uid
    if result ≠ .success then
      log "vin" .error "prov.vin.write.failed" "VIN write failed"
        [("vin_hash", hashVin P vin), ("failure_stage", text "establish_binding"),
         ("duration_ms", .elapsed)]
      return result
    else
      let result ← verifyWrite P vin
      if result ≠ .success then
        log "binding" .error "prov.binding.readback_failed"
          "Binding readback verification failed"
          [("vin_hash", hashVin P vin), ("ecu_uid_hash", hashEcuUid P env.uid.uid),
           ("failure_stage", text "verify_write"), ("duration_ms", .elapsed)]
        return result
      else finishVinBindingFlow P env vin

/-! ## Binding operations -/

def writeVin (vin : Bytes) : ServiceAction ErrorCode := do
  if !(← Prog.get).mem.initialized then return .invalidState
  else if (← Prog.get).mem.shuttingDown then return .invalidState
  else
    let result ← validateVinFormat P vin
    if result ≠ .success then return result
    else executeVinBindingFlow P env vin

def authorizeRewrite (newVin : Bytes) : ServiceAction ErrorCode := do
  if !(← Prog.get).mem.initialized then return .invalidState
  else if (← Prog.get).mem.shuttingDown then return .invalidState
  else
    let result ← validateVinFormat P newVin
    if result ≠ .success then return result
    else
      match ← onStorage (ProtectedStorageImpl.readVehicleBinding P) with
      | some binding =>
          if binding.locked ∧ newVin ≠ binding.vin then
            log "rewrite" .warn "prov.binding.rewrite_denied" "Unauthorized rewrite attempt"
              [("vin_hash", hashVin P newVin), ("current_vin_hash", hashVin P binding.vin),
               ("reason", text "vin_conflict"),
               ("rewrite_count", .int binding.rewriteCount.toNat)]
            return .vinConflictUnauthorized
          else executeVinBindingFlow P env newVin
      | none => executeVinBindingFlow P env newVin

def readVin : ServiceAction Bytes := do
  if !(← Prog.get).mem.initialized then return []
  else
    match ← onStorage (ProtectedStorageImpl.readVehicleBinding P) with
    | some binding => return binding.vin
    | none => return []

def readBinding : ServiceAction VehicleBinding := do
  if !(← Prog.get).mem.initialized then return {}
  else
    match ← onStorage (ProtectedStorageImpl.readVehicleBinding P) with
    | none => return {}
    | some binding =>
        if !binding.sn.isEmpty then return binding
        else if env.sn.success then return { binding with sn := env.sn.sn }
        else
          log "binding" .error "prov.sn.read_failed" "Failed to read TBOX SN"
            [("sn_source", .str env.sn.snSource), ("environment", .str env.sn.environment),
             ("failure_stage", .str env.sn.failureStage), ("duration_ms", .elapsed),
             ("error_code", text ErrorCode.snUnavailable.toString)]
          return binding

def getProvisionState : ServiceAction ProvisionState := do
  if !(← Prog.get).mem.initialized then return .none
  else
    match ← onStorage (ProtectedStorageImpl.readVehicleBinding P) with
    | some binding => return binding.state
    | none => return .none

/-! ## Configuration and production information -/

def writeVehicleConfig (configData : List UInt8) : ServiceAction ErrorCode := do
  let failed (message stage : String) : ServiceAction Unit :=
    log "vehicle_config" .error "prov.vehicle_config.write_failed" message
      [("config_hash", hashConfig P configData), ("failure_stage", text stage),
       ("duration_ms", .elapsed)]
  if !(← Prog.get).mem.initialized then return .invalidState
  else if (← Prog.get).mem.shuttingDown then return .invalidState
  else if ← onStorage ProtectedStorageImpl.isWriteProtected then
    return .securityAccessNotGranted
  else
    let config : VehicleConfig :=
      { variantCoding := configData, writtenAt := env.clock 0, verified := false }
    let result ← onStorage (ProtectedStorageImpl.writeVehicleConfig P (env.save 0) config)
    if result ≠ .success then
      failed "Vehicle config write failed" "write_storage"
      return .configWriteFailed
    else
      match ← onStorage (ProtectedStorageImpl.readVehicleConfig P) with
      | none =>
          failed "Vehicle config readback failed" "readback_empty"
          return .configWriteFailed
      | some stored =>
          if stored.variantCoding ≠ configData then
            failed "Vehicle config readback mismatch" "readback_mismatch"
            return .readbackVerificationFailed
          else
            -- the result of the second save is not looked at
            let _ ← onStorage (ProtectedStorageImpl.writeVehicleConfig P (env.save 1)
              { config with verified := true })
            return .success

def writeProductionInfo (info : ProductionInfo) : ServiceAction ErrorCode := do
  let failed (message stage : String) : ServiceAction Unit :=
    log "production" .error "prov.production_info.write_failed" message
      [("batch_hash", hashBatch P info.batchNum), ("station_hash", hashStation P info.stationId),
       ("failure_stage", text stage), ("duration_ms", .elapsed)]
  if !(← Prog.get).mem.initialized then return .invalidState
  else if (← Prog.get).mem.shuttingDown then return .invalidState
  else if ← onStorage ProtectedStorageImpl.isWriteProtected then
    return .securityAccessNotGranted
  else
    let newInfo := { info with writtenAt := env.clock 0 }
    let result ← onStorage (ProtectedStorageImpl.writeProductionInfo P (env.save 0) newInfo)
    if result ≠ .success then
      failed "Production info write failed" "write_storage"
      return .productionInfoWriteFailed
    else
      match ← onStorage (ProtectedStorageImpl.readProductionInfo P) with
      | none =>
          failed "Production info readback failed" "readback_empty"
          return .productionInfoWriteFailed
      | some stored =>
          if stored.productionDate ≠ newInfo.productionDate ∨
              stored.batchNum ≠ newInfo.batchNum ∨ stored.stationId ≠ newInfo.stationId then
            failed "Production info readback mismatch" "readback_mismatch"
            return .readbackVerificationFailed
          else return .success

end ProvService

end TboxProv
