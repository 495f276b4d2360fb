import TboxProv.Crash.Interleaving
import TboxProv.DeviceRefinement
import TboxProv.SharedStore

/-!
# The service in steps

The mutex of a service does not keep out another process that has the same store open.
Here the operations of the service are cut where they turn to the store; run without a
pause, the steps of an operation are the operation.
-/

namespace TboxProv.ProvService

open Crash Store Interleaving

abbrev ServiceSteps (α : Type) := Resumption (Machine ProvService) Output α

variable (P : Platform) (env : Env)

/-! ## The binding flow -/

def establishBindingSteps (vin ecuUid : Bytes) : ServiceSteps ErrorCode := do
  let existing ← .call (onStorage (ProtectedStorageImpl.readVehicleBinding P))
  let binding := newBinding env existing vin ecuUid
  let result ← .call (onStorage (ProtectedStorageImpl.writeVehicleBinding P (env.save 0) binding))
  if result ≠ .success then return .vinWriteFailed
  else
    let binding := { binding with state := .bound }
    let result ← .call (onStorage
      (ProtectedStorageImpl.writeVehicleBinding P (env.save 1) binding))
    if result ≠ .success then return .vinWriteFailed
    else
      .call (log "binding" .info "prov.binding.created" "VIN-ECU binding established"
        [("vin_hash", hashVin P vin), ("ecu_uid_hash", hashEcuUid P ecuUid),
         ("binding_state", text binding.state.toString),
         ("rewrite_count", .int binding.rewriteCount.toNat)])
      return .success

def executeVinBindingFlowSteps (vin : Bytes) : ServiceSteps ErrorCode := do
  if !env.uid.success then
    .call (log "vin" .error "prov.uid.read_failed" "Failed to read ECU UID"
      [("error_message", .str env.uid.errorMessage), ("duration_ms", .elapsed)])
    return env.uid.errorCode
  else
    let result ← establishBindingSteps P env vin env.uid.uid
    if result ≠ .success then
      .call (log "vin" .error "prov.vin.write.failed" "VIN write failed"
        [("vin_hash", hashVin P vin), ("failure_stage", text "establish_binding"),
         ("duration_ms", .elapsed)])
      return result
    else
      let result ← .call (verifyWrite P vin)
      if result ≠ .success then
        .call (log "binding" .error "prov.binding.readback_failed"
          "Binding readback verification failed"
          [("vin_hash", hashVin P vin), ("ecu_uid_hash", hashEcuUid P env.uid.uid),
           ("failure_stage", text "verify_write"), ("duration_ms", .elapsed)])
        return result
      else .call (finishVinBindingFlow P env vin)

theorem prog_establishBindingSteps (vin ecuUid : Bytes) :
    (establishBindingSteps P env vin ecuUid).prog = establishBinding P env vin ecuUid := by
  simp only [establishBindingSteps, establishBinding, Resumption.prog_bind, Resumption.prog_call,
    Resumption.prog_pure, apply_ite Resumption.prog]

theorem prog_executeVinBindingFlowSteps (vin : Bytes) :
    (executeVinBindingFlowSteps P env vin).prog = executeVinBindingFlow P env vin := by
  simp only [executeVinBindingFlowSteps, executeVinBindingFlow, Resumption.prog_bind,
    Resumption.prog_call, Resumption.prog_pure, apply_ite Resumption.prog,
    prog_establishBindingSteps]

/-! ## The calls -/

def writeVinSteps (vin : Bytes) : ServiceSteps ErrorCode := do
  if !(← .call Prog.get).mem.initialized then return .invalidState
  else if (← .call Prog.get).mem.shuttingDown then return .invalidState
  else
    let result ← .call (validateVinFormat P vin)
    if result ≠ .success then return result
    else executeVinBindingFlowSteps P env vin

def authorizeRewriteSteps (newVin : Bytes) : ServiceSteps ErrorCode := do
  if !(← .call Prog.get).mem.initialized then return .invalidState
  else if (← .call Prog.get).mem.shuttingDown then return .invalidState
  else
    let result ← .call (validateVinFormat P newVin)
    if result ≠ .success then return result
    else
      match ← .call (onStorage (ProtectedStorageImpl.readVehicleBinding P)) with
      | some binding =>
          if binding.locked ∧ newVin ≠ binding.vin then
            .call (log "rewrite" .warn "prov.binding.rewrite_denied" "Unauthorized rewrite attempt"
              [("vin_hash", hashVin P newVin), ("current_vin_hash", hashVin P binding.vin),
               ("reason", text "vin_conflict"),
               ("rewrite_count", .int binding.rewriteCount.toNat)])
            return .vinConflictUnauthorized
          else executeVinBindingFlowSteps P env newVin
      | none => executeVinBindingFlowSteps P env newVin

def BindingCall.steps : BindingCall → Bytes → ServiceSteps ErrorCode
  | .writeVin => writeVinSteps P env
  | .authorizeRewrite => authorizeRewriteSteps P env

def writeVehicleConfigSteps (configData : List UInt8) : ServiceSteps ErrorCode := do
  let failed (message stage : String) : ServiceAction Unit :=
    log "vehicle_config" .error "prov.vehicle_config.write_failed" message
      [("config_hash", hashConfig P configData), ("failure_stage", text stage),
       ("duration_ms", .elapsed)]
  if !(← .call Prog.get).mem.initialized then return .invalidState
  else if (← .call Prog.get).mem.shuttingDown then return .invalidState
  else if ← .call (onStorage ProtectedStorageImpl.isWriteProtected) then
    return .securityAccessNotGranted
  else
    let config : VehicleConfig :=
      { variantCoding := configData, writtenAt := env.clock 0, verified := false }
    let result ← .call (onStorage
      (ProtectedStorageImpl.writeVehicleConfig P (env.save 0) config))
    if result ≠ .success then
      .call (failed "Vehicle config write failed" "write_storage")
      return .configWriteFailed
    else
      match ← .call (onStorage (ProtectedStorageImpl.readVehicleConfig P)) with
      | none =>
          .call (failed "Vehicle config readback failed" "readback_empty")
          return .configWriteFailed
      | some stored =>
          if stored.variantCoding ≠ configData then
            .call (failed "Vehicle config readback mismatch" "readback_mismatch")
            return .readbackVerificationFailed
          else
            let _ ← .call (onStorage (ProtectedStorageImpl.writeVehicleConfig P (env.save 1)
              { config with verified := true }))
            return .success

def writeProductionInfoSteps (info : ProductionInfo) : ServiceSteps ErrorCode := do
  let failed (message stage : String) : ServiceAction Unit :=
    log "production" .error "prov.production_info.write_failed" message
      [("batch_hash", hashBatch P info.batchNum), ("station_hash", hashStation P info.stationId),
       ("failure_stage", text stage), ("duration_ms", .elapsed)]
  if !(← .call Prog.get).mem.initialized then return .invalidState
  else if (← .call Prog.get).mem.shuttingDown then return .invalidState
  else if ← .call (onStorage ProtectedStorageImpl.isWriteProtected) then
    return .securityAccessNotGranted
  else
    let newInfo := { info with writtenAt := env.clock 0 }
    let result ← .call (onStorage
      (ProtectedStorageImpl.writeProductionInfo P (env.save 0) newInfo))
    if result ≠ .success then
      .call (failed "Production info write failed" "write_storage")
      return .productionInfoWriteFailed
    else
      match ← .call (onStorage (ProtectedStorageImpl.readProductionInfo P)) with
      | none =>
          .call (failed "Production info readback failed" "readback_empty")
          return .productionInfoWriteFailed
      | some stored =>
          if stored.productionDate ≠ newInfo.productionDate ∨
              stored.batchNum ≠ newInfo.batchNum ∨ stored.stationId ≠ newInfo.stationId then
            .call (failed "Production info readback mismatch" "readback_mismatch")
            return .readbackVerificationFailed
          else return .success

/-- The other operations turn to the store at most once. -/
def Call.steps : Call → ServiceSteps Answer
  | .initializeService env => do return .code (← .call (ProvService.initializeService P env))
  | .beginShutdown => do
      .call ProvService.beginShutdown
      return .closed
  | .binding call env vin => do return .code (← call.steps P env vin)
  | .writeVehicleConfig env configData => do
      return .code (← writeVehicleConfigSteps P env configData)
  | .writeProductionInfo env info => do return .code (← writeProductionInfoSteps P env info)
  | .readVin => do return .vin (← .call (ProvService.readVin P))
  | .readBinding env => do return .binding (← .call (ProvService.readBinding P env))
  | .getProvisionState => do return .state (← .call (ProvService.getProvisionState P))
  | .isInitialized => do return .up (← .call ProvService.isInitialized)
  | .restart => .call (Prog.atomically fun s ↦ (none, s))

theorem prog_writeVinSteps (vin : Bytes) :
    (writeVinSteps P env vin).prog = writeVin P env vin := by
  simp only [writeVinSteps, writeVin, Resumption.prog_bind, Resumption.prog_call,
    Resumption.prog_pure, apply_ite Resumption.prog, prog_executeVinBindingFlowSteps]

/-- Every write makes the same two tests first. -/
theorem guarded_congr {p q : ServiceAction ErrorCode} (h : p = q) :
    (Prog.get >>= fun s ↦ if (!s.mem.initialized) = true then pure .invalidState
      else Prog.get >>= fun s ↦ if s.mem.shuttingDown = true then pure .invalidState else p) =
    (Prog.get >>= fun s ↦ if (!s.mem.initialized) = true then pure .invalidState
      else Prog.get >>= fun s ↦ if s.mem.shuttingDown = true then pure .invalidState else q) := by
  rw [h]

theorem prog_authorizeRewriteSteps (newVin : Bytes) :
    (authorizeRewriteSteps P env newVin).prog = authorizeRewrite P env newVin := by
  simp only [authorizeRewriteSteps, authorizeRewrite, Resumption.prog_bind, Resumption.prog_call,
    Resumption.prog_pure, apply_ite Resumption.prog]
  refine guarded_congr (bind_congr fun result ↦ ?_)
  split
  · rfl
  refine bind_congr fun existing ↦ ?_
  cases existing with
  | none => exact prog_executeVinBindingFlowSteps P env newVin
  | some binding =>
      simp only [Resumption.prog_bind, Resumption.prog_call, Resumption.prog_pure,
        apply_ite Resumption.prog, prog_executeVinBindingFlowSteps]

theorem prog_writeVehicleConfigSteps (configData : List UInt8) :
    (writeVehicleConfigSteps P env configData).prog = writeVehicleConfig P env configData := by
  simp only [writeVehicleConfigSteps, writeVehicleConfig, Resumption.prog_bind,
    Resumption.prog_call, Resumption.prog_pure, apply_ite Resumption.prog]
  refine guarded_congr (bind_congr fun locked ↦ ?_)
  split
  · rfl
  refine bind_congr fun result ↦ ?_
  split
  · rfl
  refine bind_congr fun stored ↦ ?_
  cases stored with
  | none =>
      simp only [Resumption.prog_bind, Resumption.prog_call, Resumption.prog_pure]
  | some stored =>
      simp only [Resumption.prog_bind, Resumption.prog_call, Resumption.prog_pure,
        apply_ite Resumption.prog]

theorem prog_writeProductionInfoSteps (info : ProductionInfo) :
    (writeProductionInfoSteps P env info).prog = writeProductionInfo P env info := by
  simp only [writeProductionInfoSteps, writeProductionInfo, Resumption.prog_bind,
    Resumption.prog_call, Resumption.prog_pure, apply_ite Resumption.prog]
  refine guarded_congr (bind_congr fun locked ↦ ?_)
  split
  · rfl
  refine bind_congr fun result ↦ ?_
  split
  · rfl
  refine bind_congr fun stored ↦ ?_
  cases stored with
  | none =>
      simp only [Resumption.prog_bind, Resumption.prog_call, Resumption.prog_pure]
  | some stored =>
      simp only [Resumption.prog_bind, Resumption.prog_call, Resumption.prog_pure,
        apply_ite Resumption.prog]

theorem prog_bindingSteps (call : BindingCall) (vin : Bytes) :
    (call.steps P env vin).prog = call.run P env vin := by
  cases call with
  | writeVin => exact prog_writeVinSteps P env vin
  | authorizeRewrite => exact prog_authorizeRewriteSteps P env vin

/-- Without a pause the steps of a call give its answer. -/
theorem prog_steps_val (c : Call) (s : Machine ProvService) :
    ((c.steps P).prog s).val = c.answer P s := by
  cases c with
  | restart => rfl
  | _ =>
      simp only [Call.steps, Call.answer, Resumption.prog_bind, Resumption.prog_call,
        Resumption.prog_pure, prog_bindingSteps, prog_writeVehicleConfigSteps,
        prog_writeProductionInfoSteps, Prog.bind_pure_val]

/-- They leave and print what the call does. -/
theorem exec_eq_steps (c : Call) (s : Machine ProvService) :
    exec P c s = (c.steps P).prog.settle restarted s ∧
      (c.prog P s).out = ((c.steps P).prog s).out := by
  rw [exec]
  cases c with
  | restart => exact ⟨rfl, rfl⟩
  | _ =>
      refine ⟨Prog.settle_congr ?_ ?_, ?_⟩ <;>
        simp only [Call.steps, Call.prog, coded, uncoded, Resumption.prog_bind,
          Resumption.prog_call, Resumption.prog_pure, prog_bindingSteps,
          prog_writeVehicleConfigSteps, prog_writeProductionInfoSteps, Prog.bind_pure_val,
          Prog.bind_pure_state, Prog.bind_pure_out, Option.isSome_map]

/-! ## The processes -/

/-- The store and the memory of a process. -/
def parts : Machine ProvService ≃ Disk × ProvService where
  toFun s := (s.disk, s.mem)
  invFun x := ⟨x.1, x.2⟩
  left_inv _ := rfl
  right_inv _ := rfl

/-- A process that is started again finds its configuration. -/
def rebooted (m : ProvService) : ProvService := { config := m.config }

abbrev Processes (ι : Type) :=
  World ι Call (Machine ProvService) Output Answer Disk ProvService

abbrev processStep {ι : Type} [DecidableEq ι] :
    Event ι Call → Processes ι → Option (Seen ι Call Answer) × Processes ι :=
  Interleaving.step parts (Call.steps P) rebooted

/-- Processes that have just been started. -/
def processes {ι : Type} (config : ι → ProvServiceConfig) (disk : Disk) : Processes ι :=
  ⟨disk, fun i ↦ ⟨{ config := config i }, none⟩⟩

section CallsOf

variable {ι : Type}

/-- The calls that are made. -/
def callsOf (events : List (Event ι Call)) : List Call :=
  events.filterMap fun
    | .call _ c => some c
    | .advance _ | .restart _ => none

theorem mem_callsOf {events : List (Event ι Call)} {i : ι} {c : Call}
    (h : .call i c ∈ events) : c ∈ callsOf events :=
  List.mem_filterMap.2 ⟨.call i c, h, rfl⟩

theorem callsOf_append (events events' : List (Event ι Call)) :
    callsOf (events ++ events') = callsOf events ++ callsOf events' :=
  List.filterMap_append

end CallsOf

variable {ι : Type} [DecidableEq ι]

theorem after_steps (w : Processes ι) (i : ι) (c : Call) (s : Machine ProvService) :
    w.after parts rebooted i c ((c.steps P).prog s) =
      ((c.answer P s).elim (.restarted i) (.answered i c),
        w.set i (exec P c s).disk ⟨(exec P c s).mem, none⟩) := by
  rw [← prog_steps_val, (exec_eq_steps P c s).1, World.after, Prog.settle]
  cases ((c.steps P).prog s).val <;> rfl

/-- A call that no other process comes between is the whole call. -/
theorem uninterrupted_call {w : Processes ι} {i : ι} (h : (w.session i).pending = none)
    (c : Call) :
    ∃ n, ((trace (processStep P) (.call i c :: List.replicate n (.advance i)) w).1.reduceOption,
        (trace (processStep P) (.call i c :: List.replicate n (.advance i)) w).2) =
      ([.called i c, (c.answer P (w.view parts i)).elim (.restarted i) (.answered i c)],
        w.set i (exec P c (w.view parts i)).disk ⟨(exec P c (w.view parts i)).mem, none⟩) := by
  have hcall : processStep P (.call i c) w =
      (some (.called i c), w.set i w.shared ⟨(w.session i).own, some (c, c.steps P)⟩) :=
    step_call_idle h
  obtain ⟨n, hn⟩ : ∃ n, ((trace (processStep P) (List.replicate n (.advance i))
        (processStep P (.call i c) w).2).1.reduceOption,
      (trace (processStep P) (List.replicate n (.advance i)) (processStep P (.call i c) w).2).2) =
        ([(w.after parts rebooted i c ((c.steps P).prog (w.view parts i))).1],
          (w.after parts rebooted i c ((c.steps P).prog (w.view parts i))).2) := by
    obtain ⟨n, hn⟩ := exists_alone (e := parts) (w := w.set i w.shared
      ⟨(w.session i).own, some (c, c.steps P)⟩) (by rw [set_session_self])
    rw [view_set_self, after_set] at hn
    rw [hcall]
    exact ⟨n, hn⟩
  obtain ⟨hseen, hlast⟩ := Prod.mk.inj hn
  rw [after_steps] at hseen hlast
  refine ⟨n, ?_⟩
  rw [trace_cons, hcall, List.reduceOption_cons_of_some, ← hcall, hseen, hlast]

/-! ### Whole operations -/

/-- Processes that are not in a call. -/
def Shared.processes (s : Shared ι) : Processes ι := ⟨s.disk, fun i ↦ ⟨s.service i, none⟩⟩

omit [DecidableEq ι] in
@[simp] theorem Shared.processes_shared (s : Shared ι) : s.processes.shared = s.disk := rfl

/-- One whole operation, with what is seen of it. -/
def Shared.asked (op : ι × Call) (s : Shared ι) : List (Seen ι Call Answer) × Shared ι :=
  ([.called op.1 op.2,
    (op.2.answer P (s.machine op.1)).elim (.restarted op.1) (.answered op.1 op.2)], s.step P op)

theorem processes_step (i : ι) (c : Call) (s : Shared ι) :
    s.processes.set i (exec P c (s.machine i)).disk ⟨(exec P c (s.machine i)).mem, none⟩ =
      (s.step P (i, c)).processes := by
  unfold World.set Shared.processes
  congr 1
  funext j
  by_cases hj : j = i
  · subst hj
    simp [Shared.step]
  · simp [Shared.step, hj]

/-- Operations that are made one after the other are among the interleavings. -/
theorem exists_whole (ops : List (ι × Call)) (s : Shared ι) :
    ∃ events : List (Event ι Call), callsOf events = ops.map Prod.snd ∧
      ((trace (processStep P) events s.processes).1.reduceOption,
        (trace (processStep P) events s.processes).2) =
      ((trace (Shared.asked P) ops s).1.flatten, (trace (Shared.asked P) ops s).2.processes) := by
  induction ops generalizing s with
  | nil => exact ⟨[], rfl, rfl⟩
  | cons op ops ih =>
      obtain ⟨i, c⟩ := op
      obtain ⟨n, hn⟩ := uninterrupted_call P (w := s.processes) (i := i) rfl c
      obtain ⟨hseen, hset⟩ := Prod.mk.inj hn
      have hlast := hset.trans (processes_step P i c s)
      obtain ⟨events, hcalls, hrest⟩ := ih (s.step P (i, c))
      obtain ⟨hseen', hlast'⟩ := Prod.mk.inj hrest
      refine ⟨.call i c :: List.replicate n (.advance i) ++ events, ?_, ?_⟩
      · rw [callsOf_append, hcalls]
        simp [callsOf]
      · rw [trace_append, List.reduceOption_append, hseen, hlast, hseen', hlast']
        rfl

end TboxProv.ProvService
