import TboxProv.BindingCalls

/-!
# The other operations

What `initialize`, `beginShutdown`, the reads and the two remaining writes do to
the machine.
-/

namespace TboxProv.ProvService

open Crash Store

variable (P : Platform) (env : Env) (s : Machine ProvService)

/-! ## Starting up -/

/-- The store can be opened: its directories are usable, and the path of the
protection record can be looked at. -/
def Opens (disk : Disk) : Prop :=
  (env.rootDir.usable && env.serviceDir.usable) = true ∧
    ∀ what, disk .protection ≠ .inaccessible what

theorem loaded_ok {entry : Entry} (h : ∀ what, entry ≠ .inaccessible what) :
    ∃ value, loaded P entry = .ok value := by
  cases entry with
  | absent => exact ⟨none, rfl⟩
  | inaccessible what => exact absurd rfl (h what)
  | file data =>
      cases hopen : openEnvelope P (readFromFile (.file data)) with
      | error e => exact ⟨none, by simp [loaded, hopen]⟩
      | ok value => exact ⟨value, by simp [loaded, hopen]⟩
  | unreadable =>
      cases hopen : openEnvelope P (readFromFile .unreadable) with
      | error e => exact ⟨none, by simp [loaded, hopen]⟩
      | ok value => exact ⟨value, by simp [loaded, hopen]⟩

theorem initializeService_again (h : s.mem.initialized = true) :
    (initializeService P env s).val = some .success ∧
      (initializeService P env s).state = s := by
  simp [initializeService, h]

theorem initializeService_opened (h : s.mem.initialized = false) (hopen : Opens env s.disk) :
    (initializeService P env s).val = some .success ∧
      (initializeService P env s).state =
        ⟨s.disk, { s.mem with
          storage := ⟨protectedIn P (s.disk .protection)⟩
          initialized := true }⟩ := by
  obtain ⟨value, hload⟩ := loaded_ok P hopen.2
  have hval : (ProtectedStorageImpl.initializeStorage P env.rootDir env.serviceDir
      ⟨s.disk, {}⟩).val = some .success := by
    rw [ProtectedStorageImpl.initializeStorage_val, if_pos hopen.1]
    simp only [hload]
  have hmem := ProtectedStorageImpl.initializeStorage_mem P ⟨s.disk, {}⟩ env.rootDir
    env.serviceDir rfl hval
  have hdisk := ProtectedStorageImpl.initializeStorage_disk P ⟨s.disk, {}⟩ env.rootDir
    env.serviceDir
  simp [initializeService, h, onStorage_val, onStorage_state, hval, hmem, hdisk]

theorem initializeStorage_closed (hopen : ¬ Opens env s.disk) :
    (ProtectedStorageImpl.initializeStorage P env.rootDir env.serviceDir ⟨s.disk, {}⟩).val =
      some .storageError := by
  rw [ProtectedStorageImpl.initializeStorage_val]
  split
  case isFalse => rfl
  case isTrue hdirs =>
    have hblocked : ∃ what, s.disk .protection = .inaccessible what := by
      by_contra hno
      exact hopen ⟨hdirs, fun what hw ↦ hno ⟨what, hw⟩⟩
    obtain ⟨what, hw⟩ := hblocked
    simp [hw, loaded]

theorem initializeService_closed (h : s.mem.initialized = false) (hopen : ¬ Opens env s.disk) :
    (initializeService P env s).val = some .storageError ∧
      (initializeService P env s).state.disk = s.disk ∧
      (initializeService P env s).state.mem.initialized = false ∧
      (initializeService P env s).state.mem.shuttingDown = s.mem.shuttingDown ∧
      (initializeService P env s).state.mem.config = s.mem.config := by
  have hval := initializeStorage_closed P env s hopen
  have hdisk := ProtectedStorageImpl.initializeStorage_disk P ⟨s.disk, {}⟩ env.rootDir
    env.serviceDir
  simp [initializeService, h, onStorage_val, onStorage_state, hval, hdisk]

theorem initializeService_closed_flag (h : s.mem.initialized = false)
    (hopen : ¬ Opens env s.disk) :
    (initializeService P env s).state.mem.storage.writeProtected = false := by
  have hval := initializeStorage_closed P env s hopen
  have hmem := ProtectedStorageImpl.initializeStorage_failed P ⟨s.disk, {}⟩ env.rootDir
    env.serviceDir (by rw [hval]; decide)
  simp [initializeService, h, onStorage_val, onStorage_state, hval, hmem]

theorem initializeService_keeps :
    ∃ code, (initializeService P env s).val = some code ∧
      (initializeService P env s).state.disk = s.disk ∧
      (initializeService P env s).state.mem.shuttingDown = s.mem.shuttingDown := by
  cases hinit : s.mem.initialized with
  | true =>
      obtain ⟨hval, hstate⟩ := initializeService_again P env s hinit
      exact ⟨_, hval, by rw [hstate], by rw [hstate]⟩
  | false =>
      by_cases hopen : Opens env s.disk
      · obtain ⟨hval, hstate⟩ := initializeService_opened P env s hinit hopen
        exact ⟨_, hval, by rw [hstate], by rw [hstate]⟩
      · obtain ⟨hval, hdisk, -, hdown, -⟩ := initializeService_closed P env s hinit hopen
        exact ⟨_, hval, hdisk, hdown⟩

/-! ## Reading and shutting down -/

@[simp] theorem beginShutdown_val : (beginShutdown s).val = some () := by
  simp [beginShutdown]

@[simp] theorem beginShutdown_state :
    (beginShutdown s).state = ⟨s.disk, { s.mem with shuttingDown := true }⟩ := by
  simp [beginShutdown]

@[simp] theorem isInitialized_state : (isInitialized s).state = s := by
  simp [isInitialized]

@[simp] theorem readVin_state : (readVin P s).state = s := by
  cases hinit : s.mem.initialized with
  | false => simp [readVin, hinit]
  | true => cases hread : bindingIn P (s.disk .binding) <;> simp [readVin, hinit, hread]

theorem readVin_val (h : s.mem.initialized = true) :
    (readVin P s).val = some ((bindingIn P (s.disk .binding)).elim [] (·.vin)) := by
  cases hread : bindingIn P (s.disk .binding) <;> simp [readVin, h, hread]

theorem readVin_returns :
    (readVin P s).val =
      some (if s.mem.initialized then (bindingIn P (s.disk .binding)).elim [] (·.vin) else []) := by
  cases hinit : s.mem.initialized with
  | false => simp [readVin, hinit]
  | true => exact readVin_val P s hinit

@[simp] theorem readBinding_state : (readBinding P env s).state = s := by
  cases hinit : s.mem.initialized with
  | false => simp [readBinding, hinit]
  | true =>
      cases hread : bindingIn P (s.disk .binding) with
      | none => simp [readBinding, hinit, hread]
      | some binding =>
          by_cases hsn : binding.sn = [] <;> cases hprovider : env.sn.success <;>
            simp [readBinding, hinit, hread, hsn, hprovider]

/-- What `read_binding` shows of a stored record: an empty SN is taken from the provider. -/
def withSn (binding : VehicleBinding) : VehicleBinding :=
  if binding.sn = [] ∧ env.sn.success = true then { binding with sn := env.sn.sn } else binding

theorem withSn_fields (binding : VehicleBinding) :
    (withSn env binding).vin = binding.vin ∧ (withSn env binding).ecuUid = binding.ecuUid := by
  unfold withSn
  split <;> exact ⟨rfl, rfl⟩

def shownBinding : VehicleBinding :=
  if s.mem.initialized then (bindingIn P (s.disk .binding)).elim {} (withSn env) else {}

theorem readBinding_val : (readBinding P env s).val = some (shownBinding P env s) := by
  cases hinit : s.mem.initialized with
  | false => simp [readBinding, shownBinding, hinit]
  | true =>
      cases hread : bindingIn P (s.disk .binding) with
      | none => simp [readBinding, shownBinding, hinit, hread]
      | some binding =>
          by_cases hsn : binding.sn = [] <;> cases hprovider : env.sn.success <;>
            simp [readBinding, shownBinding, withSn, hinit, hread, hsn, hprovider]

@[simp] theorem getProvisionState_state : (getProvisionState P s).state = s := by
  cases hinit : s.mem.initialized with
  | false => simp [getProvisionState, hinit]
  | true =>
      cases hread : bindingIn P (s.disk .binding) <;> simp [getProvisionState, hinit, hread]

theorem getProvisionState_val (h : s.mem.initialized = true) :
    (getProvisionState P s).val =
      some ((bindingIn P (s.disk .binding)).elim .none (·.state)) := by
  cases hread : bindingIn P (s.disk .binding) <;> simp [getProvisionState, h, hread]

theorem getProvisionState_returns :
    (getProvisionState P s).val =
      some (if s.mem.initialized then (bindingIn P (s.disk .binding)).elim .none (·.state)
        else .none) := by
  cases hinit : s.mem.initialized with
  | false => simp [getProvisionState, hinit]
  | true => exact getProvisionState_val P s hinit

/-! ## Configuration and production information -/

def WritesAdmitted : Prop :=
  s.mem.initialized = true ∧ s.mem.shuttingDown = false ∧
    s.mem.storage.writeProtected = false

@[simp] theorem onStorage_isWriteProtected_val :
    (onStorage ProtectedStorageImpl.isWriteProtected s).val =
      some s.mem.storage.writeProtected := by
  rw [onStorage_val, ProtectedStorageImpl.isWriteProtected_val]

@[simp] theorem onStorage_isWriteProtected_state :
    (onStorage ProtectedStorageImpl.isWriteProtected s).state = s :=
  onStorage_state_eq s (by simp)

def WriteRefused (code : ErrorCode) : Prop :=
  code = .invalidState ∨ code = .securityAccessNotGranted

theorem WriteRefused.ne_success {code : ErrorCode} (h : WriteRefused code) :
    code ≠ .success := by
  rcases h with rfl | rfl <;> simp

theorem writeVehicleConfig_refused (configData : List UInt8) (h : ¬ WritesAdmitted s) :
    ∃ code, WriteRefused code ∧ (writeVehicleConfig P env configData s).val = some code ∧
      (writeVehicleConfig P env configData s).state = s := by
  cases hinit : s.mem.initialized with
  | false => exact ⟨.invalidState, .inl rfl, by simp [writeVehicleConfig, hinit]⟩
  | true =>
  cases hdown : s.mem.shuttingDown with
  | true => exact ⟨.invalidState, .inl rfl, by simp [writeVehicleConfig, hinit, hdown]⟩
  | false =>
  cases hprot : s.mem.storage.writeProtected with
  | true =>
      exact ⟨.securityAccessNotGranted, .inr rfl, by
        simp [writeVehicleConfig, hinit, hdown, hprot]⟩
  | false => exact absurd ⟨hinit, hdown, hprot⟩ h

theorem writeProductionInfo_refused (info : ProductionInfo) (h : ¬ WritesAdmitted s) :
    ∃ code, WriteRefused code ∧ (writeProductionInfo P env info s).val = some code ∧
      (writeProductionInfo P env info s).state = s := by
  cases hinit : s.mem.initialized with
  | false => exact ⟨.invalidState, .inl rfl, by simp [writeProductionInfo, hinit]⟩
  | true =>
  cases hdown : s.mem.shuttingDown with
  | true => exact ⟨.invalidState, .inl rfl, by simp [writeProductionInfo, hinit, hdown]⟩
  | false =>
  cases hprot : s.mem.storage.writeProtected with
  | true =>
      exact ⟨.securityAccessNotGranted, .inr rfl, by
        simp [writeProductionInfo, hinit, hdown, hprot]⟩
  | false => exact absurd ⟨hinit, hdown, hprot⟩ h

/-! ## Frames -/

structure Frame (key : Key) (s t : Machine ProvService) : Prop where
  mem : t.mem = s.mem
  other : ∀ key', key' ≠ key → t.disk key' = s.disk key'

namespace Frame

theorem refl (key : Key) (s : Machine ProvService) : Frame key s s := ⟨rfl, fun _ _ ↦ rfl⟩

theorem trans {key : Key} {s t u : Machine ProvService} (h : Frame key s t)
    (h' : Frame key t u) : Frame key s u :=
  ⟨h'.mem.trans h.mem, fun key' hne ↦ (h'.other key' hne).trans (h.other key' hne)⟩

section Keeps

variable {α β : Type} {key : Key}

theorem keeps_pure (a : α) : Prog.Keeps (Frame key) (pure a : ServiceAction α) :=
  Prog.Keeps.pure (refl key) a

theorem keeps_get : Prog.Keeps (Frame key) (Prog.get : ServiceAction _) :=
  Prog.Keeps.get (refl key)

theorem keeps_log (logger : String) (level : Level) (event message : String)
    (fields : List (String × FieldValue)) :
    Prog.Keeps (Frame key) (log logger level event message fields) :=
  Prog.Keeps.emit (refl key) _

theorem keeps_bind {p : ServiceAction α} {f : α → ServiceAction β}
    (hp : Prog.Keeps (Frame key) p) (hf : ∀ a, Prog.Keeps (Frame key) (f a)) :
    Prog.Keeps (Frame key) (p >>= f) :=
  Prog.Keeps.bind (R := Frame key) trans hp hf

end Keeps

end Frame

theorem writeRecord_frame (outcome : SaveOutcome) (key : Key) (serialized : Throws Bytes)
    (message : String) :
    Prog.Keeps (Frame key)
      (onStorage (ProtectedStorageImpl.writeRecord P outcome key serialized message)) := by
  intro s
  cases hprot : s.mem.storage.writeProtected with
  | true =>
      rw [(writeRecord_protected P s outcome key serialized message hprot).2]
      exact Frame.refl key s
  | false =>
      cases hsealed : sealed P serialized with
      | error e =>
          rw [(writeRecord_error P s outcome key message hprot hsealed).2]
          exact Frame.refl key s
      | ok content =>
          rw [(writeRecord_ok P s outcome key message hprot hsealed).2]
          exact ⟨rfl, fun key' hne ↦ by simp [hne]⟩

@[simp] theorem onStorage_readRecord_state {α : Type} (key : Key)
    (deserialize : Bytes → Throws α) (message : String) :
    (onStorage (ProtectedStorageImpl.readRecord P key deserialize message) s).state = s :=
  onStorage_state_eq s (by simp)

theorem readRecord_frame {α : Type} (key key' : Key) (deserialize : Bytes → Throws α)
    (message : String) :
    Prog.Keeps (Frame key)
      (onStorage (ProtectedStorageImpl.readRecord P key' deserialize message)) := by
  intro s
  rw [onStorage_readRecord_state]
  exact Frame.refl key s

theorem isWriteProtected_frame (key : Key) :
    Prog.Keeps (Frame key) (onStorage ProtectedStorageImpl.isWriteProtected) := by
  intro s
  rw [onStorage_isWriteProtected_state]
  exact Frame.refl key s

theorem writeVehicleConfig_frame (configData : List UInt8) :
    Prog.Keeps (Frame .config) (writeVehicleConfig P env configData) := by
  unfold writeVehicleConfig
  refine Frame.keeps_bind Frame.keeps_get fun m ↦ .ite (Frame.keeps_pure _) ?_
  refine Frame.keeps_bind Frame.keeps_get fun m ↦ .ite (Frame.keeps_pure _) ?_
  refine Frame.keeps_bind (isWriteProtected_frame .config) fun locked ↦
    .ite (Frame.keeps_pure _) ?_
  refine Frame.keeps_bind (writeRecord_frame P _ _ _ _) fun result ↦ .ite ?_ ?_
  · exact Frame.keeps_bind (Frame.keeps_log _ _ _ _ _) fun _ ↦ Frame.keeps_pure _
  apply Frame.keeps_bind (readRecord_frame P _ _ _ _)
  intro stored
  cases stored with
  | none => exact Frame.keeps_bind (Frame.keeps_log _ _ _ _ _) fun _ ↦ Frame.keeps_pure _
  | some stored =>
      refine .ite ?_ ?_
      · exact Frame.keeps_bind (Frame.keeps_log _ _ _ _ _) fun _ ↦ Frame.keeps_pure _
      · exact Frame.keeps_bind (writeRecord_frame P _ _ _ _) fun _ ↦ Frame.keeps_pure _

theorem writeProductionInfo_frame (info : ProductionInfo) :
    Prog.Keeps (Frame .productionInfo) (writeProductionInfo P env info) := by
  unfold writeProductionInfo
  refine Frame.keeps_bind Frame.keeps_get fun m ↦ .ite (Frame.keeps_pure _) ?_
  refine Frame.keeps_bind Frame.keeps_get fun m ↦ .ite (Frame.keeps_pure _) ?_
  refine Frame.keeps_bind (isWriteProtected_frame .productionInfo) fun locked ↦
    .ite (Frame.keeps_pure _) ?_
  refine Frame.keeps_bind (writeRecord_frame P _ _ _ _) fun result ↦ .ite ?_ ?_
  · exact Frame.keeps_bind (Frame.keeps_log _ _ _ _ _) fun _ ↦ Frame.keeps_pure _
  apply Frame.keeps_bind (readRecord_frame P _ _ _ _)
  intro stored
  cases stored with
  | none => exact Frame.keeps_bind (Frame.keeps_log _ _ _ _ _) fun _ ↦ Frame.keeps_pure _
  | some stored =>
      refine .ite ?_ (Frame.keeps_pure _)
      exact Frame.keeps_bind (Frame.keeps_log _ _ _ _ _) fun _ ↦ Frame.keeps_pure _

end TboxProv.ProvService
