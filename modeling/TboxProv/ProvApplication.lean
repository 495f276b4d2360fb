import Mathlib.Data.Rat.Defs
import TboxProv.Operations

/-!
# The application

`ProvApplication` owns the store, the providers, the service, the dispatcher and
the IPC server.  It builds them in that order and records a stage after each; when
a step fails it releases what the recorded stage says is there.
-/

namespace TboxProv

open Crash

/-! ## What is outside -/

/-- The typed getters of a configuration snapshot, each with its default. -/
structure ConfigSnapshot where
  getString : String → Bytes → Bytes
  getInt : String → Int32 → Int32
  getDouble : String → ℚ → ℚ
  getBool : String → Bool → Bool

structure ReconnectConfig where
  initialBackoffMs : UInt32
  maxBackoffMs : UInt32
  multiplier : ℚ

structure IpcConfig where
  maxFrameBytes : UInt32
  receiveTimeoutMs : UInt32
  connectTimeoutMs : UInt32
  listenBacklog : Int32
  reconnect : ReconnectConfig

/-- The framework's `ipc::Server`: a server whose start failed is not running. -/
structure IpcServer where
  socketPath : Bytes
  config : IpcConfig
  running : Bool := false

/-! ## Components -/

structure StoreHandle where
  serviceName : Bytes
  rootPath : Bytes

/-- What the providers return is in the environment of each call. -/
structure SeUidProvider
structure TboxSnProvider

/-- The dispatcher is a pointer to the service. -/
structure DispatcherHandle

inductive InitStage where
  | none
  | storeOpened
  | providersReady
  | serviceReady
  | ipcStarted
  deriving DecidableEq

/-- The members that only `initialize` itself reads are its locals here. -/
structure ProvApplication where
  initStage : InitStage := .none
  store : Option StoreHandle := .none
  uidProvider : Option SeUidProvider := .none
  snProvider : Option TboxSnProvider := .none
  service : Option ProvService := .none
  dispatcher : Option DispatcherHandle := .none
  ipcServer : Option IpcServer := .none

/-- The outside of one call of `initialize`. -/
structure AppEnv where
  snapshot : Option ConfigSnapshot
  rootDir : Store.DirOutcome := .present
  serviceDir : Store.DirOutcome := .present
  service : Env
  serverStarts : Bool := true

namespace ProvApplication

abbrev AppAction (α : Type) := Action ProvApplication α

def log (logger : String) (level : Level) (event message : String)
    (fields : List (String × FieldValue)) : AppAction Unit :=
  Prog.emit (.log logger level event message fields)

def update (f : ProvApplication → ProvApplication) : AppAction Unit :=
  Prog.modify fun s ↦ { s with mem := f s.mem }

/-- Reached only while a service is live. -/
def onService {α : Type} (p : ProvService.ServiceAction α) : AppAction α :=
  Prog.zoom (fun s ↦ ⟨s.disk, s.mem.service.getD { config := {} }⟩)
    (fun t s ↦ ⟨t.disk, { s.mem with service := some t.mem }⟩) p

def readIpcConfig (cfg : ConfigSnapshot) : IpcConfig where
  maxFrameBytes := (cfg.getInt "common.ipc.max_frame_bytes" 10485760).toUInt32
  receiveTimeoutMs := (cfg.getInt "common.ipc.receive_timeout_ms" 60000).toUInt32
  connectTimeoutMs := (cfg.getInt "common.ipc.connect_timeout_ms" 3000).toUInt32
  listenBacklog := cfg.getInt "common.ipc.listen_backlog" 5
  reconnect :=
    { initialBackoffMs := (cfg.getInt "common.ipc.reconnect.initial_backoff_ms" 100).toUInt32
      maxBackoffMs := (cfg.getInt "common.ipc.reconnect.max_backoff_ms" 5000).toUInt32
      multiplier := cfg.getDouble "common.ipc.reconnect.multiplier" 2 }

def readServiceConfig (cfg : ConfigSnapshot) : ProvServiceConfig where
  enableWriteProtection := cfg.getBool "storage.enable_write_protection" true
  maxRetryCount := (cfg.getInt "storage.max_retry_count" 3).toUInt32

/-- Each stage is released in turn, from the recorded one down. -/
def rollbackInitialization : AppAction Unit := do
  update fun a ↦
    if a.initStage = .ipcStarted then
      { a with ipcServer := none, dispatcher := none, initStage := .serviceReady }
    else a
  update fun a ↦
    if a.initStage = .serviceReady then { a with service := none, initStage := .providersReady }
    else a
  update fun a ↦
    if a.initStage = .providersReady then
      { a with snProvider := none, uidProvider := none, initStage := .storeOpened }
    else a
  update fun a ↦
    if a.initStage = .storeOpened then { a with store := none, initStage := .none } else a

variable (P : Platform) (env : AppEnv)

/-- The last steps of `initialize`, from the dispatcher on. -/
def startIpc (socketPath : Bytes) (ipcConfig : IpcConfig) : AppAction Bool := do
  update fun a ↦ { a with dispatcher := some {} }
  update fun a ↦ { a with ipcServer := some { socketPath, config := ipcConfig } }
  update fun a ↦ { a with
    ipcServer := a.ipcServer.map fun server ↦ { server with running := env.serverStarts } }
  if !env.serverStarts then
    log "service" .error "prov.application.ipc_start_failed" "IPC server start failed"
      [("socket_path", .str socketPath)]
    update fun a ↦ { a with ipcServer := none }
    update fun a ↦ { a with dispatcher := none }
    rollbackInitialization
    return false
  else
    update fun a ↦ { a with initStage := .ipcStarted }
    log "ipc" .info "prov.ipc.started" "IPC server started" [("socket_path", .str socketPath)]
    return true

/-- `ProvApplication::initialize` -/
def initializeApplication : AppAction Bool := do
  match env.snapshot with
  | none =>
      log "service" .error "prov.application.config_unavailable"
        "Config snapshot unavailable after Application::load_config" []
      return false
  | some cfg =>
      let storeRoot := cfg.getString "common.store.root" (bytes "/var/tbox")
      let socketPath := cfg.getString "prov.ipc.socket_path" (bytes "/tmp/tbox-prov.sock")
      update fun a ↦ { a with store := some ⟨bytes "prov", storeRoot⟩ }
      if !(← Store.initializeStore env.rootDir env.serviceDir) then
        log "service" .error "prov.application.store_init_failed" "Store initialize failed"
          [("store_root", .str storeRoot)]
        -- the recorded stage is not looked at here
        update fun a ↦ { a with store := none }
        return false
      else
        update fun a ↦ { a with initStage := .storeOpened }
        update fun a ↦ { a with uidProvider := some {}, snProvider := some {} }
        update fun a ↦ { a with initStage := .providersReady }
        update fun a ↦ { a with service := some { config := readServiceConfig cfg } }
        let result ← onService (ProvService.initializeService P env.service)
        if result ≠ .success then
          log "service" .error "prov.application.service_init_failed"
            "ProvService initialize failed" []
          rollbackInitialization
          return false
        else
          update fun a ↦ { a with initStage := .serviceReady }
          startIpc env socketPath (readIpcConfig cfg)

/-- The first step of `cleanup`. -/
def quiesce : AppAction Unit := do
  if (← Prog.get).mem.service.isSome then onService ProvService.beginShutdown else pure ()

/-- The other steps, from the stop of the server on. -/
def release : AppAction Unit := do
  update fun a ↦ { a with
    ipcServer := a.ipcServer.map fun server ↦ { server with running := false } }
  update fun a ↦ { a with dispatcher := none }
  update fun a ↦ { a with service := none }
  update fun a ↦ { a with snProvider := none, uidProvider := none }
  update fun a ↦ { a with store := none, initStage := .none }

/-- `ProvApplication::cleanup`: the server is stopped and kept. -/
def cleanup : AppAction Unit := do
  quiesce
  release

/-! ## What a call leaves -/

section Equations

variable (s : Machine ProvApplication)

@[simp] theorem log_val (logger : String) (level : Level) (event message : String)
    (fields : List (String × FieldValue)) :
    (log logger level event message fields s).val = some () := rfl

@[simp] theorem log_state (logger : String) (level : Level) (event message : String)
    (fields : List (String × FieldValue)) :
    (log logger level event message fields s).state = s := rfl

@[simp] theorem update_val (f : ProvApplication → ProvApplication) :
    (update f s).val = some () := rfl

@[simp] theorem update_state (f : ProvApplication → ProvApplication) :
    (update f s).state = ⟨s.disk, f s.mem⟩ := rfl

theorem onService_val {α : Type} (p : ProvService.ServiceAction α) {service : ProvService}
    (h : s.mem.service = some service) : (onService p s).val = (p ⟨s.disk, service⟩).val := by
  simp [onService, h]

theorem onService_state {α : Type} (p : ProvService.ServiceAction α) {service : ProvService}
    (h : s.mem.service = some service) :
    (onService p s).state = ⟨(p ⟨s.disk, service⟩).state.disk,
      { s.mem with service := some (p ⟨s.disk, service⟩).state.mem }⟩ := by
  simp [onService, h]

@[simp] theorem rollbackInitialization_val : (rollbackInitialization s).val = some () := by
  simp [rollbackInitialization]

theorem rollback_providersReady (h : s.mem.initStage = .providersReady) :
    (rollbackInitialization s).state = ⟨s.disk, { s.mem with
      initStage := .none, store := none, uidProvider := none, snProvider := none }⟩ := by
  simp [rollbackInitialization, h]

theorem rollback_serviceReady (h : s.mem.initStage = .serviceReady) :
    (rollbackInitialization s).state = ⟨s.disk, { s.mem with
      initStage := .none, store := none, uidProvider := none, snProvider := none
      service := none }⟩ := by
  simp [rollbackInitialization, h]

theorem startIpc_failed {env : AppEnv} (socketPath : Bytes) (ipcConfig : IpcConfig)
    (hstage : s.mem.initStage = .serviceReady) (hstarts : env.serverStarts = false) :
    (startIpc env socketPath ipcConfig s).val = some false ∧
      (startIpc env socketPath ipcConfig s).state = ⟨s.disk, {}⟩ := by
  simp [startIpc, hstarts, rollback_serviceReady, hstage]

theorem startIpc_started {env : AppEnv} (socketPath : Bytes) (ipcConfig : IpcConfig)
    (hstarts : env.serverStarts = true) :
    (startIpc env socketPath ipcConfig s).val = some true ∧
      (startIpc env socketPath ipcConfig s).state = ⟨s.disk, { s.mem with
        initStage := .ipcStarted, dispatcher := some {}
        ipcServer := some ⟨socketPath, ipcConfig, true⟩ }⟩ := by
  simp [startIpc, hstarts]

end Equations

/-- Every way through `initialize`, with what it returns. -/
inductive StartExit (env : AppEnv) (s : Machine ProvApplication) :
    Bool → Machine ProvApplication → Prop where
  | noConfig (hcfg : env.snapshot = none) : StartExit env s false s
  | storeFailed {cfg : ConfigSnapshot} (hcfg : env.snapshot = some cfg)
      (hdirs : (env.rootDir.usable && env.serviceDir.usable) = false) :
      StartExit env s false ⟨s.disk, { s.mem with store := none }⟩
  | serviceFailed {cfg : ConfigSnapshot} (hcfg : env.snapshot = some cfg)
      (hdirs : (env.rootDir.usable && env.serviceDir.usable) = true)
      (hopen : ¬ ProvService.Opens env.service s.disk) (service : ProvService) :
      StartExit env s false ⟨s.disk, { s.mem with
        initStage := .none, store := none, uidProvider := none, snProvider := none
        service := some service }⟩
  | ipcFailed {cfg : ConfigSnapshot} (hcfg : env.snapshot = some cfg)
      (hdirs : (env.rootDir.usable && env.serviceDir.usable) = true)
      (hopen : ProvService.Opens env.service s.disk) (hstarts : env.serverStarts = false) :
      StartExit env s false ⟨s.disk, {}⟩
  | up {cfg : ConfigSnapshot} (hcfg : env.snapshot = some cfg)
      (hdirs : (env.rootDir.usable && env.serviceDir.usable) = true)
      (hopen : ProvService.Opens env.service s.disk) (hstarts : env.serverStarts = true)
      (store : StoreHandle) (service : ProvService) (server : IpcServer) :
      StartExit env s true ⟨s.disk, {
        initStage := .ipcStarted, store := some store, uidProvider := some {}
        snProvider := some {}, service := some service, dispatcher := some {}
        ipcServer := some server }⟩

theorem initializeApplication_exit (s : Machine ProvApplication) :
    ∃ up, (initializeApplication P env s).val = some up ∧
      StartExit env s up (initializeApplication P env s).state := by
  cases hcfg : env.snapshot with
  | none =>
      refine ⟨false, ?_, ?_⟩
      · simp [initializeApplication, hcfg]
      · simp only [initializeApplication, hcfg]
        simpa using StartExit.noConfig hcfg
  | some cfg =>
  cases hdirs : env.rootDir.usable && env.serviceDir.usable with
  | false =>
      refine ⟨false, ?_, ?_⟩
      · simp [initializeApplication, hcfg, hdirs]
      · simp only [initializeApplication, hcfg]
        simpa [hdirs] using StartExit.storeFailed hcfg hdirs
  | true =>
  by_cases hopen : ProvService.Opens env.service s.disk
  case neg =>
    obtain ⟨hval, hdisk, -⟩ := ProvService.initializeService_closed P env.service
      ⟨s.disk, { config := readServiceConfig cfg }⟩ rfl hopen
    refine ⟨false, ?_, ?_⟩
    · simp [initializeApplication, hcfg, hdirs, onService, hval]
    · simp only [initializeApplication, hcfg]
      have hexit := StartExit.serviceFailed (s := s) hcfg hdirs hopen
        (ProvService.initializeService P env.service
          ⟨s.disk, { config := readServiceConfig cfg }⟩).state.mem
      simpa [hdirs, onService, hval, hdisk, rollback_providersReady] using hexit
  case pos =>
    obtain ⟨hval, hstate⟩ := ProvService.initializeService_opened P env.service
      ⟨s.disk, { config := readServiceConfig cfg }⟩ rfl hopen
    cases hstarts : env.serverStarts with
    | false =>
        refine ⟨false, ?_, ?_⟩
        · simp [initializeApplication, hcfg, hdirs, onService, hval, startIpc_failed, hstarts]
        · simp only [initializeApplication, hcfg]
          have hexit := StartExit.ipcFailed (s := s) hcfg hdirs hopen hstarts
          simpa [hdirs, onService, hval, hstate, startIpc_failed, hstarts] using hexit
    | true =>
        refine ⟨true, ?_, ?_⟩
        · simp [initializeApplication, hcfg, hdirs, onService, hval, startIpc_started, hstarts]
        · simp only [initializeApplication, hcfg]
          have hexit := StartExit.up (s := s) hcfg hdirs hopen hstarts
            ⟨bytes "prov", cfg.getString "common.store.root" (bytes "/var/tbox")⟩
            { config := readServiceConfig cfg
              initialized := true
              storage := ⟨protectedIn P (s.disk .protection)⟩ }
            ⟨cfg.getString "prov.ipc.socket_path" (bytes "/tmp/tbox-prov.sock"),
              readIpcConfig cfg, true⟩
          simpa [hdirs, onService, hval, hstate, startIpc_started, hstarts] using hexit

theorem quiesce_eq {s : Machine ProvApplication} (h : s.mem.service.isSome = true) :
    quiesce s = onService ProvService.beginShutdown s := by
  apply Outcome.ext <;> simp [quiesce, h]

@[simp] theorem release_val (s : Machine ProvApplication) : (release s).val = some () := rfl

@[simp] theorem release_disk (s : Machine ProvApplication) : (release s).state.disk = s.disk := rfl

theorem cleanup_state (s : Machine ProvApplication) :
    (cleanup s).state = ⟨s.disk, { ipcServer := s.mem.ipcServer.map fun server ↦
      { server with running := false } }⟩ := by
  cases hservice : s.mem.service with
  | none => simp [cleanup, quiesce, release, hservice]
  | some service => simp [cleanup, quiesce, release, hservice, onService]

end ProvApplication

end TboxProv
