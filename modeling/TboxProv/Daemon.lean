import TboxProv.CliSessions
import TboxProv.Crash.Relational
import TboxProv.IpcSurface

/-!
# The daemon

Two entry points bring the service up and serve requests until a signal comes: the `main`
of `main_legacy.cpp`, which does everything by hand, and `ProvApplication`, which leaves
signals, configuration and logger to its base class.
-/

namespace TboxProv.Daemon

open Crash Store ProvService
open ProvIpcDispatcher (dispatch)
open ProvApplication (readIpcConfig readServiceConfig initializeApplication quiesce release
  onService)
open ProvCli (Roots cerr)

/-- What one life of the daemon meets with: its configuration, the store, the start of the IPC
server, the requests that come in until it begins to stop, and those that still come in until
the server is stopped. -/
structure Life where
  cfg : ProviderSnapshot
  build : Build
  outside : Env
  starts : IpcServer → Bool
  requests : List ProvIpcDispatcher.Request
  late : List ProvIpcDispatcher.Request := []
  receivedSignal : ℤ

/-- The stores, and what has been answered to clients. -/
structure World where
  roots : Roots
  answers : List (Throws Bytes)

/-- A machine together with the answers it has given. -/
structure Served (μ : Type) where
  machine : Machine μ
  answers : List (Throws Bytes)

/-! ## The code -/

section Serving

variable {μ : Type}

def Served.on {α : Type} (p : Action μ α) : Prog (Served μ) Output α :=
  Prog.zoom Served.machine (fun t s ↦ { s with machine := t }) p

/-- The requests in turn; a process that is killed gives no more answers. -/
def serveAll (answer : ProvIpcDispatcher.Request → Action μ (Throws Bytes)) :
    List ProvIpcDispatcher.Request → Prog (Served μ) Output Unit
  | [] => return ()
  | request :: requests => do
      let reply ← Served.on (answer request)
      Prog.modify fun s ↦ { s with answers := s.answers ++ [reply] }
      serveAll answer requests

/-- A process that starts on the store under a root path. -/
def onStore {α : Type} (root : Bytes) (start : Disk → Machine μ)
    (p : Prog (Served μ) Output α) : Prog World Output α :=
  Prog.zoom (fun w ↦ ⟨start (w.roots root), w.answers⟩)
    (fun t w ↦ ⟨Function.update w.roots root t.machine.disk, t.answers⟩) p

end Serving

section Code

variable (P : Platform) (life : Life)

namespace Life

def service : Env := Env.provided life.build (some life.cfg) life.outside

def storeRoot : Bytes := life.cfg.getString "common.store.root" (bytes "/var/tbox")

/-- The server that both entry points set up. -/
def server : IpcServer where
  socketPath := life.cfg.getString "prov.ipc.socket_path" (bytes "/tmp/tbox-prov.sock")
  config := readIpcConfig life.cfg.toConfigSnapshot

def answer (request : ProvIpcDispatcher.Request) : ServiceAction (Throws Bytes) :=
  dispatch P (Env.provided life.build (some life.cfg) request.env) request.methodId request.params

/-- By the time that the service opens its store, the application has made its directories. -/
def app : AppEnv where
  snapshot := some life.cfg.toConfigSnapshot
  rootDir := life.outside.rootDir
  serviceDir := life.outside.serviceDir
  service := { life.service with rootDir := .present, serviceDir := .present }
  serverStarts := life.starts life.server

end Life

/-! ### The legacy entry point -/

inductive LogLevel where
  | trace
  | debug
  | info
  | warn
  | error

def logLevel (cfg : ConfigSnapshot) : LogLevel :=
  let text := cfg.getString "common.log.level" (bytes "info")
  if text = bytes "trace" then .trace
  else if text = bytes "debug" then .debug
  else if text = bytes "info" then .info
  else if text = bytes "warn" then .warn
  else if text = bytes "error" then .error
  else .info

/-- The signal for which `sigaction` fails. -/
inductive SignalFailure where
  | shutdown (signal : ℕ)
  | sigpipe

def SignalFailure.message : SignalFailure → Bytes
  | .shutdown signal => bytes ("FATAL: sigaction failed for signal " ++ toString signal)
  | .sigpipe => bytes "FATAL: sigaction failed for SIGPIPE"

/-- How the steps turn out that come before the service. -/
structure Setup where
  signals : Option SignalFailure := none
  load : Option Bytes := none
  logger : LogLevel → Option Bytes := fun _ ↦ none

def logged {σ : Type} (level : Level) (event message : String)
    (fields : List (String × FieldValue)) : Prog σ Output Unit :=
  Prog.emit (.log "service" level event message fields)

/-- From the service on. -/
def serveLegacy : Prog (Served ProvService) Output Int32 := do
  let result ← Served.on (initializeService P life.service)
  if result ≠ .success then
    logged .error "prov.service.initialization_failed" "Failed to initialize PROV service" []
    return 1
  else if !life.starts life.server then
    logged .error "prov.service.ipc_start_failed" "Failed to start IPC server" []
    return 1
  else
    logged .info "prov.service.ready" "PROV service is ready to accept IPC connections" []
    serveAll (life.answer P) life.requests
    logged .info "prov.service.shutting_down" "Shutting down PROV service..."
      [("signal", .int life.receivedSignal)]
    serveAll (life.answer P) life.late
    logged .info "prov.service.stopped" "PROV service stopped" []
    return 0

/-- `main` of `main_legacy.cpp` -/
def legacyMain (setup : Setup) : Prog World Output Int32 := do
  match setup.signals with
  | some failure =>
      cerr failure.message
      return 1
  | none =>
  match setup.load with
  | some message =>
      cerr (bytes "FATAL: Config load failed: " ++ message)
      return 1
  | none =>
  match setup.logger (logLevel life.cfg.toConfigSnapshot) with
  | some message =>
      cerr (bytes "FATAL: Logger init failed: " ++ message)
      return 1
  | none =>
      logged .info "prov.service.starting" "TBOX PROV Service Starting (legacy lifecycle)" []
      onStore life.storeRoot (fresh (readServiceConfig life.cfg.toConfigSnapshot))
        (serveLegacy P life)

/-! ### The application -/

/-- `ProvApplication::execute`, with what comes in while it waits. -/
def execute : Prog (Served ProvApplication) Output Unit := do
  logged .info "prov.service.ready" "PROV service is ready" []
  serveAll (fun request ↦ onService (life.answer P request)) life.requests

/-- `ProvApplication::cleanup`, with what comes in before the server is stopped. -/
def stopServing : Prog (Served ProvApplication) Output Unit := do
  Served.on quiesce
  serveAll (fun request ↦ onService (life.answer P request)) life.late
  Served.on release

/-- `initialize`, and if it succeeds `execute` and `cleanup`. -/
def serveApplication : Prog (Served ProvApplication) Output Bool := do
  if !(← Served.on (initializeApplication P life.app)) then return false
  else
    execute P life
    stopServing P life
    return true

def applicationLife : Prog World Output Bool :=
  onStore life.storeRoot (fun disk ↦ ⟨disk, {}⟩) (serveApplication P life)

end Code

end TboxProv.Daemon
