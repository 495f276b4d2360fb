import TboxProv.CheckConfig
import TboxProv.Durability
import TboxProv.Protection
import TboxProv.RecordWrites
import TboxProv.ShippedProviders

/-!
# The command line tool

`prov_cli` builds a service of its own for every command.  Its state is what lies under
the root paths of the stores; a process that is killed leaves what it has saved by then.
-/

namespace TboxProv.ProvCli

open Crash Store ProvService

/-- The stores under all root paths. -/
abbrev Roots := Bytes → Disk

/-- The outside of one execution: the arguments, what `YAML::LoadFile` and
`CONFIG_MANAGER.load` return, the build, and what the service finds. -/
structure CliEnv where
  argv : List Bytes
  loadFile : Bytes → Throws Yaml
  config : Except Bytes ProviderSnapshot
  build : Build
  outside : Env

section Printing

variable {σ : Type}

def cout (line : Bytes) : Prog σ Output Unit := Prog.emit (.stdout line)

def cerr (line : Bytes) : Prog σ Output Unit := Prog.emit (.stderr line)

def usage : List String :=
  ["PROV CLI Tool",
   "Usage: prov_cli <command> [args...]",
   "",
   "Commands:",
   "  init                    - Initialize PROV service",
   "  write_vin <vin>         - Write VIN",
   "  read_vin                - Read VIN",
   "  read_uid                - Read ECU UID",
   "  read_binding            - Read binding info",
   "  get_state               - Get provision state",
   "  write_config <hex>      - Write vehicle config",
   "  authorize <vin>         - Authorize rewrite",
   "  check-config <path>     - Validate a PROV config file (no side effects)"]

def printUsage : Prog σ Output Unit :=
  usage.foldr (fun line rest ↦ do cout (bytes line); rest) (pure ())

/-- An exception that leaves `main` ends the process. -/
def terminate {α : Type} : Prog σ Output α := Prog.atomically fun s ↦ (none, s)

end Printing

/-! ## Commands -/

inductive Command where
  | init
  | writeVin
  | readVin
  | readUid
  | readBinding
  | getState
  | writeConfig
  | authorize
  deriving DecidableEq

def commands : List (Bytes × Command) :=
  [(bytes "init", .init),
   (bytes "write_vin", .writeVin),
   (bytes "read_vin", .readVin),
   (bytes "read_uid", .readUid),
   (bytes "read_binding", .readBinding),
   (bytes "get_state", .getState),
   (bytes "write_config", .writeConfig),
   (bytes "authorize", .authorize)]

section Code

variable (P : Platform)

/-- A command that needs an argument; further arguments are not looked at. -/
def withArgument (args : List Bytes) (usage : String) (p : Bytes → ServiceAction Int32) :
    ServiceAction Int32 :=
  match args with
  | [] => do
      cerr (bytes "Usage: prov_cli " ++ bytes usage)
      return 1
  | arg :: _ => p arg

def report (result : ErrorCode) (success : Bytes) (failure : String) : ServiceAction Int32 :=
  if result = .success then do
    cout success
    return 0
  else do
    cerr (bytes failure ++ bytes result.toString)
    return 1

/-- The `switch` has no default. -/
def stateName (state : ProvisionState) : String :=
  if state = .none then "NONE"
  else if state = .vinWritten then "VIN_WRITTEN"
  else if state = .bound then "BOUND"
  else if state = .failed then "FAILED"
  else ""

def printBinding (binding : VehicleBinding) : ServiceAction Unit := do
  cout (bytes "Binding Info:")
  cout (bytes "  VIN: " ++ if binding.vin.isEmpty then bytes "(not written)" else binding.vin)
  cout (bytes "  ECU UID: " ++
    if binding.ecuUid.isEmpty then bytes "(not available)" else binding.ecuUid)
  cout (bytes "  State: " ++ bytes (stateName binding.state))
  cout (bytes "  Locked: " ++ bytes (if binding.locked then "true" else "false"))
  cout (bytes "  Retry Count: " ++ bytes (toString binding.retryCount.toNat))
  cout (bytes "  Rewrite Count: " ++ bytes (toString binding.rewriteCount.toNat))

def printUid (build : Build) (cfg : ProviderSnapshot) : ServiceAction Int32 :=
  let result := EcuUid.readUidDetailed build (some cfg)
  if result.success then do
    cout (bytes "ECU UID: " ++ result.uid)
    cout (bytes "Source: " ++ bytes (if build.se.isSeHardwarePresent then "SE hardware"
      else if build.testEnvironment then "Config (test environment)" else "Unknown"))
    return 0
  else do
    cerr (bytes "Failed to read ECU UID: " ++ result.errorMessage)
    cerr (bytes "Error Code: " ++ bytes result.errorCode.toString)
    return 1

/-- What comes after the initialization of the service. -/
def runCommand (build : Build) (cfg : ProviderSnapshot) (env : Env) :
    Command → List Bytes → ServiceAction Int32
  | .init, _ => do
      cout (bytes "PROV service initialized successfully")
      return 0
  | .writeVin, args => withArgument args "write_vin <vin>" fun vin ↦ do
      let result ← ProvService.writeVin P env vin
      report result (bytes "VIN written successfully: " ++ vin) "Failed to write VIN: "
  | .readVin, _ => do
      let vin ← ProvService.readVin P
      cout (bytes "VIN: " ++ if vin.isEmpty then bytes "(not written)" else vin)
      return 0
  | .readUid, _ => printUid build cfg
  | .readBinding, _ => do
      printBinding (← ProvService.readBinding P env)
      return 0
  | .getState, _ => do
      let state ← ProvService.getProvisionState P
      cout (bytes "Provision State: " ++ bytes (stateName state))
      return 0
  | .writeConfig, args => withArgument args "write_config <hex_data>" fun hexData ↦ do
      -- the characters of the argument, not the bytes they stand for
      let configData := hexData
      let result ← ProvService.writeVehicleConfig P env configData
      report result (bytes "Vehicle config written successfully")
        "Failed to write vehicle config: "
  | .authorize, args => withArgument args "authorize <new_vin>" fun newVin ↦ do
      let result ← ProvService.authorizeRewrite P env newVin
      report result (bytes "Rewrite authorized successfully") "Failed to authorize rewrite: "

def dispatch (build : Build) (cfg : ProviderSnapshot) (env : Env) (command : Bytes)
    (args : List Bytes) : ServiceAction Int32 :=
  match commands.lookup command with
  | some known => runCommand P build cfg env known args
  | none => do
      cerr (bytes "Unknown command: " ++ command)
      printUsage
      return 1

/-- The service is initialized before the command is looked at. -/
def runService (build : Build) (cfg : ProviderSnapshot) (env : Env) (command : Bytes)
    (args : List Bytes) : ServiceAction Int32 := do
  let result ← ProvService.initializeService P env
  if result ≠ .success then
    cerr (bytes "Failed to initialize PROV service: " ++ bytes result.toString)
    return 1
  else dispatch P build cfg env command args

/-- A service that lives for one execution, on the store under a root path. -/
def onRoot {α : Type} (root : Bytes) (config : ProvServiceConfig) (p : ServiceAction α) :
    Prog Roots Output α :=
  Prog.zoom (fun roots ↦ fresh config (roots root))
    (fun t roots ↦ Function.update roots root t.disk) p

def storeRoot (cfg : ProviderSnapshot) : Bytes :=
  cfg.getString "common.store.root" (bytes "/tmp/tbox")

variable (Y : YamlLib)

def checkConfigCommand (loadFile : Bytes → Throws Yaml) (args : List Bytes) :
    Prog Roots Output Int32 :=
  match args with
  | [] => do
      cerr (bytes "Usage: prov_cli check-config <config-path>")
      return 1
  | path :: _ => do
      match ← CheckConfig.checkConfig Y path (loadFile path) with
      | .ok status => return status
      | .error _ => terminate

def main (env : CliEnv) : Prog Roots Output Int32 :=
  match env.argv with
  | _ :: command :: args =>
      if command = bytes "check-config" then checkConfigCommand Y env.loadFile args
      else
        match env.config with
        | .error message => do
            cerr (bytes "Config load failed: " ++ message)
            return 1
        | .ok cfg =>
            onRoot (storeRoot cfg) (ProvApplication.readServiceConfig cfg.toConfigSnapshot)
              (runService P env.build cfg (Env.provided env.build (some cfg) env.outside)
                command args)
  | _ => do
      printUsage
      return 1

end Code

/-! ## What an execution does -/

/-- The exit status that goes with a code. -/
def status (code : ErrorCode) : Int32 := if code = .success then 0 else 1

/-- The call that a command makes, if it is one that writes. -/
def Command.call (env : Env) : Command → List Bytes → Option Call
  | .writeVin, vin :: _ => some (.binding .writeVin env vin)
  | .authorize, newVin :: _ => some (.binding .authorizeRewrite env newVin)
  | .writeConfig, hexData :: _ => some (.writeVehicleConfig env hexData)
  | _, _ => none

section Equations

variable {P : Platform} {Y : YamlLib} {build : Build} {cfg : ProviderSnapshot} {env : Env}
  {command : Command} {args : List Bytes} {s : Machine ProvService}

@[simp] theorem cout_val {σ : Type} (line : Bytes) (s : σ) : (cout line s).val = some () := rfl

@[simp] theorem cout_state {σ : Type} (line : Bytes) (s : σ) : (cout line s).state = s := rfl

@[simp] theorem cerr_val {σ : Type} (line : Bytes) (s : σ) : (cerr line s).val = some () := rfl

@[simp] theorem cerr_state {σ : Type} (line : Bytes) (s : σ) : (cerr line s).state = s := rfl

@[simp] theorem printUsage_val {σ : Type} (s : σ) :
    (printUsage s : Outcome σ Output Unit).val = some () := by
  unfold printUsage
  induction usage with
  | nil => rfl
  | cons line rest ih => simpa using ih

@[simp] theorem printUsage_state {σ : Type} (s : σ) :
    (printUsage s : Outcome σ Output Unit).state = s := by
  unfold printUsage
  induction usage with
  | nil => rfl
  | cons line rest ih => simpa using ih

@[simp] theorem report_val (result : ErrorCode) (success : Bytes) (failure : String) :
    (report result success failure s).val = some (status result) := by
  unfold report status
  split <;> simp

@[simp] theorem report_state (result : ErrorCode) (success : Bytes) (failure : String) :
    (report result success failure s).state = s := by
  unfold report
  split <;> simp

theorem reported (p : ServiceAction ErrorCode) (success : Bytes) (failure : String) :
    ((do report (← p) success failure : ServiceAction Int32) s).val = (p s).val.map status ∧
      ((do report (← p) success failure : ServiceAction Int32) s).state = (p s).state := by
  simp only [Prog.bind_val, Prog.bind_state, report_val, report_state]
  cases (p s).val with
  | none => exact ⟨rfl, rfl⟩
  | some code => exact ⟨rfl, rfl⟩

theorem printBinding_returns (binding : VehicleBinding) :
    (printBinding binding s).val = some () ∧ (printBinding binding s).state = s := by
  simp [printBinding]

theorem printUid_returns :
    (∃ code, (printUid build cfg s).val = some code) ∧ (printUid build cfg s).state = s := by
  unfold printUid
  split <;> simp

theorem Command.call_cases {c : Call} (h : command.call env args = some c) :
    (∃ call vin, c = .binding call env vin) ∨
      ∃ configData, c = .writeVehicleConfig env configData := by
  cases args with
  | nil => cases command <;> cases h
  | cons arg args =>
      cases command with
      | writeVin => exact .inl ⟨.writeVin, arg, (Option.some.inj h).symm⟩
      | authorize => exact .inl ⟨.authorizeRewrite, arg, (Option.some.inj h).symm⟩
      | writeConfig => exact .inr ⟨arg, (Option.some.inj h).symm⟩
      | init | readVin | readUid | readBinding | getState => cases h

/-- A command that writes exits with the status of its call. -/
theorem runCommand_call {c : Call} (h : command.call env args = some c) :
    (runCommand P build cfg env command args s).val = (c.returned P s).map status ∧
      (runCommand P build cfg env command args s).state = (c.prog P s).state := by
  cases args with
  | nil => cases command <;> cases h
  | cons arg args =>
      cases command with
      | writeVin =>
          cases h
          rw [binding_returned, Call.prog, coded_state]
          exact reported _ _ _
      | writeConfig =>
          cases h
          rw [writeVehicleConfig_returned, Call.prog, coded_state]
          exact reported _ _ _
      | authorize =>
          cases h
          rw [binding_returned, Call.prog, coded_state]
          exact reported _ _ _
      | init | readVin | readUid | readBinding | getState => cases h

/-- Any other command returns with the service as it was. -/
theorem runCommand_noCall (h : command.call env args = none) :
    (∃ code, (runCommand P build cfg env command args s).val = some code) ∧
      (runCommand P build cfg env command args s).state = s := by
  cases command with
  | init => exact ⟨⟨0, rfl⟩, rfl⟩
  | readVin => simp [runCommand, readVin_returns]
  | readUid => exact printUid_returns
  | readBinding => simp [runCommand, readBinding_val, printBinding_returns]
  | getState => simp [runCommand, getProvisionState_returns]
  | writeVin | writeConfig | authorize =>
      cases args with
      | nil => simp [runCommand, withArgument]
      | cons arg args => cases h

/-! ### The service of an execution -/

/-- The initialization and the call of an execution. -/
def callsOf (env : Env) (command : Command) (args : List Bytes) : List Call :=
  .initializeService env :: (command.call env args).toList

theorem exec_call_uninitialized (hP : P.json.Lawful) {c : Call}
    (h : command.call env args = some c) (hinit : s.mem.initialized = false) :
    exec P c s = s := by
  rcases Command.call_cases h with ⟨call, vin, rfl⟩ | ⟨configData, rfl⟩
  · refine (exec_notBinds hP fun hbinds ↦ ?_).2
    have hon := hbinds.admits.initialized
    rw [hinit] at hon
    cases hon
  · have hno : ¬ WritesAdmitted s := fun hadm ↦ by
      have hon := hadm.1
      rw [hinit] at hon
      cases hon
    obtain ⟨code, -, hval, hstate⟩ := writeVehicleConfig_refused P env s configData hno
    exact exec_coded_unchanged rfl hval hstate

theorem exec_initialize_opened {config : ProvServiceConfig} {disk : Disk}
    (hopen : Opens env disk) :
    exec P (.initializeService env) (fresh config disk) =
      ⟨disk, { config, storage := ⟨protectedIn P (disk .protection)⟩, initialized := true }⟩ := by
  obtain ⟨hval, hstate⟩ := initializeService_opened P env (fresh config disk) rfl hopen
  refine exec_eq ?_ ?_
  · rw [Call.prog, coded_val, hval]
    simp
  · rw [Call.prog, coded_state, hstate]
    rfl

theorem exec_initialize_closed (config : ProvServiceConfig) {disk : Disk}
    (hopen : ¬ Opens env disk) :
    (exec P (.initializeService env) (fresh config disk)).disk = disk ∧
      (exec P (.initializeService env) (fresh config disk)).mem.initialized = false := by
  obtain ⟨hval, hdisk, hinit, -⟩ := initializeService_closed P env (fresh config disk) rfl hopen
  have hexec : exec P (.initializeService env) (fresh config disk) =
      (initializeService P env (fresh config disk)).state := by
    refine exec_eq ?_ ?_
    · rw [Call.prog, coded_val, hval]
      simp
    · rw [Call.prog, coded_state]
  rw [hexec]
  exact ⟨hdisk, hinit⟩

section Start

variable {name : Bytes} {config : ProvServiceConfig} {disk : Disk}

variable (P build cfg name args config) in
theorem runService_opened (hopen : Opens env disk) :
    (runService P build cfg env name args (fresh config disk)).val =
        (dispatch P build cfg env name args
          (exec P (.initializeService env) (fresh config disk))).val ∧
      (runService P build cfg env name args (fresh config disk)).state =
        (dispatch P build cfg env name args
          (exec P (.initializeService env) (fresh config disk))).state ∧
      (runService P build cfg env name args (fresh config disk)).out =
        (initializeService P env (fresh config disk)).out ++
          (dispatch P build cfg env name args
            (exec P (.initializeService env) (fresh config disk))).out := by
  obtain ⟨hval, hstate⟩ := initializeService_opened P env (fresh config disk) rfl hopen
  rw [exec_initialize_opened hopen]
  simp only [runService, Prog.bind_val, Prog.bind_state, Prog.bind_out, hval, hstate,
    Option.bind_some, Option.elim_some, ne_eq, not_true_eq_false, if_false]
  exact ⟨rfl, rfl, rfl⟩

theorem runService_closed (hopen : ¬ Opens env disk) :
    (runService P build cfg env name args (fresh config disk)).val = some 1 ∧
      (runService P build cfg env name args (fresh config disk)).state.disk = disk := by
  obtain ⟨hval, hdisk, -⟩ := initializeService_closed P env (fresh config disk) rfl hopen
  have hkept : (initializeService P env (fresh config disk)).state.disk = disk := hdisk
  simp [runService, hval, hkept]

theorem dispatch_known (h : commands.lookup name = some command) :
    dispatch P build cfg env name args = runCommand P build cfg env command args := by
  rw [dispatch, h]

theorem dispatch_unknown (h : commands.lookup name = none) (s : Machine ProvService) :
    (dispatch P build cfg env name args s).val = some 1 ∧
      (dispatch P build cfg env name args s).state = s := by
  simp [dispatch, h]

theorem runCommand_readVin (hinit : s.mem.initialized = true) :
    (runCommand P build cfg env .readVin args s).val = some 0 ∧
      (runCommand P build cfg env .readVin args s).out.getLast? =
        let vin := (bindingIn P (s.disk .binding)).elim [] (·.vin)
        some (.stdout (bytes "VIN: " ++ if vin.isEmpty then bytes "(not written)" else vin)) := by
  have hval := readVin_val P s hinit
  refine ⟨by simp [runCommand, hval], ?_⟩
  simp [runCommand, hval, cout]

theorem runCommand_getState (hinit : s.mem.initialized = true) :
    (runCommand P build cfg env .getState args s).val = some 0 ∧
      (runCommand P build cfg env .getState args s).out.getLast? =
        some (.stdout (bytes "Provision State: " ++
          bytes (stateName ((bindingIn P (s.disk .binding)).elim .none (·.state))))) := by
  have hval := getProvisionState_val P s hinit
  refine ⟨by simp [runCommand, hval], ?_⟩
  simp [runCommand, hval, cout]

/-- The lines of `read_binding`. -/
def bindingLines (binding : VehicleBinding) : List Output :=
  [bytes "Binding Info:",
   bytes "  VIN: " ++ if binding.vin.isEmpty then bytes "(not written)" else binding.vin,
   bytes "  ECU UID: " ++
     if binding.ecuUid.isEmpty then bytes "(not available)" else binding.ecuUid,
   bytes "  State: " ++ bytes (stateName binding.state),
   bytes "  Locked: " ++ bytes (if binding.locked then "true" else "false"),
   bytes "  Retry Count: " ++ bytes (toString binding.retryCount.toNat),
   bytes "  Rewrite Count: " ++ bytes (toString binding.rewriteCount.toNat)].map .stdout

theorem printBinding_out (binding : VehicleBinding) (s : Machine ProvService) :
    (printBinding binding s).out = bindingLines binding := rfl

/-- The SN is not among the lines. -/
theorem bindingLines_withSn (env : Env) (binding : VehicleBinding) :
    bindingLines (withSn env binding) = bindingLines binding := by
  unfold withSn
  split <;> rfl

theorem runCommand_readBinding (hinit : s.mem.initialized = true) :
    bindingLines ((bindingIn P (s.disk .binding)).elim {} id) <:+
      (runCommand P build cfg env .readBinding args s).out := by
  have hlines : bindingLines (shownBinding P env s) =
      bindingLines ((bindingIn P (s.disk .binding)).elim {} id) := by
    rw [shownBinding, if_pos hinit]
    cases bindingIn P (s.disk .binding) with
    | none => rfl
    | some binding => exact bindingLines_withSn env binding
  refine ⟨(readBinding P env s).out, ?_⟩
  rw [← hlines]
  simp [runCommand, readBinding_val, printBinding_out, (printBinding_returns _).1]

theorem printUid_zero (hzero : (printUid build cfg s).val = some 0) :
    (EcuUid.readUidDetailed build (some cfg)).success = true ∧
      .stdout (bytes "ECU UID: " ++ (EcuUid.readUidDetailed build (some cfg)).uid) ∈
        (printUid build cfg s).out := by
  cases hsuccess : (EcuUid.readUidDetailed build (some cfg)).success with
  | false => simp [printUid, hsuccess] at hzero
  | true => simp [printUid, hsuccess, cout]

end Start

end Equations

/-! ### Executions -/

/-- The execution gets to a command of the table, with a configuration. -/
structure CliEnv.Requests (env : CliEnv) (cfg : ProviderSnapshot) (command : Command)
    (args : List Bytes) : Prop where
  argv : ∃ program name, env.argv = program :: name :: args ∧
    commands.lookup name = some command
  config : env.config = .ok cfg

/-- What the service of an execution finds. -/
def CliEnv.service (env : CliEnv) (cfg : ProviderSnapshot) : Env :=
  Env.provided env.build (some cfg) env.outside

def serviceConfig (cfg : ProviderSnapshot) : ProvServiceConfig :=
  ProvApplication.readServiceConfig cfg.toConfigSnapshot

section Executions

variable {P : Platform} {Y : YamlLib} {env : CliEnv} {cfg : ProviderSnapshot}
  {command : Command} {args : List Bytes} {roots : Roots}

theorem onRoot_state {α : Type} (root : Bytes) (config : ProvServiceConfig)
    (p : ServiceAction α) (roots : Roots) :
    (onRoot root config p roots).state =
      Function.update roots root (p (fresh config (roots root))).state.disk := rfl

theorem main_of_requests (h : env.Requests cfg command args) :
    ∃ name, commands.lookup name = some command ∧
      main P Y env = onRoot (storeRoot cfg) (serviceConfig cfg)
        (runService P env.build cfg (env.service cfg) name args) := by
  obtain ⟨⟨program, name, hargv, hname⟩, hconfig⟩ := h
  refine ⟨name, hname, ?_⟩
  have hcheck : name ≠ bytes "check-config" := by
    rintro rfl
    have hnone : commands.lookup (bytes "check-config") = none := by decide
    rw [hnone] at hname
    cases hname
  rw [main, hargv]
  simp only [hcheck, if_false, hconfig]
  rfl

theorem checkConfigCommand_state (loadFile : Bytes → Throws Yaml) (args : List Bytes)
    (roots : Roots) : (checkConfigCommand Y loadFile args roots).state = roots := by
  cases args with
  | nil => rfl
  | cons path args =>
      have hstate : (CheckConfig.checkConfig Y path (loadFile path) roots).state = roots := by
        cases loadFile path with
        | error e => rfl
        | ok config => exact (CheckConfig.checkConfig_prints Y path config roots).1
      simp only [checkConfigCommand, Prog.bind_state, hstate]
      cases (CheckConfig.checkConfig Y path (loadFile path) roots).val with
      | none => rfl
      | some result => cases result <;> rfl

theorem checkConfigCommand_zero {loadFile : Bytes → Throws Yaml} {path : Bytes}
    {args : List Bytes}
    (hzero : (checkConfigCommand Y loadFile (path :: args) roots).val = some 0) :
    ∃ doc, loadFile path = .ok doc ∧ (Y.Lawful → CheckConfig.Accepts doc) := by
  cases hload : loadFile path with
  | error e => simp [checkConfigCommand, hload, CheckConfig.checkConfig] at hzero
  | ok doc =>
      refine ⟨doc, rfl, fun hY ↦ ?_⟩
      by_contra haccepts
      by_cases hescapes : CheckConfig.Escapes doc
      · have hexit : ∃ e, (CheckConfig.checkConfig Y path (.ok doc) roots).val =
            some (.error e) := hescapes.exit hY
        obtain ⟨e, he⟩ := hexit
        simp [checkConfigCommand, hload, he, terminate] at hzero
      · have hrejected : (CheckConfig.checkConfig Y path (.ok doc) roots).val = some (.ok 1) :=
          CheckConfig.rejected_exit hY hescapes haccepts
        simp [checkConfigCommand, hload, hrejected] at hzero

/-- Only a command of the table, with a configuration, gets to a store. -/
theorem main_untouched (h : ¬ ∃ cfg command args, env.Requests cfg command args) :
    (main P Y env roots).state = roots := by
  unfold main
  cases hargv : env.argv with
  | nil => simp
  | cons program rest =>
  cases rest with
  | nil => simp
  | cons name args =>
  by_cases hcheck : name = bytes "check-config"
  · simp only [hcheck, if_true]
    exact checkConfigCommand_state _ _ _
  simp only [hcheck, if_false]
  cases hconfig : env.config with
  | error message => rfl
  | ok cfg =>
      have hname : commands.lookup name = none := by
        rw [Option.eq_none_iff_forall_ne_some]
        intro command hname
        exact h ⟨cfg, command, args, ⟨program, name, hargv, hname⟩, hconfig⟩
      simp only [onRoot_state]
      by_cases hopen : Opens (Env.provided env.build (some cfg) env.outside)
          (roots (storeRoot cfg))
      · rw [(runService_opened P env.build cfg args name _ hopen).2.1, (dispatch_unknown hname _).2,
          exec_initialize_opened hopen]
        exact Function.update_eq_self _ _
      · rw [(runService_closed hopen).2]
        exact Function.update_eq_self _ _

/-- An execution leaves in its store what the calls of its service leave, and every other
store as it was. -/
theorem main_store (hP : P.json.Lawful) (h : env.Requests cfg command args) :
    (main P Y env roots).state =
      Function.update roots (storeRoot cfg)
        (run (exec P) (callsOf (env.service cfg) command args)
          (fresh (serviceConfig cfg) (roots (storeRoot cfg)))).disk := by
  obtain ⟨name, hname, hmain⟩ := main_of_requests h (P := P) (Y := Y)
  rw [hmain, onRoot_state, callsOf, run_cons]
  congr 1
  by_cases hopen : Opens (env.service cfg) (roots (storeRoot cfg))
  · rw [(runService_opened P env.build cfg args name _ hopen).2.1, dispatch_known hname]
    cases hcall : command.call (env.service cfg) args with
    | none =>
        rw [(runCommand_noCall hcall).2]
        rfl
    | some c =>
        rw [(runCommand_call hcall).2]
        exact (settle_disk _ _).symm
  · obtain ⟨hdisk, hinit⟩ := exec_initialize_closed (serviceConfig cfg) hopen (P := P)
    rw [(runService_closed hopen).2]
    cases hcall : command.call (env.service cfg) args with
    | none => exact hdisk.symm
    | some c =>
        rw [Option.toList_some, run_cons, run_nil, exec_call_uninitialized hP hcall hinit]
        exact hdisk.symm

/-- The service of an execution, once it is initialized. -/
def CliEnv.opened (P : Platform) (env : CliEnv) (cfg : ProviderSnapshot) (roots : Roots) :
    Machine ProvService :=
  exec P (.initializeService (env.service cfg))
    (fresh (serviceConfig cfg) (roots (storeRoot cfg)))

/-- A command that writes exits with the status of its call. -/
theorem main_val (h : env.Requests cfg command args)
    (hopen : Opens (env.service cfg) (roots (storeRoot cfg))) {c : Call}
    (hcall : command.call (env.service cfg) args = some c) :
    (main P Y env roots).val = (c.returned P (env.opened P cfg roots)).map status := by
  obtain ⟨name, hname, hmain⟩ := main_of_requests h (P := P) (Y := Y)
  rw [hmain, onRoot, Prog.zoom_val, (runService_opened P env.build cfg args name _ hopen).1,
    dispatch_known hname, (runCommand_call hcall).1]
  rfl

theorem main_val_closed (h : env.Requests cfg command args)
    (hopen : ¬ Opens (env.service cfg) (roots (storeRoot cfg))) :
    (main P Y env roots).val = some 1 := by
  obtain ⟨name, hname, hmain⟩ := main_of_requests h (P := P) (Y := Y)
  rw [hmain, onRoot, Prog.zoom_val, (runService_closed hopen).1]

/-- Once the service is initialized, the execution is its command. -/
theorem main_opened (h : env.Requests cfg command args)
    (hopen : Opens (env.service cfg) (roots (storeRoot cfg))) :
    (main P Y env roots).val =
        (runCommand P env.build cfg (env.service cfg) command args (env.opened P cfg roots)).val ∧
      ∃ before, (main P Y env roots).out = before ++
        (runCommand P env.build cfg (env.service cfg) command args
          (env.opened P cfg roots)).out := by
  obtain ⟨name, hname, hmain⟩ := main_of_requests h (P := P) (Y := Y)
  obtain ⟨hval, -, hout⟩ := runService_opened P env.build cfg args name (serviceConfig cfg) hopen
  rw [dispatch_known hname] at hval hout
  rw [hmain, onRoot, Prog.zoom_val, Prog.zoom_out]
  exact ⟨hval, _, hout⟩

end Executions

end TboxProv.ProvCli
