import TboxProv.Crash.Run
import TboxProv.Json.RoundTrip
import TboxProv.Operations

/-!
# Runs of the service

A `Call` is one public operation with everything it gets from outside, or the
end of the process.  When the process ends, in a save or between two calls, the
next call finds a new `ProvService` on the same disk.
-/

namespace TboxProv.ProvService

open Crash Store

inductive Call where
  | initializeService (env : Env)
  | beginShutdown
  | binding (call : BindingCall) (env : Env) (vin : Bytes)
  | writeVehicleConfig (env : Env) (configData : List UInt8)
  | writeProductionInfo (env : Env) (info : ProductionInfo)
  | readVin
  | readBinding (env : Env)
  | getProvisionState
  | isInitialized
  | restart

/-- A service that has not been initialized, over a disk. -/
def fresh (config : ProvServiceConfig) (disk : Disk) : Machine ProvService := ⟨disk, { config }⟩

def restarted (s : Machine ProvService) : Machine ProvService := fresh s.mem.config s.disk

def coded (p : ServiceAction ErrorCode) : ServiceAction (Option ErrorCode) := do
  return some (← p)

def uncoded {α : Type} (p : ServiceAction α) : ServiceAction (Option ErrorCode) := do
  let _ ← p
  return none

variable (P : Platform)

def Call.prog : Call → ServiceAction (Option ErrorCode)
  | .initializeService env => coded (ProvService.initializeService P env)
  | .beginShutdown => uncoded ProvService.beginShutdown
  | .binding call env vin => coded (call.run P env vin)
  | .writeVehicleConfig env configData => coded (ProvService.writeVehicleConfig P env configData)
  | .writeProductionInfo env info => coded (ProvService.writeProductionInfo P env info)
  | .readVin => uncoded (ProvService.readVin P)
  | .readBinding env => uncoded (ProvService.readBinding P env)
  | .getProvisionState => uncoded (ProvService.getProvisionState P)
  | .isInitialized => uncoded ProvService.isInitialized
  | .restart => Prog.atomically fun s ↦ (none, s)

def Call.returned (c : Call) (s : Machine ProvService) : Option ErrorCode := (c.prog P s).val.join

def exec (c : Call) : Machine ProvService → Machine ProvService := (c.prog P).settle restarted

variable {P} {s : Machine ProvService}

theorem settle_disk {α : Type} (p : ServiceAction α) (s : Machine ProvService) :
    (p.settle restarted s).disk = (p s).state.disk := by
  unfold Prog.settle
  cases (p s).val <;> rfl

/-- A restart only forgets: what the memory holds afterwards is new or was there. -/
theorem settle_mem {α : Type} (p : ServiceAction α) (s : Machine ProvService) :
    (p.settle restarted s).mem = (p s).state.mem ∨
      (p.settle restarted s).mem = { config := (p s).state.mem.config } := by
  unfold Prog.settle
  cases (p s).val with
  | none => exact .inr rfl
  | some a => exact .inl rfl

theorem restarted_disk (s : Machine ProvService) : (restarted s).disk = s.disk := rfl

variable (P) in
theorem exec_restart (s : Machine ProvService) : exec P .restart s = restarted s := rfl

theorem exec_eq {c : Call} {t : Machine ProvService} (hval : (c.prog P s).val ≠ none)
    (hstate : (c.prog P s).state = t) : exec P c s = t := by
  rw [exec, Prog.settle, hstate]
  cases h : (c.prog P s).val with
  | none => exact absurd h hval
  | some code => rfl

@[simp] theorem coded_state (p : ServiceAction ErrorCode) : (coded p s).state = (p s).state := by
  simp only [coded, Prog.bind_state, Prog.pure_state]
  cases (p s).val <;> rfl

@[simp] theorem coded_val (p : ServiceAction ErrorCode) : (coded p s).val = (p s).val.map some := by
  simp only [coded, Prog.bind_val, Prog.pure_val]
  cases (p s).val <;> rfl

@[simp] theorem uncoded_state {α : Type} (p : ServiceAction α) :
    (uncoded p s).state = (p s).state := by
  simp only [uncoded, Prog.bind_state, Prog.pure_state]
  cases (p s).val <;> rfl

theorem coded_join (p : ServiceAction ErrorCode) : (coded p s).val.join = (p s).val := by
  rw [coded_val]
  cases (p s).val <;> rfl

theorem binding_returned (call : BindingCall) (env : Env) (vin : Bytes) :
    (Call.binding call env vin).returned P s = (call.run P env vin s).val :=
  coded_join _

theorem writeVehicleConfig_returned (env : Env) (configData : List UInt8) :
    (Call.writeVehicleConfig env configData).returned P s =
      (writeVehicleConfig P env configData s).val :=
  coded_join _

theorem writeProductionInfo_returned (env : Env) (info : ProductionInfo) :
    (Call.writeProductionInfo env info).returned P s =
      (writeProductionInfo P env info s).val :=
  coded_join _

theorem exec_binding_of_returned {call : BindingCall} {env : Env} {vin : Bytes}
    {code : ErrorCode}
    (h : (Call.binding call env vin).returned P s = some code) :
    exec P (.binding call env vin) s = (call.run P env vin s).state := by
  rw [binding_returned] at h
  refine exec_eq ?_ ?_
  · rw [Call.prog, coded_val, h]
    simp
  · rw [Call.prog, coded_state]

/-! ## Calls on a store without faults -/

def Call.SavesStored : Call → Prop
  | .binding _ env _ | .writeVehicleConfig env _ | .writeProductionInfo env _ =>
      ∀ n, env.save n = .stored
  | _ => True

theorem exec_binds (hP : P.json.Lawful) {call : BindingCall} {env : Env} {vin : Bytes}
    (h : Binds P env vin s call) (hsaves : ∀ n, env.save n = .stored) :
    (Call.binding call env vin).returned P s = some .success ∧
      BoundBy P env vin s (exec P (.binding call env vin) s) := by
  obtain ⟨hval, hbound⟩ := h.stored hP hsaves
  rw [← binding_returned] at hval
  rw [exec_binding_of_returned hval]
  exact ⟨hval, hbound⟩

theorem exec_notBinds (hP : P.json.Lawful) {call : BindingCall} {env : Env} {vin : Bytes}
    (h : ¬ Binds P env vin s call) :
    ((Call.binding call env vin).returned P s = some .success →
        env.uid.success = false ∧ env.uid.errorCode = .success) ∧
      exec P (.binding call env vin) s = s := by
  obtain ⟨code, hval, hstate, hcode⟩ := run_notBinds hP h
  rw [← binding_returned] at hval
  refine ⟨fun hsuccess ↦ hcode ?_, (exec_binding_of_returned hval).trans hstate⟩
  rw [hval] at hsuccess
  exact Option.some.inj hsuccess

/-! ## What one call can do -/

variable (P) in
inductive Effect (s : Machine ProvService) : Call → Machine ProvService → Prop where
  | opened (env : Env) (h : s.mem.initialized = false) (hopen : Opens env s.disk) :
      Effect s (.initializeService env)
        ⟨s.disk, { s.mem with
          storage := ⟨protectedIn P (s.disk .protection)⟩
          initialized := true }⟩
  | closed (env : Env) {t : Machine ProvService} (hdisk : t.disk = s.disk)
      (hinit : t.mem.initialized = false) (hcfg : t.mem.config = s.mem.config) :
      Effect s (.initializeService env) t
  | shutdown : Effect s .beginShutdown ⟨s.disk, { s.mem with shuttingDown := true }⟩
  | restart : Effect s .restart s
  | config (env : Env) (configData : List UInt8) {t : Machine ProvService}
      (hadm : WritesAdmitted s) (frame : Frame .config s t) :
      Effect s (.writeVehicleConfig env configData) t
  | productionInfo (env : Env) (info : ProductionInfo) {t : Machine ProvService}
      (hadm : WritesAdmitted s) (frame : Frame .productionInfo s t) :
      Effect s (.writeProductionInfo env info) t
  | binding (call : BindingCall) (env : Env) (vin : Bytes) {code : Option ErrorCode}
      {t : Machine ProvService} (hadm : Admits P vin s call)
      (exit : FlowExit P env vin s code t)
      (hval : ((Call.binding call env vin).prog P s).val = code.map some) :
      Effect s (.binding call env vin) t
  | nothing (c : Call) : Effect s c s

theorem Effect.unchanged {s t : Machine ProvService} {c : Call} (h : t = s) : Effect P s c t := by
  rw [h]
  exact .nothing c

theorem initializeService_effect (env : Env) (s : Machine ProvService) :
    Effect P s (.initializeService env) (initializeService P env s).state := by
  cases hinit : s.mem.initialized with
  | true => exact .unchanged (initializeService_again P env s hinit).2
  | false =>
      by_cases hopen : Opens env s.disk
      · rw [(initializeService_opened P env s hinit hopen).2]
        exact .opened env hinit hopen
      · obtain ⟨-, hdisk, hclosed, -, hcfg⟩ := initializeService_closed P env s hinit hopen
        exact .closed env hdisk hclosed hcfg

theorem binding_effect (hP : P.json.Lawful) (call : BindingCall) (env : Env) (vin : Bytes)
    (s : Machine ProvService) :
    Effect P s (.binding call env vin) (call.run P env vin s).state := by
  have exit := run_exit env vin s hP call
  have hval : ((Call.binding call env vin).prog P s).val = (call.run P env vin s).val.map some :=
    coded_val _
  generalize (call.run P env vin s).val = code, (call.run P env vin s).state = t
    at exit hval ⊢
  cases exit with
  | turnedAway => exact .nothing _
  | flow hadm exit => exact .binding call env vin hadm exit hval

theorem prog_effect (hP : P.json.Lawful) (c : Call) (s : Machine ProvService) :
    Effect P s c (c.prog P s).state := by
  cases c with
  | initializeService env =>
      rw [Call.prog, coded_state]
      exact initializeService_effect env s
  | beginShutdown =>
      rw [Call.prog, uncoded_state, beginShutdown_state]
      exact .shutdown
  | binding call env vin =>
      rw [Call.prog, coded_state]
      exact binding_effect hP call env vin s
  | writeVehicleConfig env configData =>
      rw [Call.prog, coded_state]
      by_cases hadm : WritesAdmitted s
      · exact .config env configData hadm (writeVehicleConfig_frame P env configData s)
      · obtain ⟨code, -, -, hstate⟩ := writeVehicleConfig_refused P env s configData hadm
        exact .unchanged hstate
  | writeProductionInfo env info =>
      rw [Call.prog, coded_state]
      by_cases hadm : WritesAdmitted s
      · exact .productionInfo env info hadm (writeProductionInfo_frame P env info s)
      · obtain ⟨code, -, -, hstate⟩ := writeProductionInfo_refused P env s info hadm
        exact .unchanged hstate
  | readVin =>
      rw [Call.prog, uncoded_state]
      exact .unchanged (readVin_state P s)
  | readBinding env =>
      rw [Call.prog, uncoded_state]
      exact .unchanged (readBinding_state P env s)
  | getProvisionState =>
      rw [Call.prog, uncoded_state]
      exact .unchanged (getProvisionState_state P s)
  | isInitialized =>
      rw [Call.prog, uncoded_state]
      exact .unchanged (isInitialized_state s)
  | restart => exact .restart

/-- Only the binding calls touch the binding and its protection. -/
theorem exec_other (hP : P.json.Lawful) {c : Call} (hc : ∀ call env vin, c ≠ .binding call env vin)
    (s : Machine ProvService) :
    (exec P c s).disk .binding = s.disk .binding ∧
      (exec P c s).disk .protection = s.disk .protection := by
  rw [exec, settle_disk]
  have effect := prog_effect hP c s
  generalize (c.prog P s).state = t at effect ⊢
  cases effect with
  | opened | shutdown | restart | nothing => exact ⟨rfl, rfl⟩
  | closed _ hdisk => exact ⟨by rw [hdisk], by rw [hdisk]⟩
  | config _ _ _ frame => exact ⟨frame.other _ (by decide), frame.other _ (by decide)⟩
  | productionInfo _ _ _ frame => exact ⟨frame.other _ (by decide), frame.other _ (by decide)⟩
  | binding call env vin => exact absurd rfl (hc call env vin)

/-! ## Configuration -/

theorem Effect.config_eq {c : Call} {t : Machine ProvService} (h : Effect P s c t) :
    t.mem.config = s.mem.config := by
  cases h with
  | opened | shutdown | restart | nothing => rfl
  | closed _ _ _ hcfg => exact hcfg
  | config _ _ _ frame | productionInfo _ _ _ frame => rw [frame.mem]
  | binding _ _ _ _ exit => exact exit.mem.2.2

/-- No call changes the configuration, and a restart keeps it. -/
theorem exec_config (hP : P.json.Lawful) (c : Call) (s : Machine ProvService) :
    (exec P c s).mem.config = s.mem.config := by
  have hcfg := (prog_effect hP c s).config_eq
  rcases settle_mem (c.prog P) s with hmem | hmem
  · rw [exec, hmem, hcfg]
  · rw [exec, hmem]
    exact hcfg

theorem run_config (hP : P.json.Lawful) (calls : List Call) (s : Machine ProvService) :
    (run (exec P) calls s).mem.config = s.mem.config := by
  induction calls generalizing s with
  | nil => rfl
  | cons c calls ih => exact (ih (exec P c s)).trans (exec_config hP c s)

/-! ## A service on an empty store -/

def started (config : ProvServiceConfig) : Machine ProvService :=
  ⟨Disk.empty, { config, initialized := true }⟩

theorem exec_initialize_empty (config : ProvServiceConfig) {env : Env}
    (hdirs : (env.rootDir.usable && env.serviceDir.usable) = true) :
    exec P (.initializeService env) (fresh config Disk.empty) = started config := by
  have hopen : Opens env (fresh config Disk.empty).disk :=
    ⟨hdirs, fun what h ↦ by cases h⟩
  obtain ⟨hval, hstate⟩ := initializeService_opened P env (fresh config Disk.empty) rfl hopen
  refine exec_eq ?_ ?_
  · rw [Call.prog, coded_val, hval]
    simp
  · rw [Call.prog, coded_state, hstate]
    rfl

theorem admits_started (config : ProvServiceConfig) {vin : Bytes}
    (hvin : VinValidator.validate vin = true) (call : BindingCall) :
    Admits P vin (started config) call := by
  refine ⟨rfl, rfl, hvin, fun _ ↦ ?_⟩
  rintro ⟨binding, hread, -⟩
  cases hread

def textPlatform : Platform := ⟨JsonText.textLib, fun _ ↦ 0⟩

theorem textPlatform_lawful : textPlatform.json.Lawful := JsonText.textLib_lawful

def sampleVin : Bytes := bytes "1HGBH41JXMN109186"

def sampleUid : Bytes := bytes "HSM-UID-00000001"

def sampleEnv : Env := { uid := .ofUid sampleUid }

def otherVin : Bytes := bytes "1M8GDM9AXKP042788"

theorem validate_otherVin : VinValidator.validate otherVin = true := by decide

theorem validate_sampleVin : VinValidator.validate sampleVin = true := by decide

theorem utf8_sampleUid : Utf8 sampleUid := Utf8.bytes _

theorem write_sample (config : ProvServiceConfig) (call : BindingCall) :
    (Call.binding call sampleEnv sampleVin).returned textPlatform (started config) =
        some .success ∧
      BoundBy textPlatform sampleEnv sampleVin (started config)
        (exec textPlatform (.binding call sampleEnv sampleVin) (started config)) := by
  have hadm := admits_started (P := textPlatform) config validate_sampleVin call
  obtain ⟨hval, hbound⟩ : _ ∧ BoundBy textPlatform sampleEnv sampleVin (started config) _ :=
    run_stored textPlatform_lawful hadm rfl rfl utf8_sampleUid fun _ ↦ rfl
  rw [← binding_returned] at hval
  rw [exec_binding_of_returned hval]
  exact ⟨hval, hbound⟩

def firstBinding (config : ProvServiceConfig) : Machine ProvService :=
  run (exec textPlatform) [.initializeService sampleEnv, .binding .writeVin sampleEnv sampleVin]
    (fresh config Disk.empty)

theorem firstBinding_boundBy (config : ProvServiceConfig) :
    BoundBy textPlatform sampleEnv sampleVin (started config) (firstBinding config) := by
  unfold firstBinding
  rw [run_cons, run_cons, run_nil, exec_initialize_empty config rfl]
  exact (write_sample config .writeVin).2

theorem firstBinding_admits (config : ProvServiceConfig) {vin : Bytes}
    (hvin : VinValidator.validate vin = true) (call : BindingCall) :
    Admits textPlatform vin (firstBinding config) call :=
  (firstBinding_boundBy config).admits (admits_started config validate_sampleVin .writeVin) hvin

end TboxProv.ProvService
