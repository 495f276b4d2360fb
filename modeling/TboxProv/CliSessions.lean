import TboxProv.ProvCli

/-!
# Sessions on the command line

What the exit status of `prov_cli` tells, and what later executions make of it.  The
executions of a session may use different configurations and different stores.
-/

namespace TboxProv.ProvCli

open Crash Store ProvService

/-- The call that an execution hands to its service. -/
def CliEnv.Hands (env : CliEnv) (cfg : ProviderSnapshot) (c : Call) : Prop :=
  ∃ command args, env.Requests cfg command args ∧ command.call (env.service cfg) args = some c

section Calls

variable {P : Platform} {env : Env} {vin : Bytes} {s : Machine ProvService}

variable (hP : P.json.Lawful)
include hP

/-- A binding call that succeeds over saves that are all or nothing. -/
theorem success_bound {call : BindingCall} (hsaves : ∀ n, (env.save n).AllOrNothing)
    (htelling : env.uid.Telling)
    (hval : (call.run P env vin s).val = some .success) :
    VinValidator.validate vin = true ∧
      Persisted P env vin (call.run P env vin s).state.disk ∧
      (s.mem.config.enableWriteProtection = true →
        protectedIn P ((call.run P env vin s).state.disk .protection) = true) := by
  obtain ⟨hadm, exit⟩ := run_success hP hval
  refine ⟨hadm.valid, ?_⟩
  have hbound : ∀ {c₀ c₁ k}, Writable P env vin s c₀ c₁ k →
      (env.save 1).returned = some true →
        BoundTo P env vin ((afterSecond env s c₀ c₁).disk .binding) := by
    intro c₀ c₁ k w h₁
    rw [afterSecond_binding, (hsaves 1).stored h₁]
    exact boundTo_bound hP w
  generalize (call.run P env vin s).state = t at exit ⊢
  cases exit with
  | uidFailed huid hsuccess => exact absurd hsuccess (htelling huid)
  | unlocked huid w h₀ h₁ hread hcfg =>
      refine ⟨⟨huid, hbound w h₁⟩, fun hon ↦ ?_⟩
      rw [hcfg] at hon
      cases hon
  | locked huid w h₀ h₁ hread hcfg h₂ =>
      refine ⟨⟨huid, ?_⟩, fun _ ↦ ?_⟩
      · rw [afterProtection_binding]
        exact hbound w h₁
      · rw [afterProtection_protection, (hsaves 2).stored h₂]
        exact w.protectedIn_flag hP

/-- A configuration call that succeeds over such saves has stored the bytes it was given. -/
theorem success_coded {configData : List UInt8} (hsaves : ∀ n, (env.save n).AllOrNothing)
    (hval : (writeVehicleConfig P env configData s).val = some .success) :
    Coded P configData ((writeVehicleConfig P env configData s).state.disk .config) := by
  obtain ⟨hadm, h₀, hcoded, -⟩ := (writeVehicleConfig_success_iff hP).1 hval
  obtain ⟨c₀, c₁, hc₀, hc₁⟩ := exists_configs hP env configData
  have hfirst := (coded_firstEntry_iff hP hc₀).2 hcoded
  rw [writeVehicleConfig_entry hadm hc₀ hc₁ h₀ hfirst]
  rcases (hsaves 1).leaves_cases c₁ (firstEntry env s c₀) with ⟨-, hleaves⟩ | ⟨-, hleaves⟩
  · rw [hleaves]
    exact ⟨_, configIn_sealed hP hc₁, rfl⟩
  · rw [hleaves]
    exact hfirst

omit hP

/-- A protected service turns a binding down, whatever the UID. -/
theorem binding_turnedDown (call : BindingCall) (htelling : env.uid.Telling)
    (hprot : s.mem.storage.writeProtected = true) :
    ∃ code, code ≠ .success ∧ (call.run P env vin s).val = some code := by
  by_cases hadm : Admits P vin s call
  · cases huid : env.uid.success with
    | true => exact ⟨_, by decide, (run_protected hadm huid hprot).1⟩
    | false =>
        obtain ⟨hval, -⟩ := run_admitted env hadm
        exact ⟨_, htelling huid, hval.trans (executeVinBindingFlow_uidFailed P vin s huid).1⟩
  · obtain ⟨code, haway, hval, -⟩ := run_notAdmitted env hadm
    exact ⟨code, haway.ne_success, hval⟩

theorem config_turnedDown (configData : List UInt8)
    (hprot : s.mem.storage.writeProtected = true) :
    ∃ code, code ≠ .success ∧ (writeVehicleConfig P env configData s).val = some code := by
  have hno : ¬ WritesAdmitted s := fun hadm ↦ by
    rw [hadm.2.2] at hprot
    cases hprot
  obtain ⟨code, hrefused, hval, -⟩ := writeVehicleConfig_refused P env s configData hno
  exact ⟨code, hrefused.ne_success, hval⟩

end Calls

/-! ## Exit statuses -/

section Status

variable {P : Platform} {Y : YamlLib} {env : CliEnv} {cfg : ProviderSnapshot} {roots : Roots}

theorem status_eq_zero_iff (code : ErrorCode) : status code = 0 ↔ code = .success := by
  unfold status
  split
  · simp [*]
  · simp [*]

/-- A write that exits with 0 has been handed to a service that reports success. -/
theorem succeeded_of_zero {c : Call} (h : env.Hands cfg c)
    (hzero : (main P Y env roots).val = some 0) :
    Opens (env.service cfg) (roots (storeRoot cfg)) ∧
      c.returned P (env.opened P cfg roots) = some .success := by
  obtain ⟨command, args, hrequests, hcall⟩ := h
  by_cases hopen : Opens (env.service cfg) (roots (storeRoot cfg))
  · rw [main_val hrequests hopen hcall] at hzero
    obtain ⟨code, hreturned, hstatus⟩ := Option.map_eq_some_iff.1 hzero
    rw [hreturned, (status_eq_zero_iff code).1 hstatus]
    exact ⟨hopen, rfl⟩
  · rw [main_val_closed hrequests hopen] at hzero
    cases hzero

/-- What an execution that writes leaves in its store. -/
theorem main_store_of_hands (hP : P.json.Lawful) {c : Call} (h : env.Hands cfg c) :
    (main P Y env roots).state =
      Function.update roots (storeRoot cfg) (exec P c (env.opened P cfg roots)).disk := by
  obtain ⟨command, args, hrequests, hcall⟩ := h
  rw [main_store hP hrequests, callsOf, hcall]
  rfl

theorem opened_eq (hopen : Opens (env.service cfg) (roots (storeRoot cfg))) :
    env.opened P cfg roots =
      ⟨roots (storeRoot cfg),
        { config := serviceConfig cfg
          storage := ⟨protectedIn P (roots (storeRoot cfg) .protection)⟩
          initialized := true }⟩ :=
  exec_initialize_opened hopen

theorem exec_binding_state {call : BindingCall} {e : Env} {vin : Bytes} {s : Machine ProvService} :
    (exec P (.binding call e vin) s).disk = (call.run P e vin s).state.disk := by
  rw [exec, settle_disk, Call.prog, coded_state]

theorem exec_config_state {e : Env} {configData : List UInt8} {s : Machine ProvService} :
    (exec P (.writeVehicleConfig e configData) s).disk =
      (writeVehicleConfig P e configData s).state.disk := by
  rw [exec, settle_disk, Call.prog, coded_state]

variable (P env cfg) in
/-- What exit status 0 says of a command: what its store holds then, and what was printed. -/
def Done (store : Disk) (out : List Output) : Command → List Bytes → Prop
  | .init, _ => True
  | .writeVin, vin :: _ | .authorize, vin :: _ =>
      VinValidator.validate vin = true ∧ Persisted P (env.service cfg) vin store ∧
        ((serviceConfig cfg).enableWriteProtection = true →
          protectedIn P (store .protection) = true)
  -- the characters of the argument are what is stored, whatever hex they spell
  | .writeConfig, hexData :: _ => Coded P hexData (store .config)
  | .writeVin, [] | .authorize, [] | .writeConfig, [] => False
  | .readVin, _ =>
      let vin := (bindingIn P (store .binding)).elim [] (·.vin)
      out.getLast? = some (.stdout
        (bytes "VIN: " ++ if vin.isEmpty then bytes "(not written)" else vin))
  | .readUid, _ =>
      (env.service cfg).uid.success = true ∧
        .stdout (bytes "ECU UID: " ++ (env.service cfg).uid.uid) ∈ out
  | .readBinding, _ =>
      bindingLines ((bindingIn P (store .binding)).elim {} id) <:+ out
  | .getState, _ =>
      out.getLast? = some (.stdout (bytes "Provision State: " ++
        bytes (stateName ((bindingIn P (store .binding)).elim .none (·.state)))))

variable (P Y env roots) in
/-- What can be told of the stores from the arguments and the exit status. -/
structure Truthful : Prop where
  elsewhere {cfg : ProviderSnapshot} {command : Command} {args : List Bytes}
    (h : env.Requests cfg command args) {root : Bytes} (hroot : root ≠ storeRoot cfg) :
    (main P Y env roots).state root = roots root
  unchanged (h : ∀ cfg c, ¬ env.Hands cfg c) : (main P Y env roots).state = roots
  done {cfg : ProviderSnapshot} {command : Command} {args : List Bytes}
    (h : env.Requests cfg command args) (hzero : (main P Y env roots).val = some 0) :
    Opens (env.service cfg) (roots (storeRoot cfg)) ∧
      Done P env cfg ((main P Y env roots).state (storeRoot cfg)) (main P Y env roots).out
        command args
  checked (hzero : (main P Y env roots).val = some 0)
    (h : ∀ cfg command args, ¬ env.Requests cfg command args) :
    ∃ program path args doc, env.argv = program :: bytes "check-config" :: path :: args ∧
      env.loadFile path = .ok doc ∧ (Y.Lawful → CheckConfig.Accepts doc)

theorem main_unchanged (hP : P.json.Lawful) (h : ∀ cfg c, ¬ env.Hands cfg c) :
    (main P Y env roots).state = roots := by
  by_cases hrequests : ∃ cfg command args, env.Requests cfg command args
  case neg => exact main_untouched hrequests
  obtain ⟨cfg, command, args, hrequests⟩ := hrequests
  have hcall : command.call (env.service cfg) args = none := by
    rw [Option.eq_none_iff_forall_ne_some]
    intro c hcall
    exact h cfg c ⟨command, args, hrequests, hcall⟩
  rw [main_store hP hrequests, callsOf, hcall]
  by_cases hopen : Opens (env.service cfg) (roots (storeRoot cfg))
  · rw [run_cons, exec_initialize_opened hopen]
    exact Function.update_eq_self _ _
  · rw [run_cons, Option.toList_none, run_nil,
      (exec_initialize_closed (serviceConfig cfg) hopen).1]
    exact Function.update_eq_self _ _

theorem CliEnv.Hands.env_eq {call : BindingCall} {e : Env} {vin : Bytes}
    (h : env.Hands cfg (.binding call e vin)) : env.service cfg = e := by
  obtain ⟨command, args, -, hcall⟩ := h
  rcases Command.call_cases hcall with ⟨_, _, hcall⟩ | ⟨_, hcall⟩ <;> cases hcall
  rfl

theorem CliEnv.Hands.config_env_eq {e : Env} {configData : List UInt8}
    (h : env.Hands cfg (.writeVehicleConfig e configData)) : env.service cfg = e := by
  obtain ⟨command, args, -, hcall⟩ := h
  rcases Command.call_cases hcall with ⟨_, _, hcall⟩ | ⟨_, hcall⟩ <;> cases hcall
  rfl

/-- A binding command that exits with 0 has bound the VIN. -/
theorem bound_of_zero (hP : P.json.Lawful) {call : BindingCall} {e : Env} {vin : Bytes}
    (hsaves : ∀ n, (env.outside.save n).AllOrNothing)
    (h : env.Hands cfg (.binding call e vin)) (hzero : (main P Y env roots).val = some 0) :
    VinValidator.validate vin = true ∧
      Persisted P (env.service cfg) vin ((main P Y env roots).state (storeRoot cfg)) ∧
      ((serviceConfig cfg).enableWriteProtection = true →
        protectedIn P ((main P Y env roots).state (storeRoot cfg) .protection) = true) := by
  obtain ⟨hopen, hreturned⟩ := succeeded_of_zero h hzero
  have he : env.service cfg = e := h.env_eq
  subst he
  rw [binding_returned] at hreturned
  rw [main_store_of_hands hP h, Function.update_self, exec_binding_state]
  have htelling : (env.service cfg).uid.Telling := createSeUidProvider_telling
  have hwhole : ∀ n, ((env.service cfg).save n).AllOrNothing := hsaves
  have hbound := success_bound hP hwhole htelling hreturned
  rw [opened_eq hopen] at hbound ⊢
  exact hbound

theorem configured_of_zero (hP : P.json.Lawful) {e : Env} {configData : List UInt8}
    (hsaves : ∀ n, (env.outside.save n).AllOrNothing)
    (h : env.Hands cfg (.writeVehicleConfig e configData))
    (hzero : (main P Y env roots).val = some 0) :
    Coded P configData ((main P Y env roots).state (storeRoot cfg) .config) := by
  obtain ⟨hopen, hreturned⟩ := succeeded_of_zero h hzero
  have he : env.service cfg = e := h.config_env_eq
  subst he
  rw [writeVehicleConfig_returned] at hreturned
  rw [main_store_of_hands hP h, Function.update_self, exec_config_state]
  exact success_coded hP hsaves hreturned

theorem Done.append {store : Disk} {out : List Output} {command : Command} {args : List Bytes}
    (h : Done P env cfg store out command args) (before : List Output) :
    Done P env cfg store (before ++ out) command args := by
  cases command with
  | init => trivial
  | writeVin | writeConfig | authorize => cases args <;> exact h
  | readVin =>
      have hlast : out.getLast? = _ := h
      simp only [Done, List.getLast?_append, hlast, Option.some_or]
  | readUid =>
      obtain ⟨huid, hline⟩ := h
      exact ⟨huid, List.mem_append_right before hline⟩
  | readBinding => exact h.trans (List.suffix_append before out)
  | getState =>
      have hlast : out.getLast? = _ := h
      simp only [Done, List.getLast?_append, hlast, Option.some_or]

/-- A command that does not write prints what the store holds. -/
theorem runCommand_done {command : Command} {args : List Bytes} {s : Machine ProvService}
    (hinit : s.mem.initialized = true) (hcall : command.call (env.service cfg) args = none)
    (hzero : (runCommand P env.build cfg (env.service cfg) command args s).val = some 0) :
    Done P env cfg s.disk (runCommand P env.build cfg (env.service cfg) command args s).out
      command args := by
  cases command with
  | init => trivial
  | readVin => exact (runCommand_readVin hinit).2
  | readUid => exact printUid_zero hzero
  | readBinding => exact runCommand_readBinding hinit
  | getState => exact (runCommand_getState hinit).2
  | writeVin | writeConfig | authorize =>
      cases args with
      | nil => simp [runCommand, withArgument] at hzero
      | cons arg args => cases hcall

theorem done_of_zero (hP : P.json.Lawful) (hsaves : ∀ n, (env.outside.save n).AllOrNothing)
    {command : Command} {args : List Bytes} (h : env.Requests cfg command args)
    (hzero : (main P Y env roots).val = some 0) :
    Opens (env.service cfg) (roots (storeRoot cfg)) ∧
      Done P env cfg ((main P Y env roots).state (storeRoot cfg)) (main P Y env roots).out
        command args := by
  by_cases hopen : Opens (env.service cfg) (roots (storeRoot cfg))
  case neg =>
    rw [main_val_closed h hopen] at hzero
    cases hzero
  refine ⟨hopen, ?_⟩
  cases hcall : command.call (env.service cfg) args with
  | none =>
      obtain ⟨hval, before, hout⟩ := main_opened h hopen (P := P) (Y := Y)
      have hinit : (env.opened P cfg roots).mem.initialized = true := by rw [opened_eq hopen]
      have hstore : (main P Y env roots).state (storeRoot cfg) = (env.opened P cfg roots).disk := by
        rw [main_store hP h, Function.update_self, callsOf, hcall, Option.toList_none]
        rfl
      rw [hstore, hout]
      rw [hval] at hzero
      exact (runCommand_done hinit hcall hzero).append before
  | some c =>
      have hhands : env.Hands cfg c := ⟨command, args, h, hcall⟩
      cases args with
      | nil => cases command <;> cases hcall
      | cons arg args =>
          cases command with
          | writeVin | authorize =>
              cases hcall
              exact bound_of_zero hP hsaves hhands hzero
          | writeConfig =>
              cases hcall
              exact configured_of_zero hP hsaves hhands hzero
          | init | readVin | readUid | readBinding | getState => cases hcall

/-- Arguments without a command of the table exit with 0 only for a file that checks. -/
theorem checked_of_zero (hzero : (main P Y env roots).val = some 0)
    (h : ∀ cfg command args, ¬ env.Requests cfg command args) :
    ∃ program path args doc, env.argv = program :: bytes "check-config" :: path :: args ∧
      env.loadFile path = .ok doc ∧ (Y.Lawful → CheckConfig.Accepts doc) := by
  unfold main at hzero
  cases hargv : env.argv with
  | nil => simp [hargv] at hzero
  | cons program rest =>
  cases rest with
  | nil => simp [hargv] at hzero
  | cons name args =>
  simp only [hargv] at hzero
  by_cases hcheck : name = bytes "check-config"
  case neg =>
    rw [if_neg hcheck] at hzero
    cases hconfig : env.config with
    | error message => simp [hconfig] at hzero
    | ok cfg =>
        have hname : commands.lookup name = none := by
          rw [Option.eq_none_iff_forall_ne_some]
          intro command hname
          exact h cfg command args ⟨⟨program, name, hargv, hname⟩, hconfig⟩
        simp only [hconfig, onRoot, Prog.zoom_val] at hzero
        by_cases hopen : Opens (Env.provided env.build (some cfg) env.outside)
            (roots (storeRoot cfg))
        · rw [(runService_opened P env.build cfg args name _ hopen).1,
            (dispatch_unknown hname _).1] at hzero
          cases hzero
        · rw [(runService_closed hopen).1] at hzero
          cases hzero
  rw [if_pos hcheck] at hzero
  subst hcheck
  cases args with
  | nil => simp [checkConfigCommand] at hzero
  | cons path args =>
      obtain ⟨doc, hload, haccepts⟩ := checkConfigCommand_zero hzero
      exact ⟨program, path, args, doc, rfl, hload, haccepts⟩

/-- Over saves that are all or nothing, an execution that exits with 0 has done what its
arguments ask for, and no other store than its own is ever changed. -/
theorem exit_status_truthful (hP : P.json.Lawful) (Y : YamlLib) (env : CliEnv) (roots : Roots)
    (hsaves : ∀ n, (env.outside.save n).AllOrNothing) : Truthful P Y env roots := by
  refine ⟨fun {cfg command args} h {root} hroot ↦ ?_, main_unchanged hP,
    fun h hzero ↦ done_of_zero hP hsaves h hzero, checked_of_zero⟩
  rw [main_store hP h, Function.update_of_ne hroot]

end Status

def cliSnapshot : ProviderSnapshot := snapshotOf sampleUid (bytes "SN-0001")

/-- `prov_cli write_vin` on a test build with a configured UID. -/
def writeVinExecution : CliEnv where
  argv := [bytes "prov_cli", bytes "write_vin", sampleVin]
  loadFile _ := .ok .null
  config := .ok cliSnapshot
  build := { testEnvironment := true }
  outside := sampleEnv

theorem writeVinExecution_hands :
    writeVinExecution.Hands cliSnapshot
      (.binding .writeVin (writeVinExecution.service cliSnapshot) sampleVin) :=
  ⟨.writeVin, [sampleVin], ⟨⟨_, _, rfl, by decide⟩, rfl⟩, rfl⟩

theorem writeVinExecution_zero (Y : YamlLib) :
    (main textPlatform Y writeVinExecution fun _ ↦ Disk.empty).val = some 0 := by
  obtain ⟨command, args, hrequests, hcall⟩ := writeVinExecution_hands
  have hopen : Opens (writeVinExecution.service cliSnapshot) Disk.empty :=
    ⟨rfl, fun what h ↦ by cases h⟩
  have hopened : writeVinExecution.opened textPlatform cliSnapshot (fun _ ↦ Disk.empty) =
      started (serviceConfig cliSnapshot) := exec_initialize_empty _ rfl
  have hread : EcuUid.readUidFromConfig (some cliSnapshot) = some sampleUid :=
    readUidFromConfig_eq_some_iff.2
      ⟨by decide, cliSnapshot, rfl, by simp [cliSnapshot, snapshotOf],
        by simp [cliSnapshot, snapshotOf]⟩
  have huid : (writeVinExecution.service cliSnapshot).uid = .ofUid sampleUid := by
    change createSeUidProvider { testEnvironment := true } (some cliSnapshot) = _
    rw [createSeUidProvider, if_pos rfl, ConfigSeUidProvider.readUidDetailed,
      readUidSeFirst_absent _ _ rfl, hread]
  have hbinds : Binds textPlatform (writeVinExecution.service cliSnapshot) sampleVin
      (started (serviceConfig cliSnapshot)) .writeVin := by
    refine ⟨admits_started _ validate_sampleVin .writeVin, ?_, ?_, rfl⟩
    · rw [huid]
      rfl
    · rw [huid]
      exact utf8_sampleUid
  rw [main_val hrequests hopen hcall, hopened,
    (exec_binds textPlatform_lawful hbinds fun _ ↦ rfl).1]
  rfl

theorem exit_status_truthful_sample :
    Truthful textPlatform YamlLib.yamlCpp writeVinExecution fun _ ↦ Disk.empty :=
  exit_status_truthful textPlatform_lawful YamlLib.yamlCpp writeVinExecution _ fun _ ↦ trivial

/-! ## Sessions -/

/-- One execution after the other; a killed one leaves what it has saved. -/
def step (P : Platform) (Y : YamlLib) (env : CliEnv) (roots : Roots) : Roots :=
  (main P Y env roots).state

section Sessions

variable {P : Platform} {Y : YamlLib} {root : Bytes} {disk : Disk} {roots : Roots}

variable (P root disk) in
/-- The store under a root path is protected for good. -/
structure Sealed (roots : Roots) : Prop where
  same : roots root = disk
  locked : protectedIn P (disk .protection) = true

theorem Sealed.frozen (h : Sealed P root disk roots) (config : ProvServiceConfig) :
    Frozen P disk (fresh config (roots root)) := by
  refine ⟨h.same, h.locked, fun hinit ↦ ?_⟩
  cases hinit

/-- A run on the store under some root path leaves a sealed store as it is. -/
theorem Sealed.run (hP : P.json.Lawful) (h : Sealed P root disk roots)
    (config : ProvServiceConfig) (calls : List Call) (used : Bytes) :
    Sealed P root disk (Function.update roots used
      (Crash.run (exec P) calls (fresh config (roots used))).disk) := by
  refine ⟨?_, h.locked⟩
  by_cases hroot : root = used
  · subst hroot
    rw [Function.update_self]
    exact ((h.frozen config).after_run hP calls).same
  · rw [Function.update_of_ne hroot]
    exact h.same

theorem Sealed.step (hP : P.json.Lawful) (h : Sealed P root disk roots) (env : CliEnv) :
    Sealed P root disk (step P Y env roots) := by
  unfold ProvCli.step
  by_cases hrequests : ∃ cfg command args, env.Requests cfg command args
  case neg =>
    rw [main_untouched hrequests]
    exact h
  obtain ⟨cfg, command, args, hrequests⟩ := hrequests
  rw [main_store hP hrequests]
  exact h.run hP (serviceConfig cfg) _ (storeRoot cfg)

theorem Sealed.opened_frozen (hP : P.json.Lawful) {env : CliEnv} {cfg : ProviderSnapshot}
    (h : Sealed P (storeRoot cfg) disk roots) : Frozen P disk (env.opened P cfg roots) :=
  (h.frozen (serviceConfig cfg)).after_exec hP _

/-- Every write on a protected store is turned down. -/
theorem Sealed.refuses (hP : P.json.Lawful) {env : CliEnv} {cfg : ProviderSnapshot}
    (h : Sealed P (storeRoot cfg) disk roots) {c : Call} (hhands : env.Hands cfg c) :
    (main P Y env roots).val = some 1 := by
  obtain ⟨command, args, hrequests, hcall⟩ := hhands
  by_cases hopen : Opens (env.service cfg) (roots (storeRoot cfg))
  case neg => exact main_val_closed hrequests hopen
  have hfrozen : Frozen P disk (env.opened P cfg roots) := h.opened_frozen hP
  have hinit : (env.opened P cfg roots).mem.initialized = true := by rw [opened_eq hopen]
  have hflag := hfrozen.flag hinit
  have hturned : ∃ code, code ≠ .success ∧
      c.returned P (env.opened P cfg roots) = some code := by
    rcases Command.call_cases hcall with ⟨call, vin, rfl⟩ | ⟨configData, rfl⟩
    · rw [binding_returned]
      exact binding_turnedDown call createSeUidProvider_telling hflag
    · rw [writeVehicleConfig_returned]
      exact config_turnedDown configData hflag
  obtain ⟨code, hcode, hreturned⟩ := hturned
  rw [main_val hrequests hopen hcall, hreturned, Option.map_some, status, if_neg hcode]

variable (P Y root) in
/-- What later executions get to see of a store that is sealed with a VIN. -/
structure SealedWith (vin : Bytes) (roots : Roots) : Prop where
  refused {env : CliEnv} {cfg : ProviderSnapshot} {c : Call} (hroot : storeRoot cfg = root)
    (h : env.Hands cfg c) : (main P Y env roots).val = some 1
  vin {env : CliEnv} {cfg : ProviderSnapshot} {args : List Bytes} (hroot : storeRoot cfg = root)
    (h : env.Requests cfg .readVin args) (hopen : Opens (env.service cfg) (roots root)) :
    (main P Y env roots).val = some 0 ∧
      (main P Y env roots).out.getLast? = some (.stdout (bytes "VIN: " ++ vin))
  state {env : CliEnv} {cfg : ProviderSnapshot} {args : List Bytes}
    (hroot : storeRoot cfg = root) (h : env.Requests cfg .getState args)
    (hopen : Opens (env.service cfg) (roots root)) :
    (main P Y env roots).val = some 0 ∧
      (main P Y env roots).out.getLast? = some (.stdout (bytes "Provision State: BOUND"))

theorem Sealed.sealedWith (hP : P.json.Lawful) (h : Sealed P root disk roots)
    {binding : VehicleBinding} (hread : bindingIn P (disk .binding) = some binding)
    (hvin : binding.vin ≠ []) (hstate : binding.state = .bound) :
    SealedWith P Y root binding.vin roots := by
  refine ⟨fun {env cfg c} hroot hhands ↦ ?_, fun {env cfg args} hroot hrequests hopen ↦ ?_,
    fun {env cfg args} hroot hrequests hopen ↦ ?_⟩
  · subst hroot
    exact h.refuses hP hhands
  · subst hroot
    obtain ⟨hval, before, hout⟩ := main_opened hrequests hopen (P := P) (Y := Y)
    have hinit : (env.opened P cfg roots).mem.initialized = true := by rw [opened_eq hopen]
    obtain ⟨hzero, hlast⟩ := runCommand_readVin (P := P) hinit
    rw [(h.opened_frozen hP).same, hread] at hlast
    rw [hval, hout, List.getLast?_append, hlast]
    refine ⟨hzero, ?_⟩
    simp [hvin]
  · subst hroot
    obtain ⟨hval, before, hout⟩ := main_opened hrequests hopen (P := P) (Y := Y)
    have hinit : (env.opened P cfg roots).mem.initialized = true := by rw [opened_eq hopen]
    obtain ⟨hzero, hlast⟩ := runCommand_getState (P := P) hinit
    rw [(h.opened_frozen hP).same, hread] at hlast
    rw [hval, hout, List.getLast?_append, hlast, Option.elim_some, hstate]
    exact ⟨hzero, rfl⟩

end Sessions

end TboxProv.ProvCli
