import TboxProv.DaemonSessions

/-!
# Sessions on a device

Executions of `prov_cli` and lives of the daemon, under either of its entry points, take
turns on the stores of a device.  A store that is sealed with a VIN stays so for all of them.
-/

namespace TboxProv.Daemon

open Crash Store ProvService ProvIpcDispatcher
open ProvCli (CliEnv Sealed SealedWith)

/-- A process that runs from its start to its end, or until it is killed. -/
inductive Process where
  | execution (env : CliEnv)
  | daemon (life : Life)
  | legacy (setup : Setup) (life : Life)

namespace Process

def step (P : Platform) (Y : YamlLib) : Process → World → World
  | execution env, w => { w with roots := (ProvCli.main P Y env w.roots).state }
  | daemon life, w => (applicationLife P life w).state
  | legacy setup life, w => (legacyMain P life setup w).state

end Process

/-! ## A sealed store under the daemon -/

section Life

variable {P : Platform} {s : Machine ProvService} {disk : Disk}

/-- What a request for a binding gets that is turned down. -/
inductive Refusal (P : Platform) : Throws Reply → Prop
  | coded {code : ErrorCode} (h : code ≠ .success) : Refusal P (codedReply P code)
  | noVin : Refusal P (failedReply P .invalidVinFormat "Missing vin parameter")

/-- The answers over a store that is sealed with a VIN. -/
structure Honours (P : Platform) (vin : Bytes) (request : ProvIpcDispatcher.Request)
    (reply : Throws Bytes) : Prop where
  write : ∀ call, request.methodId = methodOf call →
    ∃ refusal, Refusal P refusal ∧ reply = answer P refusal
  read : request.methodId = .readVin → reply = answer P (payload P 0 [("vin", .string vin)])

theorem run_unchanged (call : BindingCall) (env : Env) (vin : Bytes)
    (hprot : s.mem.storage.writeProtected = true) : (call.run P env vin s).state = s := by
  by_contra hchange
  have hoff := (run_changes hchange).2
  rw [hprot] at hoff
  cases hoff

/-- A protected service answers every request, and stays as it is. -/
theorem dispatch_protected {env : Env} (htelling : env.uid.Telling)
    (hinit : s.mem.initialized = true) (hprot : s.mem.storage.writeProtected = true)
    {binding : VehicleBinding} (hread : bindingIn P (s.disk .binding) = some binding)
    (methodId : MethodId) (params : Bytes) :
    (dispatch P env methodId params s).state = s ∧
      ∃ reply, (dispatch P env methodId params s).val = some reply ∧
        Honours P binding.vin ⟨env, methodId, params⟩ reply := by
  rw [dispatch_state, dispatch_val]
  by_cases hbinding : ∃ call, methodId = methodOf call
  · obtain ⟨call, rfl⟩ := hbinding
    have hne : methodOf call ≠ .readVin := by cases call <;> decide
    rw [handle_binding]
    cases hfield : extractStringField P params "vin" with
    | nil =>
        have hhandle : handleBindingCall P env call params s =
            ⟨some (failedReply P .invalidVinFormat "Missing vin parameter"), s, []⟩ := by
          rw [handleBindingCall, hfield]
          rfl
        rw [hhandle]
        exact ⟨rfl, _, rfl, fun _ _ ↦ ⟨_, .noVin, rfl⟩, fun h ↦ absurd h hne⟩
    | cons b bs =>
        obtain ⟨hval, hstate⟩ :=
          handleBindingCall_present (s := s) call hfield (List.cons_ne_nil b bs)
        obtain ⟨code, hcode, hrun⟩ := ProvCli.binding_turnedDown call htelling hprot
        rw [hval, hstate, run_unchanged call env _ hprot, hrun]
        exact ⟨rfl, _, rfl, fun _ _ ↦ ⟨_, .coded hcode, rfl⟩, fun h ↦ absurd h hne⟩
  have hno := not_exists.1 hbinding
  by_cases hmethod : methodId = .initializeService
  · subst hmethod
    obtain ⟨hval, hstate⟩ := initializeService_again P env s hinit
    have hhandle : handle P env .initializeService params =
        do return codedReply P (← initializeService P env) := rfl
    rw [hhandle, Prog.bind_pure_val, Prog.bind_pure_state, hval, hstate]
    have hne : MethodId.initializeService ≠ .readVin := by decide
    exact ⟨rfl, _, rfl, fun call h ↦ absurd h (hno call), fun h ↦ absurd h hne⟩
  refine ⟨handle_reads P env params hmethod hno s, ?_⟩
  by_cases hvin : methodId = .readVin
  · subst hvin
    have hhandle : handle P env .readVin params =
        do return payload P 0 [("vin", .string (← ProvService.readVin P))] := rfl
    rw [hhandle, Prog.bind_pure_val, readVin_val P s hinit, hread]
    exact ⟨_, rfl, fun call h ↦ absurd h (hno call), fun _ ↦ rfl⟩
  · obtain ⟨reply, hval, -⟩ := handle_other P env params hno s
    rw [hval]
    exact ⟨_, rfl, fun call h ↦ absurd h (hno call), fun h ↦ absurd h hvin⟩

/-- All the requests of a life. -/
theorem serveAll_protected (life : Life) (hinit : s.mem.initialized = true)
    (hprot : s.mem.storage.writeProtected = true) {binding : VehicleBinding}
    (hread : bindingIn P (s.disk .binding) = some binding)
    (requests : List ProvIpcDispatcher.Request) (answers : List (Throws Bytes)) :
    (serveAll (life.answer P) requests ⟨s, answers⟩).val = some () ∧
      ∃ replies, (serveAll (life.answer P) requests ⟨s, answers⟩).state =
          ⟨s, answers ++ replies⟩ ∧
        List.Forall₂ (Honours P binding.vin) requests replies := by
  induction requests generalizing answers with
  | nil => exact ⟨rfl, [], by simp [serveAll], .nil⟩
  | cons request requests ih =>
      have htelling : (Env.provided life.build (some life.cfg) request.env).uid.Telling :=
        createSeUidProvider_telling
      obtain ⟨hstate, reply, hval, hwrite, hvin⟩ :=
        dispatch_protected htelling hinit hprot hread request.methodId request.params
      have hstate' : (life.answer P request s).state = s := hstate
      have hval' : (life.answer P request s).val = some reply := hval
      obtain ⟨hdone, replies, hrest, hall⟩ := ih (answers ++ [reply])
      simp only [serveAll, Prog.bind_val, Prog.bind_state, on_val, on_state, hstate', hval',
        Option.bind_some, Option.elim_some, Prog.modify_val, Prog.modify_state]
      refine ⟨hdone, reply :: replies, ?_, .cons ⟨hwrite, hvin⟩ hall⟩
      rw [hrest, List.append_assoc]
      rfl

/-- So are those that come in while the daemon stops. -/
theorem servedService_protected (life : Life) (hinit : s.mem.initialized = true)
    (hprot : s.mem.storage.writeProtected = true) {binding : VehicleBinding}
    (hread : bindingIn P (s.disk .binding) = some binding) (answers : List (Throws Bytes)) :
    (servedService P life ⟨s, answers⟩).val = some () ∧
      ∃ replies, (servedService P life ⟨s, answers⟩).state.answers = answers ++ replies ∧
        List.Forall₂ (Honours P binding.vin) (life.requests ++ life.late) replies := by
  obtain ⟨hserved, replies, hstate, hall⟩ :=
    serveAll_protected life hinit hprot hread life.requests answers
  obtain ⟨hlate, others, hend, hothers⟩ := serveAll_protected
    (s := ⟨s.disk, { s.mem with shuttingDown := true }⟩) life hinit hprot hread life.late
    (answers ++ replies)
  simp only [servedService, Prog.bind_val, Prog.bind_state, on_val, on_state, hserved, hstate,
    beginShutdown_val, beginShutdown_state, Option.bind_some, Option.elim_some, hlate, hend]
  exact ⟨trivial, replies ++ others, List.append_assoc _ _ _, List.rel_append hall hothers⟩

end Life

/-! ## A sealed device -/

section Sealed

variable {P : Platform} {Y : YamlLib} {root : Bytes} {disk : Disk} {w : World}

theorem sealed_step (hP : P.json.Lawful) (process : Process) (h : Sealed P root disk w.roots) :
    Sealed P root disk (process.step P Y w).roots := by
  cases process with
  | execution env => exact h.step hP env
  | daemon life =>
      obtain ⟨calls, hroots⟩ := applicationLife_roots (P := P) life w
      rw [Process.step, hroots]
      exact h.run hP _ calls life.storeRoot
  | legacy setup life =>
      obtain ⟨calls, hroots⟩ := legacyMain_roots (P := P) setup life w
      rw [Process.step, hroots]
      exact h.run hP _ calls life.storeRoot

variable (P Y root) in
/-- What the processes get to see of a store that is sealed with a VIN. -/
structure Locked (vin : Bytes) (w : World) : Prop where
  execution : SealedWith P Y root vin w.roots
  daemon {life : Life} (hroot : life.storeRoot = root)
    (hopen : Opens life.service (w.roots root)) (hstarts : life.starts life.server = true) :
    (applicationLife P life w).val = some true ∧
      ∃ replies, (applicationLife P life w).state.answers = w.answers ++ replies ∧
        List.Forall₂ (Honours P vin) (life.requests ++ life.late) replies
  legacy {setup : Setup} {life : Life} (hready : setup.Ready life) (hroot : life.storeRoot = root)
    (hopen : Opens life.service (w.roots root)) (hstarts : life.starts life.server = true) :
    (legacyMain P life setup w).val = some 0 ∧
      ∃ replies, (legacyMain P life setup w).state.answers = w.answers ++ replies ∧
        List.Forall₂ (Honours P vin) (life.requests ++ life.late) replies

/-- The service that a life opens on a sealed store. -/
theorem opened_sealed {life : Life} (h : Sealed P life.storeRoot disk w.roots)
    {binding : VehicleBinding} (hread : bindingIn P (disk .binding) = some binding) :
    (life.opened P (w.roots life.storeRoot)).storage.writeProtected = true ∧
      bindingIn P (w.roots life.storeRoot .binding) = some binding := by
  rw [h.same]
  exact ⟨h.locked, hread⟩

theorem locked_of_sealed (hP : P.json.Lawful) (h : Sealed P root disk w.roots)
    {binding : VehicleBinding} (hread : bindingIn P (disk .binding) = some binding)
    (hvin : binding.vin ≠ []) (hstate : binding.state = .bound) :
    Locked P Y root binding.vin w := by
  refine ⟨h.sealedWith hP hread hvin hstate, fun {life} hroot hopen hstarts ↦ ?_,
    fun {setup life} hready hroot hopen hstarts ↦ ?_⟩
  · subst hroot
    obtain ⟨hprot, hstored⟩ := opened_sealed h hread
    obtain ⟨hval, -, hanswers⟩ := serveApplication_up P life w.answers hopen hstarts
    obtain ⟨hserved, replies, hreplies, hall⟩ := servedService_protected
      (s := ⟨w.roots life.storeRoot, life.opened P (w.roots life.storeRoot)⟩)
      life rfl hprot hstored w.answers
    rw [hserved] at hval
    rw [hreplies] at hanswers
    exact ⟨hval, replies, hanswers, hall⟩
  · subst hroot
    obtain ⟨hprot, hstored⟩ := opened_sealed h hread
    obtain ⟨hval, hstate⟩ := legacyMain_ready hready w (P := P)
    obtain ⟨hlegacy, hleft⟩ := serveLegacy_up w.answers hopen hstarts (P := P)
    obtain ⟨hserved, replies, hreplies, hall⟩ := serveAll_protected
      (s := ⟨w.roots life.storeRoot, life.opened P (w.roots life.storeRoot)⟩)
      life rfl hprot hstored (life.requests ++ life.late) w.answers
    rw [hval, hstate, hlegacy, hleft, hserved, hreplies]
    exact ⟨rfl, replies, rfl, hall⟩

/-- After a `write_vin` or an `authorize` that exits with 0 under write protection, no later
execution and no later life of the daemon changes the store: writes exit with 1 or are
answered with a failure, and the VIN is what is read. -/
theorem session_sealed (hP : P.json.Lawful) (Y : YamlLib) {env : CliEnv}
    {cfg : ProviderSnapshot} {call : BindingCall} {e : Env} {vin : Bytes}
    (h : env.Hands cfg (.binding call e vin))
    (hon : (ProvCli.serviceConfig cfg).enableWriteProtection = true)
    (hsaves : ∀ n, (env.outside.save n).AllOrNothing)
    (hzero : (ProvCli.main P Y env w.roots).val = some 0) (later : List Process) :
    let first := Process.step P Y (.execution env) w
    let after := run (Process.step P Y) later first
    after.roots (ProvCli.storeRoot cfg) = first.roots (ProvCli.storeRoot cfg) ∧
      Locked P Y (ProvCli.storeRoot cfg) vin after := by
  intro first after
  obtain ⟨hvalid, ⟨-, binding, hread, hvin, -, hstate⟩, hlocked⟩ :=
    ProvCli.bound_of_zero hP hsaves h hzero
  have hstart : Sealed P (ProvCli.storeRoot cfg) (first.roots (ProvCli.storeRoot cfg))
      first.roots := ⟨rfl, hlocked hon⟩
  have hkeep : ∀ (process : Process) (w' : World), True →
      Sealed P (ProvCli.storeRoot cfg) (first.roots (ProvCli.storeRoot cfg)) w'.roots →
      Sealed P (ProvCli.storeRoot cfg) (first.roots (ProvCli.storeRoot cfg))
        (process.step P Y w').roots := fun process _ _ ht ↦ sealed_step hP process ht
  have hafter : Sealed P (ProvCli.storeRoot cfg) (first.roots (ProvCli.storeRoot cfg))
      after.roots := run_invariant hkeep (fun _ _ ↦ trivial) hstart
  have hne : vin ≠ [] := by
    rintro rfl
    cases hvalid
  subst hvin
  exact ⟨hafter.same, locked_of_sealed hP hafter hread hne hstate⟩

theorem session_sealed_sample :
    Locked textPlatform YamlLib.yamlCpp (ProvCli.storeRoot ProvCli.cliSnapshot) sampleVin
      (run (Process.step textPlatform YamlLib.yamlCpp)
        [.daemon laterLife, .legacy {} laterLife, .execution ProvCli.writeVinExecution]
        (Process.step textPlatform YamlLib.yamlCpp (.execution ProvCli.writeVinExecution)
          ⟨fun _ ↦ Disk.empty, []⟩)) := by
  have hon : (ProvCli.serviceConfig ProvCli.cliSnapshot).enableWriteProtection = true := rfl
  have hsealed := session_sealed (w := ⟨fun _ ↦ Disk.empty, []⟩) textPlatform_lawful
    YamlLib.yamlCpp ProvCli.writeVinExecution_hands hon (fun _ ↦ trivial)
    (ProvCli.writeVinExecution_zero YamlLib.yamlCpp)
    [.daemon laterLife, .legacy {} laterLife, .execution ProvCli.writeVinExecution]
  exact hsealed.2

end Sealed

end TboxProv.Daemon
