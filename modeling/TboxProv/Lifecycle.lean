import TboxProv.ProvApplication
import TboxProv.Runs

/-!
# The order of the application's components

`initialize` may fail at any stage, and `cleanup` may follow anything.  After every
call nothing may be live without what it uses, and after a failure or a cleanup
nothing may be live at all.  The rollback acts on the recorded stage, and the
service is constructed before its stage is recorded.
-/

namespace TboxProv.ProvApplication

open Crash

/-! ## Live components -/

/-- Nothing of what the application owns is live. -/
structure Released (a : ProvApplication) : Prop where
  service : a.service = none
  dispatcher : a.dispatcher = none
  uidProvider : a.uidProvider = none
  snProvider : a.snProvider = none
  store : a.store = none
  initStage : a.initStage = .none

def IpcRunning (a : ProvApplication) : Prop :=
  ∃ server, a.ipcServer = some server ∧ server.running = true

/-- Whatever is live has live below it what it uses. -/
structure Supported (a : ProvApplication) : Prop where
  service : a.service.isSome → a.store.isSome ∧ a.uidProvider.isSome ∧ a.snProvider.isSome
  dispatcher : a.dispatcher.isSome → a.service.isSome
  ipcServer : IpcRunning a → a.dispatcher.isSome

/-! ## Calls in any order -/

variable (P : Platform)

inductive AppCall where
  | initializeApplication (env : AppEnv)
  | cleanup

/-- A call, and whether it reports that the application is up. -/
def AppCall.prog : AppCall → AppAction Bool
  | .initializeApplication env => ProvApplication.initializeApplication P env
  | .cleanup => do
      ProvApplication.cleanup
      return false

def next (c : AppCall) (s : Machine ProvApplication) : Machine ProvApplication :=
  (c.prog P s).state

/-- What every call should leave: nothing live without what it uses, and nothing live at
all unless the call reports the application up. -/
def LeavesOrder (c : AppCall) (s : Machine ProvApplication) : Prop :=
  Supported (next P c s).mem ∧ ((c.prog P s).val ≠ some true → Released (next P c s).mem)

/-- The service can be initialized, and a failure before that finds nothing live. -/
def Undisturbed : AppCall → Machine ProvApplication → Prop
  | .initializeApplication env, s =>
      (env.snapshot = none ∨ (env.rootDir.usable && env.serviceDir.usable) = false →
        Released s.mem) ∧
      (env.snapshot ≠ none → (env.rootDir.usable && env.serviceDir.usable) = true →
        ProvService.Opens env.service s.disk)
  | .cleanup, _ => True

/-- Between two calls the application is up, or nothing of it is live. -/
structure Settled (a : ProvApplication) : Prop where
  supported : Supported a
  whole : Released a ∨ a.service.isSome

theorem Released.supported {a : ProvApplication} (h : Released a) (hstopped : ¬ IpcRunning a) :
    Supported a := by
  refine ⟨fun hlive ↦ ?_, fun hlive ↦ ?_, fun hrunning ↦ absurd hrunning hstopped⟩
  · rw [h.service] at hlive
    cases hlive
  · rw [h.dispatcher] at hlive
    cases hlive

theorem released_empty : Released {} := ⟨rfl, rfl, rfl, rfl, rfl, rfl⟩

theorem supported_empty : Supported {} := by
  apply released_empty.supported
  rintro ⟨server, hserver, -⟩
  cases hserver

variable {P} {env : AppEnv} {s : Machine ProvApplication}

theorem cleanup_leavesOrder : LeavesOrder P .cleanup s := by
  have hstate : next P .cleanup s = ⟨s.disk, { ipcServer := s.mem.ipcServer.map fun server ↦
      { server with running := false } }⟩ := by
    rw [next, AppCall.prog, ← cleanup_state]
    exact Prog.bind_pure_state _ _ _
  have hreleased : Released (next P .cleanup s).mem := by
    rw [hstate]
    exact ⟨rfl, rfl, rfl, rfl, rfl, rfl⟩
  refine ⟨hreleased.supported ?_, fun _ ↦ hreleased⟩
  rw [hstate]
  rintro ⟨server, hserver, hrunning⟩
  obtain ⟨old, -, rfl⟩ := Option.map_eq_some_iff.1 hserver
  cases hrunning

theorem Settled.not_running {a : ProvApplication} (h : Settled a) (hreleased : Released a) :
    ¬ IpcRunning a := by
  intro hrunning
  have hlive := h.supported.ipcServer hrunning
  rw [hreleased.dispatcher] at hlive
  cases hlive

theorem undisturbed_of_opens {cfg : ConfigSnapshot} (hcfg : env.snapshot = some cfg)
    (hdirs : (env.rootDir.usable && env.serviceDir.usable) = true)
    (hopen : ProvService.Opens env.service s.disk) : Undisturbed (.initializeApplication env) s := by
  refine ⟨?_, fun _ _ ↦ hopen⟩
  rintro (hnone | hunusable)
  · rw [hcfg] at hnone
    cases hnone
  · rw [hdirs] at hunusable
    cases hunusable

/-- One call of `initialize` leaves order exactly when it is undisturbed. -/
theorem initializeApplication_leavesOrder_iff (h : Settled s.mem) :
    LeavesOrder P (.initializeApplication env) s ↔ Undisturbed (.initializeApplication env) s := by
  obtain ⟨up, hval, exit⟩ := initializeApplication_exit P env s
  unfold LeavesOrder next AppCall.prog
  rw [hval]
  generalize (initializeApplication P env s).state = t at exit ⊢
  cases exit with
  | noConfig hcfg =>
      constructor
      · rintro ⟨-, hreleased⟩
        exact ⟨fun _ ↦ hreleased (by simp), fun hsome ↦ absurd hcfg hsome⟩
      · rintro ⟨hreleased, -⟩
        exact ⟨h.supported, fun _ ↦ hreleased (.inl hcfg)⟩
  | storeFailed hcfg hdirs =>
      constructor
      · rintro ⟨-, hreleased⟩
        obtain ⟨hservice, hdispatcher, huid, hsn, -, hstage⟩ := hreleased (by simp)
        refine ⟨fun _ ↦ ?_, fun _ husable ↦ ?_⟩
        · rcases h.whole with hbefore | hlive
          · exact hbefore
          · rw [hservice] at hlive
            cases hlive
        · rw [hdirs] at husable
          cases husable
      · rintro ⟨hbefore, -⟩
        have hreleased := hbefore (.inr hdirs)
        have hafter : Released { s.mem with store := none } :=
          ⟨hreleased.service, hreleased.dispatcher, hreleased.uidProvider,
            hreleased.snProvider, rfl, hreleased.initStage⟩
        exact ⟨hafter.supported (h.not_running hreleased), fun _ ↦ hafter⟩
  | serviceFailed hcfg hdirs hopen service =>
      constructor
      · rintro ⟨-, hreleased⟩
        cases (hreleased (by simp)).service
      · rintro ⟨-, hopens⟩
        exact absurd (hopens (by simp [hcfg]) hdirs) hopen
  | ipcFailed hcfg hdirs hopen =>
      exact ⟨fun _ ↦ undisturbed_of_opens hcfg hdirs hopen,
        fun _ ↦ ⟨supported_empty, fun _ ↦ released_empty⟩⟩
  | up hcfg hdirs hopen =>
      refine ⟨fun _ ↦ undisturbed_of_opens hcfg hdirs hopen,
        fun _ ↦ ⟨?_, fun hdown ↦ absurd rfl hdown⟩⟩
      exact ⟨fun _ ↦ ⟨rfl, rfl, rfl⟩, fun _ ↦ rfl, fun _ ↦ rfl⟩

theorem leavesOrder_iff (c : AppCall) (h : Settled s.mem) :
    LeavesOrder P c s ↔ Undisturbed c s := by
  cases c with
  | initializeApplication env => exact initializeApplication_leavesOrder_iff h
  | cleanup => exact ⟨fun _ ↦ trivial, fun _ ↦ cleanup_leavesOrder⟩

/-- An application that reports to be up has a service. -/
theorem service_of_up {c : AppCall} (h : (c.prog P s).val = some true) :
    (next P c s).mem.service.isSome := by
  cases c with
  | initializeApplication env =>
      obtain ⟨up, hval, exit⟩ := initializeApplication_exit P env s
      rw [AppCall.prog, hval] at h
      rw [next, AppCall.prog]
      generalize (initializeApplication P env s).state = t at exit ⊢
      cases exit with
      | noConfig | storeFailed | serviceFailed | ipcFailed => cases h
      | up => rfl
  | cleanup =>
      rw [AppCall.prog, Prog.bind_pure_val] at h
      obtain ⟨_, -, hfalse⟩ := Option.map_eq_some_iff.1 h
      cases hfalse

theorem Settled.next {c : AppCall} (h : LeavesOrder P c s) : Settled (next P c s).mem := by
  refine ⟨h.1, ?_⟩
  by_cases hup : (c.prog P s).val = some true
  · exact .inr (service_of_up hup)
  · exact .inl (h.2 hup)

/-- In a sequence of calls every call leaves order exactly when every call is undisturbed:
the service can be initialized, and nothing is live when `initialize` fails before that. -/
theorem lifecycle_ordered_iff (P : Platform) (disk : Disk) (calls : List AppCall) :
    Along (next P) (LeavesOrder P) calls ⟨disk, {}⟩ ↔
      Along (next P) Undisturbed calls ⟨disk, {}⟩ := by
  have hstart : Settled ({} : ProvApplication) := ⟨supported_empty, .inl released_empty⟩
  have hinv : ∀ (c : AppCall) (s : Machine ProvApplication), True → Settled s.mem →
      Undisturbed c s → Settled (ProvApplication.next P c s).mem :=
    fun c s _ hs hc ↦ Settled.next ((leavesOrder_iff c hs).2 hc)
  have hgiven : Along (ProvApplication.next P) (fun _ _ ↦ True) calls ⟨disk, {}⟩ :=
    Along.of_forall (fun _ _ _ ↦ trivial) _
  exact along_iff_along hinv (fun c s _ hs ↦ leavesOrder_iff c hs) hgiven hstart

/-! ## A service that cannot be initialized -/

def defaultsSnapshot : ConfigSnapshot :=
  ⟨fun _ default ↦ default, fun _ default ↦ default, fun _ default ↦ default,
    fun _ default ↦ default⟩

def defaultsEnv : AppEnv := { snapshot := some defaultsSnapshot, service := { uid := {} } }

def blockedProtection : Disk :=
  Function.update Disk.empty .protection (.inaccessible (bytes "Permission denied"))

/-- The rollback then releases the store and the providers, and keeps the service. -/
theorem service_outlives_store :
    ¬ Along (next ProvService.textPlatform) (LeavesOrder ProvService.textPlatform)
      [.initializeApplication defaultsEnv] ⟨blockedProtection, {}⟩ := by
  rintro ⟨horder, -⟩
  have hsettled : Settled ({} : ProvApplication) := ⟨supported_empty, .inl released_empty⟩
  obtain ⟨-, hopens⟩ := (initializeApplication_leavesOrder_iff hsettled).1 horder
  have hopen := hopens (by simp [defaultsEnv]) rfl
  exact hopen.2 (bytes "Permission denied") (by simp [blockedProtection])

end TboxProv.ProvApplication
