import TboxProv.Daemon

/-!
# Lives of the daemon

The two entry points serve alike, whatever the store holds and wherever the process is
killed.
-/

namespace TboxProv.Daemon

open Crash Store ProvService
open ProvApplication (readIpcConfig readServiceConfig initializeApplication quiesce release
  onService)
open ProvCli (Roots)

section EntryPoints

variable {P : Platform} {life : Life} {disk : Disk}

/-- The service of a life, once it is initialized. -/
def Life.opened (P : Platform) (life : Life) (disk : Disk) : ProvService where
  config := readServiceConfig life.cfg.toConfigSnapshot
  storage := ⟨protectedIn P (disk .protection)⟩
  initialized := true

/-- The application that is up. -/
def Life.up (P : Platform) (life : Life) (disk : Disk) : ProvApplication where
  initStage := .ipcStarted
  store := some ⟨bytes "prov", life.storeRoot⟩
  uidProvider := some {}
  snProvider := some {}
  service := some (life.opened P disk)
  dispatcher := some {}
  ipcServer := some { life.server with running := true }

theorem app_up (hopen : Opens life.service disk) (hstarts : life.starts life.server = true) :
    (initializeApplication P life.app ⟨disk, {}⟩).val = some true ∧
      (initializeApplication P life.app ⟨disk, {}⟩).state = ⟨disk, life.up P disk⟩ := by
  have hdirs : (life.app.rootDir.usable && life.app.serviceDir.usable) = true := hopen.1
  have hopen' : Opens life.app.service disk := ⟨rfl, hopen.2⟩
  have hstarts' : life.app.serverStarts = true := hstarts
  have hcfg : life.app.snapshot = some life.cfg.toConfigSnapshot := rfl
  obtain ⟨hval, hstate⟩ := initializeService_opened P life.app.service
    ⟨disk, { config := readServiceConfig life.cfg.toConfigSnapshot }⟩ rfl hopen'
  constructor
  · simp [initializeApplication, hcfg, hdirs, onService, hval, ProvApplication.startIpc_started,
      hstarts']
  · simp only [initializeApplication, hcfg]
    simp [hdirs, onService, hval, hstate, ProvApplication.startIpc_started, hstarts']
    rfl

/-- The two open their store under the same condition. -/
theorem app_opens_iff :
    (life.app.rootDir.usable && life.app.serviceDir.usable) = true ∧
      Opens life.app.service disk ↔ Opens life.service disk :=
  ⟨fun h ↦ ⟨h.1, h.2.2⟩, fun h ↦ ⟨h.1, rfl, h.2⟩⟩

theorem app_down (h : ¬ (Opens life.service disk ∧ life.starts life.server = true)) :
    (initializeApplication P life.app ⟨disk, {}⟩).val = some false ∧
      (initializeApplication P life.app ⟨disk, {}⟩).state.disk = disk := by
  obtain ⟨up, hval, exit⟩ :=
    ProvApplication.initializeApplication_exit P life.app ⟨disk, {}⟩
  rw [hval]
  generalize (initializeApplication P life.app ⟨disk, {}⟩).state = t at exit
  cases exit with
  | noConfig | storeFailed | serviceFailed | ipcFailed => exact ⟨rfl, rfl⟩
  | up hcfg hdirs hopen hstarts =>
      exact absurd ⟨app_opens_iff.1 ⟨hdirs, hopen⟩, hstarts⟩ h

/-! ## The requests -/

/-- The application's service, and one on its own. -/
structure Alike (a : ProvApplication) (x : Served ProvApplication) (y : Served ProvService) :
    Prop where
  machine : x.machine = ⟨y.machine.disk, { a with service := some y.machine.mem }⟩
  answers : x.answers = y.answers

variable {a : ProvApplication}

theorem onService_alike {α : Type} (p : ServiceAction α) :
    Prog.Simulates (fun _ _ ↦ True) (Alike a) Eq (Served.on (onService p)) (Served.on p) := by
  rintro x y ⟨hmachine, hanswers⟩
  have hservice : x.machine.mem.service = some y.machine.mem := by rw [hmachine]
  have hval := ProvApplication.onService_val x.machine p hservice
  have hstate := ProvApplication.onService_state x.machine p hservice
  have hdisk : x.machine.disk = y.machine.disk := by rw [hmachine]
  rw [hdisk] at hval hstate
  refine ⟨?_, ⟨?_, hanswers⟩, trivial⟩
  · change Option.Rel Eq (onService p x.machine).val (p y.machine).val
    rw [hval]
    cases (p y.machine).val with
    | none => exact .none
    | some value => exact .some rfl
  · change (onService p x.machine).state = _
    rw [hstate, hmachine]
    rfl

theorem quiesce_alike :
    Prog.Simulates (fun _ _ ↦ True) (Alike a) Eq (Served.on quiesce)
      (Served.on beginShutdown) := by
  intro x y h
  have hservice : x.machine.mem.service.isSome = true := by
    rw [h.machine]
    rfl
  have hsame : Served.on quiesce x = Served.on (onService beginShutdown) x := by
    unfold Served.on Prog.zoom
    rw [ProvApplication.quiesce_eq hservice]
  rw [hsame]
  exact onService_alike beginShutdown x y h

theorem serveAll_alike (answer : ProvIpcDispatcher.Request → ServiceAction (Throws Bytes))
    (requests : List ProvIpcDispatcher.Request) :
    Prog.Simulates (fun _ _ ↦ True) (Alike a) Eq
      (serveAll (fun request ↦ onService (answer request)) requests)
      (serveAll answer requests) := by
  induction requests with
  | nil => exact .pure .all rfl
  | cons request requests ih =>
      refine .bind .all (onService_alike _) fun reply _ hreply ↦ ?_
      subst hreply
      refine .bind (A := Eq) .all (.modify .all fun x y h ↦ ⟨h.machine, ?_⟩) fun _ _ _ ↦ ih
      rw [h.answers]

variable (P life) in
/-- What a life of the application is to its service, once it is up. -/
def servedService : Prog (Served ProvService) Output Unit := do
  serveAll (life.answer P) life.requests
  Served.on beginShutdown
  serveAll (life.answer P) life.late

variable (P life a) in
/-- Up to the stop of the server, the application is its service. -/
theorem execute_alike :
    Prog.Simulates (fun _ _ ↦ True) (Alike a) Eq
      (do
        execute P life
        Served.on quiesce
        serveAll (fun request ↦ onService (life.answer P request)) life.late)
      (servedService P life) := by
  have hready : Prog.Simulates (fun _ _ ↦ True) (Alike a) Eq (execute P life)
      (serveAll (life.answer P) life.requests) :=
    fun x y h ↦ ⟨(serveAll_alike _ _ x y h).val, (serveAll_alike _ _ x y h).state, trivial⟩
  exact .bind .all hready fun _ _ _ ↦ .bind .all quiesce_alike fun _ _ _ ↦ serveAll_alike _ _

/-! ## Both lives -/

@[simp] theorem on_val {μ α : Type} (p : Action μ α) (s : Served μ) :
    (Served.on p s).val = (p s.machine).val := rfl

@[simp] theorem on_state {μ α : Type} (p : Action μ α) (s : Served μ) :
    (Served.on p s).state = { s with machine := (p s.machine).state } := rfl

@[simp] theorem logged_val {σ : Type} (level : Level) (event message : String)
    (fields : List (String × FieldValue)) (s : σ) :
    (logged level event message fields s).val = some () := rfl

@[simp] theorem logged_state {σ : Type} (level : Level) (event message : String)
    (fields : List (String × FieldValue)) (s : σ) :
    (logged level event message fields s).state = s := rfl

/-- The requests of two lists are served one after the other. -/
theorem serveAll_append {μ : Type} (answer : ProvIpcDispatcher.Request → Action μ (Throws Bytes))
    (requests late : List ProvIpcDispatcher.Request) :
    serveAll answer (requests ++ late) = (do
      serveAll answer requests
      serveAll answer late) := by
  induction requests with
  | nil => rw [List.nil_append, serveAll, Prog.pure_bind]
  | cons request requests ih => simp only [List.cons_append, serveAll, ih, Prog.bind_assoc]

/-- What comes before the service has succeeded. -/
structure Setup.Ready (setup : Setup) (life : Life) : Prop where
  signals : setup.signals = none
  load : setup.load = none
  logger : setup.logger (logLevel life.cfg.toConfigSnapshot) = none

/-- From the service on, the legacy `main` is at work on the store of its root. -/
theorem legacyMain_ready {setup : Setup} (h : setup.Ready life) (w : World) :
    let served := serveLegacy P life
      ⟨fresh (readServiceConfig life.cfg.toConfigSnapshot) (w.roots life.storeRoot), w.answers⟩
    (legacyMain P life setup w).val = served.val ∧
      (legacyMain P life setup w).state =
        ⟨Function.update w.roots life.storeRoot served.state.machine.disk,
          served.state.answers⟩ := by
  simp only [legacyMain, h.signals, h.load, h.logger]
  exact ⟨rfl, rfl⟩

/-- What fails before the service leaves everything as it is. -/
theorem legacyMain_unready {setup : Setup} (h : ¬ setup.Ready life) (w : World) :
    (legacyMain P life setup w).state = w := by
  unfold legacyMain
  cases hsignals : setup.signals with
  | some failure => rfl
  | none =>
  cases hload : setup.load with
  | some message => rfl
  | none =>
  cases hlogger : setup.logger (logLevel life.cfg.toConfigSnapshot) with
  | some message => rfl
  | none => exact absurd ⟨hsignals, hload, hlogger⟩ h

variable (answers : List (Throws Bytes))

theorem serveLegacy_down (h : ¬ (Opens life.service disk ∧ life.starts life.server = true)) :
    let after := serveLegacy P life
      ⟨fresh (readServiceConfig life.cfg.toConfigSnapshot) disk, answers⟩
    after.val = some 1 ∧ after.state.machine.disk = disk ∧ after.state.answers = answers := by
  by_cases hopen : Opens life.service disk
  · have hstarts : life.starts life.server = false := by
      simpa using fun hon ↦ h ⟨hopen, hon⟩
    obtain ⟨hval, hstate⟩ := initializeService_opened P life.service
      (fresh (readServiceConfig life.cfg.toConfigSnapshot) disk) rfl hopen
    have hdisk : (initializeService P life.service
        (fresh (readServiceConfig life.cfg.toConfigSnapshot) disk)).state.disk = disk := by
      rw [hstate]
      rfl
    simp [serveLegacy, hval, hdisk, hstarts]
  · obtain ⟨hval, hdisk, -⟩ := initializeService_closed P life.service
      (fresh (readServiceConfig life.cfg.toConfigSnapshot) disk) rfl hopen
    have hsame : (fresh (readServiceConfig life.cfg.toConfigSnapshot) disk).disk = disk := rfl
    simp [serveLegacy, hval, hdisk, hsame]

theorem serveLegacy_up (hopen : Opens life.service disk)
    (hstarts : life.starts life.server = true) :
    let after := serveLegacy P life
      ⟨fresh (readServiceConfig life.cfg.toConfigSnapshot) disk, answers⟩
    let served := serveAll (life.answer P) (life.requests ++ life.late)
      ⟨⟨disk, life.opened P disk⟩, answers⟩
    after.val = served.val.map (fun _ ↦ 0) ∧ after.state = served.state := by
  intro after served
  obtain ⟨hval, hstate⟩ := initializeService_opened P life.service
    (fresh (readServiceConfig life.cfg.toConfigSnapshot) disk) rfl hopen
  have hopened : (initializeService P life.service
      (fresh (readServiceConfig life.cfg.toConfigSnapshot) disk)).state =
        ⟨disk, life.opened P disk⟩ := hstate
  simp only [after, served, serveAll_append, serveLegacy, Prog.bind_val, Prog.bind_state, on_val,
    on_state, hval, hopened, Option.bind_some, Option.elim_some]
  simp only [ne_eq, not_true_eq_false, if_false, hstarts, Bool.not_true, Bool.false_eq_true,
    Prog.bind_val, Prog.bind_state, logged_val, logged_state, Option.bind_some, Option.elim_some,
    Prog.pure_val, Prog.pure_state]
  cases (serveAll (life.answer P) life.requests ⟨⟨disk, life.opened P disk⟩, answers⟩).val with
  | none => exact ⟨rfl, rfl⟩
  | some done =>
      simp only [Option.bind_some, Option.elim_some]
      cases (serveAll (life.answer P) life.late (serveAll (life.answer P) life.requests
        ⟨⟨disk, life.opened P disk⟩, answers⟩).state).val <;> exact ⟨rfl, rfl⟩

variable (P life) in
theorem serveApplication_down
    (h : ¬ (Opens life.service disk ∧ life.starts life.server = true)) :
    let after := serveApplication P life ⟨⟨disk, {}⟩, answers⟩
    after.val = some false ∧ after.state.machine.disk = disk ∧ after.state.answers = answers := by
  obtain ⟨hval, hdisk⟩ := app_down h (P := P)
  simp [serveApplication, hval, hdisk]

variable (P life) in
theorem serveApplication_up (hopen : Opens life.service disk)
    (hstarts : life.starts life.server = true) :
    let after := serveApplication P life ⟨⟨disk, {}⟩, answers⟩
    let served := servedService P life ⟨⟨disk, life.opened P disk⟩, answers⟩
    after.val = served.val.map (fun _ ↦ true) ∧
      after.state.machine.disk = served.state.machine.disk ∧
      after.state.answers = served.state.answers := by
  intro after served
  obtain ⟨hval, hstate⟩ := app_up hopen hstarts (P := P)
  have halike : Alike (life.up P disk) ⟨⟨disk, life.up P disk⟩, answers⟩
      ⟨⟨disk, life.opened P disk⟩, answers⟩ := ⟨rfl, rfl⟩
  obtain ⟨hvals, ⟨hmachine, hanswers⟩, -⟩ := execute_alike P life _ _ _ halike
  change Option.Rel Eq _ served.val at hvals
  change _ = served.state.answers at hanswers
  have hassoc : serveApplication P life = (do
      if !(← Served.on (initializeApplication P life.app)) then return false
      else
        (do
          execute P life
          Served.on quiesce
          serveAll (fun request ↦ onService (life.answer P request)) life.late)
        Served.on release
        return true) := by
    unfold serveApplication stopServing
    simp only [Prog.bind_assoc]
  simp only [after, hassoc]
  generalize (do
    execute P life
    Served.on quiesce
    serveAll (fun request ↦ onService (life.answer P request)) life.late :
      Prog (Served ProvApplication) Output Unit) = body at hvals hmachine hanswers ⊢
  simp only [Prog.bind_val, Prog.bind_state, on_val, on_state, hval, hstate, Option.bind_some,
    Option.elim_some, Bool.not_true, Bool.false_eq_true, if_false]
  have hdisk := congrArg Machine.disk hmachine
  cases hmine : (body ⟨⟨disk, life.up P disk⟩, answers⟩).val with
  | none =>
      cases hserved : served.val with
      | none => exact ⟨rfl, hdisk, hanswers⟩
      | some done => rw [hmine, hserved] at hvals; cases hvals
  | some done =>
      cases hserved : served.val with
      | none => rw [hmine, hserved] at hvals; cases hvals
      | some done => exact ⟨rfl, hdisk, hanswers⟩

end EntryPoints

/-! ## A life as a run of calls -/

section Calls

open ProvIpcDispatcher

variable {P : Platform} {env : Env} {methodId : MethodId} {params : Bytes}

/-- A request whose handler is one call of the service. -/
theorem dispatch_of_call {α : Type} {q : ServiceAction α} {f : α → Throws Reply} {c : Call}
    (hhandle : handle P env methodId params = do return f (← q)) (s : Machine ProvService)
    (hval : (c.prog P s).val.isSome = (q s).val.isSome)
    (hstate : (c.prog P s).state = (q s).state) :
    (dispatch P env methodId params).settle restarted s = run (exec P) [c] s := by
  apply Prog.settle_congr
  · rw [dispatch_val, hhandle, Prog.bind_pure_val, hval]
    cases (q s).val <;> rfl
  · rw [dispatch_state, hhandle, Prog.bind_pure_state, hstate]

theorem coded_isSome (p : ServiceAction ErrorCode) (s : Machine ProvService) :
    (coded p s).val.isSome = (p s).val.isSome := by
  rw [coded_val, Option.isSome_map]

variable (P env params) in
/-- The methods that only read. -/
theorem handle_reads (hinit : methodId ≠ .initializeService)
    (hbinding : ∀ call, methodId ≠ methodOf call) (s : Machine ProvService) :
    (handle P env methodId params s).state = s := by
  have hwrite : methodId ≠ .writeVin := hbinding .writeVin
  have hrewrite : methodId ≠ .authorizeRewrite := hbinding .authorizeRewrite
  simp only [handle, hinit, hwrite, hrewrite, if_false]
  split
  · exact (Prog.bind_pure_state _ _ _).trans (readVin_state P s)
  split
  · exact (Prog.bind_pure_state _ _ _).trans (readBinding_state P env s)
  split
  · exact (Prog.bind_pure_state _ _ _).trans (getProvisionState_state P s)
  split
  · rfl
  split
  · rfl
  rfl

/-- A request that does nothing to the service. -/
theorem dispatch_of_quiet {s : Machine ProvService}
    (hval : (handle P env methodId params s).val.isSome = true)
    (hstate : (handle P env methodId params s).state = s) :
    (dispatch P env methodId params).settle restarted s = run (exec P) [] s := by
  obtain ⟨reply, hreply⟩ := Option.isSome_iff_exists.1 hval
  rw [Prog.settle, dispatch_val, hreply, dispatch_state, hstate]
  rfl

/-- A request is a call of the service, or none. -/
theorem exists_calls (P : Platform) (env : Env) (methodId : MethodId) (params : Bytes)
    (s : Machine ProvService) :
    ∃ calls, (dispatch P env methodId params).settle restarted s = run (exec P) calls s := by
  by_cases hbinding : ∃ call, methodId = methodOf call
  · obtain ⟨call, rfl⟩ := hbinding
    cases hfield : extractStringField P params "vin" with
    | nil =>
        refine ⟨[], dispatch_of_quiet ?_ ?_⟩ <;> rw [handle_binding] <;>
          simp [handleBindingCall, hfield]
    | cons b bs =>
        have hhandle : handle P env (methodOf call) params =
            do return codedReply P (← call.run P env (b :: bs)) := by
          rw [handle_binding, handleBindingCall, hfield]
          rfl
        exact ⟨[.binding call env (b :: bs)],
          dispatch_of_call hhandle s (coded_isSome _ s) (coded_state _)⟩
  by_cases hinit : methodId = .initializeService
  · subst hinit
    have hhandle : handle P env .initializeService params =
        do return codedReply P (← initializeService P env) := rfl
    exact ⟨[.initializeService env],
      dispatch_of_call hhandle s (coded_isSome _ s) (coded_state _)⟩
  refine ⟨[], dispatch_of_quiet ?_ ?_⟩
  · obtain ⟨reply, hval, -⟩ := handle_other P env params (not_exists.1 hbinding) s
    rw [hval]
    rfl
  · exact handle_reads P env params hinit (not_exists.1 hbinding) s

/-- Serving requests leaves the store as a run of calls does. -/
theorem serveAll_run (life : Life) (requests : List ProvIpcDispatcher.Request)
    (s : Machine ProvService) (answers : List (Throws Bytes)) :
    ∃ calls, (serveAll (life.answer P) requests ⟨s, answers⟩).state.machine.disk =
      (run (exec P) calls s).disk := by
  induction requests generalizing s answers with
  | nil => exact ⟨[], rfl⟩
  | cons request requests ih =>
      obtain ⟨calls, hcalls⟩ := exists_calls P
        (Env.provided life.build (some life.cfg) request.env) request.methodId request.params s
      change (life.answer P request).settle restarted s = _ at hcalls
      have hdisk := settle_disk (life.answer P request) s
      rw [hcalls] at hdisk
      simp only [serveAll, Prog.bind_state, on_val, on_state]
      cases hval : (life.answer P request s).val with
      | none => exact ⟨calls, hdisk.symm⟩
      | some reply =>
          have hstate : (life.answer P request s).state = run (exec P) calls s := by
            rw [← hcalls, Prog.settle, hval, Option.elim_some]
          obtain ⟨rest, hrest⟩ := ih (run (exec P) calls s) (answers ++ [reply])
          refine ⟨calls ++ rest, ?_⟩
          rw [run_append, ← hrest, ← hstate]
          rfl

/-- Requests that come after the begin of the shutdown are answered, and store nothing. -/
theorem serveAll_shutDown (P : Platform) (life : Life) {s : Machine ProvService}
    (hdown : s.mem.shuttingDown = true)
    (requests : List ProvIpcDispatcher.Request) (answers : List (Throws Bytes)) :
    (serveAll (life.answer P) requests ⟨s, answers⟩).val = some () ∧
      (serveAll (life.answer P) requests ⟨s, answers⟩).state.machine.disk = s.disk := by
  induction requests generalizing s answers with
  | nil => exact ⟨rfl, rfl⟩
  | cons request requests ih =>
      obtain ⟨reply, hval, hdisk, hkept⟩ := handle_shuttingDown P
        (Env.provided life.build (some life.cfg) request.env) request.methodId request.params hdown
      have hval' : (life.answer P request s).val = some (answer P reply) := by
        rw [Life.answer, dispatch_val, hval]
        rfl
      rw [← dispatch_state] at hdisk hkept
      obtain ⟨hdone, hrest⟩ := ih (s := (life.answer P request s).state) hkept
        (answers ++ [answer P reply])
      simp only [serveAll, Prog.bind_val, Prog.bind_state, on_val, on_state, hval',
        Option.bind_some, Option.elim_some, Prog.modify_val, Prog.modify_state]
      exact ⟨hdone, hrest.trans hdisk⟩

variable (P) in
/-- What comes in after the begin of the shutdown stores nothing. -/
theorem servedService_disk (life : Life) (x : Served ProvService) :
    (servedService P life x).state.machine.disk =
      (serveAll (life.answer P) life.requests x).state.machine.disk := by
  simp only [servedService, Prog.bind_state, on_val, on_state, beginShutdown_val]
  cases (serveAll (life.answer P) life.requests x).val with
  | none => rfl
  | some done =>
      have hdown : (beginShutdown (serveAll (life.answer P) life.requests
          x).state.machine).state.mem.shuttingDown = true := by simp
      have hdisk := (serveAll_shutDown P life hdown life.late
        (serveAll (life.answer P) life.requests x).state.answers).2
      rw [beginShutdown_state] at hdisk
      exact hdisk

theorem exec_opened {life : Life} {disk : Disk} (hopen : Opens life.service disk) :
    exec P (.initializeService life.service)
        (fresh (readServiceConfig life.cfg.toConfigSnapshot) disk) =
      ⟨disk, life.opened P disk⟩ :=
  ProvCli.exec_initialize_opened hopen

/-- A life leaves the store of its root as a run of calls does, and no other store changes. -/
theorem applicationLife_roots (life : Life) (w : World) :
    ∃ calls, (applicationLife P life w).state.roots =
      Function.update w.roots life.storeRoot
        (run (exec P) calls (fresh (readServiceConfig life.cfg.toConfigSnapshot)
          (w.roots life.storeRoot))).disk := by
  by_cases h : Opens life.service (w.roots life.storeRoot) ∧ life.starts life.server = true
  · obtain ⟨hopen, hstarts⟩ := h
    obtain ⟨-, hdisk, -⟩ := serveApplication_up P life w.answers hopen hstarts
    obtain ⟨calls, hcalls⟩ := serveAll_run (P := P) life life.requests
      ⟨w.roots life.storeRoot, life.opened P (w.roots life.storeRoot)⟩ w.answers
    refine ⟨.initializeService life.service :: calls, ?_⟩
    rw [run_cons, exec_opened hopen, ← hcalls, ← servedService_disk, ← hdisk]
    rfl
  · obtain ⟨-, hdisk, -⟩ := serveApplication_down P life w.answers h
    refine ⟨[], ?_⟩
    rw [run_nil, applicationLife, onStore, Prog.zoom_state, hdisk]
    rfl

/-- So does a life under the legacy `main`. -/
theorem legacyMain_roots (setup : Setup) (life : Life) (w : World) :
    ∃ calls, (legacyMain P life setup w).state.roots =
      Function.update w.roots life.storeRoot
        (run (exec P) calls (fresh (readServiceConfig life.cfg.toConfigSnapshot)
          (w.roots life.storeRoot))).disk := by
  by_cases hready : setup.Ready life
  case neg =>
    refine ⟨[], ?_⟩
    rw [legacyMain_unready hready, run_nil]
    exact (Function.update_eq_self _ _).symm
  rw [(legacyMain_ready hready w).2]
  by_cases h : Opens life.service (w.roots life.storeRoot) ∧ life.starts life.server = true
  · obtain ⟨hopen, hstarts⟩ := h
    obtain ⟨-, hstate⟩ := serveLegacy_up w.answers hopen hstarts (P := P)
    obtain ⟨calls, hcalls⟩ := serveAll_run (P := P) life (life.requests ++ life.late)
      ⟨w.roots life.storeRoot, life.opened P (w.roots life.storeRoot)⟩ w.answers
    refine ⟨.initializeService life.service :: calls, ?_⟩
    rw [run_cons, exec_opened hopen, ← hcalls, hstate]
  · obtain ⟨-, hdisk, -⟩ := serveLegacy_down w.answers h (P := P)
    refine ⟨[], ?_⟩
    rw [run_nil, hdisk]
    rfl

end Calls

/-! ## The end of a life -/

section Late

open ProvIpcDispatcher

variable {P : Platform} {life : Life} {s : Machine ProvService}

/-- What comes in after the begin of the shutdown never changes a store. -/
theorem applicationLife_late (life : Life) (w : World) :
    (applicationLife P life w).state.roots =
      (applicationLife P { life with late := [] } w).state.roots := by
  have hdisk : (serveApplication P life
        ⟨⟨w.roots life.storeRoot, {}⟩, w.answers⟩).state.machine.disk =
      (serveApplication P { life with late := [] }
        ⟨⟨w.roots life.storeRoot, {}⟩, w.answers⟩).state.machine.disk := by
    by_cases h : Opens life.service (w.roots life.storeRoot) ∧ life.starts life.server = true
    · obtain ⟨hopen, hstarts⟩ := h
      obtain ⟨-, hsame, -⟩ := serveApplication_up P life w.answers hopen hstarts
      obtain ⟨-, hsame', -⟩ :=
        serveApplication_up P { life with late := [] } w.answers hopen hstarts
      rw [hsame, hsame', servedService_disk, servedService_disk]
      rfl
    · obtain ⟨-, hsame, -⟩ := serveApplication_down P life w.answers h
      obtain ⟨-, hsame', -⟩ := serveApplication_down P { life with late := [] } w.answers h
      rw [hsame, hsame']
  exact congrArg (Function.update w.roots life.storeRoot) hdisk

/-! ### The same service, shutting down -/

/-- The same service, but for the shutdown. -/
def Down (s t : Machine ProvService) : Prop := s = ⟨t.disk, { t.mem with shuttingDown := true }⟩

theorem onStorage_down {α : Type} (p : ProtectedStorageImpl.StorageAction α) :
    Prog.Simulates (fun _ _ ↦ True) Down Eq (onStorage p) (onStorage p) := by
  refine .zoom (T := Eq) (.refl .all p) (fun s t hS ↦ ?_) (fun s t u v hS huv ↦ ?_)
  · rw [hS]
  · rw [hS, huv]
    rfl

/-- A read shows nothing of the shutdown. -/
theorem read_down {α : Type} {p : ServiceAction α} (shown : Machine ProvService → α)
    (hval : ∀ s, (p s).val = some (shown s)) (hstate : ∀ s, (p s).state = s)
    (hsame : ∀ t : Machine ProvService,
      shown ⟨t.disk, { t.mem with shuttingDown := true }⟩ = shown t) :
    Prog.Simulates (fun _ _ ↦ True) Down Eq p p := by
  intro s t hS
  refine .of_some (hval s) (hval t) ?_ ?_ trivial
  · rw [hS, hsame]
  · rw [hstate, hstate]
    exact hS

theorem initializeService_down (env : Env) :
    Prog.Simulates (fun _ _ ↦ True) Down Eq (initializeService P env)
      (initializeService P env) := by
  unfold initializeService
  refine .bind .all (.get .all) fun a b hab ↦ .ite (by rw [hab]) (.pure .all rfl) ?_
  refine .bind (A := Eq) .all (.modify .all fun s t hS ↦ by rw [hS]; rfl) fun _ _ _ ↦ ?_
  refine .bind .all (onStorage_down _) fun result result' hresult ↦ ?_
  subst hresult
  refine .ite Iff.rfl (.pure .all rfl) (.bind (A := Eq) .all (.modify .all ?_) fun _ _ _ ↦
    .pure .all rfl)
  exact fun s t hS ↦ by rw [hS]; rfl

variable (P) in
theorem handle_down (env : Env) {methodId : MethodId} (params : Bytes)
    (h : ∀ call, methodId ≠ methodOf call) :
    Prog.Simulates (fun _ _ ↦ True) Down Eq (handle P env methodId params)
      (handle P env methodId params) := by
  have hthen : ∀ {α : Type} {p : ServiceAction α} {f : α → Throws Reply},
      Prog.Simulates (fun _ _ ↦ True) Down Eq p p →
        Prog.Simulates (fun _ _ ↦ True) Down Eq (do return f (← p)) (do return f (← p)) :=
    fun hp ↦ .bind .all hp fun a b hab ↦ .pure .all (by rw [hab])
  unfold handle
  split
  · exact hthen (initializeService_down env)
  split
  · exact hthen (read_down _ (readVin_returns P) (readVin_state P) fun _ ↦ rfl)
  split
  · exact hthen (read_down _ (readBinding_val P env) (readBinding_state P env) fun _ ↦ rfl)
  split
  · exact hthen (read_down _ (getProvisionState_returns P) (getProvisionState_state P)
      fun _ ↦ rfl)
  split
  case isTrue hwrite => exact absurd hwrite (h .writeVin)
  split
  · exact .pure .all rfl
  split
  · exact .pure .all rfl
  split
  case isTrue hrewrite => exact absurd hrewrite (h .authorizeRewrite)
  · exact .bind (A := Eq) .all (.emit trivial) fun _ _ _ ↦ .pure .all rfl

variable (P life) in
theorem serveAll_down {requests : List ProvIpcDispatcher.Request}
    (h : ∀ request ∈ requests, ∀ call, request.methodId ≠ methodOf call) :
    Prog.Simulates (fun _ _ ↦ True)
      (fun x y : Served ProvService ↦ Down x.machine y.machine ∧ x.answers = y.answers) Eq
      (serveAll (life.answer P) requests) (serveAll (life.answer P) requests) := by
  induction requests with
  | nil => exact .pure .all rfl
  | cons request requests ih =>
      obtain ⟨hfirst, hrest⟩ := List.forall_mem_cons.1 h
      have hanswer : Prog.Simulates (fun _ _ ↦ True) Down Eq (life.answer P request)
          (life.answer P request) := by
        intro s t hS
        obtain ⟨hval, hstate, -⟩ := handle_down P
          (Env.provided life.build (some life.cfg) request.env) request.params hfirst s t hS
        refine ⟨?_, ?_, trivial⟩
        · rw [Life.answer, dispatch_val, dispatch_val]
          generalize (handle P _ _ _ s).val = mine, (handle P _ _ _ t).val = other at hval
          cases hval with
          | none => exact .none
          | some hreply => exact .some (by rw [hreply])
        · rw [Life.answer, dispatch_state, dispatch_state]
          exact hstate
      refine .bind (A := Eq) .all (.zoom hanswer (fun _ _ hS ↦ hS.1) fun _ _ _ _ hS hT ↦ ⟨hT, hS.2⟩)
        fun reply _ hreply ↦ ?_
      subst hreply
      refine .bind (A := Eq) .all (.modify .all fun x y hS ↦ ⟨hS.1, ?_⟩) fun _ _ _ ↦ ih hrest
      rw [hS.2]

/-! ### The entry points -/

/-- No binding request comes in between the begin of the shutdown and the stop of the server. -/
def Life.QuietEnd (life : Life) : Prop :=
  ∀ request ∈ life.late, ∀ call, request.methodId ≠ methodOf call

variable (P) in
/-- Whether the legacy `main` came up and ended with 0, and what a life under it leaves. -/
def legacyStep (setup : Setup) (life : Life) (w : World) : Option Bool × World :=
  ((legacyMain P life setup w).val.map (· == 0), (legacyMain P life setup w).state)

variable (P) in
/-- Whether the application came up and was cleaned up, and what is left. -/
def applicationStep (life : Life) (w : World) : Option Bool × World :=
  ((applicationLife P life w).val, (applicationLife P life w).state)

/-- In a quiet end the service answers as it would without the shutdown. -/
theorem servedService_quiet (hquiet : life.QuietEnd) (x : Served ProvService) :
    let served := serveAll (life.answer P) (life.requests ++ life.late) x
    (servedService P life x).val = served.val ∧
      (servedService P life x).state.machine.disk = served.state.machine.disk ∧
      (servedService P life x).state.answers = served.state.answers := by
  intro served
  simp only [served, serveAll_append, servedService, Prog.bind_val, Prog.bind_state, on_val,
    on_state, beginShutdown_val, Option.bind_some, Option.elim_some]
  cases (serveAll (life.answer P) life.requests x).val with
  | none => exact ⟨rfl, rfl, rfl⟩
  | some done =>
      generalize (serveAll (life.answer P) life.requests x).state = y
      have hdown : Down (beginShutdown y.machine).state y.machine := beginShutdown_state _
      obtain ⟨hval, ⟨hmachine, hanswers⟩, -⟩ := serveAll_down P life hquiet
        { y with machine := (beginShutdown y.machine).state } y ⟨hdown, rfl⟩
      have hdisk := congrArg Machine.disk (show _ = _ from hmachine)
      refine ⟨?_, hdisk, hanswers⟩
      simp only [Option.bind_some]
      generalize (serveAll (life.answer P) life.late _).val = mine,
        (serveAll (life.answer P) life.late y).val = other at hval
      cases hval with
      | none => rfl
      | some hunit => rw [hunit]

theorem legacyStep_eq {setup : Setup} (hready : setup.Ready life) (hquiet : life.QuietEnd)
    (w : World) : legacyStep P setup life w = applicationStep P life w := by
  obtain ⟨hlegacy, hleft⟩ := legacyMain_ready hready w (P := P)
  rw [legacyStep, hlegacy, hleft, applicationStep, applicationLife]
  by_cases h : Opens life.service (w.roots life.storeRoot) ∧ life.starts life.server = true
  · obtain ⟨hopen, hstarts⟩ := h
    obtain ⟨hval, hstate⟩ := serveLegacy_up w.answers hopen hstarts (P := P)
    obtain ⟨hval', hdisk, hanswers⟩ := serveApplication_up P life w.answers hopen hstarts
    obtain ⟨hsame, hsameDisk, hsameAnswers⟩ := servedService_quiet (P := P) hquiet
      ⟨⟨w.roots life.storeRoot, life.opened P (w.roots life.storeRoot)⟩, w.answers⟩
    simp only [onStore, Prog.zoom_val, Prog.zoom_state, hval, hstate, hval', hdisk, hanswers,
      Option.map_map, hsame, hsameDisk, hsameAnswers]
    rfl
  · obtain ⟨hval, hdisk, hanswers⟩ := serveLegacy_down w.answers h (P := P)
    obtain ⟨hval', hdisk', hanswers'⟩ := serveApplication_down P life w.answers h
    simp only [onStore, Prog.zoom_val, Prog.zoom_state, hval, hdisk, hanswers, hval', hdisk',
      hanswers']
    rfl

/-- Whatever the stores hold, whatever is asked for and wherever a process is killed, the
two entry points come up alike, give the same answers and leave the same stores, life after
life, but for binding requests that come in while they stop; under the application no
request of that window changes a store. -/
theorem entry_points_agree (P : Platform) {lives : List (Setup × Life)}
    (hready : ∀ l ∈ lives, l.1.Ready l.2) (hquiet : ∀ l ∈ lives, l.2.QuietEnd) (w : World) :
    trace (fun l ↦ legacyStep P l.1 l.2) lives w = trace (fun l ↦ applicationStep P l.2) lives w ∧
      ∀ (life : Life) (w : World), (applicationLife P life w).state.roots =
        (applicationLife P { life with late := [] } w).state.roots := by
  refine ⟨?_, applicationLife_late⟩
  induction lives generalizing w with
  | nil => rfl
  | cons l lives ih =>
      obtain ⟨hfirst, hrest⟩ := List.forall_mem_cons.1 hready
      obtain ⟨hend, hends⟩ := List.forall_mem_cons.1 hquiet
      rw [trace_cons, trace_cons, legacyStep_eq hfirst hend, ih hrest hends]

/-- A daemon that is asked to write another VIN, and to read while it stops. -/
def laterLife : Life where
  cfg := ProvCli.cliSnapshot
  build := { testEnvironment := true }
  outside := sampleEnv
  starts _ := true
  requests := [⟨sampleEnv, .writeVin, bytes "{}"⟩, ⟨sampleEnv, .readVin, []⟩]
  late := [⟨sampleEnv, .getProvisionState, []⟩]
  receivedSignal := 15

def twoLives : List (Setup × Life) := [({}, laterLife), ({}, laterLife)]

theorem entry_points_agree_sample :
    trace (fun l ↦ legacyStep textPlatform l.1 l.2) twoLives ⟨fun _ ↦ Disk.empty, []⟩ =
      trace (fun l ↦ applicationStep textPlatform l.2) twoLives ⟨fun _ ↦ Disk.empty, []⟩ := by
  have hquiet : laterLife.QuietEnd := by
    intro request hmem call
    obtain rfl := List.mem_singleton.1 hmem
    cases call <;> decide
  refine (entry_points_agree textPlatform ?_ ?_ _).1
  · intro l hl
    rcases List.mem_pair.1 hl with rfl | rfl <;> exact ⟨rfl, rfl, rfl⟩
  · intro l hl
    rcases List.mem_pair.1 hl with rfl | rfl <;> exact hquiet

end Late

end TboxProv.Daemon
