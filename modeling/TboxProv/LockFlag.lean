import TboxProv.Runs

/-!
# The lock that the binding shows

A binding record has a `locked` field, and the storage keeps a protection flag of
its own.  The flow sets the flag and leaves the field off, so the two agree until
the first call that binds a VIN under write protection, and not afterwards.
-/

namespace TboxProv.ProvService

open Crash Store

variable {P : Platform} {s : Machine ProvService}

variable (P) in
/-- Where a binding is stored, `read_binding` shows it locked exactly when the storage
refuses writes. -/
def TellsLock (s : Machine ProvService) : Prop :=
  (bindingIn P (s.disk .binding)).isSome → ∀ env,
    (readBinding P env s).val.map (·.locked) = some s.mem.storage.writeProtected

variable (P) in
/-- The call binds a VIN and sets the protection flag. -/
def Locks : Call → Machine ProvService → Prop
  | .binding call env vin, s =>
      s.mem.config.enableWriteProtection = true ∧ Binds P env vin s call
  | _, _ => False

variable (P) in
structure Unlocked (s : Machine ProvService) : Prop where
  disk : protectedIn P (s.disk .protection) = false
  flag : s.mem.storage.writeProtected = false
  field : ∀ binding, bindingIn P (s.disk .binding) = some binding → binding.locked = false

theorem withSn_locked (env : Env) (binding : VehicleBinding) :
    (withSn env binding).locked = binding.locked := by
  unfold withSn
  split <;> rfl

theorem readBinding_locked (env : Env) {binding : VehicleBinding}
    (hinit : s.mem.initialized = true) (hread : bindingIn P (s.disk .binding) = some binding) :
    (readBinding P env s).val.map (·.locked) = some binding.locked := by
  rw [readBinding_val]
  simp [shownBinding, hinit, hread, withSn_locked]

theorem Unlocked.tellsLock (h : Unlocked P s) : TellsLock P s := by
  intro hstored env
  obtain ⟨binding, hread⟩ := Option.isSome_iff_exists.1 hstored
  cases hinit : s.mem.initialized with
  | true => rw [readBinding_locked env hinit hread, h.field binding hread, h.flag]
  | false =>
      rw [readBinding_val, shownBinding, hinit, h.flag]
      rfl

/-! ## One call -/

/-- A new storage starts with its flag off and keeps it off when it cannot be opened. -/
theorem Unlocked.initializeService (env : Env) (h : Unlocked P s) :
    Unlocked P (ProvService.initializeService P env s).state := by
  cases hinit : s.mem.initialized with
  | true =>
      rw [(initializeService_again P env s hinit).2]
      exact h
  | false =>
      by_cases hopen : Opens env s.disk
      · rw [(initializeService_opened P env s hinit hopen).2]
        exact ⟨h.disk, h.disk, h.field⟩
      · obtain ⟨-, hdisk, -⟩ := initializeService_closed P env s hinit hopen
        refine ⟨?_, initializeService_closed_flag P env s hinit hopen, ?_⟩
        · rw [hdisk]
          exact h.disk
        · rw [hdisk]
          exact h.field

theorem Frame.unlocked {key : Key} {t : Machine ProvService} (frame : Frame key s t)
    (hbinding : .binding ≠ key) (hprotection : .protection ≠ key) (h : Unlocked P s) :
    Unlocked P t := by
  refine ⟨?_, ?_, ?_⟩
  · rw [frame.other _ hprotection]
    exact h.disk
  · rw [frame.mem]
    exact h.flag
  · rw [frame.other _ hbinding]
    exact h.field

theorem Effect.unlocked {c : Call} {t : Machine ProvService} (effect : Effect P s c t)
    (hstart : ∀ env, c ≠ .initializeService env)
    (hbinding : ∀ call env vin, c ≠ .binding call env vin) (h : Unlocked P s) :
    Unlocked P t := by
  cases effect with
  | opened env | closed env => exact absurd rfl (hstart env)
  | shutdown => exact ⟨h.disk, h.flag, h.field⟩
  | config env configData hadm frame => exact frame.unlocked (by decide) (by decide) h
  | productionInfo env info hadm frame => exact frame.unlocked (by decide) (by decide) h
  | binding call env vin => exact absurd rfl (hbinding call env vin)
  | restart | nothing => exact h

theorem BoundBy.keepsUnlocked {env : Env} {vin : Bytes} {t : Machine ProvService}
    (hbound : BoundBy P env vin s t) (hoff : s.mem.config.enableWriteProtection = false)
    (h : Unlocked P s) : Unlocked P t := by
  obtain ⟨hflag, hprotection⟩ := hbound.unlocked hoff
  refine ⟨?_, hflag, fun binding hread ↦ ?_⟩
  · rw [hprotection]
    exact h.disk
  · rw [hbound.binding, Option.some.injEq] at hread
    rw [← hread]
    exact (boundRecord_reread P env vin s).2.2.2

/-- A new process starts with the flag off. -/
theorem Unlocked.settle {α : Type} {p : ServiceAction α} (h : Unlocked P (p s).state) :
    Unlocked P (p.settle restarted s) := by
  refine ⟨?_, ?_, ?_⟩
  · rw [settle_disk]
    exact h.disk
  · rcases settle_mem p s with hmem | hmem
    · rw [hmem]
      exact h.flag
    · rw [hmem]
  · rw [settle_disk]
    exact h.field

theorem Unlocked.exec (hP : P.json.Lawful) {c : Call} (hsaves : c.SavesStored)
    (hno : ¬ Locks P c s) (h : Unlocked P s) : Unlocked P (exec P c s) := by
  cases c with
  | binding call env vin =>
      by_cases hbinds : Binds P env vin s call
      · have hoff : s.mem.config.enableWriteProtection = false := by
          by_contra hon
          exact hno ⟨by simpa using hon, hbinds⟩
        exact (exec_binds hP hbinds hsaves).2.keepsUnlocked hoff h
      · rw [(exec_notBinds hP hbinds).2]
        exact h
  | initializeService env =>
      apply Unlocked.settle
      rw [Call.prog, coded_state]
      exact h.initializeService env
  | _ => exact .settle ((prog_effect hP _ s).unlocked (by simp) (by simp) h)

/-- The call that locks the storage leaves a record that says it is not locked. -/
theorem Locks.not_tellsLock (hP : P.json.Lawful) {c : Call} (hsaves : c.SavesStored)
    (h : Locks P c s) : ¬ TellsLock P (exec P c s) := by
  cases c with
  | binding call env vin =>
      obtain ⟨hon, hbinds⟩ := h
      have hbound := (exec_binds hP hbinds hsaves).2
      intro htells
      have hinit := hbound.service.1.trans hbinds.admits.initialized
      have hshown := htells (by rw [hbound.binding]; rfl) env
      rw [readBinding_locked env hinit hbound.binding, (hbound.locked hon).1,
        (boundRecord_reread P env vin s).2.2.2] at hshown
      cases hshown
  | _ => exact h.elim

/-! ## Runs -/

/-- On a store without faults the shown lock is true at every point of a run exactly when
no call of the run binds a VIN under write protection. -/
theorem lock_told_iff (hP : P.json.Lawful) (config : ProvServiceConfig) {calls : List Call}
    (hsaves : ∀ c ∈ calls, c.SavesStored) :
    Throughout (exec P) (TellsLock P) calls (fresh config Disk.empty) ↔
      Along (exec P) (fun c s ↦ ¬ Locks P c s) calls (fresh config Disk.empty) := by
  have hstart : Unlocked P (fresh config Disk.empty) := by
    refine ⟨rfl, rfl, fun binding hread ↦ ?_⟩
    cases hread
  have hkeep : ∀ (c : Call) (s : Machine ProvService), c.SavesStored → Unlocked P s →
      ¬ Locks P c s → Unlocked P (exec P c s) :=
    fun c s hc hs hno ↦ hs.exec hP hc hno
  have hbreak : ∀ (c : Call) (s : Machine ProvService), c.SavesStored → Unlocked P s →
      ¬ ¬ Locks P c s → ¬ TellsLock P (exec P c s) :=
    fun c s hc _ hlocks ↦ (not_not.1 hlocks).not_tellsLock hP hc
  exact throughout_iff_along_of_safe (fun _ hs ↦ hs.tellsLock) hkeep hbreak hsaves hstart

theorem lock_told_sample :
    Throughout (exec textPlatform) (TellsLock textPlatform)
      [.initializeService sampleEnv, .binding .writeVin sampleEnv sampleVin]
      (fresh { enableWriteProtection := false } Disk.empty) := by
  refine (lock_told_iff textPlatform_lawful _ ?_).2 ⟨id, ?_, trivial⟩
  · simp [Call.SavesStored, sampleEnv]
  · rintro ⟨hon, -⟩
    rw [exec_config textPlatform_lawful] at hon
    cases hon

theorem lock_not_told :
    ¬ TellsLock textPlatform (run (exec textPlatform)
      [.initializeService sampleEnv, .binding .writeVin sampleEnv sampleVin]
      (fresh {} Disk.empty)) := by
  rw [run_cons, run_cons, run_nil, exec_initialize_empty {} rfl]
  have hbinds : Binds textPlatform sampleEnv sampleVin (started {}) .writeVin :=
    ⟨admits_started {} validate_sampleVin .writeVin, rfl, utf8_sampleUid, rfl⟩
  have hlocks : Locks textPlatform (.binding .writeVin sampleEnv sampleVin) (started {}) :=
    ⟨rfl, hbinds⟩
  exact hlocks.not_tellsLock textPlatform_lawful fun _ ↦ rfl

end TboxProv.ProvService
