import TboxProv.Protection

/-!
# Several services over one store

The daemon and the command line tool each construct a service over the same store
root.  Their operations interleave; each keeps the protection flag it read when it
was initialized.  `RespectsLock` asks that a service which has bound a VIN is
respected by the others, and a service with an old flag does not respect it.
-/

namespace TboxProv.ProvService

open Crash Store

/-- The disk, the memory of every instance, and which of them has reported a successful
`write_vin` so far. -/
structure Shared (ι : Type) where
  disk : Disk
  service : ι → ProvService
  succeeded : ι → Bool

namespace Shared

variable {ι : Type} [DecidableEq ι]

/-- Instances that have not been initialized, over a disk. -/
def fresh (config : ι → ProvServiceConfig) (disk : Disk) : Shared ι :=
  ⟨disk, fun i ↦ { config := config i }, fun _ ↦ false⟩

def machine (s : Shared ι) (i : ι) : Machine ProvService := ⟨s.disk, s.service i⟩

variable (P : Platform)

def reportsVin : Call → Machine ProvService → Bool
  | .binding .writeVin env vin, m =>
      (Call.binding .writeVin env vin).returned P m == some .success
  | _, _ => false

/-- One whole operation of one instance. -/
def step (op : ι × Call) (s : Shared ι) : Shared ι where
  disk := (exec P op.2 (s.machine op.1)).disk
  service := Function.update s.service op.1 (exec P op.2 (s.machine op.1)).mem
  succeeded j := s.succeeded j || (j == op.1 && reportsVin P op.2 (s.machine op.1))

/-- After a `write_vin` of another instance has succeeded, a write leaves the disk alone. -/
def RespectsLock : List (ι × Call) → Shared ι → Prop :=
  Along (step P) fun op s ↦
    (∃ j ≠ op.1, s.succeeded j = true) → Write op.2 → (step P op s).disk = s.disk

/-- The write gets past the guard of an instance although the disk says protected. -/
def Overruns : Call → Machine ProvService → Prop
  | .binding .writeVin env vin, m =>
      Binds P env vin m .writeVin ∧ protectedIn P (m.disk .protection) = true
  | .writeVehicleConfig _ _, m | .writeProductionInfo _ _, m =>
      WritesAdmitted m ∧ protectedIn P (m.disk .protection) = true
  | _, _ => False

/-- The failed UID read of an admitted `write_vin` is not reported as its success. -/
def HonestUid : Call → Machine ProvService → Prop
  | .binding .writeVin env vin, m =>
      Admits P vin m .writeVin → env.uid.success = false → env.uid.errorCode ≠ .success
  | _, _ => True

/-- The disk is protected as soon as one instance has reported success. -/
structure Guarded (s : Shared ι) : Prop where
  configs : ∀ i, (s.service i).config.enableWriteProtection = true
  flag : ∀ i, s.succeeded i = true → protectedIn P (s.disk .protection) = true

variable {P} {s : Shared ι} {m : Machine ProvService}

/-! ## One operation -/

/-- Without faults a protected disk stays protected. -/
theorem exec_protected (hP : P.json.Lawful) {c : Call} (hsaves : c.SavesStored)
    (hon : m.mem.config.enableWriteProtection = true)
    (h : protectedIn P (m.disk .protection) = true) :
    protectedIn P ((exec P c m).disk .protection) = true := by
  cases c with
  | binding call env vin =>
      by_cases hbinds : Binds P env vin m call
      · exact ((exec_binds hP hbinds hsaves).2.locked hon).2
      · rw [(exec_notBinds hP hbinds).2]
        exact h
  | _ =>
      rw [(exec_other hP (by simp) m).2]
      exact h

/-- A reported success protects the disk. -/
theorem exec_reportsVin (hP : P.json.Lawful) {c : Call} (hsaves : c.SavesStored)
    (hhonest : HonestUid P c m) (hon : m.mem.config.enableWriteProtection = true)
    (h : reportsVin P c m = true) : protectedIn P ((exec P c m).disk .protection) = true := by
  unfold reportsVin at h
  split at h
  case h_2 => cases h
  case h_1 env vin =>
    by_cases hbinds : Binds P env vin m .writeVin
    · exact ((exec_binds hP hbinds hsaves).2.locked hon).2
    · have hsuccess : (Call.binding .writeVin env vin).returned P m = some .success := by
        simpa using h
      obtain ⟨huid, hcode⟩ := (exec_notBinds hP hbinds).1 hsuccess
      rw [binding_returned] at hsuccess
      exact absurd hcode (hhonest (run_success hP hsuccess).1 huid)

/-- A write that does not overrun a protected disk leaves it alone. -/
theorem exec_write_disk (hP : P.json.Lawful) {c : Call} (hwrite : Write c)
    (hno : ¬ Overruns P c m) (h : protectedIn P (m.disk .protection) = true) :
    (exec P c m).disk = m.disk := by
  cases hwrite with
  | vin env vin =>
      have hbinds : ¬ Binds P env vin m .writeVin := fun hbinds ↦ hno ⟨hbinds, h⟩
      rw [(exec_notBinds hP hbinds).2]
  | config env configData =>
      have hadm : ¬ WritesAdmitted m := fun hadm ↦ hno ⟨hadm, h⟩
      obtain ⟨code, -, -, hstate⟩ := writeVehicleConfig_refused P env m configData hadm
      rw [exec, settle_disk, Call.prog, coded_state, hstate]
  | productionInfo env info =>
      have hadm : ¬ WritesAdmitted m := fun hadm ↦ hno ⟨hadm, h⟩
      obtain ⟨code, -, -, hstate⟩ := writeProductionInfo_refused P env m info hadm
      rw [exec, settle_disk, Call.prog, coded_state, hstate]

omit [DecidableEq ι] in
theorem machine_disk (i : ι) : (s.machine i).disk = s.disk := rfl

theorem step_disk (i : ι) (c : Call) :
    (step P (i, c) s).disk = (exec P c (s.machine i)).disk := rfl

theorem step_succeeded (i : ι) (c : Call) :
    (step P (i, c) s).succeeded i = (s.succeeded i || reportsVin P c (s.machine i)) := by
  simp [step]

theorem step_machine_self (i : ι) (c : Call) :
    (step P (i, c) s).machine i = exec P c (s.machine i) := by
  simp [step, machine]

/-- The other instances keep their memory. -/
theorem step_machine_other {i j : ι} {c : Call} (hj : j ≠ i) :
    (step P (i, c) s).machine j = ⟨(exec P c (s.machine i)).disk, s.service j⟩ := by
  simp [step, machine, hj]

theorem Guarded.step (hP : P.json.Lawful) {op : ι × Call} (hsaves : op.2.SavesStored)
    (hhonest : HonestUid P op.2 (s.machine op.1)) (h : Guarded P s) : Guarded P (step P op s) := by
  have hon : (s.machine op.1).mem.config.enableWriteProtection = true := h.configs op.1
  constructor
  · intro i
    by_cases hi : i = op.1
    · subst hi
      simp only [Shared.step, Function.update_self]
      rw [exec_config hP]
      exact hon
    · simp only [Shared.step, Function.update_of_ne hi]
      exact h.configs i
  · intro i hi
    simp only [Shared.step, Bool.or_eq_true, Bool.and_eq_true] at hi
    rcases hi with hi | ⟨-, hreports⟩
    · exact exec_protected hP hsaves hon (h.flag i hi)
    · exact exec_reportsVin hP hsaves hhonest hon hreports

/-! ## Interleavings -/

/-- In every interleaving in which no write overruns a protected disk, and no failed UID
read is reported as success of the `write_vin` that made it, the lock of one instance is
respected by the others. -/
theorem respectsLock_of_noOverrun (hP : P.json.Lawful) {config : ι → ProvServiceConfig}
    (hcfg : ∀ i, (config i).enableWriteProtection = true) (disk : Disk)
    {ops : List (ι × Call)} (hsaves : ∀ op ∈ ops, op.2.SavesStored)
    (h : Along (step P)
      (fun op s ↦ HonestUid P op.2 (s.machine op.1) ∧ ¬ Overruns P op.2 (s.machine op.1)) ops
      (fresh config disk)) :
    RespectsLock P ops (fresh config disk) := by
  have hstart : Guarded P (fresh config disk) := by
    refine ⟨hcfg, fun i hi ↦ ?_⟩
    cases hi
  have hinv : ∀ (op : ι × Call) (s : Shared ι), op.2.SavesStored → Guarded P s →
      HonestUid P op.2 (s.machine op.1) ∧ ¬ Overruns P op.2 (s.machine op.1) → Guarded P (step P op s) :=
    fun op s hop hs hok ↦ hs.step hP hop hok.1
  have hgood : ∀ (op : ι × Call) (s : Shared ι), op.2.SavesStored → Guarded P s →
      HonestUid P op.2 (s.machine op.1) ∧ ¬ Overruns P op.2 (s.machine op.1) →
        (∃ j ≠ op.1, s.succeeded j = true) → Write op.2 → (step P op s).disk = s.disk := by
    rintro op s - hs ⟨-, hno⟩ ⟨j, -, hj⟩ hwrite
    exact exec_write_disk hP hwrite hno (hs.flag j hj)
  exact Along.of_invariant hinv hgood hsaves hstart h

/-- An instance that is initialized on a protected disk refuses writes. -/
theorem exec_initialize_protected {env : Env} (hinit : m.mem.initialized = false)
    (hdirs : (env.rootDir.usable && env.serviceDir.usable) = true)
    (h : protectedIn P (m.disk .protection) = true) :
    (exec P (.initializeService env) m).mem.storage.writeProtected = true := by
  have hopen : Opens env m.disk := by
    refine ⟨hdirs, fun what hwhat ↦ ?_⟩
    rw [hwhat] at h
    cases h
  obtain ⟨hval, hstate⟩ := initializeService_opened P env m hinit hopen
  have hexec : exec P (.initializeService env) m = ⟨m.disk, { m.mem with
      storage := ⟨protectedIn P (m.disk .protection)⟩
      initialized := true }⟩ := by
    apply exec_eq
    · rw [Call.prog, coded_val, hval]
      simp
    · rw [Call.prog, coded_state, hstate]
  rw [hexec]
  exact h

def firstStarted : Shared Bool :=
  step textPlatform (false, .initializeService sampleEnv) (fresh (fun _ ↦ {}) Disk.empty)

theorem firstStarted_machine : firstStarted.machine false = started {} := by
  rw [firstStarted, step_machine_self]
  exact exec_initialize_empty {} rfl

def firstBound : Shared Bool :=
  step textPlatform (false, .binding .writeVin sampleEnv sampleVin) firstStarted

theorem firstBound_protected :
    protectedIn textPlatform (firstBound.disk .protection) = true := by
  have hbinds : Binds textPlatform sampleEnv sampleVin (firstStarted.machine false) .writeVin := by
    rw [firstStarted_machine]
    exact ⟨admits_started {} validate_sampleVin .writeVin, rfl, utf8_sampleUid, rfl⟩
  have hon : (firstStarted.machine false).mem.config.enableWriteProtection = true := by
    rw [firstStarted_machine]
    rfl
  rw [firstBound, step_disk]
  exact ((exec_binds textPlatform_lawful hbinds fun _ ↦ rfl).2.locked hon).2

/-- The second instance has not been initialized. -/
theorem firstBound_machine : firstBound.machine true = ⟨firstBound.disk, { config := {} }⟩ := by
  have hother : firstStarted.machine true = ⟨firstStarted.disk, { config := {} }⟩ :=
    step_machine_other (i := false) (by decide)
  have hservice : firstStarted.service true = { config := {} } := congrArg Machine.mem hother
  rw [firstBound, step_machine_other (i := false) (by decide), hservice, step_disk]

theorem firstBound_refuses :
    ((step textPlatform (true, .initializeService sampleEnv) firstBound).machine
      true).mem.storage.writeProtected = true := by
  have hinit : (firstBound.machine true).mem.initialized = false := by rw [firstBound_machine]
  have hlocked : protectedIn textPlatform ((firstBound.machine true).disk .protection) = true := by
    rw [machine_disk]
    exact firstBound_protected
  rw [step_machine_self]
  exact exec_initialize_protected hinit rfl hlocked

/-- The second instance is initialized after the first has bound its VIN. -/
theorem respectsLock_sample :
    RespectsLock textPlatform
      [(false, .initializeService sampleEnv), (false, .binding .writeVin sampleEnv sampleVin),
       (true, .initializeService sampleEnv), (true, .binding .writeVin sampleEnv otherVin)]
      (fresh (fun _ : Bool ↦ {}) Disk.empty) := by
  have hfirst : ¬ Overruns textPlatform (.binding .writeVin sampleEnv sampleVin)
      (firstStarted.machine false) := by
    rintro ⟨-, hprotected⟩
    rw [firstStarted_machine] at hprotected
    cases hprotected
  have hsecond : ¬ Overruns textPlatform (.binding .writeVin sampleEnv otherVin)
      ((step textPlatform (true, .initializeService sampleEnv) firstBound).machine true) := by
    rintro ⟨hbinds, -⟩
    have hfree := hbinds.unprotected
    rw [firstBound_refuses] at hfree
    cases hfree
  refine respectsLock_of_noOverrun textPlatform_lawful (fun _ ↦ rfl) Disk.empty ?_
    ⟨⟨trivial, id⟩, ⟨fun _ h ↦ ?_, hfirst⟩, ⟨trivial, id⟩, ⟨fun _ h ↦ ?_, hsecond⟩, trivial⟩
  · simp [Call.SavesStored, sampleEnv]
  · cases h
  · cases h

def bothStarted : Shared Bool := ⟨Disk.empty, fun _ ↦ (started {}).mem, fun _ ↦ false⟩

theorem step_opened {s : Shared Bool} {i : Bool}
    (h : s.machine i = ProvService.fresh {} Disk.empty) :
    step textPlatform (i, .initializeService sampleEnv) s =
      { s with disk := Disk.empty, service := Function.update s.service i (started {}).mem } := by
  have hexec : exec textPlatform (.initializeService sampleEnv) (s.machine i) = started {} := by
    rw [h, exec_initialize_empty {} rfl]
  simp only [step, hexec, reportsVin, Bool.and_false, Bool.or_false]
  rfl

theorem bothStarted_reached :
    step textPlatform (true, .initializeService sampleEnv)
        (step textPlatform (false, .initializeService sampleEnv)
          (fresh (fun _ : Bool ↦ {}) Disk.empty)) = bothStarted := by
  rw [step_opened (i := false) rfl, step_opened (i := true) rfl, bothStarted]
  congr 1
  funext i
  cases i <;> rfl

/-- Both instances are initialized; each then binds a VIN of its own. -/
theorem stale_flag_overruns :
    ¬ RespectsLock textPlatform
      [(false, .initializeService sampleEnv), (true, .initializeService sampleEnv),
       (false, .binding .writeVin sampleEnv sampleVin),
       (true, .binding .writeVin sampleEnv otherVin)]
      (fresh (fun _ : Bool ↦ {}) Disk.empty) := by
  rintro ⟨-, -, -, hlast, -⟩
  rw [bothStarted_reached] at hlast
  have hfirst : Binds textPlatform sampleEnv sampleVin (bothStarted.machine false) .writeVin :=
    ⟨admits_started {} validate_sampleVin .writeVin, rfl, utf8_sampleUid, rfl⟩
  obtain ⟨hreturned, hbound⟩ := exec_binds textPlatform_lawful hfirst fun _ ↦ rfl
  generalize hs : step textPlatform (false, .binding .writeVin sampleEnv sampleVin) bothStarted = s
    at hlast
  have hsecond : Binds textPlatform sampleEnv otherVin (s.machine true) .writeVin := by
    rw [← hs, step_machine_other (by decide)]
    refine ⟨⟨rfl, rfl, validate_otherVin, fun hcall ↦ ?_⟩, rfl, utf8_sampleUid, rfl⟩
    cases hcall
  have hother := (exec_binds textPlatform_lawful hsecond fun _ ↦ rfl).2.binding
  have hsucceeded : s.succeeded false = true := by
    rw [← hs, step_succeeded, reportsVin, hreturned]
    rfl
  have hsame := hlast ⟨false, by decide, hsucceeded⟩ (.vin _ _)
  rw [step_disk] at hsame
  have hstored : bindingIn textPlatform (s.disk .binding) =
      some (boundRecord textPlatform sampleEnv sampleVin (bothStarted.machine false)).reread := by
    rw [← hs, step_disk]
    exact hbound.binding
  rw [hsame, hstored, Option.some.injEq] at hother
  have hvin := congrArg VehicleBinding.vin hother
  rw [(boundRecord_reread _ _ _ _).1, (boundRecord_reread _ _ _ _).1] at hvin
  exact absurd hvin (by decide)

end Shared

end TboxProv.ProvService
