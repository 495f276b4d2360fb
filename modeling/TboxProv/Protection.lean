import TboxProv.Runs

/-!
# Write protection

The guard is a flag in memory, read from the disk at start-up.  Once it is set
and stored, nothing changes any more: `Frozen` is the invariant.  The remaining
results are about the places where the guard is missed or in the way: a conflict
that `write_vin` does not report, a rewrite that the guard blocks, and a
protection record that cannot be read.
-/

namespace TboxProv.ProvService

open Crash Store

variable {P : Platform} {env : Env} {vin : Bytes} {s : Machine ProvService} {disk : Disk}

/-! ## The freeze -/

variable (P) in
/-- The disk says protected, and so does every initialized service over it. -/
structure Frozen (disk : Disk) (s : Machine ProvService) : Prop where
  same : s.disk = disk
  locked : protectedIn P (disk .protection) = true
  flag : s.mem.initialized = true → s.mem.storage.writeProtected = true

theorem Effect.frozen {c : Call} {t : Machine ProvService} (effect : Effect P s c t)
    (h : Frozen P disk s) : Frozen P disk t := by
  cases effect with
  | opened env hinit hopen =>
      refine ⟨h.same, h.locked, fun _ ↦ ?_⟩
      change protectedIn P (s.disk .protection) = true
      rw [h.same]
      exact h.locked
  | closed env hdisk hinit hcfg =>
      refine ⟨hdisk.trans h.same, h.locked, fun hon ↦ ?_⟩
      rw [hinit] at hon
      cases hon
  | shutdown => exact ⟨h.same, h.locked, h.flag⟩
  | config env configData hadm frame =>
      obtain ⟨hinit, -, hprot⟩ := hadm
      rw [h.flag hinit] at hprot
      cases hprot
  | productionInfo env info hadm frame =>
      obtain ⟨hinit, -, hprot⟩ := hadm
      rw [h.flag hinit] at hprot
      cases hprot
  | binding call env vin hadm exit =>
      rw [exit.protected (h.flag hadm.initialized)]
      exact h
  | restart => exact h
  | nothing => exact h

theorem Frozen.after_exec (hP : P.json.Lawful) (c : Call) (h : Frozen P disk s) :
    Frozen P disk (exec P c s) := by
  have h' := (prog_effect hP c s).frozen h
  refine ⟨(settle_disk _ s).trans h'.same, h'.locked, ?_⟩
  rcases settle_mem (c.prog P) s with hmem | hmem
  · rw [exec, hmem]
    exact h'.flag
  · rw [exec, hmem]
    intro hon
    cases hon

theorem Frozen.after_run (hP : P.json.Lawful) (calls : List Call) (h : Frozen P disk s) :
    Frozen P disk (run (exec P) calls s) :=
  run_invariant (fun c _ (_ : True) ht ↦ ht.after_exec hP c) (fun _ _ ↦ trivial) h

theorem frozen_of_success (hP : P.json.Lawful) {call : BindingCall}
    (hcfg : s.mem.config.enableWriteProtection = true)
    (hsaves : ∀ n, (env.save n).AllOrNothing)
    (huid : env.uid.success = false → env.uid.errorCode ≠ .success)
    (hval : (call.run P env vin s).val = some .success) :
    Frozen P (call.run P env vin s).state.disk (call.run P env vin s).state ∧
      ReadsBack P vin (call.run P env vin s).state := by
  obtain ⟨-, exit⟩ := run_success hP hval
  generalize (call.run P env vin s).state = t at exit ⊢
  cases exit with
  | uidFailed hfailed hcode => exact absurd hcode (huid hfailed)
  | unlocked _ w h₀ h₁ hread hoff =>
      rw [hcfg] at hoff
      cases hoff
  | locked _ w h₀ h₁ hread _ h₂ =>
      refine ⟨⟨rfl, ?_, fun _ ↦ ?_⟩, ?_⟩
      · rw [afterProtection_protection, (hsaves 2).stored h₂]
        exact w.protectedIn_flag hP
      · simp [afterProtection, h₂]
      · unfold ReadsBack
        rw [afterProtection_binding]
        exact hread

theorem Frozen.refuses (hP : P.json.Lawful) (h : Frozen P disk s) :
    (∀ (call : BindingCall) (env : Env) (vin : Bytes),
        (env.uid.success = false → env.uid.errorCode ≠ .success) →
          (call.run P env vin s).val ≠ some .success) ∧
      (∀ env configData, (writeVehicleConfig P env configData s).val ≠ some .success) ∧
      ∀ env info, (writeProductionInfo P env info s).val ≠ some .success := by
  have hnot : ¬ WritesAdmitted s := by
    rintro ⟨hinit, -, hprot⟩
    rw [h.flag hinit] at hprot
    cases hprot
  refine ⟨?_, ?_, ?_⟩
  · intro call env vin huid hval
    obtain ⟨hadm, exit⟩ := run_success hP hval
    have hflag := h.flag hadm.initialized
    generalize (call.run P env vin s).state = t at exit
    cases exit with
    | uidFailed hfailed hcode => exact huid hfailed hcode
    | unlocked _ w =>
        rw [w.unprotected] at hflag
        cases hflag
    | locked _ w =>
        rw [w.unprotected] at hflag
        cases hflag
  · intro env configData hval
    obtain ⟨code, hcode, hret, -⟩ := writeVehicleConfig_refused P env s configData hnot
    rw [hret] at hval
    exact hcode.ne_success (Option.some.inj hval)
  · intro env info hval
    obtain ⟨code, hcode, hret, -⟩ := writeProductionInfo_refused P env s info hnot
    rw [hret] at hval
    exact hcode.ne_success (Option.some.inj hval)

/-- After a successful `write_vin` no run changes the stored records, the VIN reads
the same, and every write is refused. -/
theorem write_protection_freezes (hP : P.json.Lawful) {config : ProvServiceConfig}
    (hcfg : config.enableWriteProtection = true) (disk : Disk) (before after : List Call)
    (env : Env) (vin : Bytes) (hsaves : ∀ n, (env.save n).AllOrNothing)
    (huid : env.uid.success = false → env.uid.errorCode ≠ .success)
    (hval : (Call.binding .writeVin env vin).returned P
      (run (exec P) before (fresh config disk)) = some .success) :
    let s := exec P (.binding .writeVin env vin) (run (exec P) before (fresh config disk))
    let t := run (exec P) after s
    t.disk = s.disk ∧
      (t.mem.initialized = true → (readVin P t).val = some vin) ∧
      (∀ env' vin', (env'.uid.success = false → env'.uid.errorCode ≠ .success) →
        (Call.binding .writeVin env' vin').returned P t ≠ some .success) ∧
      (∀ env' configData,
        (Call.writeVehicleConfig env' configData).returned P t ≠ some .success) ∧
      ∀ env' info, (Call.writeProductionInfo env' info).returned P t ≠ some .success := by
  intro s t
  have hs : s = (BindingCall.writeVin.run P env vin
      (run (exec P) before (fresh config disk))).state := exec_binding_of_returned hval
  have hon : (run (exec P) before (fresh config disk)).mem.config.enableWriteProtection = true := by
    rw [run_config hP]
    exact hcfg
  obtain ⟨hfrozen, hread⟩ := frozen_of_success hP hon hsaves huid
    (by rw [← binding_returned]; exact hval)
  rw [← hs] at hfrozen hread
  have hafter : Frozen P s.disk t := hfrozen.after_run hP after
  obtain ⟨hbinding, hconfig, hinfo⟩ := hafter.refuses hP
  refine ⟨hafter.same, fun hinit ↦ ?_, fun env' vin' huid' ↦ ?_, fun env' configData ↦ ?_,
    fun env' info ↦ ?_⟩
  · obtain ⟨binding, hbinding, hvin⟩ := hread
    rw [readVin_val P t hinit, hafter.same, hbinding]
    exact congrArg some hvin
  · rw [binding_returned]
    exact hbinding .writeVin env' vin' huid'
  · rw [writeVehicleConfig_returned]
    exact hconfig env' configData
  · rw [writeProductionInfo_returned]
    exact hinfo env' info

theorem write_protection_freezes_sample :
    (run (exec textPlatform) [.restart, .initializeService sampleEnv]
        (exec textPlatform (.binding .writeVin sampleEnv sampleVin)
          (run (exec textPlatform) [.initializeService sampleEnv]
            (fresh {} Disk.empty)))).disk =
      (exec textPlatform (.binding .writeVin sampleEnv sampleVin)
        (run (exec textPlatform) [.initializeService sampleEnv] (fresh {} Disk.empty))).disk := by
  have hval : (Call.binding .writeVin sampleEnv sampleVin).returned textPlatform
      (run (exec textPlatform) [.initializeService sampleEnv] (fresh {} Disk.empty)) =
        some .success := by
    rw [run_cons, run_nil, exec_initialize_empty {} rfl]
    exact (write_sample {} .writeVin).1
  exact (write_protection_freezes textPlatform_lawful rfl Disk.empty _ _ sampleEnv sampleVin
    (fun _ ↦ trivial) (fun h ↦ by cases h) hval).1

/-! ## Conflicts -/

variable (P env vin s) in
/-- The conflict rule: the call is refused as a conflict and the binding stays. -/
def ConflictRefused : Prop :=
  (BindingCall.writeVin.run P env vin s).val = some .vinConflictUnauthorized ∧
    (BindingCall.writeVin.run P env vin s).state.disk .binding = s.disk .binding

/-- `write_vin` never looks for a conflict. -/
theorem writeVin_no_conflict (hP : P.json.Lawful) (huid : env.uid.success = true) :
    ¬ ConflictRefused P env vin s := by
  rintro ⟨hval, -⟩
  have exit := run_exit env vin s hP .writeVin
  rw [hval] at exit
  generalize (BindingCall.writeVin.run P env vin s).state = t at exit
  generalize hc : some ErrorCode.vinConflictUnauthorized = code at exit
  cases exit with
  | turnedAway hno hcode =>
      cases hc
      rcases hcode with hcode | hcode | ⟨-, hcall⟩
      · exact absurd hcode (by decide)
      · exact absurd hcode (by decide)
      · cases hcall
  | flow hadm exit =>
      subst hc
      rcases exit.code_cases huid with hcode | hcode | hcode | hcode <;>
        exact absurd hcode (by decide)

theorem writeVin_no_conflict_sample :
    ¬ ConflictRefused textPlatform sampleEnv otherVin (firstBinding {}) :=
  writeVin_no_conflict textPlatform_lawful rfl

/-- Without write protection the binding of another VIN is simply replaced. -/
theorem writeVin_replaces_binding :
    (∃ binding, bindingIn textPlatform
        ((firstBinding { enableWriteProtection := false }).disk .binding) = some binding ∧
        binding.vin = sampleVin ∧ binding.state = .bound) ∧
      (BindingCall.writeVin.run textPlatform sampleEnv otherVin
        (firstBinding { enableWriteProtection := false })).val = some .success ∧
      ∃ binding, bindingIn textPlatform ((BindingCall.writeVin.run textPlatform sampleEnv otherVin
        (firstBinding { enableWriteProtection := false })).state.disk .binding) = some binding ∧
        binding.vin = otherVin := by
  have hfirst := firstBinding_boundBy { enableWriteProtection := false }
  have hadm := firstBinding_admits { enableWriteProtection := false } validate_otherVin .writeVin
  obtain ⟨hval, hbound⟩ : _ ∧ BoundBy textPlatform sampleEnv otherVin _ _ :=
    run_stored textPlatform_lawful hadm rfl (hfirst.unlocked rfl).1 utf8_sampleUid
      fun _ ↦ rfl
  obtain ⟨hvin, -, hstate, -⟩ := boundRecord_reread textPlatform sampleEnv sampleVin
    (started { enableWriteProtection := false })
  exact ⟨⟨_, hfirst.binding, hvin, hstate⟩, hval, _, hbound.binding,
    (boundRecord_reread textPlatform sampleEnv otherVin _).1⟩

/-! ## Rewrites -/

variable (P env vin s) in
def Rewritten : Prop :=
  (BindingCall.authorizeRewrite.run P env vin s).val = some .success ∧
    (readVin P (BindingCall.authorizeRewrite.run P env vin s).state).val = some vin ∧
    (getProvisionState P (BindingCall.authorizeRewrite.run P env vin s).state).val =
      some .bound ∧
    (s.mem.config.enableWriteProtection = true →
      (BindingCall.authorizeRewrite.run P env vin s).state.mem.storage.writeProtected = true ∧
        protectedIn P ((BindingCall.authorizeRewrite.run P env vin s).state.disk .protection) =
          true)

/-- An admitted rewrite is done exactly when the storage is not write-protected
and the UID can be stored. -/
theorem rewritten_iff (hP : P.json.Lawful) (hadm : Admits P vin s .authorizeRewrite)
    (huid : env.uid.success = true) (hsaves : ∀ n, env.save n = .stored) :
    Rewritten P env vin s ↔ s.mem.storage.writeProtected = false ∧ Utf8 env.uid.uid := by
  constructor
  · intro h
    obtain ⟨-, exit⟩ := run_success hP h.1
    generalize (BindingCall.authorizeRewrite.run P env vin s).state = t at exit
    cases exit with
    | uidFailed hfailed =>
        rw [huid] at hfailed
        cases hfailed
    | unlocked _ w => exact ⟨w.unprotected, w.utf8_uid hP⟩
    | locked _ w => exact ⟨w.unprotected, w.utf8_uid hP⟩
  · rintro ⟨hprot, hutf8⟩
    obtain ⟨hval, hbound⟩ := run_stored hP hadm huid hprot hutf8 hsaves
    obtain ⟨hvin, -, hstate, -⟩ := boundRecord_reread P env vin s
    have hinit := hbound.service.1.trans hadm.initialized
    refine ⟨hval, ?_, ?_, hbound.locked⟩
    · rw [readVin_val P _ hinit, hbound.binding]
      exact congrArg some hvin
    · rw [getProvisionState_val P _ hinit, hbound.binding]
      exact congrArg some hstate

theorem rewritten_sample : Rewritten textPlatform sampleEnv sampleVin (started {}) :=
  (rewritten_iff textPlatform_lawful (admits_started {} validate_sampleVin _) rfl
    fun _ ↦ rfl).2 ⟨rfl, utf8_sampleUid⟩

/-- A rewrite after the service's own write passes the conflict check and then
fails at the protection flag. -/
theorem rewrite_blocked :
    Admits textPlatform otherVin (firstBinding {}) .authorizeRewrite ∧
      (BindingCall.authorizeRewrite.run textPlatform sampleEnv otherVin (firstBinding {})).val =
        some .vinWriteFailed := by
  have hadm := firstBinding_admits {} validate_otherVin .authorizeRewrite
  exact ⟨hadm, (run_protected hadm rfl ((firstBinding_boundBy {}).locked rfl).1).1⟩

/-! ## A protection record that does not decode -/

variable (P) in
/-- The file exists and decodes to neither of the two values of the flag. -/
def Undecodable (entry : Entry) : Prop :=
  entry ≠ .absent ∧ loaded P entry ≠ .ok (some (bytes "0")) ∧
    loaded P entry ≠ .ok (some (bytes "1"))

inductive Write : Call → Prop where
  | vin (env : Env) (vin : Bytes) : Write (.binding .writeVin env vin)
  | config (env : Env) (configData : List UInt8) : Write (.writeVehicleConfig env configData)
  | productionInfo (env : Env) (info : ProductionInfo) : Write (.writeProductionInfo env info)

variable (P env s) in
/-- Either `initialize` fails, or from then on every write is refused and leaves
the disk alone. -/
def FailsClosed : Prop :=
  (initializeService P env s).val ≠ some .success ∨
    ∀ (calls : List Call) (c : Call), Write c →
      c.returned P (run (exec P) calls (initializeService P env s).state) ≠ some .success ∧
        (exec P c (run (exec P) calls (initializeService P env s).state)).disk =
          (run (exec P) calls (initializeService P env s).state).disk

theorem protectedIn_undecodable {entry : Entry} (h : Undecodable P entry) :
    protectedIn P entry = false := by
  unfold protectedIn
  split
  case h_1 value hload =>
    have hne : value ≠ bytes "1" := by
      rintro rfl
      exact h.2.2 hload
    simp [hne]
  case h_2 => rfl

/-- A fresh service over such a record fails closed exactly when `initialize`
cannot open the store. -/
theorem failsClosed_iff (hP : P.json.Lawful) (config : ProvServiceConfig)
    (h : Undecodable P (disk .protection)) :
    FailsClosed P env (fresh config disk) ↔ ¬ Opens env disk := by
  constructor
  · intro hclosed hopen
    obtain ⟨hval, hstate⟩ := initializeService_opened P env (fresh config disk) rfl hopen
    rcases hclosed with hfails | hrefuses
    · exact hfails hval
    -- the flag is off, so a first VIN is accepted
    · have hadm : Admits P sampleVin (initializeService P env (fresh config disk)).state
          .writeVin := by
        rw [hstate]
        refine ⟨rfl, rfl, validate_sampleVin, fun hcall ↦ ?_⟩
        cases hcall
      have hprot : (initializeService P env (fresh config disk)).state.mem.storage.writeProtected =
          false := by
        rw [hstate]
        exact protectedIn_undecodable h
      obtain ⟨hdone, -⟩ : (BindingCall.writeVin.run P sampleEnv sampleVin _).val = _ ∧ _ :=
        run_stored hP hadm rfl hprot utf8_sampleUid fun _ ↦ rfl
      apply (hrefuses [] (.binding .writeVin sampleEnv sampleVin) (.vin _ _)).1
      rw [binding_returned]
      exact hdone
  · intro hopen
    left
    rw [(initializeService_closed P env (fresh config disk) rfl hopen).1]
    decide

def emptiedProtection : Disk := Function.update Disk.empty .protection (.file [])

theorem undecodable_emptied : Undecodable textPlatform (emptiedProtection .protection) := by
  have hload : loaded textPlatform (.file []) = .ok none := rfl
  have hentry : emptiedProtection .protection = .file [] := by simp [emptiedProtection]
  rw [hentry]
  refine ⟨by simp, ?_, ?_⟩
  · rw [hload]
    simp
  · rw [hload]
    simp

theorem failsClosed_sample :
    FailsClosed textPlatform { sampleEnv with rootDir := .created false }
      (fresh {} emptiedProtection) := by
  apply (failsClosed_iff textPlatform_lawful {} undecodable_emptied).2
  rintro ⟨hdirs, -⟩
  cases hdirs

theorem emptied_accepts :
    Undecodable textPlatform (emptiedProtection .protection) ∧
      (initializeService textPlatform sampleEnv (fresh {} emptiedProtection)).val =
        some .success ∧
      (BindingCall.writeVin.run textPlatform sampleEnv sampleVin
        (initializeService textPlatform sampleEnv (fresh {} emptiedProtection)).state).val =
          some .success := by
  have hentry : emptiedProtection .protection = .file [] := by simp [emptiedProtection]
  have hopen : Opens sampleEnv (fresh {} emptiedProtection).disk := by
    refine ⟨rfl, fun what hwhat ↦ ?_⟩
    change emptiedProtection .protection = .inaccessible what at hwhat
    rw [hentry] at hwhat
    cases hwhat
  obtain ⟨hval, hstate⟩ :=
    initializeService_opened textPlatform sampleEnv (fresh {} emptiedProtection) rfl hopen
  refine ⟨undecodable_emptied, hval, ?_⟩
  rw [hstate]
  refine (run_stored textPlatform_lawful ⟨rfl, rfl, validate_sampleVin, fun hcall ↦ ?_⟩ rfl
    (protectedIn_undecodable undecodable_emptied) utf8_sampleUid fun _ ↦ rfl).1
  cases hcall

end TboxProv.ProvService
