import TboxProv.Runs

/-!
# What a binding call leaves in the store

`Persisted` is what a successful call promises.  The read-back compares only the
VIN, so a second save that is lost can go unnoticed; `persisted_iff` says exactly
when that happens.  A failing call, in turn, can stop between its saves.
-/

namespace TboxProv.ProvService

open Crash Store

variable (P : Platform) (env : Env) (vin : Bytes) (s : Machine ProvService)

def BoundTo (entry : Entry) : Prop :=
  ∃ binding, bindingIn P entry = some binding ∧ binding.vin = vin ∧
    binding.ecuUid = env.uid.uid ∧ binding.state = .bound

/-- The disk holds a binding of the VIN to the UID read in this call. -/
def Persisted (disk : Disk) : Prop := env.uid.success = true ∧ BoundTo P env vin (disk .binding)

/-- A save that fails without effect, or that reports true and leaves the new
value, the previous one, or one that does not decode. -/
def Reporting : SaveOutcome → Prop
  | .stored | .failed _ | .lost => True
  | .replaced entry => bindingIn P entry = none
  | .killedBefore | .killedAfter => False

/-- The second save is lost, and the read-back finds an older record of the VIN. -/
def SilentLoss : Prop :=
  env.save 1 = .lost ∧
    (env.save 0 = .stored ∨
      env.save 0 = .lost ∧ ReadsBack P vin s ∧ ¬ BoundTo P env vin (s.disk .binding))

variable {P env vin s} {c₀ c₁ k : Bytes}

theorem boundTo_bound (hP : P.json.Lawful) (w : Writable P env vin s c₀ c₁ k) :
    BoundTo P env vin (.file c₁) := by
  obtain ⟨hvin, hecu, hstate, -⟩ := boundRecord_reread P env vin s
  exact ⟨_, w.bindingIn_bound hP, hvin, hecu, hstate⟩

theorem not_boundTo_written (hP : P.json.Lawful) (w : Writable P env vin s c₀ c₁ k) :
    ¬ BoundTo P env vin (.file c₀) := by
  rintro ⟨binding, hread, -, -, hbound⟩
  rw [w.bindingIn_written hP, Option.some.injEq] at hread
  obtain ⟨-, -, hwritten, -⟩ := writtenRecord_reread P env vin s
  rw [← hread, hwritten] at hbound
  exact ProvisionState.vinWritten_ne_bound hbound

/-- When the second save is lost, the record is the promised one only if it was there
before the call. -/
theorem boundTo_lost_iff (hP : P.json.Lawful) (hfirst : Reporting P (env.save 0))
    (w : Writable P env vin s c₀ c₁ k) (h₀ : (env.save 0).returned = some true)
    (hlost : env.save 1 = .lost)
    (hread : ∃ binding, bindingIn P ((env.save 0).leaves c₀ (s.disk .binding)) = some binding ∧
      binding.vin = vin) :
    BoundTo P env vin ((env.save 0).leaves c₀ (s.disk .binding)) ↔ ¬ SilentLoss P env vin s := by
  cases hsave : env.save 0 with
  | stored =>
      have hloss : SilentLoss P env vin s := ⟨hlost, .inl hsave⟩
      constructor
      · intro hbound
        exact absurd hbound (not_boundTo_written hP w)
      · intro hno
        exact absurd hloss hno
  | lost =>
      rw [hsave] at hread
      constructor
      · intro hbound hloss
        rcases hloss.2 with hstored | ⟨-, -, hunbound⟩
        · rw [hstored] at hsave
          cases hsave
        · exact hunbound hbound
      · intro hno
        by_contra hunbound
        exact hno ⟨hlost, .inr ⟨hsave, hread, hunbound⟩⟩
  | replaced entry =>
      rw [hsave] at hread hfirst
      obtain ⟨binding, hbinding, -⟩ := hread
      rw [SaveOutcome.leaves, show bindingIn P entry = none from hfirst] at hbinding
      cases hbinding
  | failed | killedBefore | killedAfter => simp [hsave, SaveOutcome.returned] at h₀

/-- After an accepted read-back the record is the promised one, except after a
silent loss. -/
theorem boundTo_iff (hP : P.json.Lawful) (hsaves : ∀ n, Reporting P (env.save n))
    (w : Writable P env vin s c₀ c₁ k) (h₀ : (env.save 0).returned = some true)
    (h₁ : (env.save 1).returned = some true)
    (hread : ReadsBack P vin (afterSecond env s c₀ c₁)) :
    BoundTo P env vin ((afterSecond env s c₀ c₁).disk .binding) ↔ ¬ SilentLoss P env vin s := by
  have hsecond := hsaves 1
  unfold ReadsBack at hread
  rw [afterSecond_binding] at hread ⊢
  cases hsave : env.save 1 with
  | stored =>
      constructor
      · intro _ hloss
        rw [hloss.1] at hsave
        cases hsave
      · intro _
        exact boundTo_bound hP w
  | lost =>
      rw [hsave] at hread
      exact boundTo_lost_iff hP (hsaves 0) w h₀ hsave hread
  | replaced entry =>
      rw [hsave] at hread hsecond
      obtain ⟨binding, hbinding, -⟩ := hread
      rw [SaveOutcome.leaves, show bindingIn P entry = none from hsecond] at hbinding
      cases hbinding
  | failed | killedBefore | killedAfter => simp [hsave, SaveOutcome.returned] at h₁

variable (P env vin s) in
/-- The calls that report success without having persisted the binding: a failed
UID read whose code is success, and a silent loss. -/
def FalseSuccess (call : BindingCall) : Prop :=
  Admits P vin s call ∧
    (env.uid.success = false ∧ env.uid.errorCode = .success ∨
      env.uid.success = true ∧ s.mem.storage.writeProtected = false ∧ Utf8 env.uid.uid ∧
        (s.mem.config.enableWriteProtection = true → (env.save 2).returned = some true) ∧
        SilentLoss P env vin s)

theorem SilentLoss.returned (h : SilentLoss P env vin s) :
    (env.save 0).returned = some true ∧ (env.save 1).returned = some true := by
  obtain ⟨h₁, h₀ | ⟨h₀, -⟩⟩ := h
  · simp [h₀, h₁, SaveOutcome.returned]
  · simp [h₀, h₁, SaveOutcome.returned]

theorem SilentLoss.readsBack (hP : P.json.Lawful) (h : SilentLoss P env vin s)
    (w : Writable P env vin s c₀ c₁ k) : ReadsBack P vin (afterSecond env s c₀ c₁) := by
  unfold ReadsBack
  rw [afterSecond_binding]
  obtain ⟨h₁, h₀ | ⟨h₀, hread, -⟩⟩ := h
  · rw [h₁, h₀]
    exact ⟨_, w.bindingIn_written hP, (writtenRecord_reread P env vin s).1⟩
  · rw [h₁, h₀]
    exact hread

theorem FalseSuccess.run (hP : P.json.Lawful) {call : BindingCall}
    (hsaves : ∀ n, Reporting P (env.save n)) (h : FalseSuccess P env vin s call) :
    (call.run P env vin s).val = some .success ∧
      ¬ Persisted P env vin (call.run P env vin s).state.disk := by
  obtain ⟨hadm, ⟨huid, hcode⟩ | ⟨huid, hprot, hutf8, hlock, hloss⟩⟩ := h
  · obtain ⟨hval, -⟩ := run_admitted env hadm
    obtain ⟨hval', -⟩ := executeVinBindingFlow_uidFailed P vin s huid
    rw [hval, hval', hcode]
    refine ⟨rfl, fun hpersisted ↦ ?_⟩
    have hread := hpersisted.1
    rw [huid] at hread
    cases hread
  · have hvin := VinValidator.utf8_of_validate hadm.valid
    obtain ⟨c₀, c₁, k, w⟩ := exists_writable hP hprot hvin hutf8
    have hread := hloss.readsBack hP w
    obtain ⟨h₀, h₁⟩ := hloss.returned
    obtain ⟨hval, hstate⟩ := run_admitted env hadm
    obtain ⟨hval', hdisk⟩ := executeVinBindingFlow_success huid w h₀ h₁ hread hlock
    rw [hval, hstate]
    refine ⟨hval', fun hpersisted ↦ ?_⟩
    have hbound := hpersisted.2
    rw [hdisk] at hbound
    exact (boundTo_iff hP hsaves w h₀ h₁ hread).1 hbound hloss

theorem persisted_of_success (hP : P.json.Lawful) {call : BindingCall}
    (hsaves : ∀ n, Reporting P (env.save n)) (hno : ¬ FalseSuccess P env vin s call)
    (hval : (call.run P env vin s).val = some .success) :
    Persisted P env vin (call.run P env vin s).state.disk := by
  obtain ⟨hadm, exit⟩ := run_success hP hval
  generalize (call.run P env vin s).state = t at exit ⊢
  cases exit with
  | uidFailed huid hcode => exact absurd ⟨hadm, .inl ⟨huid, hcode⟩⟩ hno
  | unlocked huid w h₀ h₁ hread hcfg =>
      refine ⟨huid, (boundTo_iff hP hsaves w h₀ h₁ hread).2 fun hloss ↦ hno ⟨hadm, .inr ?_⟩⟩
      refine ⟨huid, w.unprotected, w.utf8_uid hP, fun hon ↦ ?_, hloss⟩
      rw [hcfg] at hon
      cases hon
  | locked huid w h₀ h₁ hread hcfg h₂ =>
      refine ⟨huid, ?_⟩
      rw [afterProtection_binding]
      refine (boundTo_iff hP hsaves w h₀ h₁ hread).2 fun hloss ↦ hno ⟨hadm, .inr ?_⟩
      exact ⟨huid, w.unprotected, w.utf8_uid hP, fun _ ↦ h₂, hloss⟩

/-- A call that reports success has persisted the binding exactly when it is not
one of the false successes. -/
theorem success_persisted_iff (hP : P.json.Lawful) (call : BindingCall)
    (hsaves : ∀ n, Reporting P (env.save n)) :
    ((call.run P env vin s).val = some .success →
        Persisted P env vin (call.run P env vin s).state.disk) ↔
      ¬ FalseSuccess P env vin s call := by
  constructor
  · intro h hfalse
    obtain ⟨hval, hlost⟩ := hfalse.run hP hsaves
    exact hlost (h hval)
  · intro hno hval
    exact persisted_of_success hP hsaves hno hval

theorem success_persisted_sample :
    Persisted textPlatform sampleEnv sampleVin
      (BindingCall.writeVin.run textPlatform sampleEnv sampleVin (started {})).state.disk := by
  have hadm := admits_started (P := textPlatform) {} validate_sampleVin .writeVin
  have hval : (BindingCall.writeVin.run textPlatform sampleEnv sampleVin (started {})).val =
      some .success :=
    (run_stored textPlatform_lawful hadm rfl rfl utf8_sampleUid fun _ ↦ rfl).1
  have hsaves : ∀ n, Reporting textPlatform (sampleEnv.save n) := fun _ ↦ trivial
  refine (success_persisted_iff textPlatform_lawful .writeVin hsaves).2 ?_ hval
  rintro ⟨-, ⟨huid, -⟩ | ⟨-, -, -, -, hloss, -⟩⟩
  · cases huid
  · cases hloss

def lostSecondEnv : Env :=
  { uid := .ofUid sampleUid, save := fun n ↦ if n = 1 then .lost else .stored }

/-- The first `write_vin` on an empty store: it reports success and leaves the
record in state `VIN_WRITTEN`. -/
theorem success_not_persisted :
    (BindingCall.writeVin.run textPlatform lostSecondEnv sampleVin (started {})).val =
        some .success ∧
      ¬ Persisted textPlatform lostSecondEnv sampleVin
        (BindingCall.writeVin.run textPlatform lostSecondEnv sampleVin (started {})).state.disk := by
  have hsaves : ∀ n, Reporting textPlatform (lostSecondEnv.save n) := by
    intro n
    by_cases h : n = 1 <;> simp [lostSecondEnv, h, Reporting]
  have hfalse : FalseSuccess textPlatform lostSecondEnv sampleVin (started {}) .writeVin := by
    refine ⟨admits_started {} validate_sampleVin .writeVin, .inr ?_⟩
    exact ⟨rfl, rfl, utf8_sampleUid, fun _ ↦ rfl, rfl, .inl rfl⟩
  exact hfalse.run textPlatform_lawful hsaves

/-! ## Failing calls -/

variable (P env vin s) in
/-- The first save took effect and the second one failed. -/
def StoppedBeforeBound (code : ErrorCode) (t : Machine ProvService) : Prop :=
  code = .vinWriteFailed ∧ env.save 0 = .stored ∧ (∃ what, env.save 1 = .failed what) ∧
    bindingIn P (t.disk .binding) = some (writtenRecord P env vin s).reread

variable (P env vin s) in
/-- Both saves of the binding took effect and the one of the flag failed. -/
def StoppedBeforeLock (code : ErrorCode) (t : Machine ProvService) : Prop :=
  code = .storageError ∧ env.save 0 = .stored ∧ env.save 1 = .stored ∧
    (∃ what, env.save 2 = .failed what) ∧
    bindingIn P (t.disk .binding) = some (boundRecord P env vin s).reread

section Stopped

variable (hP : P.json.Lawful) (hsaves : ∀ n, (env.save n).AllOrNothing)
  (w : Writable P env vin s c₀ c₁ k) (h₀ : (env.save 0).returned = some true)
include hP hsaves w h₀

theorem stopped_before_bound (h₁ : (env.save 1).returned = some false) :
    StoppedBeforeBound P env vin s .vinWriteFailed (afterSecond env s c₀ c₁) := by
  obtain ⟨what, hsave⟩ := SaveOutcome.failed_of_returned h₁
  have hstored := (hsaves 0).stored h₀
  refine ⟨rfl, hstored, ⟨what, hsave⟩, ?_⟩
  rw [afterSecond_binding, hsave, hstored]
  exact w.bindingIn_written hP

theorem stopped_before_lock (h₁ : (env.save 1).returned = some true)
    (h₂ : (env.save 2).returned = some false) :
    StoppedBeforeLock P env vin s .storageError
      (afterProtection env (afterSecond env s c₀ c₁) k) := by
  obtain ⟨what, hsave⟩ := SaveOutcome.failed_of_returned h₂
  have hstored₀ := (hsaves 0).stored h₀
  have hstored₁ := (hsaves 1).stored h₁
  refine ⟨rfl, hstored₀, hstored₁, ⟨what, hsave⟩, ?_⟩
  rw [afterProtection_binding, afterSecond_binding, hstored₁]
  exact w.bindingIn_bound hP

end Stopped

/-- A first save that failed leaves the binding as it was. -/
theorem afterFirst_failed (h₀ : (env.save 0).returned = some false) :
    (afterFirst env s c₀).disk .binding = s.disk .binding := by
  obtain ⟨what, hsave⟩ := SaveOutcome.failed_of_returned h₀
  rw [afterFirst_binding, hsave]
  rfl

theorem afterProtection_failed (h₂ : (env.save 2).returned = some false) :
    (afterProtection env s k).disk .protection = s.disk .protection ∧
      (afterProtection env s k).mem = s.mem := by
  obtain ⟨what, hsave⟩ := SaveOutcome.failed_of_returned h₂
  constructor
  · rw [afterProtection_protection, hsave]
    rfl
  · simp [afterProtection, h₂]

/-- A failing call leaves the protection as it was, and the binding too unless it
stopped between two saves: then the binding is the last one it saved. -/
theorem failed_call (hP : P.json.Lawful) (call : BindingCall)
    (hsaves : ∀ n, (env.save n).AllOrNothing) {code : ErrorCode}
    (hval : (call.run P env vin s).val = some code) (hsuccess : code ≠ .success)
    (hreadback : code ≠ .readbackVerificationFailed) :
    (call.run P env vin s).state.disk .protection = s.disk .protection ∧
      (call.run P env vin s).state.mem = s.mem ∧
      ((call.run P env vin s).state.disk .binding = s.disk .binding ∨
        StoppedBeforeBound P env vin s code (call.run P env vin s).state ∨
        StoppedBeforeLock P env vin s code (call.run P env vin s).state) := by
  have exit := run_exit env vin s hP call
  rw [hval] at exit
  generalize (call.run P env vin s).state = t at exit ⊢
  generalize hc : some code = result at exit
  cases exit with
  | turnedAway => exact ⟨rfl, rfl, .inl rfl⟩
  | flow hadm exit =>
  cases exit with
  | uidFailed | refused | unencodable => exact ⟨rfl, rfl, .inl rfl⟩
  | first huid w h₀ =>
      obtain ⟨saved, hret, -⟩ := Option.map_eq_some_iff.1 hc.symm
      cases saved with
      | true => exact absurd hret h₀
      | false => exact ⟨afterFirst_protection, rfl, .inl (afterFirst_failed hret)⟩
  | second huid w h₀ h₁ =>
      obtain ⟨saved, hret, rfl⟩ := Option.map_eq_some_iff.1 hc.symm
      cases saved with
      | true => exact absurd hret h₁
      | false =>
          exact ⟨afterSecond_protection, rfl,
            .inr (.inl (stopped_before_bound hP hsaves w h₀ hret))⟩
  | readBack => exact absurd (Option.some.inj hc) hreadback
  | unlocked => exact absurd (Option.some.inj hc) hsuccess
  | lock huid w h₀ h₁ hread hcfg =>
      obtain ⟨saved, hret, rfl⟩ := Option.map_eq_some_iff.1 hc.symm
      cases saved with
      | true => exact absurd rfl hsuccess
      | false =>
          obtain ⟨hflag, hmem⟩ := afterProtection_failed hret
          exact ⟨hflag.trans afterSecond_protection, hmem,
            .inr (.inr (stopped_before_lock hP hsaves w h₀ h₁ hret))⟩

def failedSecondEnv : Env :=
  { uid := .ofUid sampleUid, save := fun n ↦ if n = 1 then .failed none else .stored }

theorem failedSecond_run :
    (BindingCall.writeVin.run textPlatform failedSecondEnv sampleVin (started {})).val =
        some .vinWriteFailed ∧
      bindingIn textPlatform ((BindingCall.writeVin.run textPlatform failedSecondEnv sampleVin
        (started {})).state.disk .binding) =
          some (writtenRecord textPlatform failedSecondEnv sampleVin (started {})).reread := by
  have hP : textPlatform.json.Lawful := textPlatform_lawful
  have hadm := admits_started (P := textPlatform) {} validate_sampleVin .writeVin
  have hvin := VinValidator.utf8_of_validate validate_sampleVin
  obtain ⟨c₀, c₁, k, w⟩ : ∃ c₀ c₁ k,
      Writable textPlatform failedSecondEnv sampleVin (started {}) c₀ c₁ k :=
    exists_writable hP rfl hvin utf8_sampleUid
  obtain ⟨hval, hstate⟩ := run_admitted failedSecondEnv hadm
  obtain ⟨hval', hstate'⟩ := executeVinBindingFlow_second rfl w rfl (by decide)
  rw [hval, hstate, hval', hstate', afterSecond_binding]
  exact ⟨rfl, w.bindingIn_written hP⟩

theorem failed_call_changes :
    exec textPlatform (.initializeService sampleEnv) (fresh {} Disk.empty) = started {} ∧
      (BindingCall.writeVin.run textPlatform failedSecondEnv sampleVin (started {})).val =
        some .vinWriteFailed ∧
      bindingIn textPlatform ((started {}).disk .binding) = none ∧
      ∃ binding, bindingIn textPlatform ((BindingCall.writeVin.run textPlatform failedSecondEnv
        sampleVin (started {})).state.disk .binding) = some binding ∧
        binding.vin = sampleVin ∧ binding.state = .vinWritten := by
  obtain ⟨hval, hread⟩ := failedSecond_run
  obtain ⟨hvin, -, hstate, -⟩ :=
    writtenRecord_reread textPlatform failedSecondEnv sampleVin (started {})
  exact ⟨exec_initialize_empty {} rfl, hval, rfl, _, hread, hvin, hstate⟩

theorem failed_call_sample :
    (BindingCall.writeVin.run textPlatform failedSecondEnv sampleVin
        (started {})).state.disk .protection = .absent ∧
      (BindingCall.writeVin.run textPlatform failedSecondEnv sampleVin
        (started {})).state.mem = (started {}).mem := by
  have hsaves : ∀ n, (failedSecondEnv.save n).AllOrNothing := by
    intro n
    by_cases h : n = 1 <;> simp [failedSecondEnv, h, SaveOutcome.AllOrNothing]
  obtain ⟨hprotection, hmem, -⟩ := failed_call textPlatform_lawful .writeVin hsaves
    failedSecond_run.1 (by decide) (by decide)
  exact ⟨hprotection, hmem⟩

end TboxProv.ProvService
