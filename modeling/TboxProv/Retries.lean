import TboxProv.Persistence
import TboxProv.Redelivery
import TboxProv.RewriteCount

/-!
# Retries of a failed write

A `write_vin` that fails at one of its saves may be tried again.  An attempt whose
first save went through leaves a record behind, which the next attempt takes for an
earlier binding of the same VIN and counts as a rewrite.
-/

namespace TboxProv

def VehicleBinding.untimed (binding : VehicleBinding) : VehicleBinding :=
  { binding with boundAt := 0, lastRewriteAt := 0 }

namespace ProvService

open Crash Store

variable {P : Platform} {config : ProvServiceConfig} {vin uid : Bytes} {env : Env}
  {s : Machine ProvService} {past : ℕ}

/-- The UID is read, every save takes effect or fails without one, and one that the
attempt gets to fails. -/
structure FailedAttempt (config : ProvServiceConfig) (uid : Bytes) (env : Env) : Prop where
  success : env.uid.success = true
  uid : env.uid.uid = uid
  saves : ∀ n, env.save n = .stored ∨ ∃ what, env.save n = .failed what
  fails : env.save 0 ≠ .stored ∨ env.save 1 ≠ .stored ∨
    config.enableWriteProtection = true ∧ env.save 2 ≠ .stored

def firstSaved (env : Env) : Bool := (env.save 0).returned == some true

variable (P vin) in
def attempt (env : Env) : Machine ProvService → Machine ProvService :=
  exec P (.binding .writeVin env vin)

variable (P config vin) in
/-- After the failed attempts the last one succeeds, and leaves what a first attempt
without faults leaves. -/
def Converges (failed : List Env) (last clean : Env) : Prop :=
  (Call.binding .writeVin last vin).returned P (run (attempt P vin) failed (started config)) =
      some .success ∧
    (bindingIn P ((run (attempt P vin) (failed ++ [last]) (started config)).disk .binding)).map
        VehicleBinding.untimed =
      (bindingIn P ((attempt P vin clean (started config)).disk .binding)).map
        VehicleBinding.untimed ∧
    (run (attempt P vin) (failed ++ [last]) (started config)).disk .protection =
      (attempt P vin clean (started config)).disk .protection

variable (P config vin past) in
/-- Where the failed attempts get to, when `past` of them got past their first save. -/
structure Pending (s : Machine ProvService) : Prop where
  mem : s.mem = (started config).mem
  protection : s.disk .protection = .absent
  count : nextCount P vin s = UInt32.ofNat past

theorem Pending.admits (h : Pending P config vin past s)
    (hvin : VinValidator.validate vin = true) : Admits P vin s .writeVin := by
  refine ⟨by rw [h.mem]; rfl, by rw [h.mem]; rfl, hvin, fun hcall ↦ ?_⟩
  cases hcall

theorem Pending.unprotected (h : Pending P config vin past s) :
    s.mem.storage.writeProtected = false := by
  rw [h.mem]
  rfl

/-! ## One failed attempt -/

namespace FailedAttempt

variable (hf : FailedAttempt config uid env)
include hf

theorem returned (n : ℕ) : (env.save n).returned ≠ none := by
  rcases hf.saves n with hsave | ⟨what, hsave⟩ <;> simp [hsave, SaveOutcome.returned]

theorem stored {n : ℕ} (hret : (env.save n).returned = some true) : env.save n = .stored := by
  rcases hf.saves n with hsave | ⟨what, hsave⟩
  · exact hsave
  · rw [hsave] at hret
    cases hret

theorem failed {n : ℕ} (hret : (env.save n).returned ≠ some true) :
    ∃ what, env.save n = .failed what := by
  rcases hf.saves n with hsave | hfailed
  · exact absurd (by rw [hsave]; rfl) hret
  · exact hfailed

end FailedAttempt

theorem firstSaved_of_returned (hret : (env.save 0).returned = some true) :
    firstSaved env = true := by
  simp [firstSaved, hret]

/-- A record of the VIN counts towards the next one. -/
theorem nextCount_of_record {t : Machine ProvService} {binding : VehicleBinding}
    (hread : bindingIn P (t.disk .binding) = some binding) (hvin : binding.vin = vin)
    (hcount : binding.rewriteCount = nextCount P vin s) :
    nextCount P vin t = nextCount P vin s + 1 := by
  rw [nextCount_same hread hvin, hcount]

/-- An attempt that fails keeps its record, if its first save went through, and nothing
else. -/
theorem FailedAttempt.exit (hP : P.json.Lawful) (hf : FailedAttempt config uid env)
    (hutf8 : Utf8 uid) (hpending : Pending P config vin past s)
    (hvin : VinValidator.validate vin = true) :
    (BindingCall.writeVin.run P env vin s).val ≠ none ∧
      (BindingCall.writeVin.run P env vin s).state.mem = s.mem ∧
      (BindingCall.writeVin.run P env vin s).state.disk .protection = s.disk .protection ∧
      nextCount P vin (BindingCall.writeVin.run P env vin s).state =
        nextCount P vin s + if firstSaved env then 1 else 0 := by
  have exit := run_exit env vin s hP .writeVin
  generalize (BindingCall.writeVin.run P env vin s).val = code,
    (BindingCall.writeVin.run P env vin s).state = t at exit ⊢
  have hcfg' : s.mem.config = config := by rw [hpending.mem]; rfl
  cases exit with
  | turnedAway hno => exact absurd (hpending.admits hvin) hno
  | flow _ exit =>
  cases exit with
  | uidFailed huid =>
      rw [hf.success] at huid
      cases huid
  | refused _ hprot =>
      rw [hpending.unprotected] at hprot
      cases hprot
  | unencodable _ _ hno => exact absurd (by rwa [hf.uid]) hno
  | first _ w h₀ =>
      obtain ⟨what, hsave⟩ := hf.failed h₀
      have hnot : firstSaved env = false := by simp [firstSaved, hsave, SaveOutcome.returned]
      refine ⟨by simp [hsave, SaveOutcome.returned], rfl, afterFirst_protection, ?_⟩
      rw [hnot]
      simp [nextCount, hsave, SaveOutcome.leaves]
  | second _ w h₀ h₁ =>
      obtain ⟨what, hsave⟩ := hf.failed h₁
      refine ⟨by simp [hsave, SaveOutcome.returned], rfl, afterSecond_protection, ?_⟩
      rw [firstSaved_of_returned h₀, if_pos rfl]
      refine nextCount_of_record ?_ (writtenRecord_reread P env vin s).1 writtenRecord_rewriteCount
      rw [afterSecond_binding, hsave, hf.stored h₀]
      exact w.bindingIn_written hP
  | readBack _ w h₀ h₁ hread =>
      refine absurd ⟨_, ?_, (boundRecord_reread P env vin s).1⟩ hread
      rw [afterSecond_binding, hf.stored h₁]
      exact w.bindingIn_bound hP
  | unlocked _ w h₀ h₁ hread hcfg =>
      rcases hf.fails with hfail | hfail | ⟨hlock, -⟩
      · exact absurd (hf.stored h₀) hfail
      · exact absurd (hf.stored h₁) hfail
      · rw [hcfg', hlock] at hcfg
        cases hcfg
  | lock _ w h₀ h₁ hread hcfg =>
      have h₂ : env.save 2 ≠ .stored := by
        rcases hf.fails with hfail | hfail | ⟨-, hfail⟩
        · exact absurd (hf.stored h₀) hfail
        · exact absurd (hf.stored h₁) hfail
        · exact hfail
      obtain ⟨what, hsave⟩ := (hf.saves 2).resolve_left h₂
      obtain ⟨hflag, hmem⟩ := afterProtection_failed (by rw [hsave]; rfl)
      refine ⟨by simp [hsave, SaveOutcome.returned], hmem, hflag.trans afterSecond_protection, ?_⟩
      rw [firstSaved_of_returned h₀, if_pos rfl]
      refine nextCount_of_record ?_ (boundRecord_reread P env vin s).1 boundRecord_rewriteCount
      rw [afterProtection_binding, afterSecond_binding, hf.stored h₁]
      exact w.bindingIn_bound hP

theorem Pending.attempt (hP : P.json.Lawful) (hvin : VinValidator.validate vin = true)
    (hutf8 : Utf8 uid) (h : Pending P config vin past s) (hf : FailedAttempt config uid env) :
    Pending P config vin (past + if firstSaved env then 1 else 0)
      (ProvService.attempt P vin env s) := by
  obtain ⟨hval, hmem, hprotection, hcount⟩ := hf.exit hP hutf8 h hvin
  have hstate : ProvService.attempt P vin env s =
      (BindingCall.writeVin.run P env vin s).state := by
    refine exec_eq ?_ (coded_state _)
    rw [Call.prog, coded_val]
    simpa using hval
  rw [hstate]
  refine ⟨hmem.trans h.mem, hprotection.trans h.protection, ?_⟩
  rw [hcount, h.count, UInt32.ofNat_add]
  cases firstSaved env <;> rfl

/-! ## All of them -/

theorem Pending.run (hP : P.json.Lawful) (hvin : VinValidator.validate vin = true)
    (hutf8 : Utf8 uid) {failed : List Env} (h : Pending P config vin past s)
    (hfailed : ∀ env ∈ failed, FailedAttempt config uid env) :
    Pending P config vin (past + failed.countP firstSaved)
      (Crash.run (ProvService.attempt P vin) failed s) := by
  induction failed generalizing past s with
  | nil => exact h
  | cons env failed ih =>
      have hnext := h.attempt hP hvin hutf8 (hfailed env List.mem_cons_self)
      have hrest := ih hnext fun env' henv' ↦ hfailed env' (List.mem_cons_of_mem env henv')
      rw [List.countP_cons, Nat.add_comm (failed.countP firstSaved), ← Nat.add_assoc]
      exact hrest

theorem pending_started : Pending P config vin 0 (started config) := ⟨rfl, rfl, rfl⟩

theorem SuccessExit.protection {t : Machine ProvService} {k : Bytes}
    (exit : SuccessExit P env vin s t) (huid : env.uid.success = true)
    (h₂ : env.save 2 = .stored) (hk : envelope P (ProtectedStorageImpl.flagText true) = .ok k) :
    t.disk .protection =
      if s.mem.config.enableWriteProtection then .file k else s.disk .protection := by
  cases exit with
  | uidFailed hfailed =>
      rw [huid] at hfailed
      cases hfailed
  | unlocked _ _ _ _ _ hcfg =>
      rw [hcfg]
      exact afterSecond_protection
  | locked _ w _ _ _ hcfg =>
      have hflag := w.flag
      rw [hk, Except.ok.injEq] at hflag
      rw [hcfg, afterProtection_protection, h₂, ← hflag]
      rfl

variable (vin uid) in
/-- What a bound record holds beside its times. -/
def untimedRecord (count : UInt32) : VehicleBinding :=
  { vin, ecuUid := uid, state := .bound, rewriteCount := count }

theorem boundRecord_untimed (huid : env.uid.uid = uid) :
    (boundRecord P env vin s).reread.untimed = untimedRecord vin uid (nextCount P vin s) := by
  have hcount : (boundRecord P env vin s).reread.rewriteCount = nextCount P vin s :=
    boundRecord_rewriteCount
  rw [← hcount]
  subst huid
  unfold boundRecord writtenRecord newBinding
  cases bindingIn P (s.disk .binding) with
  | none => rfl
  | some old => by_cases hvin : old.vin = vin <;> simp [hvin, VehicleBinding.untimed,
      VehicleBinding.reread, untimedRecord]

/-- An attempt without faults binds the VIN. -/
theorem Pending.bound (hP : P.json.Lawful) (hvin : VinValidator.validate vin = true)
    (hutf8 : Utf8 uid) (h : Pending P config vin past s) (hfree : FaultFree uid env) :
    (Call.binding .writeVin env vin).returned P s = some .success ∧
      (bindingIn P ((ProvService.attempt P vin env s).disk .binding)).map
        VehicleBinding.untimed = some (untimedRecord vin uid (UInt32.ofNat past)) ∧
      ∀ k, envelope P (ProtectedStorageImpl.flagText true) = .ok k →
        (ProvService.attempt P vin env s).disk .protection =
          if config.enableWriteProtection then .file k else .absent := by
  obtain ⟨huid, rfl, hsaves⟩ := hfree
  have hcfg : s.mem.config = config := by rw [h.mem]; rfl
  obtain ⟨hval, hbound⟩ :=
    exec_binds hP ⟨h.admits hvin, huid, hutf8, h.unprotected⟩ hsaves
  refine ⟨hval, ?_, fun k hk ↦ ?_⟩
  · rw [ProvService.attempt, hbound.binding, Option.map_some, boundRecord_untimed rfl, h.count]
  · rw [ProvService.attempt, exec_binding_of_returned hval]
    rw [binding_returned] at hval
    obtain ⟨-, exit⟩ := run_success hP hval
    rw [exit.protection huid (hsaves 2) hk, hcfg, h.protection]

/-- The retries converge as long as the attempts that got past their first save do not
show in the counter. -/
theorem retries_converge_iff (hP : P.json.Lawful) (hvin : VinValidator.validate vin = true)
    {failed : List Env} {last clean : Env}
    (hfailed : ∀ env ∈ failed, FailedAttempt config uid env) (hlast : FaultFree uid last)
    (hclean : FaultFree uid clean) :
    Converges P config vin failed last clean ↔
      Utf8 uid ∧ 2 ^ 32 ∣ failed.countP firstSaved := by
  by_cases hutf8 : Utf8 uid
  case neg =>
    refine iff_of_false ?_ fun h ↦ hutf8 h.1
    rintro ⟨hval, -⟩
    have hno : ¬ Binds P last vin (Crash.run (attempt P vin) failed (started config))
        .writeVin := fun h ↦ hutf8 (hlast.2.1 ▸ h.utf8)
    obtain ⟨huid, -⟩ := (exec_notBinds hP hno).1 hval
    rw [hlast.1] at huid
    cases huid
  have hpending := pending_started.run hP hvin hutf8 hfailed
  rw [Nat.zero_add] at hpending
  obtain ⟨hval, hbinding, hprotection⟩ := hpending.bound hP hvin hutf8 hlast
  obtain ⟨-, hbinding', hprotection'⟩ := pending_started.bound hP hvin hutf8 hclean
  obtain ⟨k, hk⟩ : ∃ k, envelope P (ProtectedStorageImpl.flagText true) = .ok k :=
    exists_envelope hP (Utf8.bytes "1")
  have hend : Crash.run (attempt P vin) (failed ++ [last]) (started config) =
      attempt P vin last (Crash.run (attempt P vin) failed (started config)) :=
    Crash.run_append _ _ _ _
  unfold Converges
  rw [hend, hbinding, hbinding', hprotection k hk, hprotection' k hk]
  have hcount : UInt32.ofNat (failed.countP firstSaved) = UInt32.ofNat 0 ↔
      2 ^ 32 ∣ failed.countP firstSaved := by
    rw [← UInt32.toNat_inj, UInt32.toNat_ofNat', UInt32.toNat_ofNat']
    omega
  constructor
  · rintro ⟨-, hsame, -⟩
    have hrewrite := congrArg (Option.map VehicleBinding.rewriteCount) hsame
    exact ⟨hutf8, hcount.1 (Option.some.inj hrewrite)⟩
  · rintro ⟨-, hdvd⟩
    exact ⟨hval, by rw [hcount.2 hdvd], rfl⟩

/-! ## A failed second save -/

theorem failedAttempt_failedSecondEnv (config : ProvServiceConfig) :
    FailedAttempt config sampleUid failedSecondEnv := by
  refine ⟨rfl, rfl, fun n ↦ ?_, .inr (.inl ?_)⟩
  · by_cases hn : n = 1 <;> simp [failedSecondEnv, hn]
  · simp [failedSecondEnv]

theorem faultFree_sampleEnv : FaultFree sampleUid sampleEnv := ⟨rfl, rfl, fun _ ↦ rfl⟩

def failedFirstEnv : Env := { uid := .ofUid sampleUid, save := fun _ ↦ .failed none }

theorem failedAttempt_failedFirstEnv (config : ProvServiceConfig) :
    FailedAttempt config sampleUid failedFirstEnv := by
  refine ⟨rfl, rfl, fun n ↦ .inr ⟨none, rfl⟩, .inl ?_⟩
  simp [failedFirstEnv]

theorem retries_converge_sample :
    Converges textPlatform {} sampleVin [failedFirstEnv, failedFirstEnv] sampleEnv sampleEnv := by
  have hfailed : ∀ env ∈ [failedFirstEnv, failedFirstEnv], FailedAttempt {} sampleUid env := by
    simp [failedAttempt_failedFirstEnv]
  exact (retries_converge_iff textPlatform_lawful validate_sampleVin hfailed faultFree_sampleEnv
    faultFree_sampleEnv).2 ⟨utf8_sampleUid, by decide⟩

/-- After one failed second save the counter stands at one instead of zero. -/
theorem retries_counted :
    FailedAttempt {} sampleUid failedSecondEnv ∧
      (Call.binding .writeVin sampleEnv sampleVin).returned textPlatform
        (run (attempt textPlatform sampleVin) [failedSecondEnv] (started {})) = some .success ∧
      ¬ Converges textPlatform {} sampleVin [failedSecondEnv] sampleEnv sampleEnv := by
  have hP := textPlatform_lawful
  have hfailed := failedAttempt_failedSecondEnv {}
  have hpending := pending_started.run hP validate_sampleVin utf8_sampleUid
    (List.forall_mem_singleton.2 hfailed)
  obtain ⟨hval, hbinding, -⟩ :=
    hpending.bound hP validate_sampleVin utf8_sampleUid faultFree_sampleEnv
  obtain ⟨-, hbinding', -⟩ :=
    pending_started.bound hP validate_sampleVin utf8_sampleUid faultFree_sampleEnv
  refine ⟨hfailed, hval, fun ⟨_, hsame, _⟩ ↦ ?_⟩
  rw [run_append, run_cons, run_nil, hbinding, hbinding'] at hsame
  have hrewrite := congrArg (Option.map VehicleBinding.rewriteCount) hsame
  have hone : UInt32.ofNat (0 + [failedSecondEnv].countP firstSaved) = UInt32.ofNat 0 :=
    Option.some.inj hrewrite
  exact absurd hone (by decide)

end ProvService

end TboxProv
