import TboxProv.BindingFlow

/-!
# The two binding operations

`write_vin` and `authorize_rewrite` check their arguments and then run the same
flow.  `BindingCall` names the two, `Admits` says when the flow is entered, and
the rest of the file collects what the exits of the flow do to the disk.
-/

namespace TboxProv.ProvService

open Crash Store

variable (P : Platform) (env : Env) (vin : Bytes) (s : Machine ProvService)

inductive BindingCall where
  | writeVin
  | authorizeRewrite
  deriving DecidableEq

namespace BindingCall

def run : BindingCall → Bytes → ServiceAction ErrorCode
  | .writeVin => ProvService.writeVin P env
  | .authorizeRewrite => ProvService.authorizeRewrite P env

end BindingCall

/-- A rewrite is refused over a locked binding of another VIN. -/
def Conflict : Prop :=
  ∃ binding, bindingIn P (s.disk .binding) = some binding ∧ binding.locked = true ∧
    vin ≠ binding.vin

structure Admits (call : BindingCall) : Prop where
  initialized : s.mem.initialized = true
  running : s.mem.shuttingDown = false
  valid : VinValidator.validate vin = true
  allowed : call = .authorizeRewrite → ¬ Conflict P vin s

/-- The code of a call that is refused before the flow. -/
def TurnedAway (call : BindingCall) (code : ErrorCode) : Prop :=
  code = .invalidState ∨ code = .invalidVinFormat ∨
    (code = .vinConflictUnauthorized ∧ call = .authorizeRewrite)

variable {P env vin s}

theorem TurnedAway.ne_success {call : BindingCall} {code : ErrorCode} (h : TurnedAway call code) :
    code ≠ .success := by
  rcases h with rfl | rfl | ⟨rfl, -⟩ <;> simp

@[simp] theorem validateVinFormat_state : (validateVinFormat P vin s).state = s := by
  cases hvalid : VinValidator.validate vin <;> simp [validateVinFormat, hvalid]

theorem validateVinFormat_val :
    (validateVinFormat P vin s).val =
      some (if VinValidator.validate vin then .success else .invalidVinFormat) := by
  cases hvalid : VinValidator.validate vin <;> simp [validateVinFormat, hvalid]

variable (env) in
theorem run_admitted {call : BindingCall} (h : Admits P vin s call) :
    (call.run P env vin s).val = (executeVinBindingFlow P env vin s).val ∧
      (call.run P env vin s).state = (executeVinBindingFlow P env vin s).state := by
  obtain ⟨hinit, hrunning, hvalid, hallowed⟩ := h
  cases call with
  | writeVin =>
      simp [BindingCall.run, writeVin, hinit, hrunning, validateVinFormat_val, hvalid]
  | authorizeRewrite =>
      have hconflict := hallowed rfl
      cases hread : bindingIn P (s.disk .binding) with
      | none =>
          simp [BindingCall.run, authorizeRewrite, hinit, hrunning, validateVinFormat_val,
            hvalid, hread]
      | some binding =>
          have hpass : ¬ (binding.locked = true ∧ vin ≠ binding.vin) :=
            fun hc ↦ hconflict ⟨binding, hread, hc⟩
          simp [BindingCall.run, authorizeRewrite, hinit, hrunning, validateVinFormat_val,
            hvalid, hread, hpass]

variable (env) in
theorem run_notAdmitted {call : BindingCall} (h : ¬ Admits P vin s call) :
    ∃ code, TurnedAway call code ∧ (call.run P env vin s).val = some code ∧
      (call.run P env vin s).state = s := by
  cases hinit : s.mem.initialized with
  | false =>
      refine ⟨.invalidState, .inl rfl, ?_⟩
      cases call <;> simp [BindingCall.run, writeVin, authorizeRewrite, hinit]
  | true =>
  cases hdown : s.mem.shuttingDown with
  | true =>
      refine ⟨.invalidState, .inl rfl, ?_⟩
      cases call <;> simp [BindingCall.run, writeVin, authorizeRewrite, hinit, hdown]
  | false =>
  cases hvalid : VinValidator.validate vin with
  | false =>
      refine ⟨.invalidVinFormat, .inr (.inl rfl), ?_⟩
      cases call <;> simp [BindingCall.run, writeVin, authorizeRewrite, hinit, hdown,
        validateVinFormat_val, hvalid]
  | true =>
      have hconflict : call = .authorizeRewrite ∧ Conflict P vin s := by
        by_contra hno
        exact h ⟨hinit, hdown, hvalid, fun hcall hc ↦ hno ⟨hcall, hc⟩⟩
      obtain ⟨rfl, binding, hread, hlocked, hvin⟩ := hconflict
      refine ⟨.vinConflictUnauthorized, .inr (.inr ⟨rfl, rfl⟩), ?_⟩
      simp [BindingCall.run, authorizeRewrite, hinit, hdown, validateVinFormat_val, hvalid,
        hread, hlocked, hvin]

variable (P env s) in
/-- What the service makes of an empty VIN. -/
theorem run_empty (call : BindingCall) :
    (call.run P env [] s).val =
        some (if s.mem.initialized = true ∧ s.mem.shuttingDown = false then .invalidVinFormat
          else .invalidState) ∧
      (call.run P env [] s).state = s := by
  have hvalid : VinValidator.validate [] = false := rfl
  cases hinit : s.mem.initialized with
  | false => cases call <;> simp [BindingCall.run, writeVin, authorizeRewrite, hinit]
  | true =>
      cases hdown : s.mem.shuttingDown with
      | true => cases call <;> simp [BindingCall.run, writeVin, authorizeRewrite, hinit, hdown]
      | false =>
          cases call <;> simp [BindingCall.run, writeVin, authorizeRewrite, hinit, hdown,
            validateVinFormat_val, hvalid]

variable (P env vin s)

inductive CallExit (call : BindingCall) : Option ErrorCode → Machine ProvService → Prop where
  | turnedAway {code : ErrorCode} (hno : ¬ Admits P vin s call) (hcode : TurnedAway call code) :
      CallExit call (some code) s
  | flow {code : Option ErrorCode} {t : Machine ProvService} (hadm : Admits P vin s call)
      (exit : FlowExit P env vin s code t) : CallExit call code t

variable {P env vin s}

variable (env vin s) in
theorem run_exit (hP : P.json.Lawful) (call : BindingCall) :
    CallExit P env vin s call (call.run P env vin s).val (call.run P env vin s).state := by
  by_cases hadm : Admits P vin s call
  · obtain ⟨hval, hstate⟩ := run_admitted env hadm
    rw [hval, hstate]
    exact .flow hadm (executeVinBindingFlow_exit env s hP (VinValidator.utf8_of_validate hadm.valid))
  · obtain ⟨code, hcode, hval, hstate⟩ := run_notAdmitted env hadm
    rw [hval, hstate]
    exact .turnedAway hadm hcode

/-! ## What the flow leaves on the disk -/

section Disk

variable {c₀ c₁ k : Bytes}

@[simp] theorem afterFirst_mem : (afterFirst env s c₀).mem = s.mem := rfl

@[simp] theorem afterFirst_binding :
    (afterFirst env s c₀).disk .binding = (env.save 0).leaves c₀ (s.disk .binding) := by
  simp [afterFirst]

theorem afterFirst_other {key : Key} (h : key ≠ .binding) :
    (afterFirst env s c₀).disk key = s.disk key := by
  simp [afterFirst, h]

@[simp] theorem afterFirst_protection :
    (afterFirst env s c₀).disk .protection = s.disk .protection :=
  afterFirst_other (by decide)

@[simp] theorem afterSecond_mem : (afterSecond env s c₀ c₁).mem = s.mem := rfl

@[simp] theorem afterSecond_binding :
    (afterSecond env s c₀ c₁).disk .binding =
      (env.save 1).leaves c₁ ((env.save 0).leaves c₀ (s.disk .binding)) := by
  simp [afterSecond]

theorem afterSecond_other {key : Key} (h : key ≠ .binding) :
    (afterSecond env s c₀ c₁).disk key = s.disk key := by
  simp [afterSecond, afterFirst, h]

@[simp] theorem afterSecond_protection :
    (afterSecond env s c₀ c₁).disk .protection = s.disk .protection :=
  afterSecond_other (by decide)

@[simp] theorem afterProtection_protection :
    (afterProtection env s k).disk .protection =
      (env.save 2).leaves k (s.disk .protection) := by
  simp [afterProtection]

theorem afterProtection_other {key : Key} (h : key ≠ .protection) :
    (afterProtection env s k).disk key = s.disk key := by
  simp [afterProtection, h]

@[simp] theorem afterProtection_binding :
    (afterProtection env s k).disk .binding = s.disk .binding :=
  afterProtection_other (by decide)

theorem FlowExit.mem {code : Option ErrorCode} {t : Machine ProvService}
    (exit : FlowExit P env vin s code t) :
    t.mem.initialized = s.mem.initialized ∧ t.mem.shuttingDown = s.mem.shuttingDown ∧
      t.mem.config = s.mem.config := by
  cases exit with
  | uidFailed | refused | unencodable | first | second | readBack | unlocked | lock =>
      exact ⟨rfl, rfl, rfl⟩

theorem FlowExit.protected {code : Option ErrorCode} {t : Machine ProvService}
    (exit : FlowExit P env vin s code t) (h : s.mem.storage.writeProtected = true) : t = s := by
  cases exit with
  | uidFailed | refused | unencodable => rfl
  | first _ w | second _ w | readBack _ w | unlocked _ w | lock _ w =>
      rw [w.unprotected] at h
      cases h

namespace Writable

variable (hP : P.json.Lawful) (w : Writable P env vin s c₀ c₁ k)
include hP w

theorem bindingIn_written : bindingIn P (.file c₀) = some (writtenRecord P env vin s).reread :=
  bindingIn_sealed hP w.written

theorem bindingIn_bound : bindingIn P (.file c₁) = some (boundRecord P env vin s).reread :=
  bindingIn_sealed hP w.bound

theorem utf8_uid : Utf8 env.uid.uid := by
  have hutf8 := utf8_of_bindingJson (utf8_of_sealed hP w.written)
  exact ((utf8_writtenRecord_iff P env vin s).1 hutf8).2

theorem protectedIn_flag : protectedIn P (.file k) = true := by
  rw [protectedIn_envelope hP w.flag]
  rfl

end Writable

variable (P env vin s) in
theorem writtenRecord_reread :
    (writtenRecord P env vin s).reread.vin = vin ∧
      (writtenRecord P env vin s).reread.ecuUid = env.uid.uid ∧
      (writtenRecord P env vin s).reread.state = .vinWritten ∧
      (writtenRecord P env vin s).reread.locked = false := by
  obtain ⟨hvin, huid, hstate, hlocked, -⟩ :=
    newBinding_fields env vin (bindingIn P (s.disk .binding)) env.uid.uid
  exact ⟨hvin, huid, hstate, hlocked⟩

variable (P env vin s) in
theorem boundRecord_reread :
    (boundRecord P env vin s).reread.vin = vin ∧
      (boundRecord P env vin s).reread.ecuUid = env.uid.uid ∧
      (boundRecord P env vin s).reread.state = .bound ∧
      (boundRecord P env vin s).reread.locked = false := by
  obtain ⟨hvin, huid, -, hlocked, -⟩ :=
    newBinding_fields env vin (bindingIn P (s.disk .binding)) env.uid.uid
  exact ⟨hvin, huid, rfl, hlocked⟩

end Disk

theorem FlowExit.code_cases {code : ErrorCode} {t : Machine ProvService}
    (exit : FlowExit P env vin s (some code) t) (huid : env.uid.success = true) :
    code = .success ∨ code = .vinWriteFailed ∨ code = .readbackVerificationFailed ∨
      code = .storageError := by
  generalize hc : some code = result at exit
  cases exit with
  | uidFailed hfailed =>
      rw [huid] at hfailed
      cases hfailed
  | refused => exact .inr (.inl (Option.some.inj hc))
  | unencodable => exact .inr (.inl (Option.some.inj hc))
  | first =>
      obtain ⟨saved, -, hcode⟩ := Option.map_eq_some_iff.1 hc.symm
      exact .inr (.inl hcode.symm)
  | second =>
      obtain ⟨saved, -, hcode⟩ := Option.map_eq_some_iff.1 hc.symm
      exact .inr (.inl hcode.symm)
  | readBack => exact .inr (.inr (.inl (Option.some.inj hc)))
  | unlocked => exact .inl (Option.some.inj hc)
  | lock =>
      obtain ⟨saved, -, hcode⟩ := Option.map_eq_some_iff.1 hc.symm
      cases saved with
      | false => exact .inr (.inr (.inr hcode.symm))
      | true => exact .inl hcode.symm

/-! ## Success -/

variable (P env vin s) in
/-- The two ways to report success: an accepted read-back followed by the wanted
protection, or a failed UID read whose code is success. -/
inductive SuccessExit : Machine ProvService → Prop where
  | uidFailed (huid : env.uid.success = false) (hcode : env.uid.errorCode = .success) :
      SuccessExit s
  | unlocked {c₀ c₁ k : Bytes} (huid : env.uid.success = true)
      (w : Writable P env vin s c₀ c₁ k)
      (h₀ : (env.save 0).returned = some true) (h₁ : (env.save 1).returned = some true)
      (hread : ReadsBack P vin (afterSecond env s c₀ c₁))
      (hcfg : s.mem.config.enableWriteProtection = false) :
      SuccessExit (afterSecond env s c₀ c₁)
  | locked {c₀ c₁ k : Bytes} (huid : env.uid.success = true)
      (w : Writable P env vin s c₀ c₁ k)
      (h₀ : (env.save 0).returned = some true) (h₁ : (env.save 1).returned = some true)
      (hread : ReadsBack P vin (afterSecond env s c₀ c₁))
      (hcfg : s.mem.config.enableWriteProtection = true)
      (h₂ : (env.save 2).returned = some true) :
      SuccessExit (afterProtection env (afterSecond env s c₀ c₁) k)

theorem FlowExit.of_success {t : Machine ProvService}
    (exit : FlowExit P env vin s (some .success) t) : SuccessExit P env vin s t := by
  generalize hc : some ErrorCode.success = code at exit
  cases exit with
  | uidFailed huid => exact .uidFailed huid (Option.some.inj hc).symm
  | refused => exact absurd (Option.some.inj hc) (by decide)
  | unencodable => exact absurd (Option.some.inj hc) (by decide)
  | first =>
      obtain ⟨saved, -, hcode⟩ := Option.map_eq_some_iff.1 hc.symm
      exact absurd hcode (by decide)
  | second =>
      obtain ⟨saved, -, hcode⟩ := Option.map_eq_some_iff.1 hc.symm
      exact absurd hcode (by decide)
  | readBack => exact absurd (Option.some.inj hc) (by decide)
  | unlocked huid w h₀ h₁ hread hcfg => exact .unlocked huid w h₀ h₁ hread hcfg
  | lock huid w h₀ h₁ hread hcfg =>
      obtain ⟨saved, hret, hcode⟩ := Option.map_eq_some_iff.1 hc.symm
      cases saved with
      | false => exact absurd hcode (by decide)
      | true => exact .locked huid w h₀ h₁ hread hcfg hret

theorem run_success (hP : P.json.Lawful) {call : BindingCall}
    (h : (call.run P env vin s).val = some .success) :
    Admits P vin s call ∧ SuccessExit P env vin s (call.run P env vin s).state := by
  have exit := run_exit env vin s hP call
  rw [h] at exit
  generalize (call.run P env vin s).state = t at exit ⊢
  generalize hc : some ErrorCode.success = code at exit
  cases exit with
  | turnedAway _ hcode => exact absurd (Option.some.inj hc).symm hcode.ne_success
  | flow hadm exit =>
      subst hc
      exact ⟨hadm, exit.of_success⟩

/-- The flow succeeds once the read-back has accepted and the protection flag,
where it is wanted, is reported as saved. -/
theorem executeVinBindingFlow_success {c₀ c₁ k : Bytes} (huid : env.uid.success = true)
    (w : Writable P env vin s c₀ c₁ k) (h₀ : (env.save 0).returned = some true)
    (h₁ : (env.save 1).returned = some true)
    (hread : ReadsBack P vin (afterSecond env s c₀ c₁))
    (hlock : s.mem.config.enableWriteProtection = true → (env.save 2).returned = some true) :
    (executeVinBindingFlow P env vin s).val = some .success ∧
      (executeVinBindingFlow P env vin s).state.disk .binding =
        (afterSecond env s c₀ c₁).disk .binding := by
  obtain ⟨hval, hstate⟩ := executeVinBindingFlow_accepted huid w h₀ h₁ hread
  rw [hval, hstate]
  cases hcfg : s.mem.config.enableWriteProtection with
  | false =>
      obtain ⟨hdone, hend⟩ := finishVinBindingFlow_unlocked P env vin
        (t := afterSecond env s c₀ c₁) hcfg
      exact ⟨hdone, by rw [hend]⟩
  | true =>
      obtain ⟨hdone, hend⟩ := finishVinBindingFlow_lock env vin
        (t := afterSecond env s c₀ c₁) hcfg w.flag
      rw [hdone, hend, hlock hcfg]
      exact ⟨rfl, afterProtection_binding⟩

/-- Under write protection an admitted call with a readable UID fails. -/
theorem run_protected {call : BindingCall} (hadm : Admits P vin s call)
    (huid : env.uid.success = true) (hprot : s.mem.storage.writeProtected = true) :
    (call.run P env vin s).val = some .vinWriteFailed ∧ (call.run P env vin s).state = s := by
  obtain ⟨hval, hstate⟩ := establishBinding_protected P env vin hprot
  obtain ⟨hval', hstate'⟩ := executeVinBindingFlow_of_establish huid hval hstate (by simp)
  obtain ⟨hrun, hend⟩ := run_admitted env hadm
  exact ⟨hrun.trans hval', hend.trans hstate'⟩

/-! ## A store without faults -/

variable (P env vin s) in
/-- What a call leaves when it binds the VIN. -/
structure BoundBy (t : Machine ProvService) : Prop where
  binding : bindingIn P (t.disk .binding) = some (boundRecord P env vin s).reread
  service : t.mem.initialized = s.mem.initialized ∧ t.mem.shuttingDown = s.mem.shuttingDown ∧
    t.mem.config = s.mem.config
  locked : s.mem.config.enableWriteProtection = true →
    t.mem.storage.writeProtected = true ∧ protectedIn P (t.disk .protection) = true
  unlocked : s.mem.config.enableWriteProtection = false →
    t.mem.storage.writeProtected = false ∧ t.disk .protection = s.disk .protection

/-- The record of a binding call is never locked, so it is no obstacle to a rewrite. -/
theorem BoundBy.admits {t : Machine ProvService} {call call' : BindingCall} {vin' : Bytes}
    (h : BoundBy P env vin s t) (hadm : Admits P vin s call)
    (hvalid : VinValidator.validate vin' = true) : Admits P vin' t call' := by
  obtain ⟨hinit, hdown, -⟩ := h.service
  refine ⟨hinit.trans hadm.initialized, hdown.trans hadm.running, hvalid, fun _ ↦ ?_⟩
  rintro ⟨binding, hread, hlocked, -⟩
  rw [h.binding, Option.some.injEq] at hread
  rw [← hread, (boundRecord_reread P env vin s).2.2.2] at hlocked
  cases hlocked

/-- An admitted call with a readable UID binds the VIN if all its saves take effect. -/
theorem run_stored (hP : P.json.Lawful) {call : BindingCall} (hadm : Admits P vin s call)
    (huid : env.uid.success = true) (hprot : s.mem.storage.writeProtected = false)
    (hutf8 : Utf8 env.uid.uid) (hsaves : ∀ n, env.save n = .stored) :
    (call.run P env vin s).val = some .success ∧
      BoundBy P env vin s (call.run P env vin s).state := by
  have hvin := VinValidator.utf8_of_validate hadm.valid
  obtain ⟨c₀, c₁, k, w⟩ := exists_writable hP hprot hvin hutf8
  have hreturned : ∀ n, (env.save n).returned = some true := fun n ↦ by simp [hsaves n,
    SaveOutcome.returned]
  have hbinding : bindingIn P ((afterSecond env s c₀ c₁).disk .binding) =
      some (boundRecord P env vin s).reread := by
    rw [afterSecond_binding, hsaves 1]
    exact w.bindingIn_bound hP
  have hread : ReadsBack P vin (afterSecond env s c₀ c₁) :=
    ⟨_, hbinding, (boundRecord_reread P env vin s).1⟩
  obtain ⟨hval, hstate⟩ := run_admitted env hadm
  obtain ⟨hval', hstate'⟩ :=
    executeVinBindingFlow_accepted huid w (hreturned 0) (hreturned 1) hread
  rw [hval, hstate, hval', hstate']
  cases hcfg : s.mem.config.enableWriteProtection with
  | false =>
      obtain ⟨hdone, hend⟩ := finishVinBindingFlow_unlocked P env vin
        (t := afterSecond env s c₀ c₁) hcfg
      rw [hdone, hend]
      refine ⟨rfl, hbinding, ⟨rfl, rfl, rfl⟩, fun hon ↦ ?_, fun _ ↦ ?_⟩
      · rw [hcfg] at hon
        cases hon
      · exact ⟨hprot, afterSecond_protection⟩
  | true =>
      obtain ⟨hdone, hend⟩ := finishVinBindingFlow_lock env vin
        (t := afterSecond env s c₀ c₁) hcfg w.flag
      rw [hdone, hend, hreturned 2]
      refine ⟨rfl, ?_, ⟨rfl, rfl, rfl⟩, fun _ ↦ ⟨?_, ?_⟩, fun hoff ↦ ?_⟩
      · rw [afterProtection_binding]
        exact hbinding
      · simp [afterProtection, hreturned 2]
      · rw [afterProtection_protection, hsaves 2]
        exact w.protectedIn_flag hP
      · rw [hcfg] at hoff
        cases hoff

variable (P env vin s) in
/-- The call gets as far as its saves. -/
structure Binds (call : BindingCall) : Prop where
  admits : Admits P vin s call
  uid : env.uid.success = true
  utf8 : Utf8 env.uid.uid
  unprotected : s.mem.storage.writeProtected = false

theorem Binds.stored (hP : P.json.Lawful) {call : BindingCall} (h : Binds P env vin s call)
    (hsaves : ∀ n, env.save n = .stored) :
    (call.run P env vin s).val = some .success ∧
      BoundBy P env vin s (call.run P env vin s).state :=
  run_stored hP h.admits h.uid h.unprotected h.utf8 hsaves

/-- Any other call returns with everything as it was; success it reports only for a
failed UID read. -/
theorem run_notBinds (hP : P.json.Lawful) {call : BindingCall} (h : ¬ Binds P env vin s call) :
    ∃ code, (call.run P env vin s).val = some code ∧ (call.run P env vin s).state = s ∧
      (code = .success → env.uid.success = false ∧ env.uid.errorCode = .success) := by
  by_cases hadm : Admits P vin s call
  case neg =>
    obtain ⟨code, hcode, hval, hstate⟩ := run_notAdmitted env hadm
    exact ⟨code, hval, hstate, fun hsuccess ↦ absurd hsuccess hcode.ne_success⟩
  obtain ⟨hrun, hend⟩ := run_admitted env hadm
  cases huid : env.uid.success with
  | false =>
      obtain ⟨hval, hstate⟩ := executeVinBindingFlow_uidFailed P vin s huid
      exact ⟨_, hrun.trans hval, hend.trans hstate, fun hsuccess ↦ ⟨rfl, hsuccess⟩⟩
  | true =>
      cases hprot : s.mem.storage.writeProtected with
      | true =>
          obtain ⟨hval, hstate⟩ := run_protected hadm huid hprot
          exact ⟨_, hval, hstate, fun hsuccess ↦ absurd hsuccess (by decide)⟩
      | false =>
          have hutf8 : ¬ Utf8 env.uid.uid := fun hutf8 ↦ h ⟨hadm, huid, hutf8, hprot⟩
          obtain ⟨e, he⟩ := sealed_written_error vin s hP hutf8
          obtain ⟨hval, hstate⟩ := establishBinding_unencodable hprot he
          obtain ⟨hval', hstate'⟩ :=
            executeVinBindingFlow_of_establish huid hval hstate (by simp)
          exact ⟨_, hrun.trans hval', hend.trans hstate',
            fun hsuccess ↦ absurd hsuccess (by decide)⟩

end TboxProv.ProvService
