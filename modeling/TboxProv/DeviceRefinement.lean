import TboxProv.CrashConsistency
import TboxProv.Device
import TboxProv.RecordWrites

/-!
# The service as a device

`deviceIn` reads a disk as a device and `view` a running service as a device with a
session.  Under saves that are all or nothing, kills and restarts included, the service
answers every list of calls as the device answers the corresponding requests.
-/

namespace TboxProv.ProvService

open Crash Store

variable (P : Platform)

/-! ## Reading the disk -/

def deviceIn (disk : Disk) : Device where
  binding := bindingIn P (disk .binding)
  config := configIn P (disk .config)
  productionInfo := productionInfoIn P (disk .productionInfo)
  locked := protectedIn P (disk .protection)

/-- The flag in memory does not show: while a service is up it is the one on the disk. -/
def view (s : Machine ProvService) : Provisioner where
  device := deviceIn P s.disk
  up := s.mem.initialized
  closing := s.mem.shuttingDown

/-- Saves that are all or nothing are done, refused or cut; the others do not occur here. -/
def fateOf : SaveOutcome → Fate
  | .stored | .lost | .replaced _ => .done
  | .failed _ => .refused
  | .killedBefore => .cutBefore
  | .killedAfter => .cutAfter

namespace Call

/-- Every save of the call takes effect as a whole or not at all. -/
def WholeSaves : Call → Prop
  | .binding _ env _ | .writeVehicleConfig env _ | .writeProductionInfo env _ =>
      ∀ n, (env.save n).AllOrNothing
  | _ => True

theorem WholeSaves.allOrNothing {c : Call} (h : c.WholeSaves) : c.AllOrNothing := by
  cases c with
  | binding => exact h
  | _ => trivial

def request : Call → Request
  | .initializeService env => .start (env.rootDir.usable && env.serviceDir.usable)
  | .beginShutdown => .close
  | .binding call env vin =>
      .bind (call = .authorizeRewrite) vin env.uid (env.clock 0) (env.clock 1)
        fun n ↦ fateOf (env.save n)
  | .writeVehicleConfig env configData =>
      .configure configData (env.clock 0) fun n ↦ fateOf (env.save n)
  | .writeProductionInfo env info => .label info (env.clock 0) fun n ↦ fateOf (env.save n)
  | .readVin => .readVin
  | .readBinding env => .readBinding env.sn
  | .getProvisionState => .readState
  | .isInitialized => .isUp
  | .restart => .powerCycle

/-- What the caller gets to see, none if the process is killed. -/
def answer (c : Call) (s : Machine ProvService) : Option Answer :=
  match c with
  | .initializeService env => (ProvService.initializeService P env s).val.map .code
  | .beginShutdown => (ProvService.beginShutdown s).val.map fun _ ↦ .closed
  | .binding call env vin => (call.run P env vin s).val.map .code
  | .writeVehicleConfig env configData =>
      (ProvService.writeVehicleConfig P env configData s).val.map .code
  | .writeProductionInfo env info =>
      (ProvService.writeProductionInfo P env info s).val.map .code
  | .readVin => (ProvService.readVin P s).val.map .vin
  | .readBinding env => (ProvService.readBinding P env s).val.map .binding
  | .getProvisionState => (ProvService.getProvisionState P s).val.map .state
  | .isInitialized => (ProvService.isInitialized s).val.map .up
  | .restart => none

/-- One call with its answer. -/
def answered (c : Call) (s : Machine ProvService) : Option Answer × Machine ProvService :=
  (c.answer P s, exec P c s)

end Call

/-- What a run keeps: the cached flag is the stored one, and the path of the protection
record can be looked at. -/
structure Coherent (s : Machine ProvService) : Prop where
  linked : Linked P s
  visible : Visible s.disk

variable {P} {env : Env} {vin : Bytes} {s : Machine ProvService}

theorem Coherent.after_exec (hP : P.json.Lawful) {c : Call} (hsaves : c.WholeSaves)
    (h : Coherent P s) : Coherent P (exec P c s) := by
  refine ⟨linked_exec hP hsaves.allOrNothing h.linked, ?_⟩
  rw [exec, settle_disk]
  exact (prog_effect hP c s).visible hsaves.allOrNothing h.visible

theorem coherent_fresh (config : ProvServiceConfig) : Coherent P (fresh config Disk.empty) := by
  refine ⟨fun hinit ↦ ?_, fun what h ↦ ?_⟩
  · cases hinit
  · cases h

section Disk

variable (disk : Disk)

@[simp] theorem deviceIn_binding (entry : Entry) :
    deviceIn P (Function.update disk .binding entry) =
      { deviceIn P disk with binding := bindingIn P entry } := by
  simp [deviceIn]

@[simp] theorem deviceIn_config (entry : Entry) :
    deviceIn P (Function.update disk .config entry) =
      { deviceIn P disk with config := configIn P entry } := by
  simp [deviceIn]

@[simp] theorem deviceIn_productionInfo (entry : Entry) :
    deviceIn P (Function.update disk .productionInfo entry) =
      { deviceIn P disk with productionInfo := productionInfoIn P entry } := by
  simp [deviceIn]

@[simp] theorem deviceIn_protection (entry : Entry) :
    deviceIn P (Function.update disk .protection entry) =
      { deviceIn P disk with locked := protectedIn P entry } := by
  simp [deviceIn]

end Disk

/-! ## One save -/

/-- What a save makes of the device if it is all or nothing. -/
def savedDevice (outcome : SaveOutcome) (edit : Device.Edit) (d : Device) : Device :=
  if outcome = .stored ∨ outcome = .killedAfter then Device.apply edit d else d

theorem deviceIn_saved {outcome : SaveOutcome} (h : outcome.AllOrNothing) {key : Key}
    {content : Bytes} {edit : Device.Edit} {disk : Disk}
    (hnew : deviceIn P (Function.update disk key (.file content)) =
      Device.apply edit (deviceIn P disk)) :
    deviceIn P (Function.update disk key (outcome.leaves content (disk key))) =
      savedDevice outcome edit (deviceIn P disk) := by
  unfold savedDevice
  rcases h.leaves_cases content (disk key) with ⟨htaken, hleaves⟩ | ⟨⟨hs, hk⟩, hleaves⟩
  · rw [hleaves, hnew, if_pos htaken]
  · rw [hleaves, Function.update_eq_self, if_neg (not_or.2 ⟨hs, hk⟩)]

section Stages

variable {stage : Stage Device.Edit ErrorCode} {stages : List (Stage Device.Edit ErrorCode)}
  {fate : ℕ → Fate} {d : Device} {outcome : SaveOutcome} {code : ErrorCode}

theorem perform_done (h : fate 0 = .done) :
    perform Device.apply ErrorCode.success (stage :: stages) fate d =
      perform Device.apply ErrorCode.success stages (fun n ↦ fate (n + 1))
        (Device.apply stage.edit d) :=
  perform_cons_done h

/-- A save that does not report success is the last one. -/
theorem perform_stopped (h : outcome.AllOrNothing) (hfate : fate 0 = fateOf outcome)
    (hcode : stage.failure = some code) (hret : outcome.returned ≠ some true) :
    perform Device.apply ErrorCode.success (stage :: stages) fate d =
      (outcome.returned.map fun _ ↦ code, savedDevice outcome stage.edit d) := by
  cases outcome with
  | stored => exact absurd rfl hret
  | lost => exact h.elim
  | replaced entry => exact h.elim
  | failed what => rw [perform_cons_refused hfate hcode]; rfl
  | killedBefore => rw [perform_cons_cutBefore hfate]; rfl
  | killedAfter => rw [perform_cons_cutAfter hfate]; rfl

/-- The report of the last save is the result. -/
theorem perform_last (h : outcome.AllOrNothing) (hfate : fate 0 = fateOf outcome)
    (hcode : stage.failure = some code) :
    perform Device.apply ErrorCode.success [stage] fate d =
      (outcome.returned.map fun saved ↦ if saved then .success else code,
        savedDevice outcome stage.edit d) := by
  by_cases hret : outcome.returned = some true
  · have hstored := h.stored hret
    subst hstored
    rw [perform_cons_done hfate]
    rfl
  · rw [perform_stopped h hfate hcode hret]
    rcases hreturned : outcome.returned with _ | _ | _
    · rfl
    · rfl
    · exact absurd hreturned hret

theorem perform_last_passed (h : outcome.AllOrNothing) (hfate : fate 0 = fateOf outcome)
    (hcode : stage.failure = none) :
    perform Device.apply ErrorCode.success [stage] fate d =
      (outcome.returned.map fun _ ↦ .success, savedDevice outcome stage.edit d) := by
  cases outcome with
  | stored => rw [perform_cons_done hfate]; rfl
  | lost => exact h.elim
  | replaced entry => exact h.elim
  | failed what => rw [perform_cons_passed hfate hcode]; rfl
  | killedBefore => rw [perform_cons_cutBefore hfate]; rfl
  | killedAfter => rw [perform_cons_cutAfter hfate]; rfl

end Stages

/-! ## Sessions -/

/-- What a write leaves to see: a killed process has no session any more. -/
theorem view_exec_coded {c : Call} {p : ServiceAction ErrorCode} (hprog : c.prog P = coded p)
    (hinit : (p s).state.mem.initialized = s.mem.initialized)
    (hdown : (p s).state.mem.shuttingDown = s.mem.shuttingDown) :
    view P (exec P c s) =
      match (p s).val with
      | some _ => { view P s with device := deviceIn P (p s).state.disk }
      | none => { device := deviceIn P (p s).state.disk } := by
  rw [exec, Prog.settle, hprog, coded_val, coded_state]
  cases (p s).val with
  | none => rfl
  | some code => simp [view, hinit, hdown]

theorem transact_exec {c : Call} {p : ServiceAction ErrorCode} (hprog : c.prog P = coded p)
    (hinit : (p s).state.mem.initialized = s.mem.initialized)
    (hdown : (p s).state.mem.shuttingDown = s.mem.shuttingDown)
    {stages : List (Stage Device.Edit ErrorCode)} {fate : ℕ → Fate}
    (hperform : perform Device.apply ErrorCode.success stages fate (deviceIn P s.disk) =
      ((p s).val, deviceIn P (p s).state.disk)) :
    (view P s).transact stages fate = ((p s).val.map .code, view P (exec P c s)) := by
  have hdevice : (view P s).device = deviceIn P s.disk := rfl
  rw [view_exec_coded hprog hinit hdown, Provisioner.transact, hdevice, hperform]
  cases (p s).val <;> rfl

theorem exec_coded_unchanged {c : Call} {p : ServiceAction ErrorCode} {code : ErrorCode}
    (hprog : c.prog P = coded p) (hval : (p s).val = some code) (hstate : (p s).state = s) :
    exec P c s = s := by
  apply exec_eq
  · rw [hprog, coded_val, hval]
    simp
  · rw [hprog, coded_state, hstate]

theorem exec_uncoded_unchanged {α : Type} {c : Call} {p : ServiceAction α} {a : α}
    (hprog : c.prog P = uncoded p) (hval : (p s).val = some a) (hstate : (p s).state = s) :
    exec P c s = s := by
  apply exec_eq
  · rw [hprog]
    simp [uncoded, hval]
  · rw [hprog, uncoded_state, hstate]

variable (P) in
/-- The device answers the request of the call as the service does, and moves along. -/
def Refines (c : Call) (s : Machine ProvService) : Prop :=
  Provisioner.step s.mem.config.enableWriteProtection c.request (view P s) =
    (c.answer P s, view P (exec P c s))

/-! ## Binding calls -/

section Binding

variable {call : BindingCall} {protecting : Bool}

theorem conflicts_iff : (deviceIn P s.disk).conflicts vin = true ↔ Conflict P vin s := by
  unfold Device.conflicts Conflict
  rw [Option.any_eq_true]
  constructor
  · rintro ⟨old, hread, hold⟩
    rw [Bool.and_eq_true, bne_iff_ne] at hold
    exact ⟨old, hread, hold.1, hold.2.symm⟩
  · rintro ⟨old, hread, hlocked, hvin⟩
    refine ⟨old, hread, ?_⟩
    rw [Bool.and_eq_true, bne_iff_ne]
    exact ⟨hlocked, hvin.symm⟩

variable (env) in
theorem bindRefusal_notAdmitted (h : ¬ Admits P vin s call) :
    ∃ code, (view P s).bindRefusal (call = .authorizeRewrite) vin env.uid = some code ∧
      (call.run P env vin s).val = some code ∧ (call.run P env vin s).state = s := by
  have hup : (view P s).up = s.mem.initialized := rfl
  have hclosing : (view P s).closing = s.mem.shuttingDown := rfl
  unfold Provisioner.bindRefusal
  rw [hup, hclosing]
  cases hinit : s.mem.initialized with
  | false =>
      refine ⟨.invalidState, by simp, ?_⟩
      cases call <;> simp [BindingCall.run, writeVin, authorizeRewrite, hinit]
  | true =>
  cases hdown : s.mem.shuttingDown with
  | true =>
      refine ⟨.invalidState, by simp, ?_⟩
      cases call <;> simp [BindingCall.run, writeVin, authorizeRewrite, hinit, hdown]
  | false =>
  cases hvalid : VinValidator.validate vin with
  | false =>
      have hno : ¬ VinGrammar.IsVin vin := by
        rw [← VinValidator.validate_iff_isVin, hvalid]
        exact Bool.false_ne_true
      refine ⟨.invalidVinFormat, by simp [hno], ?_⟩
      cases call <;> simp [BindingCall.run, writeVin, authorizeRewrite, hinit, hdown,
        validateVinFormat_val, hvalid]
  | true =>
      have hconflict : call = .authorizeRewrite ∧ Conflict P vin s := by
        by_contra hno
        exact h ⟨hinit, hdown, hvalid, fun hcall hc ↦ hno ⟨hcall, hc⟩⟩
      obtain ⟨rfl, hconflict⟩ := hconflict
      have hvin : VinGrammar.IsVin vin := VinValidator.validate_iff_isVin.1 hvalid
      have hdevice : (view P s).device.conflicts vin = true := conflicts_iff.2 hconflict
      obtain ⟨binding, hread, hlocked, hother⟩ := hconflict
      refine ⟨.vinConflictUnauthorized, by simp [hvin, hdevice], ?_⟩
      simp [BindingCall.run, authorizeRewrite, hinit, hdown, validateVinFormat_val, hvalid,
        hread, hlocked, hother]

/-- Once a call is admitted, only the UID and the lock can refuse it. -/
theorem bindRefusal_admitted (h : Admits P vin s call) :
    (view P s).bindRefusal (call = .authorizeRewrite) vin env.uid =
      if !env.uid.success then some env.uid.errorCode
      else if protectedIn P (s.disk .protection) = true ∨ ¬ Utf8 env.uid.uid then
        some .vinWriteFailed
      else none := by
  have hup : (view P s).up = true := h.initialized
  have hclosing : (view P s).closing = false := h.running
  have hvin : VinGrammar.IsVin vin := VinValidator.validate_iff_isVin.1 h.valid
  have hpass : (decide (call = .authorizeRewrite) && (view P s).device.conflicts vin) = false := by
    rw [Bool.and_eq_false_iff]
    by_cases hcall : call = .authorizeRewrite
    · right
      rw [← Bool.not_eq_true]
      exact fun hc ↦ h.allowed hcall (conflicts_iff.1 hc)
    · left
      simpa using hcall
  have hlocked : (view P s).device.locked = protectedIn P (s.disk .protection) := rfl
  simp [Provisioner.bindRefusal, hup, hclosing, hvin, hpass, hlocked]

theorem bindRefusal_refuses (hP : P.json.Lawful) (hs : Coherent P s) {code : ErrorCode}
    (h : (view P s).bindRefusal (call = .authorizeRewrite) vin env.uid = some code) :
    (call.run P env vin s).val = some code ∧ (call.run P env vin s).state = s := by
  by_cases hadm : Admits P vin s call
  case neg =>
    obtain ⟨code', hrefusal, hrun⟩ := bindRefusal_notAdmitted env hadm
    rw [h, Option.some.injEq] at hrefusal
    rwa [hrefusal]
  rw [bindRefusal_admitted hadm] at h
  obtain ⟨hrun, hend⟩ := run_admitted env hadm
  cases huid : env.uid.success with
  | false =>
      obtain ⟨hval, hstate⟩ := executeVinBindingFlow_uidFailed P vin s huid
      rw [huid, Bool.not_false, if_pos rfl, Option.some.injEq] at h
      rw [← h]
      exact ⟨hrun.trans hval, hend.trans hstate⟩
  | true =>
  rw [huid, Bool.not_true, if_neg Bool.false_ne_true] at h
  have hflag := hs.linked hadm.initialized
  cases hprot : s.mem.storage.writeProtected with
  | true =>
      rw [if_pos (.inl (hflag.symm.trans hprot)), Option.some.injEq] at h
      rw [← h]
      exact run_protected hadm huid hprot
  | false =>
      have hutf8 : ¬ Utf8 env.uid.uid := by
        intro hutf8
        rw [if_neg] at h
        · cases h
        · rintro (hon | hno)
          · rw [← hflag, hprot] at hon
            cases hon
          · exact hno hutf8
      obtain ⟨e, he⟩ := sealed_written_error vin s hP hutf8
      obtain ⟨hval, hstate⟩ := establishBinding_unencodable hprot he
      obtain ⟨hval', hstate'⟩ := executeVinBindingFlow_of_establish huid hval hstate (by simp)
      rw [if_pos (.inr hutf8), Option.some.injEq] at h
      rw [← h]
      exact ⟨hrun.trans hval', hend.trans hstate'⟩

theorem binds_of_bindRefusal (hs : Coherent P s)
    (h : (view P s).bindRefusal (call = .authorizeRewrite) vin env.uid = none) :
    Binds P env vin s call := by
  have hadm : Admits P vin s call := by
    by_contra hno
    obtain ⟨code, hrefusal, -⟩ := bindRefusal_notAdmitted env hno
    rw [h] at hrefusal
    cases hrefusal
  rw [bindRefusal_admitted hadm] at h
  cases huid : env.uid.success with
  | false =>
      rw [huid] at h
      cases h
  | true =>
      rw [huid, Bool.not_true, if_neg Bool.false_ne_true] at h
      split at h
      case isTrue => cases h
      case isFalse hno =>
        rw [not_or, not_not] at hno
        refine ⟨hadm, huid, hno.2, ?_⟩
        rw [hs.linked hadm.initialized]
        simpa using hno.1

/-- The two records of a call, as they are read back. -/
theorem record_reread (state : ProvisionState) :
    ({ writtenRecord P env vin s with state } : VehicleBinding).reread =
      (deviceIn P s.disk).record vin env.uid.uid (env.clock 0) (env.clock 1) state := by
  have hbinding : (deviceIn P s.disk).binding = bindingIn P (s.disk .binding) := rfl
  have hzero : wholeSeconds 0 = 0 := rfl
  unfold writtenRecord newBinding Device.record
  rw [hbinding]
  cases bindingIn P (s.disk .binding) with
  | none => simp [VehicleBinding.reread, hzero]
  | some old =>
      by_cases hvin : old.vin = vin <;> simp [VehicleBinding.reread, hvin, hzero]

theorem written_reread :
    (writtenRecord P env vin s).reread =
      (deviceIn P s.disk).record vin env.uid.uid (env.clock 0) (env.clock 1) .vinWritten := by
  obtain ⟨-, -, hstate, -⟩ :=
    newBinding_fields env vin (bindingIn P (s.disk .binding)) env.uid.uid
  have hsame :
      { writtenRecord P env vin s with state := .vinWritten } = writtenRecord P env vin s := by
    rw [← hstate]
    rfl
  rw [← record_reread, hsame]

theorem bound_reread :
    (boundRecord P env vin s).reread =
      (deviceIn P s.disk).record vin env.uid.uid (env.clock 0) (env.clock 1) .bound :=
  record_reread .bound

section Flow

variable {c₀ c₁ k : Bytes} (hP : P.json.Lawful) (w : Writable P env vin s c₀ c₁ k)
include hP w

theorem afterFirst_device (hsave : (env.save 0).AllOrNothing) :
    deviceIn P (afterFirst env s c₀).disk =
      savedDevice (env.save 0) (.bind (writtenRecord P env vin s).reread) (deviceIn P s.disk) := by
  apply deviceIn_saved hsave
  rw [deviceIn_binding, w.bindingIn_written hP]
  rfl

theorem afterSecond_device (hsaves : ∀ n, (env.save n).AllOrNothing)
    (h₀ : (env.save 0).returned = some true) :
    deviceIn P (afterSecond env s c₀ c₁).disk =
      savedDevice (env.save 1) (.bind (boundRecord P env vin s).reread)
        (Device.apply (.bind (writtenRecord P env vin s).reread) (deviceIn P s.disk)) := by
  have hfirst := afterFirst_device hP w (hsaves 0)
  rw [(hsaves 0).stored h₀] at hfirst
  have hsecond : deviceIn P (afterSecond env s c₀ c₁).disk =
      savedDevice (env.save 1) (.bind (boundRecord P env vin s).reread)
        (deviceIn P (afterFirst env s c₀).disk) := by
    apply deviceIn_saved (hsaves 1)
    rw [deviceIn_binding, w.bindingIn_bound hP]
    rfl
  rw [hsecond, hfirst]
  rfl

theorem afterProtection_device {t : Machine ProvService} (hsave : (env.save 2).AllOrNothing) :
    deviceIn P (afterProtection env t k).disk =
      savedDevice (env.save 2) .lock (deviceIn P t.disk) := by
  apply deviceIn_saved hsave
  rw [deviceIn_protection, w.protectedIn_flag hP]
  rfl

end Flow

/-- The flow makes the edits of its transaction. -/
theorem FlowExit.performs (hP : P.json.Lawful) {code : Option ErrorCode}
    {t : Machine ProvService} (exit : FlowExit P env vin s code t) (h : Binds P env vin s call)
    (hsaves : ∀ n, (env.save n).AllOrNothing) :
    perform Device.apply ErrorCode.success
        (Provisioner.bindStages s.mem.config.enableWriteProtection
          ((deviceIn P s.disk).record vin env.uid.uid (env.clock 0) (env.clock 1) .vinWritten)
          ((deviceIn P s.disk).record vin env.uid.uid (env.clock 0) (env.clock 1) .bound))
        (fun n ↦ fateOf (env.save n)) (deviceIn P s.disk) =
      (code, deviceIn P t.disk) := by
  rw [← written_reread, ← bound_reread, Provisioner.bindStages_eq]
  cases exit with
  | uidFailed hfailed =>
      rw [h.uid] at hfailed
      cases hfailed
  | refused _ hon =>
      rw [h.unprotected] at hon
      cases hon
  | unencodable _ _ hno => exact absurd h.utf8 hno
  | first _ w h₀ =>
      rw [perform_stopped (hsaves 0) rfl rfl h₀, afterFirst_device hP w (hsaves 0)]
  | second _ w h₀ h₁ =>
      rw [perform_done (by simp [(hsaves 0).stored h₀, fateOf]),
        perform_stopped (hsaves 1) rfl rfl h₁, afterSecond_device hP w hsaves h₀]
  | readBack _ w h₀ h₁ hread =>
      refine absurd ⟨_, ?_, (boundRecord_reread P env vin s).1⟩ hread
      rw [afterSecond_binding, (hsaves 1).stored h₁]
      exact w.bindingIn_bound hP
  | unlocked _ w h₀ h₁ hread hcfg =>
      rw [perform_done (by simp [(hsaves 0).stored h₀, fateOf]),
        perform_done (by simp [(hsaves 1).stored h₁, fateOf]), hcfg, if_neg Bool.false_ne_true,
        perform_nil, afterSecond_device hP w hsaves h₀, (hsaves 1).stored h₁]
      rfl
  | lock _ w h₀ h₁ hread hcfg =>
      rw [perform_done (by simp [(hsaves 0).stored h₀, fateOf]),
        perform_done (by simp [(hsaves 1).stored h₁, fateOf]), hcfg, if_pos rfl,
        perform_last (hsaves 2) rfl rfl, afterProtection_device hP w (hsaves 2),
        afterSecond_device hP w hsaves h₀, (hsaves 1).stored h₁]
      rfl

/-- A binding call is answered as the device answers its request. -/
theorem binding_refines (hP : P.json.Lawful) (call : BindingCall) (hs : Coherent P s)
    (hsaves : ∀ n, (env.save n).AllOrNothing) :
    Refines P (.binding call env vin) s := by
  have hdevice : (view P s).device = deviceIn P s.disk := rfl
  simp only [Refines, Call.request, Call.answer, Provisioner.step, Provisioner.refuseOr, hdevice]
  cases hrefusal : (view P s).bindRefusal (call = .authorizeRewrite) vin env.uid with
  | some code =>
      obtain ⟨hval, hstate⟩ := bindRefusal_refuses hP hs hrefusal
      rw [exec_coded_unchanged rfl hval hstate, hval]
      rfl
  | none =>
      have hbinds := binds_of_bindRefusal hs hrefusal
      obtain ⟨hval, hstate⟩ := run_admitted env hbinds.admits
      have exit := executeVinBindingFlow_exit env s hP
        (VinValidator.utf8_of_validate hbinds.admits.valid)
      rw [← hval, ← hstate] at exit
      obtain ⟨hinit, hdown, -⟩ := exit.mem
      exact transact_exec rfl hinit hdown (exit.performs hP hbinds hsaves)

end Binding

/-! ## Configuration and production information -/

section Writes

variable {configData : List UInt8} {info : ProductionInfo}

theorem writeRefusal_eq (hs : Coherent P s) :
    (view P s).writeRefusal =
      if !s.mem.initialized || s.mem.shuttingDown then some .invalidState
      else if s.mem.storage.writeProtected then some .securityAccessNotGranted
      else none := by
  have hlocked : (view P s).device.locked = protectedIn P (s.disk .protection) := rfl
  have hup : (view P s).up = s.mem.initialized := rfl
  have hclosing : (view P s).closing = s.mem.shuttingDown := rfl
  rw [Provisioner.writeRefusal, hup, hclosing, hlocked]
  cases hinit : s.mem.initialized with
  | false => rfl
  | true => rw [hs.linked hinit]

theorem writesAdmitted_iff (hs : Coherent P s) :
    (view P s).writeRefusal = none ↔ WritesAdmitted s := by
  rw [writeRefusal_eq hs, WritesAdmitted]
  cases s.mem.initialized <;> cases s.mem.shuttingDown <;>
    cases s.mem.storage.writeProtected <;> simp

theorem writeVehicleConfig_refuses (hs : Coherent P s) {code : ErrorCode}
    (h : (view P s).writeRefusal = some code) :
    (writeVehicleConfig P env configData s).val = some code ∧
      (writeVehicleConfig P env configData s).state = s := by
  rw [writeRefusal_eq hs] at h
  cases hinit : s.mem.initialized with
  | false =>
      obtain rfl : ErrorCode.invalidState = code := by simpa [hinit] using h
      simp [writeVehicleConfig, hinit]
  | true =>
  cases hdown : s.mem.shuttingDown with
  | true =>
      obtain rfl : ErrorCode.invalidState = code := by simpa [hdown] using h
      simp [writeVehicleConfig, hinit, hdown]
  | false =>
  cases hprot : s.mem.storage.writeProtected with
  | true =>
      obtain rfl : ErrorCode.securityAccessNotGranted = code := by
        simpa [hinit, hdown, hprot] using h
      simp [writeVehicleConfig, hinit, hdown, hprot]
  | false => simp [hinit, hdown, hprot] at h

theorem writeProductionInfo_refuses (hs : Coherent P s) {code : ErrorCode}
    (h : (view P s).writeRefusal = some code) :
    (writeProductionInfo P env info s).val = some code ∧
      (writeProductionInfo P env info s).state = s := by
  rw [writeRefusal_eq hs] at h
  cases hinit : s.mem.initialized with
  | false =>
      obtain rfl : ErrorCode.invalidState = code := by simpa [hinit] using h
      simp [writeProductionInfo, hinit]
  | true =>
  cases hdown : s.mem.shuttingDown with
  | true =>
      obtain rfl : ErrorCode.invalidState = code := by simpa [hdown] using h
      simp [writeProductionInfo, hinit, hdown]
  | false =>
  cases hprot : s.mem.storage.writeProtected with
  | true =>
      obtain rfl : ErrorCode.securityAccessNotGranted = code := by
        simpa [hinit, hdown, hprot] using h
      simp [writeProductionInfo, hinit, hdown, hprot]
  | false => simp [hinit, hdown, hprot] at h

theorem reread_unverified :
    (unverifiedConfig env configData).reread =
      { variantCoding := configData, writtenAt := wholeSeconds (env.clock 0) } := rfl

theorem reread_verified :
    (verifiedConfig env configData).reread =
      { variantCoding := configData, writtenAt := wholeSeconds (env.clock 0),
        verified := true } := rfl

/-- If the first save does not report success, it is all there is. -/
theorem writeVehicleConfig_stopped {c₀ : Bytes} (hadm : WritesAdmitted s)
    (hc₀ : sealed P (serializeConfig P (unverifiedConfig env configData)) = .ok c₀)
    (hret : (env.save 0).returned ≠ some true) :
    (writeVehicleConfig P env configData s).val =
        (env.save 0).returned.map (fun _ ↦ .configWriteFailed) ∧
      (writeVehicleConfig P env configData s).state.disk =
        Function.update s.disk .config ((env.save 0).leaves c₀ (s.disk .config)) := by
  obtain ⟨hinit, hrunning, hprot⟩ := hadm
  obtain ⟨hval, hstate⟩ := configSave_first hprot hc₀
  rcases hreturned : (env.save 0).returned with _ | _ | _
  · simp [writeVehicleConfig, hinit, hrunning, hprot, hval, hstate, hreturned, firstEntry]
  · simp [writeVehicleConfig, hinit, hrunning, hprot, hval, hstate, hreturned, firstEntry,
      ProtectedStorageImpl.savedCode]
  · exact absurd hreturned hret

theorem writeVehicleConfig_performs (hP : P.json.Lawful) (hadm : WritesAdmitted s)
    (hsaves : ∀ n, (env.save n).AllOrNothing) :
    perform Device.apply ErrorCode.success
        (Provisioner.configureStages configData (env.clock 0)) (fun n ↦ fateOf (env.save n))
        (deviceIn P s.disk) =
      ((writeVehicleConfig P env configData s).val,
        deviceIn P (writeVehicleConfig P env configData s).state.disk) := by
  obtain ⟨c₀, c₁, hc₀, hc₁⟩ := exists_configs hP env configData
  have hread₀ := configIn_sealed hP hc₀
  have hread₁ := configIn_sealed hP hc₁
  have hnew₀ : deviceIn P (Function.update s.disk .config (.file c₀)) =
      Device.apply (.configure (unverifiedConfig env configData).reread) (deviceIn P s.disk) := by
    rw [deviceIn_config, hread₀]
    rfl
  rw [Provisioner.configureStages, ← reread_unverified, ← reread_verified]
  by_cases h₀ : (env.save 0).returned = some true
  case neg =>
    obtain ⟨hval, hdisk⟩ := writeVehicleConfig_stopped hadm hc₀ h₀
    rw [perform_stopped (hsaves 0) rfl rfl h₀, hval, hdisk, deviceIn_saved (hsaves 0) hnew₀]
  have hstored := (hsaves 0).stored h₀
  have hentry₀ : firstEntry env s c₀ = .file c₀ := by rw [firstEntry, hstored]; rfl
  have hval : (writeVehicleConfig P env configData s).val =
      (env.save 1).returned.map fun _ ↦ .success := by
    rw [writeVehicleConfig_val hadm hc₀ hc₁, h₀, hentry₀, hread₀]
    simp [reread_unverified]
  have hcoded : Coded P configData (firstEntry env s c₀) := by
    rw [hentry₀]
    exact ⟨_, hread₀, rfl⟩
  have hdisk : (writeVehicleConfig P env configData s).state.disk =
      Function.update (Function.update s.disk .config (.file c₀)) .config
        ((env.save 1).leaves c₁ (Function.update s.disk .config (.file c₀) .config)) := by
    have hframe := writeVehicleConfig_frame P env configData s
    funext key
    by_cases hkey : key = .config
    · subst hkey
      rw [writeVehicleConfig_entry hadm hc₀ hc₁ h₀ hcoded, hentry₀, Function.update_self,
        Function.update_self]
    · rw [hframe.other key hkey, Function.update_of_ne hkey, Function.update_of_ne hkey]
  have hnew₁ : deviceIn P (Function.update (Function.update s.disk .config (.file c₀)) .config
        (.file c₁)) =
      Device.apply (.configure (verifiedConfig env configData).reread)
        (deviceIn P (Function.update s.disk .config (.file c₀))) := by
    rw [deviceIn_config, hread₁]
    rfl
  rw [perform_done (by simp [hstored, fateOf]), perform_last_passed (hsaves 1) rfl rfl, hval, hdisk,
    deviceIn_saved (hsaves 1) hnew₁, hnew₀]

theorem writeVehicleConfig_refines (hP : P.json.Lawful) (hs : Coherent P s)
    (hsaves : ∀ n, (env.save n).AllOrNothing) :
    Refines P (.writeVehicleConfig env configData) s := by
  have hframe := writeVehicleConfig_frame P env configData s
  simp only [Refines, Call.request, Call.answer, Provisioner.step, Provisioner.refuseOr]
  cases hrefusal : (view P s).writeRefusal with
  | some code =>
      obtain ⟨hval, hstate⟩ := writeVehicleConfig_refuses hs hrefusal
      rw [exec_coded_unchanged rfl hval hstate, hval]
      rfl
  | none =>
      have hadm := (writesAdmitted_iff hs).1 hrefusal
      exact transact_exec rfl (by rw [hframe.mem]) (by rw [hframe.mem])
        (writeVehicleConfig_performs hP hadm hsaves)

variable (env) in
theorem infoContent_error (hP : P.json.Lawful) (h : ¬ info.Utf8) :
    ∃ e, infoContent P env info = .error e := by
  cases hcontent : infoContent P env info with
  | error e => exact ⟨e, rfl⟩
  | ok content => exact absurd (utf8_of_productionInfoJson (utf8_of_sealed hP hcontent)) h

variable (env) in
theorem exists_infoContent (hP : P.json.Lawful) (h : info.Utf8) :
    ∃ content, infoContent P env info = .ok content :=
  exists_sealed hP (productionInfoJson_plain _) (productionInfoJson_utf8 h)

theorem writeProductionInfo_unwritable_state (hadm : WritesAdmitted s) {e : Exception}
    (hcontent : infoContent P env info = .error e) :
    (writeProductionInfo P env info s).state = s := by
  obtain ⟨hinit, hrunning, hprot⟩ := hadm
  obtain ⟨hval, hstate⟩ := writeRecord_error P s (env.save 0) .productionInfo
    "Failed to write production info: " hprot hcontent
  simp [writeProductionInfo, hinit, hrunning, hprot, ProtectedStorageImpl.writeProductionInfo,
    hval, hstate]

theorem labelRefusal_refuses (hP : P.json.Lawful) (hs : Coherent P s) {code : ErrorCode}
    (h : (view P s).labelRefusal info = some code) :
    (writeProductionInfo P env info s).val = some code ∧
      (writeProductionInfo P env info s).state = s := by
  unfold Provisioner.labelRefusal at h
  cases hrefusal : (view P s).writeRefusal with
  | some refused =>
      rw [hrefusal] at h
      obtain rfl : refused = code := Option.some.inj h
      exact writeProductionInfo_refuses hs hrefusal
  | none =>
      have hadm := (writesAdmitted_iff hs).1 hrefusal
      rw [hrefusal, Option.none_or] at h
      split at h
      case isFalse => cases h
      case isTrue hinvalid =>
        obtain ⟨e, he⟩ := infoContent_error env hP hinvalid
        rw [← Option.some.inj h]
        exact ⟨writeProductionInfo_unwritable hadm he,
          writeProductionInfo_unwritable_state hadm he⟩

theorem labelRefusal_none (hs : Coherent P s) (h : (view P s).labelRefusal info = none) :
    WritesAdmitted s ∧ info.Utf8 := by
  unfold Provisioner.labelRefusal at h
  cases hrefusal : (view P s).writeRefusal with
  | some refused =>
      rw [hrefusal] at h
      cases h
  | none =>
      rw [hrefusal, Option.none_or] at h
      split at h
      case isTrue => cases h
      case isFalse hvalid => exact ⟨(writesAdmitted_iff hs).1 hrefusal, not_not.1 hvalid⟩

theorem writeProductionInfo_performs (hP : P.json.Lawful) (hadm : WritesAdmitted s)
    (hutf8 : info.Utf8) (hsaves : ∀ n, (env.save n).AllOrNothing) :
    perform Device.apply ErrorCode.success (Provisioner.labelStages info (env.clock 0))
        (fun n ↦ fateOf (env.save n)) (deviceIn P s.disk) =
      ((writeProductionInfo P env info s).val,
        deviceIn P (writeProductionInfo P env info s).state.disk) := by
  obtain ⟨content, hcontent⟩ := exists_infoContent env hP hutf8
  have hread := productionInfoIn_sealed hP hcontent
  obtain ⟨hval, hstate⟩ := writeProductionInfo_saved hadm hcontent
  have hnew : deviceIn P (Function.update s.disk .productionInfo (.file content)) =
      Device.apply (.label { info with writtenAt := wholeSeconds (env.clock 0) })
        (deviceIn P s.disk) := by
    rw [deviceIn_productionInfo, hread]
    rfl
  rw [hval, hstate, Provisioner.labelStages, perform_last (hsaves 0) rfl rfl, Machine.put_disk,
    deviceIn_saved (hsaves 0) hnew]
  congr 1
  rcases hret : (env.save 0).returned with _ | _ | _
  · rfl
  · rfl
  · rw [(hsaves 0).stored hret, SaveOutcome.leaves, hread]
    simp [SameInfo, ProductionInfo.reread]

theorem writeProductionInfo_refines (hP : P.json.Lawful) (hs : Coherent P s)
    (hsaves : ∀ n, (env.save n).AllOrNothing) :
    Refines P (.writeProductionInfo env info) s := by
  have hframe := writeProductionInfo_frame P env info s
  simp only [Refines, Call.request, Call.answer, Provisioner.step, Provisioner.refuseOr]
  cases hrefusal : (view P s).labelRefusal info with
  | some code =>
      obtain ⟨hval, hstate⟩ := labelRefusal_refuses hP hs hrefusal
      rw [exec_coded_unchanged rfl hval hstate, hval]
      rfl
  | none =>
      obtain ⟨hadm, hutf8⟩ := labelRefusal_none hs hrefusal
      exact transact_exec rfl (by rw [hframe.mem]) (by rw [hframe.mem])
        (writeProductionInfo_performs hP hadm hutf8 hsaves)

end Writes

/-! ## The other calls -/

theorem initializeService_refines (hs : Coherent P s) : Refines P (.initializeService env) s := by
  simp only [Refines, Call.request, Call.answer, Provisioner.step]
  have hup : (view P s).up = s.mem.initialized := rfl
  rw [hup]
  cases hinit : s.mem.initialized with
  | true =>
      obtain ⟨hval, hstate⟩ := initializeService_again P env s hinit
      rw [exec_coded_unchanged rfl hval hstate, hval]
      rfl
  | false =>
  cases hdirs : env.rootDir.usable && env.serviceDir.usable with
  | true =>
      obtain ⟨hval, hstate⟩ := initializeService_opened P env s hinit ⟨hdirs, hs.visible⟩
      have hexec : exec P (.initializeService env) s = (initializeService P env s).state := by
        apply exec_eq
        · rw [Call.prog, coded_val, hval]
          simp
        · rw [Call.prog, coded_state]
      rw [hexec, hval, hstate]
      rfl
  | false =>
      have hopen : ¬ Opens env s.disk := by
        rintro ⟨hon, -⟩
        rw [hdirs] at hon
        cases hon
      obtain ⟨hval, hdisk, hoff, hdown, -⟩ := initializeService_closed P env s hinit hopen
      have hexec : exec P (.initializeService env) s = (initializeService P env s).state := by
        apply exec_eq
        · rw [Call.prog, coded_val, hval]
          simp
        · rw [Call.prog, coded_state]
      rw [hexec, hval]
      simp [view, hdisk, hoff, hdown, hinit]

theorem beginShutdown_refines : Refines P .beginShutdown s := by
  have hexec : exec P .beginShutdown s = ⟨s.disk, { s.mem with shuttingDown := true }⟩ := by
    apply exec_eq
    · rw [Call.prog]
      simp [uncoded]
    · rw [Call.prog, uncoded_state, beginShutdown_state]
  simp only [Refines, Call.request, Call.answer, Provisioner.step, hexec, beginShutdown_val]
  rfl

theorem readVin_refines : Refines P .readVin s := by
  have hval := readVin_returns P s
  simp only [Refines, Call.request, Call.answer, Provisioner.step]
  rw [exec_uncoded_unchanged rfl hval (readVin_state P s), hval]
  rfl

theorem readBinding_refines : Refines P (.readBinding env) s := by
  have hval := readBinding_val P env s
  simp only [Refines, Call.request, Call.answer, Provisioner.step]
  rw [exec_uncoded_unchanged rfl hval (readBinding_state P env s), hval]
  rfl

theorem getProvisionState_refines : Refines P .getProvisionState s := by
  have hval := getProvisionState_returns P s
  simp only [Refines, Call.request, Call.answer, Provisioner.step]
  rw [exec_uncoded_unchanged rfl hval (getProvisionState_state P s), hval]
  rfl

theorem isInitialized_refines : Refines P .isInitialized s := by
  have hval : (isInitialized s).val = some s.mem.initialized := by simp [isInitialized]
  simp only [Refines, Call.request, Call.answer, Provisioner.step]
  rw [exec_uncoded_unchanged rfl hval (isInitialized_state s), hval]
  rfl

/-- One step: the device answers every call as the service does. -/
theorem call_refines (hP : P.json.Lawful) (c : Call) (hsaves : c.WholeSaves)
    (hs : Coherent P s) : Refines P c s := by
  cases c with
  | initializeService env => exact initializeService_refines hs
  | beginShutdown => exact beginShutdown_refines
  | binding call env vin => exact binding_refines hP call hs hsaves
  | writeVehicleConfig env configData => exact writeVehicleConfig_refines hP hs hsaves
  | writeProductionInfo env info => exact writeProductionInfo_refines hP hs hsaves
  | readVin => exact readVin_refines
  | readBinding env => exact readBinding_refines
  | getProvisionState => exact getProvisionState_refines
  | isInitialized => exact isInitialized_refines
  | restart => rfl

/-! ## Runs -/

section Runs

variable (P) in
/-- Coherence, under the configuration the service was made with. -/
structure Serving (protecting : Bool) (s : Machine ProvService) : Prop where
  coherent : Coherent P s
  config : s.mem.config.enableWriteProtection = protecting

theorem Serving.after (hP : P.json.Lawful) {protecting : Bool} (c : Call)
    (s : Machine ProvService) (hsaves : c.WholeSaves) (h : Serving P protecting s) :
    Serving P protecting (c.answered P s).2 := by
  refine ⟨h.coherent.after_exec hP hsaves, ?_⟩
  have hcfg := exec_config hP c s
  rw [Call.answered, hcfg]
  exact h.config

theorem answered_refines (hP : P.json.Lawful) {protecting : Bool} (c : Call)
    (s : Machine ProvService) (hsaves : c.WholeSaves) (h : Serving P protecting s) :
    Provisioner.step protecting c.request (view P s) =
      ((c.answered P s).1, view P (c.answered P s).2) := by
  rw [← h.config]
  exact call_refines hP c hsaves h.coherent

theorem serving_fresh (config : ProvServiceConfig) :
    Serving P config.enableWriteProtection (fresh config Disk.empty) :=
  ⟨coherent_fresh config, rfl⟩

/-- The service refines the device: under saves that are all or nothing every list of
calls, with kills and restarts in it, is answered as the device answers it and leaves what
the device then holds. -/
theorem service_refines_device (hP : P.json.Lawful) {protecting : Bool}
    (hs : Serving P protecting s) {calls : List Call} (hsaves : ∀ c ∈ calls, c.WholeSaves) :
    trace (Provisioner.step protecting) (calls.map Call.request) (view P s) =
      ((trace (Call.answered P) calls s).1, view P (run (exec P) calls s)) := by
  have hrun : (trace (Call.answered P) calls s).2 = run (exec P) calls s := by
    rw [trace_state]
    rfl
  rw [trace_refines (Serving.after hP) (answered_refines hP) hsaves hs, hrun]

/-- The process dies after the bound record is saved, and the VIN is written again. -/
def interruptedCalls : List Call :=
  [.initializeService sampleEnv, .binding .writeVin killedEnv sampleVin,
   .initializeService sampleEnv, .binding .writeVin sampleEnv sampleVin]

theorem interruptedCalls_whole : ∀ c ∈ interruptedCalls, c.WholeSaves := by
  have hkilled : ∀ n, (killedEnv.save n).AllOrNothing := by
    intro n
    unfold killedEnv
    dsimp only
    split <;> trivial
  intro c hc
  simp only [interruptedCalls, List.mem_cons, List.not_mem_nil, or_false] at hc
  rcases hc with rfl | rfl | rfl | rfl
  · trivial
  · exact hkilled
  · trivial
  · exact fun _ ↦ trivial

theorem service_refines_device_sample :
    trace (Provisioner.step true) (interruptedCalls.map Call.request)
        (view textPlatform (fresh {} Disk.empty)) =
      ((trace (Call.answered textPlatform) interruptedCalls (fresh {} Disk.empty)).1,
        view textPlatform (run (exec textPlatform) interruptedCalls (fresh {} Disk.empty))) :=
  service_refines_device textPlatform_lawful (serving_fresh {}) interruptedCalls_whole

end Runs

end TboxProv.ProvService
