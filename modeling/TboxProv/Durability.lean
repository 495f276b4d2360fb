import TboxProv.DeviceRefinement
import TboxProv.DeviceRuns

/-!
# What survives on a device

The results about devices, read back as results about the service: over saves that are all
or nothing, with kills and restarts anywhere, records are not lost, not invented, and a
device that is not locked can still be provisioned.
-/

namespace TboxProv.ProvService

open Crash Store

variable {P : Platform} {s : Machine ProvService} {protecting : Bool} {calls : List Call}

/-- A run of the service is seen as a run of the device. -/
theorem view_run (hP : P.json.Lawful) (hs : Serving P protecting s)
    (hsaves : ∀ c ∈ calls, c.WholeSaves) :
    view P (run (exec P) calls s) =
      run (Provisioner.next protecting) (calls.map Call.request) (view P s) := by
  have htrace := trace_refines (Serving.after hP) (answered_refines hP) hsaves hs
  have hview := congrArg Prod.snd htrace
  rw [trace_state, trace_state] at hview
  exact hview.symm

theorem deviceIn_run (hP : P.json.Lawful) (hs : Serving P protecting s)
    (hsaves : ∀ c ∈ calls, c.WholeSaves) :
    deviceIn P (run (exec P) calls s).disk =
      (run (Provisioner.next protecting) (calls.map Call.request) (view P s)).device :=
  congrArg Provisioner.device (view_run hP hs hsaves)

theorem serving_run (hP : P.json.Lawful) (hs : Serving P protecting s)
    (hsaves : ∀ c ∈ calls, c.WholeSaves) : Serving P protecting (run (exec P) calls s) :=
  run_invariant (fun c s hc hs ↦ hs.after hP c s hc) hsaves hs

/-! ## Damaged records -/

section Damage

variable (P) in
/-- The entry cannot be told from a missing file by the reader of its key. -/
def Damaged (entry : Entry) : Key → Prop
  | .binding => bindingIn P entry = none
  | .config => configIn P entry = none
  | .productionInfo => productionInfoIn P entry = none
  | .protection => protectedIn P entry = false ∧ ∀ what, entry ≠ .inaccessible what

theorem deviceIn_damaged {disk : Disk} {key : Key} {entry : Entry} (h : Damaged P entry key) :
    deviceIn P (Function.update disk key entry) =
      deviceIn P (Function.update disk key .absent) := by
  cases key with
  | binding =>
      rw [deviceIn_binding, deviceIn_binding, show bindingIn P entry = none from h]
      rfl
  | config =>
      rw [deviceIn_config, deviceIn_config, show configIn P entry = none from h]
      rfl
  | productionInfo =>
      rw [deviceIn_productionInfo, deviceIn_productionInfo,
        show productionInfoIn P entry = none from h]
      rfl
  | protection =>
      rw [deviceIn_protection, deviceIn_protection, h.1]
      rfl

theorem serving_of_visible (config : ProvServiceConfig) {disk : Disk} (h : Visible disk) :
    Serving P config.enableWriteProtection (fresh config disk) := by
  refine ⟨⟨fun hinit ↦ ?_, h⟩, rfl⟩
  cases hinit

theorem Visible.update {disk : Disk} (h : Visible disk) {key : Key} {entry : Entry}
    (hentry : key = .protection → ∀ what, entry ≠ .inaccessible what) :
    Visible (Function.update disk key entry) := by
  intro what hwhat
  by_cases hkey : key = .protection
  · subst hkey
    rw [Function.update_self] at hwhat
    exact hentry rfl what hwhat
  · rw [Function.update_of_ne (Ne.symm hkey)] at hwhat
    exact h what hwhat

/-- Whatever a damaged file holds, every later call is answered as if there were no file. -/
theorem damaged_as_missing (hP : P.json.Lawful) (config : ProvServiceConfig) {disk : Disk}
    (hdisk : Visible disk) {key : Key} {entry : Entry} (h : Damaged P entry key)
    {calls : List Call} (hsaves : ∀ c ∈ calls, c.WholeSaves) :
    (trace (Call.answered P) calls (fresh config (Function.update disk key entry))).1 =
      (trace (Call.answered P) calls (fresh config (Function.update disk key .absent))).1 := by
  have hdamaged : Visible (Function.update disk key entry) := by
    apply hdisk.update
    rintro rfl
    exact h.2
  have hmissing : Visible (Function.update disk key .absent) := by
    apply hdisk.update
    intro _ what hwhat
    cases hwhat
  have hview : view P (fresh config (Function.update disk key entry)) =
      view P (fresh config (Function.update disk key .absent)) := by
    simp only [view, fresh, deviceIn_damaged h]
  exact trace_eq_of_view_eq (Serving.after hP) (answered_refines hP) hsaves
    (serving_of_visible config hdamaged) (serving_of_visible config hmissing) hview

theorem damaged_as_missing_sample :
    (trace (Call.answered textPlatform) interruptedCalls
        (fresh {} (Function.update Disk.empty .protection (.file [])))).1 =
      (trace (Call.answered textPlatform) interruptedCalls
        (fresh {} (Function.update Disk.empty .protection .absent))).1 := by
  have hdamaged : Damaged textPlatform (.file []) .protection := ⟨rfl, nofun⟩
  exact damaged_as_missing textPlatform_lawful {} (fun _ h ↦ by cases h) hdamaged
    interruptedCalls_whole

end Damage

/-! ## Records are not lost -/

/-- A record that can be read once can be read ever after, and a protection that is stored
once stays stored. -/
theorem records_not_lost (hP : P.json.Lawful) (hs : Serving P protecting s)
    (hsaves : ∀ c ∈ calls, c.WholeSaves) :
    ((bindingIn P (s.disk .binding)).isSome →
        (bindingIn P ((run (exec P) calls s).disk .binding)).isSome) ∧
      ((configIn P (s.disk .config)).isSome →
        (configIn P ((run (exec P) calls s).disk .config)).isSome) ∧
      ((productionInfoIn P (s.disk .productionInfo)).isSome →
        (productionInfoIn P ((run (exec P) calls s).disk .productionInfo)).isSome) ∧
      (protectedIn P (s.disk .protection) = true →
        protectedIn P ((run (exec P) calls s).disk .protection) = true) := by
  have hkept := Provisioner.run_kept protecting (calls.map Call.request) (view P s)
  rw [← deviceIn_run hP hs hsaves] at hkept
  exact ⟨hkept.binding, hkept.config, hkept.productionInfo, hkept.locked⟩

theorem records_not_lost_sample :
    protectedIn textPlatform
      ((run (exec textPlatform) interruptedCalls (firstBinding {})).disk .protection) = true := by
  have hfirst : ∀ c ∈ [.initializeService sampleEnv, .binding .writeVin sampleEnv sampleVin],
      Call.WholeSaves c := by
    simp [Call.WholeSaves, sampleEnv, SaveOutcome.AllOrNothing]
  have hs : Serving textPlatform true (firstBinding {}) :=
    serving_run textPlatform_lawful (serving_fresh {}) hfirst
  exact (records_not_lost textPlatform_lawful hs interruptedCalls_whole).2.2.2
    ((firstBinding_boundBy {}).locked rfl).2

/-! ## Records are not invented -/

variable (P) in
/-- Everything on the disk is accounted for by one of the calls. -/
structure AccountedFor (config : ProvServiceConfig) (calls : List Call) (disk : Disk) : Prop where
  binding : ∀ record, bindingIn P (disk .binding) = some record →
    (∃ call env, Call.binding call env record.vin ∈ calls ∧
        VinValidator.validate record.vin = true ∧ env.uid.success = true ∧
        record.ecuUid = env.uid.uid ∧ record.boundAt = wholeSeconds (env.clock 0)) ∧
      (record.state = .vinWritten ∨ record.state = .bound) ∧ record.sn = [] ∧
      record.locked = false ∧ record.lastError = [] ∧ record.retryCount = 0
  rewrites : ∀ record, bindingIn P (disk .binding) = some record →
    record.rewriteCount.toNat < calls.countP fun c ↦ Provisioner.isBind c.request
  vehicleConfig : ∀ record, configIn P (disk .config) = some record →
    ∃ env, Call.writeVehicleConfig env record.variantCoding ∈ calls ∧
      record.writtenAt = wholeSeconds (env.clock 0)
  productionInfo : ∀ record, productionInfoIn P (disk .productionInfo) = some record →
    ∃ env info, Call.writeProductionInfo env info ∈ calls ∧
      record = { info with writtenAt := wholeSeconds (env.clock 0) }
  protection : protectedIn P (disk .protection) = true → config.enableWriteProtection = true ∧
    ∃ record call env, bindingIn P (disk .binding) = some record ∧ record.state = .bound ∧
      Call.binding call env record.vin ∈ calls ∧ env.uid.success = true ∧
        record.ecuUid = env.uid.uid ∧ env.save 0 = .stored ∧ env.save 1 = .stored ∧
          (env.save 2 = .stored ∨ env.save 2 = .killedAfter)

theorem exists_binding_of_request {rewrite : Bool} {vin : Bytes} {uid : UidReadResult}
    {boundAt rewrittenAt : TimePoint} {fate : ℕ → Fate}
    (h : Request.bind rewrite vin uid boundAt rewrittenAt fate ∈ calls.map Call.request) :
    ∃ call env, Call.binding call env vin ∈ calls ∧ env.uid = uid ∧ env.clock 0 = boundAt ∧
      ∀ n, fateOf (env.save n) = fate n := by
  obtain ⟨c, hmem, hc⟩ := List.mem_map.1 h
  cases c with
  | binding call env vin' =>
      obtain ⟨-, rfl, huid, hbound, -, hfate⟩ := Request.bind.inj hc
      exact ⟨call, env, hmem, huid, hbound, congrFun hfate⟩
  | _ => cases hc

theorem stored_of_fate {outcome : SaveOutcome} (h : outcome.AllOrNothing)
    (hfate : fateOf outcome = .done) : outcome = .stored := by
  cases outcome with
  | stored => rfl
  | lost | replaced => exact h.elim
  | failed | killedBefore | killedAfter => cases hfate

theorem killedAfter_of_fate {outcome : SaveOutcome} (hfate : fateOf outcome = .cutAfter) :
    outcome = .killedAfter := by
  cases outcome with
  | killedAfter => rfl
  | stored | lost | replaced | failed | killedBefore => cases hfate

theorem exists_config_of_request {data : List UInt8} {writtenAt : TimePoint} {fate : ℕ → Fate}
    (h : Request.configure data writtenAt fate ∈ calls.map Call.request) :
    ∃ env, Call.writeVehicleConfig env data ∈ calls ∧ env.clock 0 = writtenAt := by
  obtain ⟨c, hmem, hc⟩ := List.mem_map.1 h
  cases c with
  | writeVehicleConfig env configData =>
      obtain ⟨rfl, hwritten, -⟩ := Request.configure.inj hc
      exact ⟨env, hmem, hwritten⟩
  | _ => cases hc

theorem exists_info_of_request {info : ProductionInfo} {writtenAt : TimePoint} {fate : ℕ → Fate}
    (h : Request.label info writtenAt fate ∈ calls.map Call.request) :
    ∃ env, Call.writeProductionInfo env info ∈ calls ∧ env.clock 0 = writtenAt := by
  obtain ⟨c, hmem, hc⟩ := List.mem_map.1 h
  cases c with
  | writeProductionInfo env info' =>
      obtain ⟨rfl, hwritten, -⟩ := Request.label.inj hc
      exact ⟨env, hmem, hwritten⟩
  | _ => cases hc

theorem deviceIn_empty : deviceIn P Disk.empty = {} := rfl

section FromEmpty

variable (hP : P.json.Lawful) (config : ProvServiceConfig) (hsaves : ∀ c ∈ calls, c.WholeSaves)
include hP hsaves

theorem sourced_from_empty :
    Device.Sourced config.enableWriteProtection (calls.map Call.request)
      (deviceIn P (run (exec P) calls (fresh config Disk.empty)).disk) := by
  rw [deviceIn_run hP (serving_fresh config) hsaves]
  exact Provisioner.run_sourced config.enableWriteProtection _ deviceIn_empty

theorem counted_from_empty :
    Provisioner.Counted (calls.countP fun c ↦ Provisioner.isBind c.request)
      (deviceIn P (run (exec P) calls (fresh config Disk.empty)).disk) := by
  have hstart : Provisioner.Counted 0 (view P (fresh config Disk.empty)).device := by
    intro record hrecord
    cases hrecord
  have hcounted := Provisioner.run_counted config.enableWriteProtection
    (calls.map Call.request) hstart
  rw [← deviceIn_run hP (serving_fresh config) hsaves, List.countP_map, Nat.zero_add] at hcounted
  exact hcounted

theorem locked_from_empty :
    Provisioner.LockedBound (calls.map Call.request)
      (deviceIn P (run (exec P) calls (fresh config Disk.empty)).disk) := by
  rw [deviceIn_run hP (serving_fresh config) hsaves]
  exact Provisioner.run_lockedBound config.enableWriteProtection _ deviceIn_empty

/-- What a run leaves on an empty store is what its calls have put there. -/
theorem records_accounted_for :
    AccountedFor P config calls (run (exec P) calls (fresh config Disk.empty)).disk := by
  have hsourced := sourced_from_empty hP config hsaves
  have hcounted := counted_from_empty hP config hsaves
  refine ⟨fun record hread ↦ ?_, fun record hread ↦ hcounted record hread, fun record hread ↦ ?_,
    fun record hread ↦ ?_, fun hprotected ↦ ⟨hsourced.locked hprotected, ?_⟩⟩
  · obtain ⟨rewrite, vin, uid, boundAt, rewrittenAt, fate, hmem, hvin, huid, hstate, hrecord⟩ :=
      hsourced.binding record hread
    obtain ⟨call, env, hcall, henv, hclock, -⟩ := exists_binding_of_request hmem
    subst henv hclock
    rw [hrecord]
    exact ⟨⟨call, env, hcall, VinValidator.validate_iff_isVin.2 hvin, huid, rfl, rfl⟩, hstate, rfl,
      rfl, rfl, rfl⟩
  · obtain ⟨data, writtenAt, fate, hmem, hrecord⟩ := hsourced.config record hread
    obtain ⟨env, hcall, hclock⟩ := exists_config_of_request hmem
    subst hclock
    rw [hrecord]
    exact ⟨env, hcall, rfl⟩
  · obtain ⟨info, writtenAt, fate, hmem, hrecord⟩ := hsourced.productionInfo record hread
    obtain ⟨env, hcall, hclock⟩ := exists_info_of_request hmem
    subst hclock
    exact ⟨env, info, hcall, hrecord⟩
  · obtain ⟨record, hread, _, vin, uid, _, _, fate, hmem, huid, -, hfate₀, hfate₁, hfate₂, rfl,
      hrecordUid, hstate⟩ := locked_from_empty hP config hsaves hprotected
    obtain ⟨call, env, hcall, rfl, -, hfate⟩ := exists_binding_of_request hmem
    have hwhole : ∀ n, (env.save n).AllOrNothing := hsaves _ hcall
    refine ⟨record, call, env, hread, hstate, hcall, huid, hrecordUid,
      stored_of_fate (hwhole 0) ((hfate 0).trans hfate₀),
      stored_of_fate (hwhole 1) ((hfate 1).trans hfate₁), hfate₂.imp (fun hdone ↦ ?_) fun hcut ↦ ?_⟩
    · exact stored_of_fate (hwhole 2) ((hfate 2).trans hdone)
    · exact killedAfter_of_fate ((hfate 2).trans hcut)

omit hP hsaves in
theorem records_accounted_for_sample :
    AccountedFor textPlatform {} interruptedCalls
      (run (exec textPlatform) interruptedCalls (fresh {} Disk.empty)).disk :=
  records_accounted_for textPlatform_lawful {} interruptedCalls_whole

/-- A protected disk holds a bound record with a valid VIN. -/
theorem bound_of_protected
    (h : protectedIn P ((run (exec P) calls (fresh config Disk.empty)).disk .protection) = true) :
    ∃ record, bindingIn P
        ((run (exec P) calls (fresh config Disk.empty)).disk .binding) = some record ∧
      record.state = .bound ∧ VinValidator.validate record.vin = true := by
  obtain ⟨record, hread, _, vin, _, _, _, _, -, -, hvin, -, -, -, rfl, -, hbound⟩ :=
    locked_from_empty hP config hsaves h
  exact ⟨record, hread, hbound, VinValidator.validate_iff_isVin.2 hvin⟩

end FromEmpty

/-! ## A device is bound or can be bound -/

/-- A power cycle, a start and a `write_vin` bind a device that is not protected. -/
theorem provisioned_after_restart (hP : P.json.Lawful) (hs : Serving P protecting s)
    (hopen : protectedIn P (s.disk .protection) = false) {start env : Env} {vin : Bytes}
    (hdirs : (start.rootDir.usable && start.serviceDir.usable) = true)
    (hvin : VinValidator.validate vin = true) (huid : env.uid.success = true)
    (hutf8 : Utf8 env.uid.uid) (hsaves : ∀ n, env.save n = .stored) :
    (Call.binding .writeVin env vin).returned P
        (run (exec P) [.restart, .initializeService start] s) = some .success ∧
      (readVin P (run (exec P)
        [.restart, .initializeService start, .binding .writeVin env vin] s)).val = some vin ∧
      (getProvisionState P (run (exec P)
        [.restart, .initializeService start, .binding .writeVin env vin] s)).val =
          some .bound := by
  have hwhole : ∀ c ∈ [.restart, .initializeService start, .binding .writeVin env vin],
      Call.WholeSaves c := by
    simp [Call.WholeSaves, hsaves, SaveOutcome.AllOrNothing]
  have hfate : ∀ n, fateOf (env.save n) = .done := by simp [hsaves, fateOf]
  have hrequests : List.map Call.request
        [.restart, .initializeService start, .binding .writeVin env vin] =
      [.powerCycle, .start true, .bind false vin env.uid (env.clock 0) (env.clock 1)
        fun n ↦ fateOf (env.save n)] := by
    simp [Call.request, hdirs]
  have htrace := trace_refines (Serving.after hP) (answered_refines hP) hwhole hs
  obtain ⟨hanswers, hup, record, hrecord, hrecordVin, -, hstate⟩ :=
    Provisioner.bind_after_powerCycle protecting (view P s) (env.clock 0) (env.clock 1) hopen
      (VinValidator.validate_iff_isVin.1 hvin) huid hutf8 hfate
  rw [hrequests] at htrace
  rw [htrace] at hanswers hup hrecord
  have hend := trace_state (Call.answered P)
    [.restart, .initializeService start, .binding .writeVin env vin] s
  change _ = run (exec P) _ s at hend
  rw [hend] at hup hrecord
  have hlast := congrArg (fun answers ↦ answers[2]?) hanswers
  rw [binding_returned, readVin_val P _ hup, getProvisionState_val P _ hup]
  change some (((BindingCall.writeVin.run P env vin
    (run (exec P) [.restart, .initializeService start] s)).val).map Answer.code) =
      some (some (.code .success)) at hlast
  obtain ⟨code, hval, hcode⟩ := Option.map_eq_some_iff.1 (Option.some.inj hlast)
  rw [hval, Answer.code.inj hcode]
  have hread : bindingIn P ((run (exec P)
      [.restart, .initializeService start, .binding .writeVin env vin] s).disk .binding) =
        some record := hrecord
  rw [hread, Option.elim_some, Option.elim_some, hrecordVin, hstate]
  exact ⟨rfl, rfl, rfl⟩

/-- A run from an empty store ends on a device that is protected and bound, or on one that
a restart and one `write_vin` of any valid VIN will bind. -/
theorem bound_or_provisionable (hP : P.json.Lawful) (config : ProvServiceConfig)
    {calls : List Call} (hsaves : ∀ c ∈ calls, c.WholeSaves) :
    let s := run (exec P) calls (fresh config Disk.empty)
    (protectedIn P (s.disk .protection) = true ∧
        ∃ record, bindingIn P (s.disk .binding) = some record ∧ record.state = .bound ∧
          VinValidator.validate record.vin = true) ∨
      (protectedIn P (s.disk .protection) = false ∧
        ∀ (start env : Env) (vin : Bytes),
          (start.rootDir.usable && start.serviceDir.usable) = true →
            VinValidator.validate vin = true → env.uid.success = true → Utf8 env.uid.uid →
              (∀ n, env.save n = .stored) →
          let t := run (exec P) [.restart, .initializeService start] s
          (Call.binding .writeVin env vin).returned P t = some .success ∧
            (readVin P (exec P (.binding .writeVin env vin) t)).val = some vin ∧
              (getProvisionState P (exec P (.binding .writeVin env vin) t)).val = some .bound) := by
  intro s
  have hs : Serving P config.enableWriteProtection s :=
    serving_run hP (serving_fresh config) hsaves
  cases hprotected : protectedIn P (s.disk .protection) with
  | true => exact .inl ⟨rfl, bound_of_protected hP config hsaves hprotected⟩
  | false =>
      right
      refine ⟨rfl, fun start env vin hdirs hvin huid hutf8 hstored ↦ ?_⟩
      exact provisioned_after_restart hP hs hprotected hdirs hvin huid hutf8 hstored

theorem bound_or_provisionable_sample :
    protectedIn textPlatform ((run (exec textPlatform) interruptedCalls
        (fresh {} Disk.empty)).disk .protection) = true ∨
      (Call.binding .writeVin sampleEnv otherVin).returned textPlatform
        (run (exec textPlatform) [.restart, .initializeService sampleEnv]
          (run (exec textPlatform) interruptedCalls (fresh {} Disk.empty))) = some .success := by
  rcases bound_or_provisionable textPlatform_lawful {} interruptedCalls_whole with
    ⟨hprotected, -⟩ | ⟨-, hbinds⟩
  · exact .inl hprotected
  · exact .inr (hbinds sampleEnv sampleEnv otherVin rfl validate_otherVin rfl utf8_sampleUid
      fun _ ↦ rfl).1

/-! ## The provision state -/

theorem state_of_record (hP : P.json.Lawful) (config : ProvServiceConfig) {calls : List Call}
    (hsaves : ∀ c ∈ calls, c.WholeSaves) {record : VehicleBinding}
    (hread : bindingIn P ((run (exec P) calls (fresh config Disk.empty)).disk .binding) =
      some record) : record.state = .vinWritten ∨ record.state = .bound := by
  obtain ⟨_, _, _, _, _, _, _, _, _, hstate, _⟩ :=
    (sourced_from_empty hP config hsaves).binding record hread
  exact hstate

/-- The state that is shown is never `FAILED`, and once it is not `NONE` any more, a service
that is initialized never shows `NONE` again. -/
theorem provision_state_progresses (hP : P.json.Lawful) (config : ProvServiceConfig)
    {before after : List Call} (hbefore : ∀ c ∈ before, c.WholeSaves)
    (hafter : ∀ c ∈ after, c.WholeSaves) {shown shown' : ProvisionState}
    (hshown : (getProvisionState P (run (exec P) before (fresh config Disk.empty))).val =
      some shown)
    (hshown' : (getProvisionState P
      (run (exec P) (before ++ after) (fresh config Disk.empty))).val = some shown') :
    (shown = .none ∨ shown = .vinWritten ∨ shown = .bound) ∧
      (shown ≠ .none →
        (run (exec P) (before ++ after) (fresh config Disk.empty)).mem.initialized = true →
          shown' = .vinWritten ∨ shown' = .bound) := by
  have hall : ∀ c ∈ before ++ after, c.WholeSaves := by
    intro c hc
    rcases List.mem_append.1 hc with hc | hc
    · exact hbefore c hc
    · exact hafter c hc
  have hs : Serving P config.enableWriteProtection
      (run (exec P) before (fresh config Disk.empty)) :=
    serving_run hP (serving_fresh config) hbefore
  rw [getProvisionState_returns, Option.some.injEq] at hshown
  constructor
  · rw [← hshown]
    split
    case isFalse => exact .inl rfl
    case isTrue =>
      cases hread : bindingIn P
          ((run (exec P) before (fresh config Disk.empty)).disk .binding) with
      | none => exact .inl rfl
      | some record => exact .inr (state_of_record hP config hbefore hread)
  · intro hne hup
    have hsome : (bindingIn P
        ((run (exec P) before (fresh config Disk.empty)).disk .binding)).isSome := by
      by_contra hno
      rw [Option.not_isSome_iff_eq_none] at hno
      rw [hno, Option.elim_none, ite_self] at hshown
      exact hne hshown.symm
    have hkept := Provisioner.run_kept config.enableWriteProtection (after.map Call.request)
      (view P (run (exec P) before (fresh config Disk.empty)))
    rw [← deviceIn_run hP hs hafter, ← run_append] at hkept
    obtain ⟨record, hread⟩ := Option.isSome_iff_exists.1 (hkept.binding hsome)
    rw [getProvisionState_val P _ hup, Option.some.injEq] at hshown'
    have hstate := state_of_record hP config hall hread
    have hlast : bindingIn P
        ((run (exec P) (before ++ after) (fresh config Disk.empty)).disk .binding) =
          some record := hread
    rw [hlast, Option.elim_some] at hshown'
    rwa [← hshown']

theorem provision_state_progresses_sample :
    (getProvisionState textPlatform (exec textPlatform .readVin (firstBinding {}))).val =
        some .vinWritten ∨
      (getProvisionState textPlatform (exec textPlatform .readVin (firstBinding {}))).val =
        some .bound := by
  have hfirst : ∀ c ∈ [.initializeService sampleEnv, .binding .writeVin sampleEnv sampleVin],
      Call.WholeSaves c := by
    simp [Call.WholeSaves, sampleEnv, SaveOutcome.AllOrNothing]
  have hread : ∀ c ∈ [.readVin], Call.WholeSaves c := by simp [Call.WholeSaves]
  have hrun : run (exec textPlatform)
      [.initializeService sampleEnv, .binding .writeVin sampleEnv sampleVin]
        (fresh {} Disk.empty) = firstBinding {} := rfl
  have hbound := firstBinding_boundBy {}
  have hup : (firstBinding {}).mem.initialized = true := hbound.service.1
  have hshown : (getProvisionState textPlatform (firstBinding {})).val = some .bound := by
    rw [getProvisionState_val _ _ hup, hbound.binding]
    exact congrArg some (boundRecord_reread textPlatform sampleEnv sampleVin (started {})).2.2.1
  have hsame : exec textPlatform .readVin (firstBinding {}) = firstBinding {} :=
    exec_uncoded_unchanged rfl (readVin_returns _ _) (readVin_state _ _)
  have hnext : run (exec textPlatform)
      ([.initializeService sampleEnv, .binding .writeVin sampleEnv sampleVin] ++ [.readVin])
        (fresh {} Disk.empty) = firstBinding {} := by
    rw [run_append, hrun, run_cons, run_nil, hsame]
  have hagain := hshown
  rw [← hnext] at hagain
  rw [← hrun] at hshown
  have hlast := (provision_state_progresses textPlatform_lawful {} hfirst hread hshown hagain).2
    (by decide)
  rw [hnext] at hlast
  rw [hsame, ← hnext, hagain, Option.some.injEq, Option.some.injEq]
  exact hlast hup

end TboxProv.ProvService
