import TboxProv.DeviceRuns
import TboxProv.ServiceSteps
import TboxProv.ShippedProviders

/-!
# Processes that have one store open

The services of several processes work on one store.  Their calls interleave at every access
to it, and each process may be killed between any two.  All that the store then goes through
are single edits of the device, each of them prepared by one call.
-/

namespace TboxProv

open Crash

namespace Device

/-- Edits that the requests account for, one after another. -/
def Edited (all : List Request) : Device → Device → Prop :=
  Relation.ReflTransGen fun d d' ↦ ∃ edit, EditFrom true all edit ∧ d' = apply edit d

section Edited

variable {all : List Request} {d d' : Device}

theorem Edited.kept (h : Edited all d d') : Kept d d' := by
  induction h with
  | refl => exact .refl d
  | tail _ hedit ih =>
      obtain ⟨edit, -, rfl⟩ := hedit
      exact ih.trans (apply_kept edit _)

theorem Edited.sourced (h : Edited all d d') (hd : Sourced true all d) :
    Sourced true all d' := by
  induction h with
  | refl => exact hd
  | tail _ hedit ih =>
      obtain ⟨edit, hfrom, rfl⟩ := hedit
      exact ih.apply hfrom

end Edited

end Device

namespace ProvService

open Store Interleaving

variable (P : Platform)

/-! ## One access to the store -/

def Moves (all : List Request) (disk disk' : Disk) : Prop :=
  Device.Edited all (deviceIn P disk) (deviceIn P disk')

/-- What the others do to a process. -/
abbrev Among (all : List Request) : Machine ProvService → Machine ProvService → Prop :=
  Others parts (Moves P all)

variable {P} {all : List Request} {s t u : Machine ProvService} {env : Env} {vin : Bytes}

theorem Moves.refl (disk : Disk) : Moves P all disk disk := Relation.ReflTransGen.refl

theorem Moves.trans {disk disk' disk'' : Disk} (h : Moves P all disk disk')
    (h' : Moves P all disk' disk'') : Moves P all disk disk'' := Relation.ReflTransGen.trans h h'

theorem Among.refl (s : Machine ProvService) : Among P all s s := ⟨rfl, .refl _⟩

theorem Among.trans (h : Among P all s t) (h' : Among P all t u) : Among P all s u :=
  ⟨h'.1.trans h.1, h.2.trans h'.2⟩

theorem Among.mem (h : Among P all s t) : t.mem = s.mem := h.1

theorem Among.moves (h : Among P all s t) : Moves P all s.disk t.disk := h.2

theorem Among.locked (h : Among P all s t) (hs : (deviceIn P s.disk).locked = true) :
    (deviceIn P t.disk).locked = true := h.moves.kept.locked hs

variable (P) in
/-- The program makes one edit of the device at most, and none behind a raised flag. -/
structure WritesOnce (edit : Device.Edit) (p : ServiceAction ErrorCode)
    (s : Machine ProvService) : Prop where
  mem : (p s).state.mem = s.mem
  device : deviceIn P (p s).state.disk = deviceIn P s.disk ∨
    deviceIn P (p s).state.disk = Device.apply edit (deviceIn P s.disk)
  guarded : s.mem.storage.writeProtected = true →
    (p s).val = some .securityAccessNotGranted ∧ (p s).state = s

theorem WritesOnce.moves {edit : Device.Edit} {p : ServiceAction ErrorCode}
    (h : WritesOnce P edit p s) (hedit : Device.EditFrom true all edit) :
    Moves P all s.disk (p s).state.disk := by
  rcases h.device with hsame | hmade
  · rw [Moves, hsame]
    exact Relation.ReflTransGen.refl
  · exact Relation.ReflTransGen.single ⟨edit, hedit, hmade⟩

theorem writeRecord_once {outcome : SaveOutcome} (hsave : outcome.AllOrNothing) {key : Key}
    {serialized : Throws Bytes} {message : String} {edit : Device.Edit}
    (hnew : ∀ content, sealed P serialized = .ok content →
      deviceIn P (Function.update s.disk key (.file content)) =
        Device.apply edit (deviceIn P s.disk)) :
    WritesOnce P edit
      (onStorage (ProtectedStorageImpl.writeRecord P outcome key serialized message)) s := by
  cases hprot : s.mem.storage.writeProtected with
  | true =>
      obtain ⟨hval, hstate⟩ := writeRecord_protected P s outcome key serialized message hprot
      exact ⟨by rw [hstate], .inl (by rw [hstate]), fun _ ↦ ⟨hval, hstate⟩⟩
  | false =>
      have hdown : s.mem.storage.writeProtected ≠ true := by simp [hprot]
      cases hsealed : sealed P serialized with
      | error e =>
          obtain ⟨-, hstate⟩ := writeRecord_error P s outcome key message hprot hsealed
          exact ⟨by rw [hstate], .inl (by rw [hstate]), fun hon ↦ absurd hon hdown⟩
      | ok content =>
          obtain ⟨-, hstate⟩ := writeRecord_ok P s outcome key message hprot hsealed
          refine ⟨by rw [hstate]; rfl, ?_, fun hon ↦ absurd hon hdown⟩
          rw [hstate, Machine.put_disk, deviceIn_saved hsave (hnew content hsealed), savedDevice]
          split
          · exact .inr rfl
          · exact .inl rfl

section Writes

variable (hP : P.json.Lawful)
include hP

theorem writeVehicleBinding_once {outcome : SaveOutcome} (hsave : outcome.AllOrNothing)
    (binding : VehicleBinding) :
    WritesOnce P (.bind binding.reread)
      (onStorage (ProtectedStorageImpl.writeVehicleBinding P outcome binding)) s := by
  refine writeRecord_once hsave fun content hsealed ↦ ?_
  rw [deviceIn_binding, bindingIn_sealed hP hsealed]
  rfl

theorem writeVehicleConfig_once {outcome : SaveOutcome} (hsave : outcome.AllOrNothing)
    (config : VehicleConfig) :
    WritesOnce P (.configure config.reread)
      (onStorage (ProtectedStorageImpl.writeVehicleConfig P outcome config)) s := by
  refine writeRecord_once hsave fun content hsealed ↦ ?_
  rw [deviceIn_config, configIn_sealed hP hsealed]
  rfl

theorem writeProductionInfo_once {outcome : SaveOutcome} (hsave : outcome.AllOrNothing)
    (info : ProductionInfo) :
    WritesOnce P (.label info.reread)
      (onStorage (ProtectedStorageImpl.writeProductionInfo P outcome info)) s := by
  refine writeRecord_once hsave fun content hsealed ↦ ?_
  rw [deviceIn_productionInfo, productionInfoIn_sealed hP hsealed]
  rfl

end Writes

theorem newBinding_from {call : BindingCall}
    (hmem : (Call.binding call env vin).request ∈ all) (hvin : VinValidator.validate vin = true)
    (huid : env.uid.success = true) (existing : Option VehicleBinding) {state : ProvisionState}
    (hstate : state = .vinWritten ∨ state = .bound) :
    Device.EditFrom true all
      (.bind ({ newBinding env existing vin env.uid.uid with state } : VehicleBinding).reread) := by
  refine ⟨_, vin, env.uid, _, _, _, hmem, VinValidator.validate_iff_isVin.1 hvin, huid, hstate, ?_⟩
  unfold newBinding
  cases existing with
  | none => rfl
  | some old => by_cases hold : old.vin = vin <;> simp [VehicleBinding.reread, hold]

theorem writtenBinding_from {call : BindingCall}
    (hmem : (Call.binding call env vin).request ∈ all) (hvin : VinValidator.validate vin = true)
    (huid : env.uid.success = true) (existing : Option VehicleBinding) :
    Device.EditFrom true all (.bind (newBinding env existing vin env.uid.uid).reread) := by
  have hfrom := newBinding_from hmem hvin huid existing (.inl rfl)
  obtain ⟨-, -, hstate, -⟩ := newBinding_fields env vin existing env.uid.uid
  rwa [← hstate] at hfrom

/-- The last step of the flow stores the protection, where it is wanted, before it reports. -/
theorem finish_locks (hP : P.json.Lawful) (hsave : (env.save 2).AllOrNothing) :
    Moves P all s.disk (finishVinBindingFlow P env vin s).state.disk ∧
      (finishVinBindingFlow P env vin s).state.mem.config = s.mem.config ∧
        ((finishVinBindingFlow P env vin s).val = some .success →
          s.mem.config.enableWriteProtection = true →
            (finishVinBindingFlow P env vin s).state.mem.storage.writeProtected = true ∧
              (deviceIn P (finishVinBindingFlow P env vin s).state.disk).locked = true) := by
  cases hcfg : s.mem.config.enableWriteProtection with
  | false =>
      obtain ⟨-, hstate⟩ := finishVinBindingFlow_unlocked P env vin hcfg
      rw [hstate]
      exact ⟨.refl _, rfl, fun _ hon ↦ by cases hon⟩
  | true =>
      have hflag : Utf8 (ProtectedStorageImpl.flagText true) := by
        simp [ProtectedStorageImpl.flagText]
      obtain ⟨k, hk⟩ := exists_envelope hP hflag
      obtain ⟨hval, hstate⟩ := finishVinBindingFlow_lock env vin hcfg hk
      have hdevice : deviceIn P (afterProtection env s k).disk =
          savedDevice (env.save 2) .lock (deviceIn P s.disk) := by
        apply deviceIn_saved hsave
        rw [deviceIn_protection, protectedIn_envelope hP hk]
        rfl
      rw [hval, hstate]
      refine ⟨?_, rfl, fun hsaved _ ↦ ?_⟩
      · rw [Moves, hdevice, savedDevice]
        split
        · exact Relation.ReflTransGen.single ⟨.lock, rfl, rfl⟩
        · exact Relation.ReflTransGen.refl
      · have hret : (env.save 2).returned = some true := by
          cases hret : (env.save 2).returned with
          | none => rw [hret] at hsaved; cases hsaved
          | some saved =>
              cases saved with
              | true => rfl
              | false => rw [hret] at hsaved; cases hsaved
        rw [hdevice, hsave.stored hret]
        exact ⟨by simp [afterProtection, hret], rfl⟩

/-! ## Every call makes edits of its own -/

/-- What the answer shows is from a device that meets `K`. -/
def Shows (K : Device → Prop) : Answer → Prop
  | .vin vin => vin = [] ∨ ∃ d record, K d ∧ d.binding = some record ∧ vin = record.vin
  | .binding shown => shown = {} ∨ ∃ d record sn, K d ∧ d.binding = some record ∧
      shown = { record with sn := sn }
  | .state state =>
      state = .none ∨ ∃ d record, K d ∧ d.binding = some record ∧ state = record.state
  | .code _ | .up _ | .closed => True

variable (P) in
/-- Where write protection is configured, success is reported behind a raised flag. -/
def Confirms : Call → Answer → Machine ProvService → Prop
  | .binding _ env _, a, s => env.uid.Telling → a = .code .success →
      s.mem.config.enableWriteProtection = true →
        s.mem.storage.writeProtected = true ∧ (deviceIn P s.disk).locked = true
  | _, _, _ => True

variable (P all) in
/-- A process makes edits that the requests account for.  `K` is a property of devices that
such edits keep, and `A` one of the configuration. -/
def editing (asks : Call → Prop) (K : Device → Prop) (A : ProvServiceConfig → Prop) :
    Contract Call (Machine ProvService) Answer Disk ProvService where
  asks
  guar := Moves P all
  always m := A m.config
  idle _ := True
  post c a s := Shows K a ∧ Confirms P c a s

/-- What a read shows is the default or a function of the record. -/
theorem shown_cases {γ : Type} (s : Machine ProvService) (default : γ) (f : VehicleBinding → γ) :
    (if s.mem.initialized then (bindingIn P (s.disk .binding)).elim default f else default) =
        default ∨
      ∃ record, (deviceIn P s.disk).binding = some record ∧
        (if s.mem.initialized then (bindingIn P (s.disk .binding)).elim default f
          else default) = f record := by
  split
  · cases hread : bindingIn P (s.disk .binding) with
    | none => exact .inl rfl
    | some record => exact .inr ⟨record, hread, rfl⟩
  · exact .inl rfl

theorem initializeService_config (s : Machine ProvService) :
    (initializeService P env s).state.mem.config = s.mem.config := by
  cases hinit : s.mem.initialized with
  | true => rw [(initializeService_again P env s hinit).2]
  | false =>
      by_cases hopen : Opens env s.disk
      · rw [(initializeService_opened P env s hinit hopen).2]
      · exact (initializeService_closed P env s hinit hopen).2.2.2.2

section Editing

variable {α β : Type} {asks : Call → Prop} {K : Device → Prop} {A : ProvServiceConfig → Prop}
  {post : α → Machine ProvService → Prop}

variable (P all A) in
abbrev Keeps (post : α → Machine ProvService → Prop) :
    ServiceSteps α → Machine ProvService → Prop :=
  Resumption.Holds (Among P all)
    (fun s t ↦ Moves P all (parts s).1 (parts t).1 ∧ A (parts t).2.config) post

variable (P K A) in
structure Fit (s : Machine ProvService) : Prop where
  config : A s.mem.config
  device : K (deviceIn P s.disk)

variable (hK : ∀ {d d'}, Device.Edited all d d' → K d → K d')
include hK

theorem Fit.among (hs : Fit P K A s) (ht : Among P all s t) : Fit P K A t :=
  ⟨by rw [ht.mem]; exact hs.config, hK ht.moves hs.device⟩

theorem keeps_read {p : ServiceAction β} {f : β → ServiceSteps α} (hstate : (p s).state = s)
    (hs : Fit P K A s)
    (hf : ∀ b t, (p s).val = some b → t.mem = s.mem → Fit P K A t → Keeps P all A post (f b) t) :
    Keeps P all A post (.call p >>= f) s := by
  refine .call_bind ⟨?_, ?_⟩ fun b hb t ht ↦ ?_
  · rw [hstate]
    exact .refl _
  · rw [hstate]
    exact hs.config
  · rw [hstate] at ht
    exact hf b t hb ht.mem (hs.among hK ht)

theorem keeps_write {edit : Device.Edit} {p : ServiceAction ErrorCode}
    {f : ErrorCode → ServiceSteps α} (h : WritesOnce P edit p s)
    (hedit : Device.EditFrom true all edit) (hs : Fit P K A s)
    (hf : ∀ b t, Fit P K A t → Keeps P all A post (f b) t) :
    Keeps P all A post (.call p >>= f) s := by
  have hmoves := h.moves hedit
  have hnext : Fit P K A (p s).state :=
    ⟨by rw [h.mem]; exact hs.config, hK hmoves hs.device⟩
  exact .call_bind ⟨hmoves, hnext.config⟩ fun b _ t ht ↦ hf b t (hnext.among hK ht)

/-- The two tests that every write makes first. -/
theorem keeps_guarded {body : ServiceSteps ErrorCode}
    {post : ErrorCode → Machine ProvService → Prop} (hs : Fit P K A s)
    (hno : ∀ t, post .invalidState t)
    (hbody : ∀ t, Fit P K A t → Keeps P all A post body t) :
    Keeps P all A post
      (.call Prog.get >>= fun s ↦ if (!s.mem.initialized) = true then pure .invalidState
        else .call Prog.get >>= fun s ↦
          if s.mem.shuttingDown = true then pure .invalidState else body) s := by
  refine keeps_read hK rfl hs fun b t _ _ ht ↦ ?_
  split
  · exact .pure (hno t)
  refine keeps_read hK rfl ht fun b t _ _ ht ↦ ?_
  split
  · exact .pure (hno t)
  · exact hbody t ht

section Binding

variable {call : BindingCall} (hP : P.json.Lawful)
  (hmem : (Call.binding call env vin).request ∈ all) (hsaves : ∀ n, (env.save n).AllOrNothing)
include hP hmem hsaves

theorem keeps_establish (hvin : VinValidator.validate vin = true)
    (huid : env.uid.success = true) (hs : Fit P K A s) :
    Keeps P all A (fun _ t ↦ Fit P K A t) (establishBindingSteps P env vin env.uid.uid) s := by
  refine keeps_read hK (by simp) hs fun existing t _ _ ht ↦ ?_
  refine keeps_write hK (writeVehicleBinding_once hP (hsaves 0) _)
    (writtenBinding_from hmem hvin huid existing) ht fun result t ht ↦ ?_
  split
  · exact .pure ht
  refine keeps_write hK (writeVehicleBinding_once hP (hsaves 1) _)
    (newBinding_from hmem hvin huid existing (.inr rfl)) ht fun result t ht ↦ ?_
  split
  · exact .pure ht
  · exact keeps_read hK rfl ht fun _ _ _ _ ht ↦ .pure ht

theorem keeps_flow (hvin : VinValidator.validate vin = true) (hs : Fit P K A s) :
    Keeps P all A (fun code t ↦ Confirms P (.binding call env vin) (.code code) t)
      (executeVinBindingFlowSteps P env vin) s := by
  have hfailed : ∀ {code : ErrorCode} {t}, code ≠ .success →
      Confirms P (.binding call env vin) (.code code) t :=
    fun hcode _ hsuccess ↦ absurd (Answer.code.inj hsuccess) hcode
  unfold executeVinBindingFlowSteps
  split
  case isTrue huid =>
    refine keeps_read hK rfl hs fun _ t _ _ _ ↦ .pure fun htelling hsuccess ↦ ?_
    exact absurd (Answer.code.inj hsuccess) (htelling (by simpa using huid))
  case isFalse huid =>
    refine (keeps_establish hK hP hmem hsaves hvin (by simpa using huid) hs).bind
      fun result t ht ↦ ?_
    split
    case isTrue hresult =>
      exact keeps_read hK rfl ht fun _ _ _ _ _ ↦ .pure (hfailed hresult)
    refine keeps_read hK (verifyWrite_state t) ht fun result t _ _ ht ↦ ?_
    split
    case isTrue hresult =>
      exact keeps_read hK rfl ht fun _ _ _ _ _ ↦ .pure (hfailed hresult)
    obtain ⟨hmoves, hconfig, hlocks⟩ := finish_locks hP (hsaves 2)
    refine .call ⟨hmoves, ?_⟩ fun code hcode u hu htelling hsuccess hon ↦ ?_
    · change A (finishVinBindingFlow P env vin t).state.mem.config
      rw [hconfig]
      exact ht.config
    · rw [Answer.code.inj hsuccess] at hcode
      rw [hu.mem, hconfig] at hon
      obtain ⟨hflag, hlocked⟩ := hlocks hcode hon
      exact ⟨by rw [hu.mem]; exact hflag, hu.locked hlocked⟩

theorem keeps_binding (hs : Fit P K A s) :
    Keeps P all A (fun code t ↦ Confirms P (.binding call env vin) (.code code) t)
      (call.steps P env vin) s := by
  have hfailed : ∀ {code : ErrorCode} {t}, code ≠ .success →
      Confirms P (.binding call env vin) (.code code) t :=
    fun hcode _ hsuccess ↦ absurd (Answer.code.inj hsuccess) hcode
  have hvalid : ∀ {t : Machine ProvService}, (validateVinFormat P vin t).val = some .success →
      VinValidator.validate vin = true := by
    intro t ht
    rw [validateVinFormat_val] at ht
    cases hvin : VinValidator.validate vin with
    | true => rfl
    | false => rw [hvin] at ht; cases ht
  cases call with
  | writeVin =>
      refine keeps_guarded hK hs (fun _ ↦ hfailed (by decide)) fun t ht ↦ ?_
      refine keeps_read hK (by simp) ht fun result u hresult _ hu ↦ ?_
      split
      case isTrue hno => exact .pure (hfailed hno)
      case isFalse hyes =>
        rw [ne_eq, not_not] at hyes
        subst hyes
        exact keeps_flow hK hP hmem hsaves (hvalid hresult) hu
  | authorizeRewrite =>
      refine keeps_guarded hK hs (fun _ ↦ hfailed (by decide)) fun t ht ↦ ?_
      refine keeps_read hK (by simp) ht fun result u hresult _ hu ↦ ?_
      split
      case isTrue hno => exact .pure (hfailed hno)
      case isFalse hyes =>
        rw [ne_eq, not_not] at hyes
        subst hyes
        refine keeps_read hK (by simp) hu fun existing u _ _ hu ↦ ?_
        cases existing with
        | none => exact keeps_flow hK hP hmem hsaves (hvalid hresult) hu
        | some binding =>
            dsimp only
            split
            · exact keeps_read hK rfl hu fun _ _ _ _ _ ↦ .pure (hfailed (by decide))
            · exact keeps_flow hK hP hmem hsaves (hvalid hresult) hu

end Binding

section Records

variable (hP : P.json.Lawful) (hsaves : ∀ n, (env.save n).AllOrNothing)
include hP hsaves

theorem keeps_config {configData : List UInt8}
    (hmem : (Call.writeVehicleConfig env configData).request ∈ all) (hs : Fit P K A s) :
    Keeps P all A (fun _ _ ↦ True) (writeVehicleConfigSteps P env configData) s := by
  have hfrom : ∀ verified, Device.EditFrom true all (.configure
      ({ variantCoding := configData, writtenAt := env.clock 0, verified } :
        VehicleConfig).reread) := fun verified ↦ ⟨configData, env.clock 0, _, hmem, rfl⟩
  refine keeps_guarded hK hs (fun _ ↦ trivial) fun t ht ↦ ?_
  refine keeps_read hK (by simp) ht fun flag t _ _ ht ↦ ?_
  split
  · exact .pure trivial
  refine keeps_write hK (writeVehicleConfig_once hP (hsaves 0) _) (hfrom false) ht
    fun result t ht ↦ ?_
  split
  · exact keeps_read hK rfl ht fun _ _ _ _ _ ↦ .pure trivial
  refine keeps_read hK (onStorage_readRecord_state P t .config _ _) ht fun stored t _ _ ht ↦ ?_
  cases stored with
  | none => exact keeps_read hK rfl ht fun _ _ _ _ _ ↦ .pure trivial
  | some stored =>
      dsimp only
      split
      · exact keeps_read hK rfl ht fun _ _ _ _ _ ↦ .pure trivial
      · exact keeps_write hK (writeVehicleConfig_once hP (hsaves 1) _) (hfrom true) ht
          fun _ _ _ ↦ .pure trivial

theorem keeps_info {info : ProductionInfo}
    (hmem : (Call.writeProductionInfo env info).request ∈ all) (hs : Fit P K A s) :
    Keeps P all A (fun _ _ ↦ True) (writeProductionInfoSteps P env info) s := by
  have hfrom : Device.EditFrom true all
      (.label ({ info with writtenAt := env.clock 0 } : ProductionInfo).reread) :=
    ⟨info, env.clock 0, _, hmem, rfl⟩
  refine keeps_guarded hK hs (fun _ ↦ trivial) fun t ht ↦ ?_
  refine keeps_read hK (by simp) ht fun flag t _ _ ht ↦ ?_
  split
  · exact .pure trivial
  refine keeps_write hK (writeProductionInfo_once hP (hsaves 0) _) hfrom ht fun result t ht ↦ ?_
  split
  · exact keeps_read hK rfl ht fun _ _ _ _ _ ↦ .pure trivial
  refine keeps_read hK (onStorage_readRecord_state P t .productionInfo _ _) ht
    fun stored t _ _ ht ↦ ?_
  cases stored with
  | none => exact keeps_read hK rfl ht fun _ _ _ _ _ ↦ .pure trivial
  | some stored =>
      dsimp only
      split
      · exact keeps_read hK rfl ht fun _ _ _ _ _ ↦ .pure trivial
      · exact .pure trivial

end Records

theorem editing_call (hP : P.json.Lawful) {c : Call} (hsaves : c.WholeSaves)
    (hmem : c.request ∈ all) (hs : Fit P K A s) :
    (editing P all asks K A).Fulfils parts (Moves P all) c (c.steps P) s := by
  cases c with
  | binding call env vin =>
      exact (keeps_binding hK hP hmem hsaves hs).bind fun code t hcode ↦ .pure ⟨trivial, hcode⟩
  | writeVehicleConfig env configData =>
      exact (keeps_config hK hP hsaves hmem hs).bind fun _ _ _ ↦ .pure ⟨trivial, trivial⟩
  | writeProductionInfo env info =>
      exact (keeps_info hK hP hsaves hmem hs).bind fun _ _ _ ↦ .pure ⟨trivial, trivial⟩
  | initializeService env =>
      obtain ⟨-, -, hdisk, -⟩ := initializeService_keeps P env s
      refine .call_bind ⟨?_, ?_⟩ fun _ _ _ _ ↦ .pure ⟨trivial, trivial⟩
      · change Moves P all s.disk (ProvService.initializeService P env s).state.disk
        rw [hdisk]
        exact .refl _
      · change A (ProvService.initializeService P env s).state.mem.config
        rw [initializeService_config]
        exact hs.config
  | beginShutdown =>
      refine .call_bind ⟨?_, ?_⟩ fun _ _ _ _ ↦ .pure ⟨trivial, trivial⟩
      · change Moves P all s.disk (ProvService.beginShutdown s).state.disk
        rw [beginShutdown_state]
        exact .refl _
      · change A (ProvService.beginShutdown s).state.mem.config
        rw [beginShutdown_state]
        exact hs.config
  | isInitialized => exact keeps_read hK (by simp) hs fun _ _ _ _ _ ↦ .pure ⟨trivial, trivial⟩
  | readVin =>
      refine keeps_read hK (by simp) hs fun v t hv _ _ ↦ .pure ⟨?_, trivial⟩
      rw [readVin_returns] at hv
      obtain rfl := Option.some.inj hv
      rcases shown_cases s [] (·.vin) with hnone | ⟨record, hread, hvin⟩
      · exact .inl hnone
      · exact .inr ⟨_, record, hs.device, hread, hvin⟩
  | readBinding env =>
      refine keeps_read hK (by simp) hs fun shown t hshown _ _ ↦ .pure ⟨?_, trivial⟩
      rw [readBinding_val] at hshown
      obtain rfl := Option.some.inj hshown
      rcases shown_cases s {} (withSn env) with hnone | ⟨record, hread, hshown⟩
      · exact .inl hnone
      · refine .inr ⟨_, record, (withSn env record).sn, hs.device, hread, hshown.trans ?_⟩
        unfold withSn
        split <;> rfl
  | getProvisionState =>
      refine keeps_read hK (by simp) hs fun state t hstate _ _ ↦ .pure ⟨?_, trivial⟩
      rw [getProvisionState_returns] at hstate
      obtain rfl := Option.some.inj hstate
      rcases shown_cases s .none (·.state) with hnone | ⟨record, hread, hstate⟩
      · exact .inl hnone
      · exact .inr ⟨_, record, hs.device, hread, hstate⟩
  | restart => exact .call ⟨.refl _, hs.config⟩ fun a ha ↦ by cases ha

theorem editing_sound (hP : P.json.Lawful)
    (hasks : ∀ c, asks c → c.WholeSaves ∧ c.request ∈ all) :
    (editing P all asks K A).Sound parts (Moves P all) (Call.steps P) rebooted
      fun disk ↦ K (deviceIn P disk) where
  refl _ := .refl _
  within _ _ h := h
  call c _ hc hdevice hconfig _ :=
    editing_call hK hP (hasks c hc).1 (hasks c hc).2 ⟨hconfig, hdevice⟩
  answer _ _ _ _ _ _ := trivial
  rebooted _ h := h
  reboot _ _ _ _ := trivial

end Editing

/-! ## Interleavings -/

section Interleavings

variable {ι : Type}

theorem processes_kept {asks : Call → Prop} {K : Device → Prop} {A : ProvServiceConfig → Prop}
    (config : ι → ProvServiceConfig) (disk : Disk) (hconfig : ∀ i, A (config i)) (i : ι) :
    (editing P all asks K A).Kept parts (Moves P all) (processes config disk) i := by
  refine ⟨hconfig i, fun c r hpending ↦ ?_, fun _ _ _ ↦ trivial, fun c r hpending ↦ ?_⟩
  · cases hpending
  · cases hpending

variable [DecidableEq ι]

/-- In whatever order the steps of the processes come, and wherever processes are killed, all
that is stored and all that is read is what single calls have prepared, and no record is
lost again. -/
theorem interleaved_calls_accounted (hP : P.json.Lawful) (config : ι → ProvServiceConfig)
    {before after : List (Event ι Call)}
    (hsaves : ∀ c ∈ callsOf (before ++ after), c.WholeSaves) :
    let all := (callsOf (before ++ after)).map Call.request
    let mid := trace (processStep P) before (processes config Disk.empty)
    let last := trace (processStep P) (before ++ after) (processes config Disk.empty)
    Device.Sourced true all (deviceIn P last.2.shared) ∧
      (∀ i c a, some (.answered i c a) ∈ last.1 → Shows (Device.Sourced true all) a) ∧
        Device.Kept (deviceIn P mid.2.shared) (deviceIn P last.2.shared) := by
  intro all mid last
  have hK : ∀ {d d'}, Device.Edited all d d' → Device.Sourced true all d →
      Device.Sourced true all d' := fun h hd ↦ h.sourced hd
  have hasks : ∀ c : Call, c.WholeSaves ∧ c.request ∈ all → c.WholeSaves ∧ c.request ∈ all :=
    fun _ hc ↦ hc
  have hC := editing_sound (A := fun _ ↦ True) hK hP hasks
  have hJ : ∀ {disk disk'}, Moves P all disk disk' → Device.Sourced true all (deviceIn P disk) →
      Device.Sourced true all (deviceIn P disk') := fun h hd ↦ h.sourced hd
  have hok : ∀ c ∈ callsOf (before ++ after), c.WholeSaves ∧ c.request ∈ all :=
    fun c hc ↦ ⟨hsaves c hc, List.mem_map_of_mem hc⟩
  have hstart : Device.Sourced true all (deviceIn P Disk.empty) := Device.sourced_empty true all
  obtain ⟨hmoves, hkept, -⟩ := hC.kept_trace hJ .refl .trans
    (fun i c hc ↦ hok c (mem_callsOf (List.mem_append_left after hc))) hstart
    (processes_kept config Disk.empty fun _ ↦ trivial)
  obtain ⟨hlater, -, -⟩ := hC.kept_trace hJ .refl .trans
    (fun i c hc ↦ hok c (mem_callsOf (List.mem_append_right before hc))) (hJ hmoves hstart) hkept
  obtain ⟨hwhole, -, hanswers⟩ := hC.kept_trace hJ .refl .trans
    (fun i c hc ↦ hok c (mem_callsOf hc)) hstart
    (processes_kept config Disk.empty fun _ ↦ trivial)
  refine ⟨hwhole.sourced hstart, ?_, ?_⟩
  · intro i c a hanswer
    obtain ⟨-, _, -, hpost⟩ := hanswers i c a hanswer
    exact hpost.1
  · have hlast : last.2 = (trace (processStep P) after mid.2).2 := by
      rw [show last = _ from trace_append ..]
    rw [hlast]
    exact hlater.kept

end Interleavings

/-! ### Two processes that open the store at the same time -/

section Racing

open Shared

/-- Both have the store open, and the first of them has bound its VIN. -/
def racing : Shared Bool :=
  Shared.step textPlatform (false, .binding .writeVin sampleEnv sampleVin) bothStarted

theorem racing_bound :
    BoundBy textPlatform sampleEnv sampleVin (started {}) (racing.machine false) := by
  have hbinds : Binds textPlatform sampleEnv sampleVin (started {}) .writeVin :=
    ⟨admits_started {} validate_sampleVin .writeVin, rfl, utf8_sampleUid, rfl⟩
  rw [racing, step_machine_self]
  exact (exec_binds textPlatform_lawful hbinds fun _ ↦ rfl).2

/-- The flag of the second is still down. -/
theorem racing_binds : Binds textPlatform sampleEnv otherVin (racing.machine true) .writeVin := by
  rw [racing, step_machine_other (by decide)]
  refine ⟨⟨rfl, rfl, validate_otherVin, fun hcall ↦ ?_⟩, rfl, utf8_sampleUid, rfl⟩
  cases hcall

def racingCalls : List Call :=
  [.initializeService sampleEnv, .initializeService sampleEnv,
   .binding .writeVin sampleEnv sampleVin, .binding .writeVin sampleEnv otherVin]

theorem exists_racing : ∃ before after : List (Event Bool Call),
    callsOf (before ++ after) = racingCalls ∧
      (trace (processStep textPlatform) before (processes (fun _ ↦ {}) Disk.empty)).2 =
        racing.processes ∧
      (trace (processStep textPlatform) after racing.processes).1.reduceOption =
        [.called true (.binding .writeVin sampleEnv otherVin),
         .answered true (.binding .writeVin sampleEnv otherVin) (.code .success)] := by
  obtain ⟨before, hcalls, hbefore⟩ := exists_whole textPlatform
    [(false, .initializeService sampleEnv), (true, .initializeService sampleEnv),
     (false, .binding .writeVin sampleEnv sampleVin)] (Shared.fresh (fun _ : Bool ↦ {}) Disk.empty)
  obtain ⟨after, hcalls', hafter⟩ := exists_whole textPlatform
    [(true, .binding .writeVin sampleEnv otherVin)] racing
  refine ⟨before, after, ?_, ?_, ?_⟩
  · rw [callsOf_append, hcalls, hcalls']
    rfl
  · have hlast := (Prod.mk.inj hbefore).2
    simp only [trace_cons, trace_nil, asked, bothStarted_reached] at hlast
    exact hlast
  · have hreturned := (exec_binds textPlatform_lawful racing_binds fun _ ↦ rfl).1
    rw [binding_returned] at hreturned
    have hseen := (Prod.mk.inj hafter).1
    simp only [trace_cons, trace_nil, asked, Call.answer, hreturned, Option.map_some,
      Option.elim_some, List.flatten_cons, List.flatten_nil, List.append_nil] at hseen
    exact hseen

theorem interleaved_calls_accounted_sample : ∃ before after : List (Event Bool Call),
    let last := trace (processStep textPlatform) (before ++ after)
      (processes (fun _ ↦ {}) Disk.empty)
    callsOf (before ++ after) = racingCalls ∧
      (deviceIn textPlatform last.2.shared).binding.isSome ∧
        Device.Sourced true (racingCalls.map Call.request)
          (deviceIn textPlatform last.2.shared) := by
  obtain ⟨before, after, hcalls, hmid, -⟩ := exists_racing
  have hsaves : ∀ c ∈ callsOf (before ++ after), c.WholeSaves := by
    rw [hcalls]
    simp [racingCalls, Call.WholeSaves, sampleEnv, SaveOutcome.AllOrNothing]
  obtain ⟨hsourced, -, hkept⟩ :=
    interleaved_calls_accounted textPlatform_lawful (fun _ ↦ {}) hsaves
  have hread := racing_bound.binding
  rw [machine_disk] at hread
  have hbound : (deviceIn textPlatform racing.disk).binding.isSome := by
    simp only [deviceIn, hread, Option.isSome_some]
  rw [hmid, processes_shared] at hkept
  rw [hcalls] at hsourced
  exact ⟨before, after, hcalls, hkept.binding hbound, hsourced⟩

end Racing

end ProvService

end TboxProv
