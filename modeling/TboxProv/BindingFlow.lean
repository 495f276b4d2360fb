import TboxProv.ProvService

/-!
# The exits of the binding flow

`write_vin` and `authorize_rewrite` share one flow: read the UID, save the
binding twice, read it back, set the protection flag.  `FlowExit` lists every
way through it, with the store each one leaves behind.  All later results about
the two operations are case analyses of this table.
-/

namespace TboxProv.ProvService

open Crash Store

variable (P : Platform) (env : Env) (vin : Bytes) (s : Machine ProvService)

/-! ## Calls on the storage -/

theorem onStorage_val {α : Type} (p : ProtectedStorageImpl.StorageAction α) :
    (onStorage p s).val = (p ⟨s.disk, s.mem.storage⟩).val := rfl

theorem onStorage_state {α : Type} (p : ProtectedStorageImpl.StorageAction α) :
    (onStorage p s).state =
      ⟨(p ⟨s.disk, s.mem.storage⟩).state.disk,
        { s.mem with storage := (p ⟨s.disk, s.mem.storage⟩).state.mem }⟩ := rfl

theorem onStorage_state_eq {α : Type} {p : ProtectedStorageImpl.StorageAction α}
    (h : (p ⟨s.disk, s.mem.storage⟩).state = ⟨s.disk, s.mem.storage⟩) :
    (onStorage p s).state = s := by
  rw [onStorage_state, h]

@[simp] theorem onStorage_readVehicleBinding_val :
    (onStorage (ProtectedStorageImpl.readVehicleBinding P) s).val =
      some (bindingIn P (s.disk .binding)) := by
  rw [onStorage_val, ProtectedStorageImpl.readVehicleBinding_val]

@[simp] theorem onStorage_readVehicleBinding_state :
    (onStorage (ProtectedStorageImpl.readVehicleBinding P) s).state = s :=
  onStorage_state_eq s (by simp)

@[simp] theorem log_val (logger : String) (level : Level) (event message : String)
    (fields : List (String × FieldValue)) :
    (log logger level event message fields s).val = some () := rfl

@[simp] theorem log_state (logger : String) (level : Level) (event message : String)
    (fields : List (String × FieldValue)) :
    (log logger level event message fields s).state = s := rfl

theorem writeRecord_protected (outcome : SaveOutcome) (key : Key) (serialized : Throws Bytes)
    (message : String) (h : s.mem.storage.writeProtected = true) :
    (onStorage (ProtectedStorageImpl.writeRecord P outcome key serialized message) s).val =
        some .securityAccessNotGranted ∧
      (onStorage (ProtectedStorageImpl.writeRecord P outcome key serialized message) s).state =
        s := by
  obtain ⟨hval, hstate⟩ := ProtectedStorageImpl.writeRecord_protected P
    ⟨s.disk, s.mem.storage⟩ outcome key serialized message h
  exact ⟨hval, onStorage_state_eq s hstate⟩

theorem writeRecord_error (outcome : SaveOutcome) (key : Key) {serialized : Throws Bytes}
    (message : String) (h : s.mem.storage.writeProtected = false) {e : Exception}
    (hsealed : sealed P serialized = .error e) :
    (onStorage (ProtectedStorageImpl.writeRecord P outcome key serialized message) s).val =
        some .storageError ∧
      (onStorage (ProtectedStorageImpl.writeRecord P outcome key serialized message) s).state =
        s := by
  obtain ⟨hval, hstate⟩ := ProtectedStorageImpl.writeRecord_error P
    ⟨s.disk, s.mem.storage⟩ outcome key serialized message h hsealed
  exact ⟨hval, onStorage_state_eq s hstate⟩

theorem writeRecord_ok (outcome : SaveOutcome) (key : Key) {serialized : Throws Bytes}
    (message : String) (h : s.mem.storage.writeProtected = false) {content : Bytes}
    (hsealed : sealed P serialized = .ok content) :
    (onStorage (ProtectedStorageImpl.writeRecord P outcome key serialized message) s).val =
        outcome.returned.map ProtectedStorageImpl.savedCode ∧
      (onStorage (ProtectedStorageImpl.writeRecord P outcome key serialized message) s).state =
        s.put key (outcome.leaves content (s.disk key)) := by
  obtain ⟨hval, hstate⟩ := ProtectedStorageImpl.writeRecord_ok P
    ⟨s.disk, s.mem.storage⟩ outcome key serialized message h hsealed
  exact ⟨hval, by rw [onStorage_state, hstate]; rfl⟩

/-! ## The records of one call -/

def writtenRecord : VehicleBinding :=
  newBinding env (bindingIn P (s.disk .binding)) vin env.uid.uid

def boundRecord : VehicleBinding := { writtenRecord P env vin s with state := .bound }

/-- The machine after the first binding save, which wrote `c₀`. -/
def afterFirst (c₀ : Bytes) : Machine ProvService :=
  s.put .binding ((env.save 0).leaves c₀ (s.disk .binding))

def afterSecond (c₀ c₁ : Bytes) : Machine ProvService :=
  (afterFirst env s c₀).put .binding
    ((env.save 1).leaves c₁ ((afterFirst env s c₀).disk .binding))

def afterProtection (k : Bytes) : Machine ProvService where
  disk := Function.update s.disk .protection ((env.save 2).leaves k (s.disk .protection))
  mem := { s.mem with
    storage := if (env.save 2).returned = some true then ⟨true⟩ else s.mem.storage }

theorem newBinding_fields (existing : Option VehicleBinding) (ecuUid : Bytes) :
    (newBinding env existing vin ecuUid).vin = vin ∧
      (newBinding env existing vin ecuUid).ecuUid = ecuUid ∧
      (newBinding env existing vin ecuUid).state = .vinWritten ∧
      (newBinding env existing vin ecuUid).locked = false ∧
      (newBinding env existing vin ecuUid).sn = [] ∧
      (newBinding env existing vin ecuUid).lastError = [] := by
  unfold newBinding
  cases existing with
  | none => simp
  | some old => by_cases h : old.vin = vin <;> simp [h]

theorem utf8_writtenRecord_iff :
    (writtenRecord P env vin s).Utf8 ↔ Utf8 vin ∧ Utf8 env.uid.uid := by
  obtain ⟨hvin, huid, -, -, hsn, herr⟩ :=
    newBinding_fields env vin (bindingIn P (s.disk .binding)) env.uid.uid
  simp only [VehicleBinding.Utf8, writtenRecord, hvin, huid, hsn, herr]
  simp

theorem utf8_boundRecord_iff :
    (boundRecord P env vin s).Utf8 ↔ Utf8 vin ∧ Utf8 env.uid.uid :=
  utf8_writtenRecord_iff P env vin s

/-- An unprotected storage, with the file contents that the saves of the flow write:
the binding as written, the binding as bound, and the protection flag. -/
structure Writable (c₀ c₁ k : Bytes) : Prop where
  unprotected : s.mem.storage.writeProtected = false
  written : sealed P (serializeBinding P (writtenRecord P env vin s)) = .ok c₀
  bound : sealed P (serializeBinding P (boundRecord P env vin s)) = .ok c₁
  flag : envelope P (ProtectedStorageImpl.flagText true) = .ok k

/-! ## The steps of the flow -/

section Steps

variable {P env vin s} {c₀ c₁ k : Bytes}

theorem exists_writable (hP : P.json.Lawful) (hprot : s.mem.storage.writeProtected = false)
    (hvin : Utf8 vin) (huid : Utf8 env.uid.uid) : ∃ c₀ c₁ k, Writable P env vin s c₀ c₁ k := by
  have hwritten := (utf8_writtenRecord_iff P env vin s).2 ⟨hvin, huid⟩
  have hbound := (utf8_boundRecord_iff P env vin s).2 ⟨hvin, huid⟩
  obtain ⟨c₀, hc₀⟩ := exists_sealed hP (bindingJson_plain _) (bindingJson_utf8 hwritten)
  obtain ⟨c₁, hc₁⟩ := exists_sealed hP (bindingJson_plain _) (bindingJson_utf8 hbound)
  have hflag : Utf8 (ProtectedStorageImpl.flagText true) := by
    simp [ProtectedStorageImpl.flagText]
  obtain ⟨k, hk⟩ := exists_envelope hP hflag
  exact ⟨c₀, c₁, k, hprot, hc₀, hc₁, hk⟩

variable (vin s) in
theorem sealed_written_error (hP : P.json.Lawful) (huid : ¬ Utf8 env.uid.uid) :
    ∃ e, sealed P (serializeBinding P (writtenRecord P env vin s)) = .error e := by
  cases hsealed : sealed P (serializeBinding P (writtenRecord P env vin s)) with
  | error e => exact ⟨e, rfl⟩
  | ok data =>
      have hutf8 := utf8_of_bindingJson (utf8_of_sealed hP hsealed)
      exact absurd ((utf8_writtenRecord_iff P env vin s).1 hutf8).2 huid

variable (P env vin) in
theorem establishBinding_protected (h : s.mem.storage.writeProtected = true) :
    (establishBinding P env vin env.uid.uid s).val = some .vinWriteFailed ∧
      (establishBinding P env vin env.uid.uid s).state = s := by
  obtain ⟨hval, hstate⟩ := writeRecord_protected P s (env.save 0) .binding
    (serializeBinding P (writtenRecord P env vin s)) "Failed to write vehicle binding: " h
  simp only [writtenRecord] at hval hstate
  simp [establishBinding, ProtectedStorageImpl.writeVehicleBinding, hval, hstate]

theorem establishBinding_unencodable (h : s.mem.storage.writeProtected = false) {e : Exception}
    (hsealed : sealed P (serializeBinding P (writtenRecord P env vin s)) = .error e) :
    (establishBinding P env vin env.uid.uid s).val = some .vinWriteFailed ∧
      (establishBinding P env vin env.uid.uid s).state = s := by
  obtain ⟨hval, hstate⟩ := writeRecord_error P s (env.save 0) .binding
    "Failed to write vehicle binding: " h hsealed
  simp only [writtenRecord] at hval hstate
  simp [establishBinding, ProtectedStorageImpl.writeVehicleBinding, hval, hstate]

theorem firstSave (w : Writable P env vin s c₀ c₁ k) :
    (onStorage (ProtectedStorageImpl.writeVehicleBinding P (env.save 0)
        (newBinding env (bindingIn P (s.disk .binding)) vin env.uid.uid)) s).val =
          (env.save 0).returned.map ProtectedStorageImpl.savedCode ∧
      (onStorage (ProtectedStorageImpl.writeVehicleBinding P (env.save 0)
        (newBinding env (bindingIn P (s.disk .binding)) vin env.uid.uid)) s).state =
          afterFirst env s c₀ :=
  writeRecord_ok P s (env.save 0) .binding _ w.unprotected w.written

theorem secondSave (w : Writable P env vin s c₀ c₁ k) :
    (onStorage (ProtectedStorageImpl.writeVehicleBinding P (env.save 1)
        { newBinding env (bindingIn P (s.disk .binding)) vin env.uid.uid with state := .bound })
        (afterFirst env s c₀)).val =
          (env.save 1).returned.map ProtectedStorageImpl.savedCode ∧
      (onStorage (ProtectedStorageImpl.writeVehicleBinding P (env.save 1)
        { newBinding env (bindingIn P (s.disk .binding)) vin env.uid.uid with state := .bound })
        (afterFirst env s c₀)).state =
          afterSecond env s c₀ c₁ := by
  have hprot : (afterFirst env s c₀).mem.storage.writeProtected = false := w.unprotected
  exact writeRecord_ok P (afterFirst env s c₀) (env.save 1) .binding _ hprot w.bound

theorem establishBinding_first (w : Writable P env vin s c₀ c₁ k)
    (h : (env.save 0).returned ≠ some true) :
    (establishBinding P env vin env.uid.uid s).val =
        (env.save 0).returned.map (fun _ ↦ .vinWriteFailed) ∧
      (establishBinding P env vin env.uid.uid s).state = afterFirst env s c₀ := by
  obtain ⟨hval, hstate⟩ := firstSave w
  rcases hret : (env.save 0).returned with _ | _ | _
  · simp [establishBinding, hval, hstate, hret]
  · simp [establishBinding, hval, hstate, hret, ProtectedStorageImpl.savedCode]
  · exact absurd hret h

theorem establishBinding_second (w : Writable P env vin s c₀ c₁ k)
    (h₀ : (env.save 0).returned = some true) (h : (env.save 1).returned ≠ some true) :
    (establishBinding P env vin env.uid.uid s).val =
        (env.save 1).returned.map (fun _ ↦ .vinWriteFailed) ∧
      (establishBinding P env vin env.uid.uid s).state = afterSecond env s c₀ c₁ := by
  obtain ⟨hval, hstate⟩ := firstSave w
  obtain ⟨hval', hstate'⟩ := secondSave w
  rcases hret : (env.save 1).returned with _ | _ | _
  · simp [establishBinding, hval, hstate, hval', hstate', h₀, hret,
      ProtectedStorageImpl.savedCode]
  · simp [establishBinding, hval, hstate, hval', hstate', h₀, hret,
      ProtectedStorageImpl.savedCode]
  · exact absurd hret h

theorem establishBinding_saved (w : Writable P env vin s c₀ c₁ k)
    (h₀ : (env.save 0).returned = some true) (h₁ : (env.save 1).returned = some true) :
    (establishBinding P env vin env.uid.uid s).val = some .success ∧
      (establishBinding P env vin env.uid.uid s).state = afterSecond env s c₀ c₁ := by
  obtain ⟨hval, hstate⟩ := firstSave w
  obtain ⟨hval', hstate'⟩ := secondSave w
  simp [establishBinding, hval, hstate, hval', hstate', h₀, h₁, ProtectedStorageImpl.savedCode]

/-- The read-back accepts a machine whose disk holds a binding with the VIN. -/
def ReadsBack (P : Platform) (vin : Bytes) (t : Machine ProvService) : Prop :=
  ∃ binding, bindingIn P (t.disk .binding) = some binding ∧ binding.vin = vin

theorem verifyWrite_state (t : Machine ProvService) : (verifyWrite P vin t).state = t := by
  cases hread : bindingIn P (t.disk .binding) with
  | none => simp [verifyWrite, hread]
  | some binding => by_cases hvin : binding.vin = vin <;> simp [verifyWrite, hread, hvin]

theorem verifyWrite_accepted {t : Machine ProvService} (h : ReadsBack P vin t) :
    (verifyWrite P vin t).val = some .success := by
  obtain ⟨binding, hread, hvin⟩ := h
  simp [verifyWrite, hread, hvin]

theorem verifyWrite_refused {t : Machine ProvService} (h : ¬ ReadsBack P vin t) :
    (verifyWrite P vin t).val = some .readbackVerificationFailed := by
  cases hread : bindingIn P (t.disk .binding) with
  | none => simp [verifyWrite, hread]
  | some binding =>
      have hvin : binding.vin ≠ vin := fun heq ↦ h ⟨binding, hread, heq⟩
      simp [verifyWrite, hread, hvin]

variable (P env vin) in
theorem finishVinBindingFlow_unlocked {t : Machine ProvService}
    (h : t.mem.config.enableWriteProtection = false) :
    (finishVinBindingFlow P env vin t).val = some .success ∧
      (finishVinBindingFlow P env vin t).state = t := by
  simp [finishVinBindingFlow, h]

variable (env vin) in
theorem finishVinBindingFlow_lock {t : Machine ProvService}
    (h : t.mem.config.enableWriteProtection = true)
    (hk : envelope P (ProtectedStorageImpl.flagText true) = .ok k) :
    (finishVinBindingFlow P env vin t).val =
        (env.save 2).returned.map ProtectedStorageImpl.savedCode ∧
      (finishVinBindingFlow P env vin t).state = afterProtection env t k := by
  obtain ⟨hval, hstate⟩ := ProtectedStorageImpl.setWriteProtection_ok P
    ⟨t.disk, t.mem.storage⟩ (env.save 2) true hk
  have hval' : (onStorage (ProtectedStorageImpl.setWriteProtection P (env.save 2) true) t).val =
      (env.save 2).returned.map ProtectedStorageImpl.savedCode := by
    rw [onStorage_val, hval]
  have hstate' :
      (onStorage (ProtectedStorageImpl.setWriteProtection P (env.save 2) true) t).state =
        afterProtection env t k := by
    rw [onStorage_state, hstate]
    rfl
  rcases hret : (env.save 2).returned with _ | saved
  · simp [finishVinBindingFlow, h, hval', hstate', hret]
  · cases saved <;>
      simp [finishVinBindingFlow, h, hval', hstate', hret, ProtectedStorageImpl.savedCode]

end Steps

/-! ## The table of exits -/

/-- Every way through the flow: the code it returns, none when the process is
killed, and the machine it leaves. -/
inductive FlowExit : Option ErrorCode → Machine ProvService → Prop where
  | uidFailed (huid : env.uid.success = false) : FlowExit (some env.uid.errorCode) s
  | refused (huid : env.uid.success = true) (hprot : s.mem.storage.writeProtected = true) :
      FlowExit (some .vinWriteFailed) s
  | unencodable (huid : env.uid.success = true) (hprot : s.mem.storage.writeProtected = false)
      (hutf8 : ¬ Utf8 env.uid.uid) : FlowExit (some .vinWriteFailed) s
  | first {c₀ c₁ k : Bytes} (huid : env.uid.success = true) (w : Writable P env vin s c₀ c₁ k)
      (h₀ : (env.save 0).returned ≠ some true) :
      FlowExit ((env.save 0).returned.map fun _ ↦ .vinWriteFailed) (afterFirst env s c₀)
  | second {c₀ c₁ k : Bytes} (huid : env.uid.success = true) (w : Writable P env vin s c₀ c₁ k)
      (h₀ : (env.save 0).returned = some true) (h₁ : (env.save 1).returned ≠ some true) :
      FlowExit ((env.save 1).returned.map fun _ ↦ .vinWriteFailed) (afterSecond env s c₀ c₁)
  | readBack {c₀ c₁ k : Bytes} (huid : env.uid.success = true)
      (w : Writable P env vin s c₀ c₁ k)
      (h₀ : (env.save 0).returned = some true) (h₁ : (env.save 1).returned = some true)
      (hread : ¬ ReadsBack P vin (afterSecond env s c₀ c₁)) :
      FlowExit (some .readbackVerificationFailed) (afterSecond env s c₀ c₁)
  | unlocked {c₀ c₁ k : Bytes} (huid : env.uid.success = true)
      (w : Writable P env vin s c₀ c₁ k)
      (h₀ : (env.save 0).returned = some true) (h₁ : (env.save 1).returned = some true)
      (hread : ReadsBack P vin (afterSecond env s c₀ c₁))
      (hcfg : s.mem.config.enableWriteProtection = false) :
      FlowExit (some .success) (afterSecond env s c₀ c₁)
  | lock {c₀ c₁ k : Bytes} (huid : env.uid.success = true) (w : Writable P env vin s c₀ c₁ k)
      (h₀ : (env.save 0).returned = some true) (h₁ : (env.save 1).returned = some true)
      (hread : ReadsBack P vin (afterSecond env s c₀ c₁))
      (hcfg : s.mem.config.enableWriteProtection = true) :
      FlowExit ((env.save 2).returned.map ProtectedStorageImpl.savedCode)
        (afterProtection env (afterSecond env s c₀ c₁) k)

variable {P env vin s}

theorem executeVinBindingFlow_of_establish {code : Option ErrorCode} {t : Machine ProvService}
    (huid : env.uid.success = true)
    (hval : (establishBinding P env vin env.uid.uid s).val = code)
    (hstate : (establishBinding P env vin env.uid.uid s).state = t)
    (hcode : code ≠ some .success) :
    (executeVinBindingFlow P env vin s).val = code ∧
      (executeVinBindingFlow P env vin s).state = t := by
  subst hval hstate
  rcases hret : (establishBinding P env vin env.uid.uid s).val with _ | c
  · simp [executeVinBindingFlow, huid, hret]
  · have hc : c ≠ .success := by
      rintro rfl
      exact hcode hret
    simp [executeVinBindingFlow, huid, hret, hc]

theorem executeVinBindingFlow_of_established {t : Machine ProvService}
    (huid : env.uid.success = true)
    (hval : (establishBinding P env vin env.uid.uid s).val = some .success)
    (hstate : (establishBinding P env vin env.uid.uid s).state = t) :
    (executeVinBindingFlow P env vin s).val =
        ((verifyWrite P vin t).val.bind fun result ↦
          if result = .success then (finishVinBindingFlow P env vin t).val else some result) ∧
      (executeVinBindingFlow P env vin s).state =
        ((verifyWrite P vin t).val.elim t fun result ↦
          if result = .success then (finishVinBindingFlow P env vin t).state else t) := by
  subst hstate
  rcases hret : (verifyWrite P vin (establishBinding P env vin env.uid.uid s).state).val with
    _ | c
  · simp [executeVinBindingFlow, huid, hval, hret, verifyWrite_state]
  · by_cases hc : c = .success <;>
      simp [executeVinBindingFlow, huid, hval, hret, verifyWrite_state, hc]

variable (P vin s) in
theorem executeVinBindingFlow_uidFailed (huid : env.uid.success = false) :
    (executeVinBindingFlow P env vin s).val = some env.uid.errorCode ∧
      (executeVinBindingFlow P env vin s).state = s := by
  simp [executeVinBindingFlow, huid]

theorem executeVinBindingFlow_second {c₀ c₁ k : Bytes} (huid : env.uid.success = true)
    (w : Writable P env vin s c₀ c₁ k) (h₀ : (env.save 0).returned = some true)
    (h₁ : (env.save 1).returned ≠ some true) :
    (executeVinBindingFlow P env vin s).val =
        (env.save 1).returned.map (fun _ ↦ .vinWriteFailed) ∧
      (executeVinBindingFlow P env vin s).state = afterSecond env s c₀ c₁ := by
  obtain ⟨hval, hstate⟩ := establishBinding_second w h₀ h₁
  exact executeVinBindingFlow_of_establish huid hval hstate (by simp)

theorem executeVinBindingFlow_accepted {c₀ c₁ k : Bytes} (huid : env.uid.success = true)
    (w : Writable P env vin s c₀ c₁ k) (h₀ : (env.save 0).returned = some true)
    (h₁ : (env.save 1).returned = some true)
    (hread : ReadsBack P vin (afterSecond env s c₀ c₁)) :
    (executeVinBindingFlow P env vin s).val =
        (finishVinBindingFlow P env vin (afterSecond env s c₀ c₁)).val ∧
      (executeVinBindingFlow P env vin s).state =
        (finishVinBindingFlow P env vin (afterSecond env s c₀ c₁)).state := by
  obtain ⟨hval, hstate⟩ := establishBinding_saved w h₀ h₁
  obtain ⟨hval', hstate'⟩ := executeVinBindingFlow_of_established huid hval hstate
  rw [hval', hstate', verifyWrite_accepted hread]
  simp

variable (env s) in
theorem executeVinBindingFlow_exit (hP : P.json.Lawful) (hvin : Utf8 vin) :
    FlowExit P env vin s (executeVinBindingFlow P env vin s).val
      (executeVinBindingFlow P env vin s).state := by
  cases huid : env.uid.success with
  | false =>
      obtain ⟨hval, hstate⟩ := executeVinBindingFlow_uidFailed P vin s huid
      rw [hval, hstate]
      exact .uidFailed huid
  | true =>
  cases hprot : s.mem.storage.writeProtected with
  | true =>
      obtain ⟨hval, hstate⟩ := establishBinding_protected P env vin hprot
      obtain ⟨hval', hstate'⟩ := executeVinBindingFlow_of_establish huid hval hstate (by simp)
      rw [hval', hstate']
      exact .refused huid hprot
  | false =>
  by_cases hutf8 : Utf8 env.uid.uid
  case neg =>
    obtain ⟨e, he⟩ := sealed_written_error vin s hP hutf8
    obtain ⟨hval, hstate⟩ := establishBinding_unencodable hprot he
    obtain ⟨hval', hstate'⟩ := executeVinBindingFlow_of_establish huid hval hstate (by simp)
    rw [hval', hstate']
    exact .unencodable huid hprot hutf8
  obtain ⟨c₀, c₁, k, w⟩ := exists_writable hP hprot hvin hutf8
  by_cases h₀ : (env.save 0).returned = some true
  case neg =>
    obtain ⟨hval, hstate⟩ := establishBinding_first w h₀
    obtain ⟨hval', hstate'⟩ := executeVinBindingFlow_of_establish huid hval hstate (by simp)
    rw [hval', hstate']
    exact .first huid w h₀
  by_cases h₁ : (env.save 1).returned = some true
  case neg =>
    obtain ⟨hval, hstate⟩ := executeVinBindingFlow_second huid w h₀ h₁
    rw [hval, hstate]
    exact .second huid w h₀ h₁
  by_cases hread : ReadsBack P vin (afterSecond env s c₀ c₁)
  case neg =>
    obtain ⟨hval, hstate⟩ := establishBinding_saved w h₀ h₁
    obtain ⟨hval', hstate'⟩ := executeVinBindingFlow_of_established huid hval hstate
    rw [hval', hstate', verifyWrite_refused hread]
    simpa using FlowExit.readBack huid w h₀ h₁ hread
  obtain ⟨hval, hstate⟩ := executeVinBindingFlow_accepted huid w h₀ h₁ hread
  rw [hval, hstate]
  cases hcfg : s.mem.config.enableWriteProtection with
  | false =>
      obtain ⟨hval, hstate⟩ := finishVinBindingFlow_unlocked P env vin
        (t := afterSecond env s c₀ c₁) hcfg
      rw [hval, hstate]
      exact .unlocked huid w h₀ h₁ hread hcfg
  | true =>
      obtain ⟨hval, hstate⟩ := finishVinBindingFlow_lock env vin
        (t := afterSecond env s c₀ c₁) hcfg w.flag
      rw [hval, hstate]
      exact .lock huid w h₀ h₁ hread hcfg

end TboxProv.ProvService
