import TboxProv.Runs

/-!
# The cached flag

`write_protected_` is a copy of what the protection record says.  Every operation of
`ProtectedStorageImpl` keeps the two equal but `clear_all`, which drops the copy whether or
not the record went away.
-/

namespace TboxProv.ProtectedStorageImpl

open Crash Store
open ProvService (textPlatform textPlatform_lawful)

inductive StorageCall where
  | initializeStorage (root service : DirOutcome)
  | setWriteProtection (outcome : SaveOutcome) (locked : Bool)
  | clearAll (outcome : Key → RemoveOutcome)
  | writeVehicleBinding (outcome : SaveOutcome) (binding : VehicleBinding)
  | writeVehicleConfig (outcome : SaveOutcome) (config : VehicleConfig)
  | writeProductionInfo (outcome : SaveOutcome) (info : ProductionInfo)

/-- An object in use, and whether an `initialize` of it has succeeded so far. -/
structure Opened where
  machine : Machine ProtectedStorageImpl
  initialized : Bool

def fresh (disk : Disk) : Opened := ⟨⟨disk, {}⟩, false⟩

variable (P : Platform)

namespace StorageCall

def prog : StorageCall → StorageAction ErrorCode
  | .initializeStorage root service => ProtectedStorageImpl.initializeStorage P root service
  | .setWriteProtection outcome locked => ProtectedStorageImpl.setWriteProtection P outcome locked
  | .clearAll outcome => ProtectedStorageImpl.clearAll outcome
  | .writeVehicleBinding outcome binding =>
      ProtectedStorageImpl.writeVehicleBinding P outcome binding
  | .writeVehicleConfig outcome config => ProtectedStorageImpl.writeVehicleConfig P outcome config
  | .writeProductionInfo outcome info => ProtectedStorageImpl.writeProductionInfo P outcome info

def Opens : StorageCall → Machine ProtectedStorageImpl → Bool
  | .initializeStorage root service, s =>
      (ProtectedStorageImpl.initializeStorage P root service s).val == some .success
  | _, _ => false

def exec (call : StorageCall) (t : Opened) : Opened :=
  ⟨(call.prog P t.machine).state, t.initialized || call.Opens P t.machine⟩

/-- A save stores the record, or fails and leaves what was there. -/
def SavesOrFails : StorageCall → Prop
  | .setWriteProtection outcome _ | .writeVehicleBinding outcome _
  | .writeVehicleConfig outcome _ | .writeProductionInfo outcome _ =>
      outcome = .stored ∨ ∃ what, outcome = .failed what
  | _ => True

/-- No removal of a record that is there fails. -/
def RemovesStored : StorageCall → Opened → Prop
  | .clearAll outcome, t => ∀ key what, outcome key = .threw what → t.machine.disk key = .absent
  | _, _ => True

end StorageCall

/-- What a new object on the same store finds when it is initialized. -/
def freshFlag (disk : Disk) : Bool :=
  (initializeStorage P .present .present ⟨disk, {}⟩).state.mem.writeProtected

/-- After an operation: the flag is what a new object would find, and a `clear_all` that
reports success has left no record. -/
structure Consistent (call : StorageCall) (t : Opened) : Prop where
  flag : (call.exec P t).initialized = true →
    (call.exec P t).machine.mem.writeProtected = freshFlag P (call.exec P t).machine.disk
  cleared : ∀ outcome, call = .clearAll outcome →
    (call.prog P t.machine).val = some .success →
      ∀ key, (call.exec P t).machine.disk key = .absent

/-! ## The flag and the record -/

/-- Before an `initialize` has succeeded the flag may be behind the record. -/
structure Copied (t : Opened) : Prop where
  raised : t.machine.mem.writeProtected = true →
    protectedIn P (t.machine.disk .protection) = true
  flag : t.initialized = true →
    t.machine.mem.writeProtected = protectedIn P (t.machine.disk .protection)

variable {P} {t : Opened} {call : StorageCall}

theorem freshFlag_eq (disk : Disk) : freshFlag P disk = protectedIn P (disk .protection) := by
  unfold freshFlag initializeStorage protectedIn
  rcases hload : loaded P (disk .protection) with e | _ | data <;>
    simp [DirOutcome.usable, hload]

theorem Copied.of_eq {machine : Machine ProtectedStorageImpl} {initialized : Bool}
    (h : machine.mem.writeProtected = protectedIn P (machine.disk .protection)) :
    Copied P ⟨machine, initialized⟩ :=
  ⟨fun hraised ↦ h.symm.trans hraised, fun _ ↦ h⟩

/-- Neither the flag nor the record it copies was touched. -/
theorem Copied.of_same (h : Copied P t) {machine : Machine ProtectedStorageImpl}
    (hmem : machine.mem = t.machine.mem)
    (hdisk : machine.disk .protection = t.machine.disk .protection) :
    Copied P ⟨machine, t.initialized⟩ := by
  constructor
  · intro hraised
    rw [hmem] at hraised
    rw [hdisk]
    exact h.raised hraised
  · intro hinit
    rw [hmem, hdisk]
    exact h.flag hinit

theorem copied_fresh (disk : Disk) : Copied P (fresh disk) := by
  constructor <;> (intro h; cases h)

/-! ## One operation -/

theorem exec_not_opening (hcall : ∀ root service, call ≠ .initializeStorage root service) :
    call.exec P t = ⟨(call.prog P t.machine).state, t.initialized⟩ := by
  cases call with
  | initializeStorage root service => exact absurd rfl (hcall root service)
  | setWriteProtection | clearAll | writeVehicleBinding | writeVehicleConfig
  | writeProductionInfo => simp [StorageCall.exec, StorageCall.Opens]

theorem Copied.initializeStorage (h : Copied P t) (root service : DirOutcome) :
    Copied P ((StorageCall.initializeStorage root service).exec P t) := by
  have hdisk := initializeStorage_disk P t.machine root service
  by_cases hval : (ProtectedStorageImpl.initializeStorage P root service t.machine).val =
      some .success
  · apply Copied.of_eq
    have hmem := initializeStorage_flag P t.machine root service h.raised hval
    rw [StorageCall.prog, hmem, hdisk]
  · have hmem := initializeStorage_failed P t.machine root service hval
    have hinit : (StorageCall.initializeStorage root service).Opens P t.machine = false := by
      simpa [StorageCall.Opens] using hval
    rw [StorageCall.exec, hinit, Bool.or_false]
    exact h.of_same hmem (congrFun hdisk _)

section Flag

variable (hP : P.json.Lawful)
include hP

theorem exists_flagText (locked : Bool) : ∃ content,
    envelope P (flagText locked) = .ok content ∧ protectedIn P (.file content) = locked := by
  have hutf8 : Utf8 (flagText locked) := by
    cases locked with
    | true => exact Utf8.bytes "1"
    | false => exact Utf8.bytes "0"
  obtain ⟨content, hcontent⟩ := exists_envelope hP hutf8
  refine ⟨content, hcontent, ?_⟩
  rw [protectedIn_envelope hP hcontent]
  cases locked with
  | true => rfl
  | false => rfl

/-- A save that fails leaves both as they were; one that succeeds sets both. -/
theorem Copied.setWriteProtection (h : Copied P t) {outcome : SaveOutcome}
    (hsaves : outcome = .stored ∨ ∃ what, outcome = .failed what) (locked : Bool) :
    Copied P ((StorageCall.setWriteProtection outcome locked).exec P t) := by
  obtain ⟨content, henv, hflag⟩ := exists_flagText hP locked
  have hstate := (setWriteProtection_ok P t.machine outcome locked henv).2
  rw [exec_not_opening (by simp), StorageCall.prog, hstate]
  obtain rfl | ⟨what, rfl⟩ := hsaves
  · apply Copied.of_eq
    simp [SaveOutcome.returned, SaveOutcome.leaves, hflag]
  · apply h.of_same
    · simp [SaveOutcome.returned]
    · simp [SaveOutcome.leaves]

end Flag

theorem Copied.writeRecord (h : Copied P t) (outcome : SaveOutcome) {key : Key}
    (hkey : key ≠ .protection) (serialized : Throws Bytes) (message : String) :
    Copied P ⟨(ProtectedStorageImpl.writeRecord P outcome key serialized message
      t.machine).state, t.initialized⟩ := by
  cases hprot : t.machine.mem.writeProtected with
  | true =>
      rw [(writeRecord_protected P t.machine outcome key serialized message hprot).2]
      exact h
  | false =>
      cases hsealed : sealed P serialized with
      | error e =>
          rw [(writeRecord_error P t.machine outcome key serialized message hprot hsealed).2]
          exact h
      | ok content =>
          rw [(writeRecord_ok P t.machine outcome key serialized message hprot hsealed).2]
          exact h.of_same rfl (Function.update_of_ne hkey.symm _ _)

theorem clearAll_exec (outcome : Key → RemoveOutcome) :
    (StorageCall.clearAll outcome).exec P t =
      ⟨⟨fun key ↦ (outcome key).leaves (t.machine.disk key), ⟨false⟩⟩, t.initialized⟩ := by
  rw [exec_not_opening (by simp), StorageCall.prog, clearAll_state]

theorem clearAll_empties_iff {outcome : Key → RemoveOutcome} :
    (∀ key, ((StorageCall.clearAll outcome).exec P t).machine.disk key = .absent) ↔
      (StorageCall.clearAll outcome).RemovesStored t := by
  rw [clearAll_exec]
  apply forall_congr'
  intro key
  cases houtcome : outcome key with
  | done => simp [houtcome, RemoveOutcome.leaves]
  | threw what => simp [houtcome, RemoveOutcome.leaves]

/-- The flag is down afterwards, and so is the record when it went away. -/
theorem Copied.clearAll {outcome : Key → RemoveOutcome}
    (hremoves : (StorageCall.clearAll outcome).RemovesStored t) :
    Copied P ((StorageCall.clearAll outcome).exec P t) := by
  have habsent : ((StorageCall.clearAll outcome).exec P t).machine.disk .protection = .absent :=
    clearAll_empties_iff.2 hremoves .protection
  rw [clearAll_exec] at habsent ⊢
  apply Copied.of_eq
  rw [habsent]
  rfl

theorem Copied.exec (hP : P.json.Lawful) (h : Copied P t) (hsaves : call.SavesOrFails)
    (hremoves : call.RemovesStored t) : Copied P (call.exec P t) := by
  cases call with
  | initializeStorage root service => exact h.initializeStorage root service
  | setWriteProtection outcome locked => exact h.setWriteProtection hP hsaves locked
  | clearAll outcome => exact Copied.clearAll hremoves
  | writeVehicleBinding outcome binding =>
      rw [exec_not_opening (by simp)]
      exact h.writeRecord outcome (by decide) _ _
  | writeVehicleConfig outcome config =>
      rw [exec_not_opening (by simp)]
      exact h.writeRecord outcome (by decide) _ _
  | writeProductionInfo outcome info =>
      rw [exec_not_opening (by simp)]
      exact h.writeRecord outcome (by decide) _ _

theorem consistent_iff (hP : P.json.Lawful) (hsaves : call.SavesOrFails) (h : Copied P t) :
    Consistent P call t ↔ call.RemovesStored t := by
  constructor
  · intro hconsistent
    cases call with
    | clearAll outcome =>
        apply clearAll_empties_iff.1
        exact hconsistent.cleared outcome rfl (clearAll_val t.machine outcome)
    | initializeStorage | setWriteProtection | writeVehicleBinding | writeVehicleConfig
    | writeProductionInfo => trivial
  · intro hremoves
    constructor
    · intro hinit
      rw [freshFlag_eq]
      exact (h.exec hP hsaves hremoves).flag hinit
    · rintro outcome rfl -
      exact clearAll_empties_iff.2 hremoves

/-! ## Runs -/

/-- Over any run of an object that is new at its beginning, the flag is what a new object
would find, and a successful `clear_all` leaves nothing, exactly when no `clear_all` meets a
record that it cannot remove. -/
theorem flag_matches_disk_iff (hP : P.json.Lawful) (disk : Disk) {calls : List StorageCall}
    (hsaves : ∀ call ∈ calls, call.SavesOrFails) :
    Along (StorageCall.exec P) (Consistent P) calls (fresh disk) ↔
      Along (StorageCall.exec P) StorageCall.RemovesStored calls (fresh disk) := by
  have hgiven : Along (StorageCall.exec P) (fun call _ ↦ call.SavesOrFails) calls (fresh disk) :=
    .of_forall (fun call hcall _ ↦ hsaves call hcall) _
  have hkeep : ∀ call t, StorageCall.SavesOrFails call → Copied P t → call.RemovesStored t →
      Copied P (call.exec P t) := fun _ _ hsaves h hremoves ↦ h.exec hP hsaves hremoves
  have hiff : ∀ call t, StorageCall.SavesOrFails call → Copied P t →
      (Consistent P call t ↔ call.RemovesStored t) := fun _ _ hsaves h ↦
    consistent_iff hP hsaves h
  exact along_iff_along hkeep hiff hgiven (copied_fresh disk)

/-- The records of a new store are removed while the flag is up. -/
theorem flag_matches_disk_sample :
    Along (StorageCall.exec textPlatform) (Consistent textPlatform)
      [.initializeStorage .present .present, .setWriteProtection .stored true,
        .clearAll fun _ ↦ .done] (fresh Disk.empty) := by
  apply (flag_matches_disk_iff textPlatform_lawful Disk.empty _).2
  · refine ⟨trivial, trivial, ?_, trivial⟩
    intro key what hthrew
    cases hthrew
  · simp [StorageCall.SavesOrFails]

theorem setWriteProtection_exec (hP : P.json.Lawful) (t : Opened) (locked : Bool) :
    protectedIn P (((StorageCall.setWriteProtection .stored locked).exec P t).machine.disk
      .protection) = locked := by
  obtain ⟨content, henv, hflag⟩ := exists_flagText hP locked
  have hstate := (setWriteProtection_ok P t.machine .stored locked henv).2
  rw [exec_not_opening (by simp), StorageCall.prog, hstate]
  simpa [SaveOutcome.leaves] using hflag

/-- No record can be removed while the flag is up: it comes down all the same. -/
theorem flag_lost :
    ¬ Along (StorageCall.exec textPlatform) (Consistent textPlatform)
      [.initializeStorage .present .present, .setWriteProtection .stored true,
        .clearAll fun _ ↦ .threw (bytes "Permission denied")] (fresh Disk.empty) := by
  rintro ⟨-, -, hlast, -⟩
  have hprotected := setWriteProtection_exec textPlatform_lawful
    ((StorageCall.initializeStorage .present .present).exec textPlatform (fresh Disk.empty)) true
  have hflag := hlast.flag rfl
  rw [freshFlag_eq, clearAll_exec] at hflag
  exact absurd (hflag.trans hprotected) (by decide)

end TboxProv.ProtectedStorageImpl
