import TboxProv.Persistence

/-!
# Writing configurations and production information

Both writes save a record and compare what they read back.  The configuration is then
saved a second time, marked as verified, and nobody looks at how that save went.
-/

namespace TboxProv

namespace SaveOutcome

/-- What holds of the entry that a save leaves: `new` of its own content, `kept` of the
entry before it. -/
def Leaves (new kept : Prop) (Q : Entry → Prop) : SaveOutcome → Prop
  | .stored | .killedAfter => new
  | .failed _ | .lost | .killedBefore => kept
  | .replaced entry => Q entry

theorem leaves_iff {Q : Entry → Prop} {new kept : Prop} {data : Bytes} {old : Entry}
    (outcome : SaveOutcome) (hnew : Q (.file data) ↔ new) (hkept : Q old ↔ kept) :
    Q (outcome.leaves data old) ↔ outcome.Leaves new kept Q := by
  cases outcome with
  | stored | killedAfter => exact hnew
  | failed | lost | killedBefore => exact hkept
  | replaced entry => exact Iff.rfl

end SaveOutcome

namespace ProvService

open Crash Store

variable (P : Platform) (env : Env)

/-! ## The configuration -/

section Config

variable (configData : List UInt8)

/-- A record of these bytes. -/
def Coded (entry : Entry) : Prop :=
  ∃ config, configIn P entry = some config ∧ config.variantCoding = configData

/-- A record of these bytes that is marked as verified. -/
def Verified (entry : Entry) : Prop :=
  ∃ config, configIn P entry = some config ∧ config.variantCoding = configData ∧
    config.verified = true

def unverifiedConfig : VehicleConfig :=
  { variantCoding := configData, writtenAt := env.clock 0, verified := false }

def verifiedConfig : VehicleConfig :=
  { variantCoding := configData, writtenAt := env.clock 0, verified := true }

variable {P env configData} {s : Machine ProvService} {c₀ c₁ : Bytes}

/-- What the configuration's entry is after the first save. -/
def firstEntry (env : Env) (s : Machine ProvService) (c₀ : Bytes) : Entry :=
  (env.save 0).leaves c₀ (s.disk .config)

theorem onStorage_readRecord_val {α : Type} (key : Key) (deserialize : Bytes → Throws α)
    (message : String) (s : Machine ProvService) :
    (onStorage (ProtectedStorageImpl.readRecord P key deserialize message) s).val =
      some (recordIn P deserialize (s.disk key)) := by
  rw [onStorage_val, ProtectedStorageImpl.readRecord_val]

theorem readVehicleConfig_val (t : Machine ProvService) :
    (onStorage (ProtectedStorageImpl.readVehicleConfig P) t).val =
      some (configIn P (t.disk .config)) :=
  onStorage_readRecord_val .config (deserializeConfig P) "Failed to read vehicle config: " t

theorem readVehicleConfig_state (t : Machine ProvService) :
    (onStorage (ProtectedStorageImpl.readVehicleConfig P) t).state = t := by
  simp [ProtectedStorageImpl.readVehicleConfig]

theorem configSave_first (hprot : s.mem.storage.writeProtected = false)
    (hc₀ : sealed P (serializeConfig P (unverifiedConfig env configData)) = .ok c₀) :
    (onStorage (ProtectedStorageImpl.writeVehicleConfig P (env.save 0)
        { variantCoding := configData, writtenAt := env.clock 0, verified := false }) s).val =
        (env.save 0).returned.map ProtectedStorageImpl.savedCode ∧
      (onStorage (ProtectedStorageImpl.writeVehicleConfig P (env.save 0)
        { variantCoding := configData, writtenAt := env.clock 0, verified := false }) s).state =
        s.put .config (firstEntry env s c₀) :=
  writeRecord_ok P s (env.save 0) .config "Failed to write vehicle config: " hprot hc₀

theorem configSave_second (hprot : s.mem.storage.writeProtected = false) (entry : Entry)
    (hc₁ : sealed P (serializeConfig P (verifiedConfig env configData)) = .ok c₁) :
    (onStorage (ProtectedStorageImpl.writeVehicleConfig P (env.save 1)
        { variantCoding := configData, writtenAt := env.clock 0, verified := true })
        (s.put .config entry)).val =
        (env.save 1).returned.map ProtectedStorageImpl.savedCode ∧
      ((onStorage (ProtectedStorageImpl.writeVehicleConfig P (env.save 1)
        { variantCoding := configData, writtenAt := env.clock 0, verified := true })
        (s.put .config entry)).state).disk .config = (env.save 1).leaves c₁ entry := by
  obtain ⟨hval, hstate⟩ := writeRecord_ok P (s.put .config entry) (env.save 1) .config
    "Failed to write vehicle config: " hprot hc₁
  have hentry := congrArg (fun t : Machine ProvService ↦ t.disk .config) hstate
  exact ⟨hval, hentry.trans (by simp)⟩

/-- The second save comes after the read-back, and its own report is dropped. -/
theorem writeVehicleConfig_val (hadm : WritesAdmitted s)
    (hc₀ : sealed P (serializeConfig P (unverifiedConfig env configData)) = .ok c₀)
    (hc₁ : sealed P (serializeConfig P (verifiedConfig env configData)) = .ok c₁) :
    (writeVehicleConfig P env configData s).val =
      (env.save 0).returned.bind fun saved ↦
        if saved then
          match configIn P (firstEntry env s c₀) with
          | none => some .configWriteFailed
          | some stored =>
              if stored.variantCoding = configData then
                (env.save 1).returned.map fun _ ↦ .success
              else some .readbackVerificationFailed
        else some .configWriteFailed := by
  obtain ⟨hinit, hrunning, hprot⟩ := hadm
  obtain ⟨hval, hstate⟩ := configSave_first hprot hc₀
  obtain ⟨hval₁, -⟩ := configSave_second hprot (firstEntry env s c₀) hc₁
  rcases hret : (env.save 0).returned with _ | _ | _
  · simp [writeVehicleConfig, hinit, hrunning, hprot, hval, hret]
  · simp [writeVehicleConfig, hinit, hrunning, hprot, hval, hret,
      ProtectedStorageImpl.savedCode]
  · cases hread : configIn P (firstEntry env s c₀) with
    | none =>
        simp [writeVehicleConfig, hinit, hrunning, hprot, hval, hstate, hret,
          ProtectedStorageImpl.savedCode, readVehicleConfig_val, hread]
    | some stored =>
        by_cases hsame : stored.variantCoding = configData <;>
          cases hreturned : (env.save 1).returned <;>
            simp [writeVehicleConfig, hinit, hrunning, hprot, hval, hstate, hret,
              ProtectedStorageImpl.savedCode, readVehicleConfig_val, readVehicleConfig_state,
              hread, hsame, hval₁, hreturned]

theorem writeVehicleConfig_entry (hadm : WritesAdmitted s)
    (hc₀ : sealed P (serializeConfig P (unverifiedConfig env configData)) = .ok c₀)
    (hc₁ : sealed P (serializeConfig P (verifiedConfig env configData)) = .ok c₁)
    (hret : (env.save 0).returned = some true)
    (hcoded : Coded P configData (firstEntry env s c₀)) :
    (writeVehicleConfig P env configData s).state.disk .config =
      (env.save 1).leaves c₁ (firstEntry env s c₀) := by
  obtain ⟨hinit, hrunning, hprot⟩ := hadm
  obtain ⟨hval, hstate⟩ := configSave_first hprot hc₀
  obtain ⟨hval₁, hentry⟩ := configSave_second hprot (firstEntry env s c₀) hc₁
  obtain ⟨stored, hread, hsame⟩ := hcoded
  cases hreturned : (env.save 1).returned <;>
    simp [writeVehicleConfig, hinit, hrunning, hprot, hval, hstate, hret,
      ProtectedStorageImpl.savedCode, readVehicleConfig_val, readVehicleConfig_state, hread,
      hsame, hval₁, hentry, hreturned]

theorem exists_configs (hP : P.json.Lawful) (env : Env) (configData : List UInt8) :
    ∃ c₀ c₁, sealed P (serializeConfig P (unverifiedConfig env configData)) = .ok c₀ ∧
      sealed P (serializeConfig P (verifiedConfig env configData)) = .ok c₁ := by
  obtain ⟨c₀, hc₀⟩ := exists_sealed hP (configJson_plain (unverifiedConfig env configData))
    (configJson_utf8 _)
  obtain ⟨c₁, hc₁⟩ := exists_sealed hP (configJson_plain (verifiedConfig env configData))
    (configJson_utf8 _)
  exact ⟨c₀, c₁, hc₀, hc₁⟩

variable (P env configData s)

/-- The first save leaves a record of these bytes. -/
def LeavesCoded : Prop :=
  (env.save 0).Leaves True (Coded P configData (s.disk .config)) (Coded P configData)

/-- The two saves leave a record of these bytes that is marked as verified: the second one
stores it, or has no effect on such a record. -/
def LeavesVerified : Prop :=
  (env.save 1).Leaves True
    ((env.save 0).Leaves False (Verified P configData (s.disk .config)) (Verified P configData))
    (Verified P configData)

variable {P env configData s}

theorem coded_firstEntry_iff (hP : P.json.Lawful)
    (hc₀ : sealed P (serializeConfig P (unverifiedConfig env configData)) = .ok c₀) :
    Coded P configData (firstEntry env s c₀) ↔ LeavesCoded P env configData s := by
  refine SaveOutcome.leaves_iff (env.save 0) (iff_true_intro ?_) Iff.rfl
  exact ⟨_, configIn_sealed hP hc₀, rfl⟩

theorem verified_firstEntry_iff (hP : P.json.Lawful)
    (hc₀ : sealed P (serializeConfig P (unverifiedConfig env configData)) = .ok c₀) :
    Verified P configData (firstEntry env s c₀) ↔
      (env.save 0).Leaves False (Verified P configData (s.disk .config))
        (Verified P configData) := by
  refine SaveOutcome.leaves_iff (env.save 0) (iff_false_intro ?_) Iff.rfl
  rintro ⟨config, hread, -, hverified⟩
  rw [configIn_sealed hP hc₀] at hread
  cases hread
  cases hverified

theorem verified_secondEntry_iff (hP : P.json.Lawful)
    (hc₀ : sealed P (serializeConfig P (unverifiedConfig env configData)) = .ok c₀)
    (hc₁ : sealed P (serializeConfig P (verifiedConfig env configData)) = .ok c₁) :
    Verified P configData ((env.save 1).leaves c₁ (firstEntry env s c₀)) ↔
      LeavesVerified P env configData s := by
  refine SaveOutcome.leaves_iff (env.save 1) (iff_true_intro ?_) (verified_firstEntry_iff hP hc₀)
  exact ⟨_, configIn_sealed hP hc₁, rfl, rfl⟩

theorem writeVehicleConfig_success_iff (hP : P.json.Lawful) :
    (writeVehicleConfig P env configData s).val = some .success ↔
      WritesAdmitted s ∧ (env.save 0).returned = some true ∧ LeavesCoded P env configData s ∧
        (env.save 1).returned ≠ none := by
  by_cases hadm : WritesAdmitted s
  · obtain ⟨c₀, c₁, hc₀, hc₁⟩ := exists_configs hP env configData
    rw [writeVehicleConfig_val hadm hc₀ hc₁, ← coded_firstEntry_iff hP hc₀]
    unfold Coded
    rcases hret : (env.save 0).returned with _ | _ | _
    · simp
    · simp
    · cases hread : configIn P (firstEntry env s c₀) with
      | none => simp
      | some stored =>
          by_cases hsame : stored.variantCoding = configData <;>
            cases hreturned : (env.save 1).returned <;> simp [hadm, hsame]
  · obtain ⟨code, hrefused, hval, -⟩ := writeVehicleConfig_refused P env s configData hadm
    rw [hval, Option.some.injEq]
    exact iff_of_false hrefused.ne_success fun h ↦ hadm h.1

/-- Success is real exactly if the call does not get through its second save, or the two
saves leave a verified record of the bytes. -/
theorem config_success_real_iff (hP : P.json.Lawful) :
    ((writeVehicleConfig P env configData s).val = some .success →
        Verified P configData ((writeVehicleConfig P env configData s).state.disk .config)) ↔
      (WritesAdmitted s → (env.save 0).returned = some true →
        LeavesCoded P env configData s → (env.save 1).returned ≠ none →
          LeavesVerified P env configData s) := by
  obtain ⟨c₀, c₁, hc₀, hc₁⟩ := exists_configs hP env configData
  rw [writeVehicleConfig_success_iff hP]
  constructor
  · intro hreal hadm hret hcoded hreturns
    have hverified := hreal ⟨hadm, hret, hcoded, hreturns⟩
    rw [writeVehicleConfig_entry hadm hc₀ hc₁ hret ((coded_firstEntry_iff hP hc₀).2 hcoded)]
      at hverified
    exact (verified_secondEntry_iff hP hc₀ hc₁).1 hverified
  · rintro hleaves ⟨hadm, hret, hcoded, hreturns⟩
    rw [writeVehicleConfig_entry hadm hc₀ hc₁ hret ((coded_firstEntry_iff hP hc₀).2 hcoded)]
    exact (verified_secondEntry_iff hP hc₀ hc₁).2 (hleaves hadm hret hcoded hreturns)

theorem config_success_real_sample :
    (writeVehicleConfig textPlatform sampleEnv [1] (started {})).val = some .success ∧
      Verified textPlatform [1]
        ((writeVehicleConfig textPlatform sampleEnv [1] (started {})).state.disk .config) := by
  have hval : (writeVehicleConfig textPlatform sampleEnv [1] (started {})).val = some .success :=
    (writeVehicleConfig_success_iff textPlatform_lawful).2
      ⟨⟨rfl, rfl, rfl⟩, rfl, trivial, nofun⟩
  exact ⟨hval, (config_success_real_iff textPlatform_lawful).2 (fun _ _ _ _ ↦ trivial) hval⟩

/-- The second save fails and the call still reports success. -/
theorem config_success_unverified :
    ¬ ((writeVehicleConfig textPlatform failedSecondEnv [1] (started {})).val = some .success →
      Verified textPlatform [1]
        ((writeVehicleConfig textPlatform failedSecondEnv [1] (started {})).state.disk .config)) := by
  intro hreal
  have hP : textPlatform.json.Lawful := textPlatform_lawful
  have hadm : WritesAdmitted (started {}) := ⟨rfl, rfl, rfl⟩
  have hcoded : LeavesCoded textPlatform failedSecondEnv [1] (started {}) := trivial
  obtain ⟨c₀, c₁, hc₀, hc₁⟩ := exists_configs hP failedSecondEnv [1]
  have hverified := hreal ((writeVehicleConfig_success_iff hP).2 ⟨hadm, rfl, hcoded, nofun⟩)
  rw [writeVehicleConfig_entry hadm hc₀ hc₁ rfl ((coded_firstEntry_iff hP hc₀).2 hcoded)]
    at hverified
  exact (verified_secondEntry_iff hP hc₀ hc₁).1 hverified

end Config

/-! ## Production information -/

section Info

/-- The three fields that the caller gives. -/
def SameInfo (info stored : ProductionInfo) : Prop :=
  stored.productionDate = info.productionDate ∧ stored.batchNum = info.batchNum ∧
    stored.stationId = info.stationId

variable (info : ProductionInfo)

instance (stored : ProductionInfo) : Decidable (SameInfo info stored) :=
  inferInstanceAs (Decidable (_ ∧ _ ∧ _))

/-- The text of the record that a call saves, if it can be written at all. -/
def infoContent : Throws Bytes :=
  sealed P (serializeProductionInfo P { info with writtenAt := env.clock 0 })

variable {P env info} {s : Machine ProvService} {content : Bytes}

theorem writeProductionInfo_unwritable (hadm : WritesAdmitted s) {e : Exception}
    (hcontent : infoContent P env info = .error e) :
    (writeProductionInfo P env info s).val = some .productionInfoWriteFailed := by
  obtain ⟨hinit, hrunning, hprot⟩ := hadm
  obtain ⟨hval, -⟩ := writeRecord_error P s (env.save 0) .productionInfo
    "Failed to write production info: " hprot hcontent
  simp [writeProductionInfo, hinit, hrunning, hprot, ProtectedStorageImpl.writeProductionInfo,
    hval]

/-- One save, and nothing is written after its read-back. -/
theorem writeProductionInfo_saved (hadm : WritesAdmitted s)
    (hcontent : infoContent P env info = .ok content) :
    (writeProductionInfo P env info s).val =
        ((env.save 0).returned.bind fun saved ↦
          if saved then
            match productionInfoIn P ((env.save 0).leaves content (s.disk .productionInfo)) with
            | none => some .productionInfoWriteFailed
            | some stored =>
                if SameInfo info stored then some .success else some .readbackVerificationFailed
          else some .productionInfoWriteFailed) ∧
      (writeProductionInfo P env info s).state =
        s.put .productionInfo ((env.save 0).leaves content (s.disk .productionInfo)) := by
  obtain ⟨hinit, hrunning, hprot⟩ := hadm
  obtain ⟨hval, hstate⟩ := writeRecord_ok P s (env.save 0) .productionInfo
    "Failed to write production info: " hprot hcontent
  unfold productionInfoIn
  rcases hret : (env.save 0).returned with _ | _ | _
  · simp [writeProductionInfo, hinit, hrunning, hprot, ProtectedStorageImpl.writeProductionInfo,
      hval, hstate, hret]
  · simp [writeProductionInfo, hinit, hrunning, hprot, ProtectedStorageImpl.writeProductionInfo,
      hval, hstate, hret, ProtectedStorageImpl.savedCode]
  · cases hread : recordIn P (deserializeProductionInfo P)
        ((env.save 0).leaves content (s.disk .productionInfo)) with
    | none =>
        simp [writeProductionInfo, hinit, hrunning, hprot,
          ProtectedStorageImpl.writeProductionInfo, ProtectedStorageImpl.readProductionInfo, hval,
          hstate, hret, ProtectedStorageImpl.savedCode, onStorage_readRecord_val, hread]
    | some stored =>
        -- the code asks for a difference
        have hcompare : (stored.productionDate ≠ info.productionDate ∨
            stored.batchNum ≠ info.batchNum ∨ stored.stationId ≠ info.stationId) ↔
              ¬ SameInfo info stored := by
          unfold SameInfo
          tauto
        by_cases hsame : SameInfo info stored <;>
          simp [writeProductionInfo, hinit, hrunning, hprot,
            ProtectedStorageImpl.writeProductionInfo, ProtectedStorageImpl.readProductionInfo,
            hval, hstate, hret, ProtectedStorageImpl.savedCode, onStorage_readRecord_val, hread,
            hcompare, hsame, -ne_eq]

variable (P env info s)

/-- What a call answers and leaves behind is what the store did. -/
structure WritesTruly : Prop where
  success : (writeProductionInfo P env info s).val = some .success →
    ∃ stored, productionInfoIn P
      ((writeProductionInfo P env info s).state.disk .productionInfo) = some stored ∧
        SameInfo info stored
  unwritable : WritesAdmitted s → (∃ e, infoContent P env info = .error e) →
    (writeProductionInfo P env info s).val = some .productionInfoWriteFailed
  saveFailed : WritesAdmitted s → (env.save 0).returned = some false →
    (writeProductionInfo P env info s).val = some .productionInfoWriteFailed
  differs : WritesAdmitted s → ∀ content stored, infoContent P env info = .ok content →
    (env.save 0).returned = some true →
      productionInfoIn P ((env.save 0).leaves content (s.disk .productionInfo)) = some stored →
        ¬ SameInfo info stored →
          (writeProductionInfo P env info s).val = some .readbackVerificationFailed
  unreadable : WritesAdmitted s → ∀ content, infoContent P env info = .ok content →
    (env.save 0).returned = some true →
      productionInfoIn P ((env.save 0).leaves content (s.disk .productionInfo)) = none →
        (writeProductionInfo P env info s).val = some .productionInfoWriteFailed
  frame : (writeProductionInfo P env info s).state.mem = s.mem ∧
    ∀ key, key ≠ .productionInfo →
      (writeProductionInfo P env info s).state.disk key = s.disk key

variable {P env info s}

theorem writeProductionInfo_success
    (h : (writeProductionInfo P env info s).val = some .success) :
    ∃ stored, productionInfoIn P
      ((writeProductionInfo P env info s).state.disk .productionInfo) = some stored ∧
        SameInfo info stored := by
  have hadm : WritesAdmitted s := by
    by_contra hno
    obtain ⟨code, hrefused, hval, -⟩ := writeProductionInfo_refused P env s info hno
    rw [hval, Option.some.injEq] at h
    exact hrefused.ne_success h
  cases hcontent : infoContent P env info with
  | error e =>
      rw [writeProductionInfo_unwritable hadm hcontent] at h
      cases h
  | ok content =>
      obtain ⟨hval, hstate⟩ := writeProductionInfo_saved hadm hcontent
      rw [hval] at h
      rw [hstate, Machine.put_disk, Function.update_self]
      rcases hret : (env.save 0).returned with _ | _ | _
      · rw [hret] at h
        cases h
      · rw [hret] at h
        cases h
      · rw [hret, Option.bind_some, if_pos rfl] at h
        cases hread : productionInfoIn P
            ((env.save 0).leaves content (s.disk .productionInfo)) with
        | none =>
            rw [hread] at h
            cases h
        | some stored =>
            rw [hread] at h
            dsimp only at h
            split at h
            case isTrue hsame => exact ⟨stored, rfl, hsame⟩
            case isFalse => cases h

/-- A write of production information never reports a false success. -/
theorem production_info_written_truly : WritesTruly P env info s where
  success := writeProductionInfo_success
  unwritable := by
    rintro hadm ⟨e, he⟩
    exact writeProductionInfo_unwritable hadm he
  saveFailed := by
    intro hadm hret
    cases hcontent : infoContent P env info with
    | error e => exact writeProductionInfo_unwritable hadm hcontent
    | ok content => simp [(writeProductionInfo_saved hadm hcontent).1, hret]
  differs := by
    intro hadm content stored hcontent hret hread hne
    simp [(writeProductionInfo_saved hadm hcontent).1, hret, hread, hne]
  unreadable := by
    intro hadm content hcontent hret hread
    simp [(writeProductionInfo_saved hadm hcontent).1, hret, hread]
  frame := by
    have hframe := writeProductionInfo_frame P env info s
    exact ⟨hframe.mem, hframe.other⟩

end Info

end ProvService

end TboxProv
