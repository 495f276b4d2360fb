import TboxProv.Crash.Trace
import TboxProv.Isolation
import TboxProv.ProvApplication

/-!
# The shipped providers

`createSeUidProvider` and `createTboxSnProvider` choose a provider by the build.  A
provider is modelled by what it returns for the configuration snapshot it finds.  With
these providers in place, a run of the service is a run of what is shipped.
-/

namespace TboxProv

open Crash

/-! ## What the providers look at -/

/-- The providers also ask whether a key is there. -/
structure ProviderSnapshot extends ConfigSnapshot where
  has : String → Bool

structure SecureElement where
  isSeHardwarePresent : Bool
  readFromSe : Bytes

/-- What the code returns until it has access to the hardware. -/
def SecureElement.standIn : SecureElement := ⟨false, bytes "SE987654321"⟩

/-- `TEST_ENVIRONMENT`, and the secure element of the board. -/
structure Build where
  testEnvironment : Bool
  se : SecureElement := .standIn

/-! ## The UID -/

/-- `EcuUid::read_uid_from_config` -/
def EcuUid.readUidFromConfig (snapshot : Option ProviderSnapshot) : Option Bytes :=
  match snapshot with
  | none => none
  | some cfg =>
      if !cfg.has "ecu.uid" then none
      else
        let uid := cfg.getString "ecu.uid" []
        if uid.isEmpty then none else some uid

/-- The secure element comes first in both providers; they differ in what they do without. -/
def readUidSeFirst (se : SecureElement) (missing : UidReadResult) : UidReadResult :=
  if se.isSeHardwarePresent then
    let uid := se.readFromSe
    if !uid.isEmpty then .ofUid uid
    else .ofError .seUidReadFailed (bytes "SE UID读取失败/超时")
  else missing

def SeHardwareUidProvider.readUidDetailed (se : SecureElement) : UidReadResult :=
  readUidSeFirst se
    (.ofError .seMissingProductionFailClosed (bytes "生产环境无SE，禁止配置文件兜底"))

def ConfigSeUidProvider.readUidDetailed (se : SecureElement)
    (snapshot : Option ProviderSnapshot) : UidReadResult :=
  readUidSeFirst se <|
    match EcuUid.readUidFromConfig snapshot with
    | some uid => .ofUid uid
    | none => .ofError .seMissingConfigNotFound (bytes "无SE且配置缺失/无对应UID")

def createSeUidProvider (build : Build) (snapshot : Option ProviderSnapshot) : UidReadResult :=
  if build.testEnvironment then ConfigSeUidProvider.readUidDetailed build.se snapshot
  else SeHardwareUidProvider.readUidDetailed build.se

/-- `EcuUid::read_uid_detailed` -/
def EcuUid.readUidDetailed (build : Build) (snapshot : Option ProviderSnapshot) : UidReadResult :=
  createSeUidProvider build snapshot

/-! ## The SN -/

namespace SnReadResult

def ofSn (sn source env : Bytes) : SnReadResult :=
  { sn, success := true, snSource := source, environment := env }

def ofError (source env stage error : Bytes) : SnReadResult :=
  { errorMessage := error, snSource := source, environment := env, failureStage := stage }

end SnReadResult

/-- A stand-in until there is an authoritative source. -/
def PlatformTboxSnProvider.readSn : SnReadResult :=
  .ofError (bytes "platform") (bytes "production") (bytes "read_platform")
    (bytes "平台 SN 权威来源不可用（生产桩实现）")

def ConfigTboxSnProvider.readSn (build : Build) (snapshot : Option ProviderSnapshot) :
    SnReadResult :=
  if build.testEnvironment then
    match snapshot with
    | none =>
        .ofError (bytes "config") (bytes "test") (bytes "read_config") (bytes "配置快照不可用")
    | some cfg =>
        if !cfg.has "prov.sn" then
          .ofError (bytes "config") (bytes "test") (bytes "missing") (bytes "prov.sn 缺失")
        else
          let sn := cfg.getString "prov.sn" []
          if sn.isEmpty then
            .ofError (bytes "config") (bytes "test") (bytes "empty") (bytes "prov.sn 为空串")
          else .ofSn sn (bytes "config") (bytes "test")
  else
    .ofError (bytes "config") (bytes "production") (bytes "disabled")
      (bytes "生产构建禁用配置来源 SN")

def createTboxSnProvider (build : Build) (snapshot : Option ProviderSnapshot) : SnReadResult :=
  if build.testEnvironment then ConfigTboxSnProvider.readSn build snapshot
  else PlatformTboxSnProvider.readSn

/-! ## What the providers return -/

section Results

variable {build : Build} {snapshot : Option ProviderSnapshot} {uid sn : Bytes}

theorem readUidFromConfig_eq_some_iff :
    EcuUid.readUidFromConfig snapshot = some uid ↔
      uid ≠ [] ∧ ∃ cfg, snapshot = some cfg ∧ cfg.has "ecu.uid" = true ∧
        cfg.getString "ecu.uid" [] = uid := by
  cases snapshot with
  | none => simp [EcuUid.readUidFromConfig]
  | some cfg =>
      by_cases hhas : cfg.has "ecu.uid" = true
      · by_cases hempty : cfg.getString "ecu.uid" [] = []
        · have hnone : EcuUid.readUidFromConfig (some cfg) = none := by
            simp [EcuUid.readUidFromConfig, hempty]
          rw [hnone]
          constructor
          · intro h
            cases h
          · rintro ⟨hne, _, ⟨⟩, -, rfl⟩
            exact absurd hempty hne
        · have hsome : EcuUid.readUidFromConfig (some cfg) =
              some (cfg.getString "ecu.uid" []) := by
            simp [EcuUid.readUidFromConfig, hhas, hempty]
          rw [hsome]
          constructor
          · rintro ⟨⟩
            exact ⟨hempty, cfg, rfl, hhas, rfl⟩
          · rintro ⟨-, _, ⟨⟩, -, rfl⟩
            rfl
      · simp [EcuUid.readUidFromConfig, hhas]

variable (se : SecureElement) (missing : UidReadResult)

theorem readUidSeFirst_absent (h : se.isSeHardwarePresent = false) :
    readUidSeFirst se missing = missing := by
  simp [readUidSeFirst, h]

theorem readUidSeFirst_present (h : se.isSeHardwarePresent = true) :
    (readUidSeFirst se missing).success = true ∧ (readUidSeFirst se missing).uid = uid ↔
      uid ≠ [] ∧ se.readFromSe = uid := by
  by_cases hempty : se.readFromSe = []
  · have hfailed : (readUidSeFirst se missing).success = false := by
      simp [readUidSeFirst, h, hempty, UidReadResult.ofError]
    constructor
    · rintro ⟨hread, -⟩
      rw [hfailed] at hread
      cases hread
    · rintro ⟨hne, rfl⟩
      exact absurd hempty hne
  · have hread : readUidSeFirst se missing = .ofUid se.readFromSe := by
      simp [readUidSeFirst, h, hempty]
    rw [hread]
    constructor
    · rintro ⟨-, rfl⟩
      exact ⟨hempty, rfl⟩
    · rintro ⟨-, rfl⟩
      exact ⟨rfl, rfl⟩

/-- A UID that the shipped provider returns is the one of the secure element, or, in a test
build without one, the configured one. -/
theorem createSeUidProvider_success_iff :
    (createSeUidProvider build snapshot).success = true ∧
        (createSeUidProvider build snapshot).uid = uid ↔
      if build.se.isSeHardwarePresent then uid ≠ [] ∧ build.se.readFromSe = uid
      else build.testEnvironment = true ∧ EcuUid.readUidFromConfig snapshot = some uid := by
  unfold createSeUidProvider ConfigSeUidProvider.readUidDetailed
    SeHardwareUidProvider.readUidDetailed
  cases hse : build.se.isSeHardwarePresent with
  | true => cases build.testEnvironment <;> exact readUidSeFirst_present build.se _ hse
  | false =>
      rw [readUidSeFirst_absent _ _ hse, readUidSeFirst_absent _ _ hse]
      cases build.testEnvironment with
      | false => simp [UidReadResult.ofError]
      | true => cases EcuUid.readUidFromConfig snapshot <;>
          simp [UidReadResult.ofError, UidReadResult.ofUid]

/-- A failed read carries an error code. -/
def UidReadResult.Telling (result : UidReadResult) : Prop :=
  result.success = false → result.errorCode ≠ .success

variable {missing} in
theorem readUidSeFirst_telling (h : missing.Telling) : (readUidSeFirst se missing).Telling := by
  cases hse : se.isSeHardwarePresent with
  | false =>
      rw [readUidSeFirst_absent _ _ hse]
      exact h
  | true =>
      by_cases hempty : se.readFromSe = []
      · have hread : readUidSeFirst se missing =
            .ofError .seUidReadFailed (bytes "SE UID读取失败/超时") := by
          simp [readUidSeFirst, hse, hempty]
        rw [hread]
        intro _
        decide
      · have hread : readUidSeFirst se missing = .ofUid se.readFromSe := by
          simp [readUidSeFirst, hse, hempty]
        rw [hread]
        intro hfailed
        cases hfailed

/-- No shipped provider fails with the code of a success. -/
theorem createSeUidProvider_telling : (createSeUidProvider build snapshot).Telling := by
  unfold createSeUidProvider ConfigSeUidProvider.readUidDetailed
    SeHardwareUidProvider.readUidDetailed
  cases build.testEnvironment with
  | false => exact readUidSeFirst_telling _ fun _ ↦ by decide
  | true =>
      apply readUidSeFirst_telling
      cases EcuUid.readUidFromConfig snapshot with
      | none => exact fun _ ↦ by decide
      | some uid => nofun

theorem createTboxSnProvider_success_iff :
    (createTboxSnProvider build snapshot).success = true ∧
        (createTboxSnProvider build snapshot).sn = sn ↔
      build.testEnvironment = true ∧ sn ≠ [] ∧ ∃ cfg, snapshot = some cfg ∧
        cfg.has "prov.sn" = true ∧ cfg.getString "prov.sn" [] = sn := by
  unfold createTboxSnProvider ConfigTboxSnProvider.readSn PlatformTboxSnProvider.readSn
  cases build.testEnvironment with
  | false => simp [SnReadResult.ofError]
  | true =>
  cases snapshot with
  | none => simp [SnReadResult.ofError]
  | some cfg =>
  cases hhas : cfg.has "prov.sn" with
  | false => simp [SnReadResult.ofError, hhas]
  | true =>
  by_cases hempty : cfg.getString "prov.sn" [] = []
  · simp only [Option.some.injEq, exists_eq_left', hempty, hhas]
    constructor
    · rintro ⟨hread, -⟩
      cases hread
    · rintro ⟨-, hne, -, rfl⟩
      exact absurd rfl hne
  · simp only [Option.some.injEq, exists_eq_left', hhas, hempty, SnReadResult.ofSn,
      List.isEmpty_iff, Bool.not_true, Bool.false_eq_true, if_false, if_true, true_and]
    constructor
    · rintro rfl
      exact ⟨hempty, rfl⟩
    · rintro ⟨-, rfl⟩
      rfl

end Results

/-! ## Reconfigurations -/

section Reconfigurations

variable {build : Build}

end Reconfigurations

/-! ## Runs with the shipped providers -/

/-- The outside of a call in which the shipped providers find this snapshot. -/
def Env.provided (build : Build) (snapshot : Option ProviderSnapshot) (env : Env) : Env :=
  { env with
    uid := createSeUidProvider build snapshot
    sn := createTboxSnProvider build snapshot }

namespace ProvService

open Store

def Call.env? : Call → Option Env
  | .initializeService env | .binding _ env _ | .writeVehicleConfig env _
  | .writeProductionInfo env _ | .readBinding env => some env
  | .beginShutdown | .readVin | .getProvisionState | .isInitialized | .restart => none

/-- The call gets its UID and its SN from the shipped providers. -/
def Call.ProvidedBy (build : Build) (c : Call) : Prop :=
  ∀ env ∈ c.env?, ∃ snapshot outside, env = Env.provided build snapshot outside

variable {P : Platform} {build : Build} {calls calls' : List Call} {s : Machine ProvService}

/-! ### Without a secure element -/

variable (P) in
/-- A binding call that is admitted still gets no further than the secure element. -/
def StopsAtSe (c : Call) (s : Machine ProvService) : Prop :=
  ∀ call env vin, c = .binding call env vin →
    (Admits P vin s call → c.returned P s = some .seMissingProductionFailClosed) ∧
      (¬ Admits P vin s call → ∃ code, TurnedAway call code ∧ c.returned P s = some code)

section Production

variable (hprod : build.testEnvironment = false) (hse : build.se.isSeHardwarePresent = false)
include hprod hse

theorem createSeUidProvider_withoutSe (snapshot : Option ProviderSnapshot) :
    (createSeUidProvider build snapshot).success = false ∧
      (createSeUidProvider build snapshot).errorCode = .seMissingProductionFailClosed := by
  rw [createSeUidProvider, hprod, if_neg Bool.false_ne_true,
    SeHardwareUidProvider.readUidDetailed, readUidSeFirst_absent _ _ hse]
  exact ⟨rfl, rfl⟩

theorem stopsAtSe_of_provided {c : Call} (hc : c.ProvidedBy build) (s : Machine ProvService) :
    StopsAtSe P c s := by
  rintro call env vin rfl
  obtain ⟨snapshot, outside, rfl⟩ := hc env rfl
  obtain ⟨hfailed, hcode⟩ := createSeUidProvider_withoutSe hprod hse snapshot
  have huid : (Env.provided build snapshot outside).uid.success = false := hfailed
  rw [binding_returned]
  constructor
  · intro hadm
    obtain ⟨hval, -⟩ := run_admitted (Env.provided build snapshot outside) hadm
    obtain ⟨hflow, -⟩ := executeVinBindingFlow_uidFailed P vin s huid
    rw [hval, hflow]
    exact congrArg some hcode
  · intro hno
    obtain ⟨code, haway, hval, -⟩ := run_notAdmitted (Env.provided build snapshot outside) hno
    exact ⟨code, haway, hval⟩

theorem exec_withoutSe (hP : P.json.Lawful) {c : Call} (hc : c.ProvidedBy build)
    (s : Machine ProvService) :
    (exec P c s).disk .binding = s.disk .binding ∧
      (exec P c s).disk .protection = s.disk .protection := by
  by_cases hbinding : ∃ call env vin, c = .binding call env vin
  · obtain ⟨call, env, vin, rfl⟩ := hbinding
    obtain ⟨snapshot, outside, rfl⟩ := hc env rfl
    have hno : ¬ Binds P (Env.provided build snapshot outside) vin s call := by
      intro hbinds
      have huid := (createSeUidProvider_withoutSe hprod hse snapshot).1
      exact absurd (huid.symm.trans hbinds.uid) (by decide)
    rw [(exec_notBinds hP hno).2]
    exact ⟨rfl, rfl⟩
  · refine exec_other hP (fun call env vin h ↦ hbinding ⟨call, env, vin, h⟩) s

/-- A production build without a secure element never binds: whatever is asked of it and
however its saves go, the binding and the protection stay what they were. -/
theorem production_without_se_fails_closed (hP : P.json.Lawful)
    (hcalls : ∀ c ∈ calls, c.ProvidedBy build) (s : Machine ProvService) :
    (run (exec P) calls s).disk .binding = s.disk .binding ∧
      (run (exec P) calls s).disk .protection = s.disk .protection ∧
        Along (exec P) (StopsAtSe P) calls s := by
  have hstep : ∀ (c : Call) (t : Machine ProvService), c.ProvidedBy build →
      t.disk .binding = s.disk .binding ∧ t.disk .protection = s.disk .protection →
        (exec P c t).disk .binding = s.disk .binding ∧
          (exec P c t).disk .protection = s.disk .protection := by
    intro c t hc ht
    obtain ⟨hbinding, hprotection⟩ := exec_withoutSe hprod hse hP hc t
    exact ⟨hbinding.trans ht.1, hprotection.trans ht.2⟩
  obtain ⟨hbinding, hprotection⟩ := run_invariant hstep hcalls ⟨rfl, rfl⟩
  refine ⟨hbinding, hprotection, .of_forall (fun c hc t ↦ ?_) s⟩
  exact stopsAtSe_of_provided hprod hse (hcalls c hc) t

end Production

/-- The outside of a call in a production build, with the stand-ins of the source. -/
def productionEnv : Env := Env.provided { testEnvironment := false } none sampleEnv

theorem production_without_se_fails_closed_sample :
    (run (exec textPlatform) [.initializeService productionEnv,
        .binding .writeVin productionEnv sampleVin] (fresh {} Disk.empty)).disk .binding =
      .absent := by
  have hprod : ({ testEnvironment := false } : Build).testEnvironment = false := rfl
  have hcalls : ∀ c ∈ [.initializeService productionEnv,
      .binding .writeVin productionEnv sampleVin],
        Call.ProvidedBy { testEnvironment := false } c := by
    intro c hc env henv
    refine ⟨none, sampleEnv, ?_⟩
    simp only [List.mem_cons, List.not_mem_nil, or_false] at hc
    rcases hc with rfl | rfl <;> exact (Option.mem_some_iff.1 henv).symm
  exact (production_without_se_fails_closed hprod rfl textPlatform_lawful hcalls _).1

/-! ### Where the identifiers come from -/

/-- The configuration that some binding call of the run has found gives this UID. -/
def ConfiguredUid (build : Build) (calls : List Call) (uid : Bytes) : Prop :=
  ∃ call env vin cfg, Call.binding call env vin ∈ calls ∧
    env.uid = createSeUidProvider build (some cfg) ∧
      cfg.has "ecu.uid" = true ∧ cfg.getString "ecu.uid" [] = uid

variable (P) in
/-- The UID comes from the secure element, or without one from the configuration of a test
build; the SN is never stored, and shown from the configuration of a test build only. -/
structure IdentifiersSourced (build : Build) (config : ProvServiceConfig)
    (calls : List Call) : Prop where
  uid (binding : VehicleBinding) :
    bindingIn P ((reached P config calls).disk .binding) = some binding →
      binding.ecuUid ≠ [] ∧
        if build.se.isSeHardwarePresent then binding.ecuUid = build.se.readFromSe
        else build.testEnvironment = true ∧ ConfiguredUid build calls binding.ecuUid
  stored (binding : VehicleBinding) :
    bindingIn P ((reached P config calls).disk .binding) = some binding → binding.sn = []
  shown (snapshot : Option ProviderSnapshot) (outside : Env) :
    ∃ binding, (readBinding P (Env.provided build snapshot outside)
        (reached P config calls)).val = some binding ∧
      (binding.sn ≠ [] → build.testEnvironment = true ∧ ∃ cfg, snapshot = some cfg ∧
        cfg.has "prov.sn" = true ∧ cfg.getString "prov.sn" [] = binding.sn)

theorem shownBinding_sn_cases (env : Env) (h : Encodable P s.disk) :
    (shownBinding P env s).sn = [] ∨
      env.sn.success = true ∧ (shownBinding P env s).sn = env.sn.sn := by
  unfold shownBinding
  cases s.mem.initialized with
  | false => exact .inl rfl
  | true =>
      cases hread : bindingIn P (s.disk .binding) with
      | none => exact .inl rfl
      | some binding =>
          have hempty := (h binding hread).1
          cases hsn : env.sn.success with
          | false => exact .inl (by simp [withSn, hsn, hempty])
          | true => exact .inr ⟨rfl, by simp [withSn, hsn, hempty]⟩

theorem uid_sourced (hP : P.json.Lawful) {config : ProvServiceConfig}
    (hcalls : ∀ c ∈ calls, c.ProvidedBy build) (hnever : ∀ c ∈ calls, c.NeverInvents P)
    {binding : VehicleBinding}
    (hread : bindingIn P ((reached P config calls).disk .binding) = some binding) :
    binding.ecuUid ≠ [] ∧
      if build.se.isSeHardwarePresent then binding.ecuUid = build.se.readFromSe
      else build.testEnvironment = true ∧ ConfiguredUid build calls binding.ecuUid := by
  obtain ⟨before, call, env, vin, after, hsplit, huid, hstores, -⟩ :=
    latestUid_of_stored hP hnever hread
  have hmem : Call.binding call env vin ∈ calls := by simp [hsplit]
  obtain ⟨snapshot, outside, henv⟩ := hcalls _ hmem env rfl
  have hresult : env.uid = createSeUidProvider build snapshot := by rw [henv]; rfl
  have hsuccess : env.uid.success = true := hstores.2.1
  rw [hresult] at hsuccess huid
  have hsource := createSeUidProvider_success_iff.1 ⟨hsuccess, huid.symm⟩
  cases hse : build.se.isSeHardwarePresent with
  | true =>
      simp only [hse, if_true] at hsource
      simpa using ⟨hsource.1, hsource.2.symm⟩
  | false =>
      simp only [hse, if_false, Bool.false_eq_true] at hsource
      obtain ⟨hne, cfg, rfl, hhas, hget⟩ := readUidFromConfig_eq_some_iff.1 hsource.2
      simpa using ⟨hne, hsource.1, call, env, vin, cfg, hmem, hresult, hhas, hget⟩

/-- With the shipped providers each identifier has its own source, in every run. -/
theorem identifiers_sourced (hP : P.json.Lawful) (config : ProvServiceConfig)
    (hcalls : ∀ c ∈ calls, c.ProvidedBy build) (hnever : ∀ c ∈ calls, c.NeverInvents P) :
    IdentifiersSourced P build config calls := by
  have hencodable : Encodable P (reached P config calls).disk := run_encodable hP config hnever
  refine ⟨fun binding hread ↦ uid_sourced hP hcalls hnever hread,
    fun binding hread ↦ (hencodable binding hread).1, fun snapshot outside ↦ ?_⟩
  refine ⟨_, readBinding_val P (Env.provided build snapshot outside) _, fun hne ↦ ?_⟩
  rcases shownBinding_sn_cases (Env.provided build snapshot outside) hencodable with
    hempty | ⟨hsuccess, hsn⟩
  · exact absurd hempty hne
  · obtain ⟨htest, -, hcfg⟩ := createTboxSnProvider_success_iff.1 ⟨hsuccess, hsn.symm⟩
    exact ⟨htest, hcfg⟩

/-- A snapshot that holds one UID and one SN. -/
def snapshotOf (uid sn : Bytes) : ProviderSnapshot where
  getString key value := if key = "ecu.uid" then uid else if key = "prov.sn" then sn else value
  getInt _ value := value
  getDouble _ value := value
  getBool _ value := value
  has key := key = "ecu.uid" || key = "prov.sn"

/-- The outside of a call in a test build with these two configured. -/
def testEnv (uid sn : Bytes) : Env :=
  Env.provided { testEnvironment := true } (some (snapshotOf uid sn)) sampleEnv

def testCalls (uid sn : Bytes) : List Call :=
  [.initializeService (testEnv uid sn), .binding .writeVin (testEnv uid sn) sampleVin]

theorem testCalls_providedBy (uid sn : Bytes) :
    ∀ c ∈ testCalls uid sn, c.ProvidedBy { testEnvironment := true } := by
  intro c hc env henv
  refine ⟨some (snapshotOf uid sn), sampleEnv, ?_⟩
  simp only [testCalls, List.mem_cons, List.not_mem_nil, or_false] at hc
  rcases hc with rfl | rfl <;> exact (Option.mem_some_iff.1 henv).symm

theorem testCalls_neverInvents (uid sn : Bytes) :
    ∀ c ∈ testCalls uid sn, c.NeverInvents textPlatform := by
  simp [testCalls, Call.NeverInvents, NeverInvents, testEnv, Env.provided, sampleEnv]

theorem identifiers_sourced_sample :
    IdentifiersSourced textPlatform { testEnvironment := true } {}
      (testCalls sampleUid (bytes "SN-0001")) :=
  identifiers_sourced textPlatform_lawful {} (testCalls_providedBy _ _)
    (testCalls_neverInvents _ _)

/-! ### Reconfigured runs -/

theorem Call.Rel.eq {c c' : Call} (h : c.Rel Eq Eq c') : c = c' := by
  cases h with
  | initializeService h => rw [h]
  | binding call h hvin => rw [h, hvin]
  | writeVehicleConfig h => rw [h]
  | writeProductionInfo h => rw [h]
  | readBinding h => rw [h]
  | beginShutdown | readVin | getProvisionState | isInitialized | restart => rfl

end ProvService

end TboxProv
