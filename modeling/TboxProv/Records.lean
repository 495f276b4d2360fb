import TboxProv.Store
import TboxProv.Types

/-!
# Stored records

The serializers and deserializers of `ProtectedStorageImpl`.  A record is JSON
text, and the store embeds that text as a string in its own envelope, so
`encode` and `decode` go through two layers.
-/

namespace TboxProv

variable (P : Platform)

/-! ## Bindings -/

def bindingJson (binding : VehicleBinding) : Json :=
  Json.ofFields
    [("vin", .string binding.vin),
     ("ecu_uid", .string binding.ecuUid),
     ("sn", .string binding.sn),
     ("state", .integer binding.state.value.toNat),
     ("locked", .boolean binding.locked),
     ("bound_at", .integer (toTimeT binding.boundAt)),
     ("last_error", .string binding.lastError),
     ("retry_count", .integer binding.retryCount.toNat),
     ("rewrite_count", .integer binding.rewriteCount.toNat),
     ("last_rewrite_at", .integer (toTimeT binding.lastRewriteAt))]

def serializeBinding (binding : VehicleBinding) : Throws Bytes :=
  P.json.dump 4 (bindingJson binding)

def readBindingJson (j : Json) : Throws VehicleBinding := do
  let vin ← (← j.subscript "vin").getString
  let ecuUid ← (← j.subscript "ecu_uid").getString
  -- a snapshot without `sn` loads with an empty one
  let sn ← j.value Json.getString "sn" []
  let state ← P.json.getEnum8 (← j.subscript "state")
  let locked ← (← j.subscript "locked").getBool
  let boundAt ← P.json.getInt64 (← j.subscript "bound_at")
  let lastError ← (← j.subscript "last_error").getString
  let retryCount ← P.json.getUInt32 (← j.subscript "retry_count")
  let rewriteCount ← P.json.getUInt32 (← j.subscript "rewrite_count")
  let lastRewriteAt ← P.json.getInt64 (← j.subscript "last_rewrite_at")
  return { vin, ecuUid, sn, state := ⟨state⟩, locked, boundAt := fromTimeT boundAt,
           lastError, retryCount, rewriteCount, lastRewriteAt := fromTimeT lastRewriteAt }

def deserializeBinding (data : Bytes) : Throws VehicleBinding := do
  readBindingJson P (← P.json.parse data)

/-! ## Configurations -/

def configJson (config : VehicleConfig) : Json :=
  Json.ofFields
    [("variant_coding", .array (config.variantCoding.map fun b ↦ .integer b.toNat)),
     ("written_at", .integer (toTimeT config.writtenAt)),
     ("verified", .boolean config.verified)]

def serializeConfig (config : VehicleConfig) : Throws Bytes :=
  P.json.dump 4 (configJson config)

def readConfigJson (j : Json) : Throws VehicleConfig := do
  let variantCoding ← (← (← j.subscript "variant_coding").getArray).mapM P.json.getUInt8
  let writtenAt ← P.json.getInt64 (← j.subscript "written_at")
  let verified ← (← j.subscript "verified").getBool
  return { variantCoding, writtenAt := fromTimeT writtenAt, verified }

def deserializeConfig (data : Bytes) : Throws VehicleConfig := do
  readConfigJson P (← P.json.parse data)

/-! ## Production information -/

def productionInfoJson (info : ProductionInfo) : Json :=
  Json.ofFields
    [("production_date", .string info.productionDate),
     ("batch_num", .string info.batchNum),
     ("station_id", .string info.stationId),
     ("written_at", .integer (toTimeT info.writtenAt))]

def serializeProductionInfo (info : ProductionInfo) : Throws Bytes :=
  P.json.dump 4 (productionInfoJson info)

def readProductionInfoJson (j : Json) : Throws ProductionInfo := do
  let productionDate ← (← j.subscript "production_date").getString
  let batchNum ← (← j.subscript "batch_num").getString
  let stationId ← (← j.subscript "station_id").getString
  let writtenAt ← P.json.getInt64 (← j.subscript "written_at")
  return { productionDate, batchNum, stationId, writtenAt := fromTimeT writtenAt }

def deserializeProductionInfo (data : Bytes) : Throws ProductionInfo := do
  readProductionInfoJson P (← P.json.parse data)

/-! ## What a record reads as -/

def wholeSeconds (t : TimePoint) : TimePoint := fromTimeT (Int64.ofInt (toTimeT t))

def VehicleBinding.reread (binding : VehicleBinding) : VehicleBinding :=
  { binding with
    boundAt := wholeSeconds binding.boundAt
    lastRewriteAt := wholeSeconds binding.lastRewriteAt }

def VehicleConfig.reread (config : VehicleConfig) : VehicleConfig :=
  { config with writtenAt := wholeSeconds config.writtenAt }

def ProductionInfo.reread (info : ProductionInfo) : ProductionInfo :=
  { info with writtenAt := wholeSeconds info.writtenAt }

def VehicleBinding.Utf8 (binding : VehicleBinding) : Prop :=
  TboxProv.Utf8 binding.vin ∧ TboxProv.Utf8 binding.ecuUid ∧ TboxProv.Utf8 binding.sn ∧
    TboxProv.Utf8 binding.lastError

def ProductionInfo.Utf8 (info : ProductionInfo) : Prop :=
  TboxProv.Utf8 info.productionDate ∧ TboxProv.Utf8 info.batchNum ∧
    TboxProv.Utf8 info.stationId

theorem toTimeT_bounds (t : TimePoint) : -2 ^ 63 ≤ toTimeT t ∧ toTimeT t < 2 ^ 64 := by
  have hlo := t.le_toInt
  have hhi := t.toInt_lt
  unfold toTimeT
  rcases le_total 0 t.toInt with h | h
  · rw [Int.tdiv_eq_ediv_of_nonneg h]
    omega
  · obtain ⟨n, hn⟩ : ∃ n : ℕ, t.toInt = -(n : ℤ) := ⟨t.toInt.natAbs, by omega⟩
    rw [hn, Int.neg_tdiv, Int.tdiv_eq_ediv_of_nonneg (by omega)]
    omega

theorem plain_toTimeT (t : TimePoint) : (Json.integer (toTimeT t)).Plain := toTimeT_bounds t

theorem plain_uint32 (n : UInt32) : (Json.integer n.toNat).Plain := by
  have := n.toNat_lt
  constructor <;> omega

theorem plain_uint8 (n : UInt8) : (Json.integer n.toNat).Plain := by
  have := n.toNat_lt
  constructor <;> omega

theorem bindingJson_plain (binding : VehicleBinding) : (bindingJson binding).Plain := by
  apply Json.plain_ofFields
  simp only [List.mem_cons, List.not_mem_nil, or_false, forall_eq_or_imp, forall_eq]
  exact ⟨trivial, trivial, trivial, plain_uint8 _, trivial, plain_toTimeT _, trivial,
    plain_uint32 _, plain_uint32 _, plain_toTimeT _⟩

theorem bindingJson_utf8 {binding : VehicleBinding} (h : binding.Utf8) :
    (bindingJson binding).Utf8 := by
  apply Json.utf8_ofFields
  simp only [List.mem_cons, List.not_mem_nil, or_false, forall_eq_or_imp, forall_eq]
  exact ⟨h.1, h.2.1, h.2.2.1, trivial, trivial, trivial, h.2.2.2, trivial, trivial, trivial⟩

theorem utf8_of_bindingJson {binding : VehicleBinding} (h : (bindingJson binding).Utf8) :
    binding.Utf8 := by
  exact ⟨Json.utf8_member h "vin" (by simp [Json.lookup_cons_ite]),
    Json.utf8_member h "ecu_uid" (by simp [Json.lookup_cons_ite]),
    Json.utf8_member h "sn" (by simp [Json.lookup_cons_ite]),
    Json.utf8_member h "last_error" (by simp [Json.lookup_cons_ite])⟩

@[simp] theorem ofInt_toNat_uint8 (n : UInt8) : UInt8.ofInt n.toNat = n := by
  have hlt := n.toNat_lt
  have hmod : ((n.toNat : ℤ) % 2 ^ 8).toNat = n.toNat := by omega
  rw [UInt8.ofInt, hmod, UInt8.ofNat_toNat]

@[simp] theorem ofInt_toNat_uint32 (n : UInt32) : UInt32.ofInt n.toNat = n := by
  have hlt := n.toNat_lt
  have hmod : ((n.toNat : ℤ) % 2 ^ 32).toNat = n.toNat := by omega
  rw [UInt32.ofInt, hmod, UInt32.ofNat_toNat]

theorem readBindingJson_bindingJson (binding : VehicleBinding) :
    readBindingJson P (bindingJson binding) = .ok binding.reread := by
  unfold readBindingJson bindingJson
  simp only [Json.subscript_ofFields, Json.value_ofFields]
  simp [Json.lookup_cons_ite, VehicleBinding.reread, wholeSeconds]

theorem configJson_plain (config : VehicleConfig) : (configJson config).Plain := by
  apply Json.plain_ofFields
  simp only [List.mem_cons, List.not_mem_nil, or_false, forall_eq_or_imp, forall_eq]
  refine ⟨?_, plain_toTimeT _, trivial⟩
  have hlist : ∀ bs : List UInt8,
      Json.PlainList (bs.map fun b ↦ Json.integer b.toNat) := by
    intro bs
    induction bs with
    | nil => trivial
    | cons b bs ih => exact ⟨plain_uint8 b, ih⟩
  exact hlist config.variantCoding

theorem configJson_utf8 (config : VehicleConfig) : (configJson config).Utf8 := by
  apply Json.utf8_ofFields
  simp only [List.mem_cons, List.not_mem_nil, or_false, forall_eq_or_imp, forall_eq]
  refine ⟨?_, trivial, trivial⟩
  have hlist : ∀ bs : List UInt8,
      Json.Utf8List (bs.map fun b ↦ Json.integer b.toNat) := by
    intro bs
    induction bs with
    | nil => trivial
    | cons b bs ih => exact ⟨trivial, ih⟩
  exact hlist config.variantCoding

theorem readConfigJson_configJson (config : VehicleConfig) :
    readConfigJson P (configJson config) = .ok config.reread := by
  have hbytes : ∀ bs : List UInt8,
      (bs.map fun b ↦ Json.integer b.toNat).mapM P.json.getUInt8 = .ok bs := by
    intro bs
    induction bs with
    | nil => rfl
    | cons b bs ih => simp [List.mapM_cons, ih]
  unfold readConfigJson configJson
  simp only [Json.subscript_ofFields]
  simp [Json.lookup_cons_ite, hbytes, VehicleConfig.reread, wholeSeconds]

theorem productionInfoJson_plain (info : ProductionInfo) : (productionInfoJson info).Plain := by
  apply Json.plain_ofFields
  simp only [List.mem_cons, List.not_mem_nil, or_false, forall_eq_or_imp, forall_eq]
  exact ⟨trivial, trivial, trivial, plain_toTimeT _⟩

theorem productionInfoJson_utf8 {info : ProductionInfo} (h : info.Utf8) :
    (productionInfoJson info).Utf8 := by
  apply Json.utf8_ofFields
  simp only [List.mem_cons, List.not_mem_nil, or_false, forall_eq_or_imp, forall_eq]
  exact ⟨h.1, h.2.1, h.2.2, trivial⟩

theorem utf8_of_productionInfoJson {info : ProductionInfo} (h : (productionInfoJson info).Utf8) :
    info.Utf8 := by
  exact ⟨Json.utf8_member h "production_date" (by simp [Json.lookup_cons_ite]),
    Json.utf8_member h "batch_num" (by simp [Json.lookup_cons_ite]),
    Json.utf8_member h "station_id" (by simp [Json.lookup_cons_ite])⟩

theorem readProductionInfoJson_productionInfoJson (info : ProductionInfo) :
    readProductionInfoJson P (productionInfoJson info) = .ok info.reread := by
  unfold readProductionInfoJson productionInfoJson
  simp only [Json.subscript_ofFields]
  simp [Json.lookup_cons_ite, ProductionInfo.reread, wholeSeconds]

/-! ## Both layers -/

/-- The file content of a saved record, given the record's own text. -/
def sealed (text : Throws Bytes) : Throws Bytes := do
  Store.envelope P (← text)

def recordIn {α : Type} (deserialize : Bytes → Throws α) (entry : Entry) : Option α :=
  match Store.loaded P entry with
  | .ok (some data) => (deserialize data).toOption
  | _ => none

def bindingIn : Entry → Option VehicleBinding := recordIn P (deserializeBinding P)

def configIn : Entry → Option VehicleConfig := recordIn P (deserializeConfig P)

def productionInfoIn : Entry → Option ProductionInfo := recordIn P (deserializeProductionInfo P)

def protectedIn (entry : Entry) : Bool :=
  match Store.loaded P entry with
  | .ok (some data) => data == bytes "1"
  | _ => false

section Lawful

variable {P : Platform} (hP : P.json.Lawful)
include hP

theorem exists_sealed {j : Json} (hplain : j.Plain) (hutf8 : j.Utf8) :
    ∃ data, sealed P (P.json.dump 4 j) = .ok data := by
  obtain ⟨text, htext⟩ := hP.exists_dump 4 hplain hutf8
  obtain ⟨data, hdata⟩ := Store.exists_envelope hP (hP.dump_utf8 _ _ _ htext)
  exact ⟨data, by simp [sealed, htext, hdata]⟩

theorem recordIn_sealed {α : Type} (read : Json → Throws α) {j : Json} {data : Bytes}
    (hplain : j.Plain) (h : sealed P (P.json.dump 4 j) = .ok data) :
    recordIn P (fun text ↦ do read (← P.json.parse text)) (.file data) = (read j).toOption := by
  cases htext : P.json.dump 4 j with
  | error e => simp [sealed, htext] at h
  | ok text =>
      have hdata : Store.envelope P text = .ok data := by
        simpa [sealed, htext] using h
      simp [recordIn, Store.loaded_envelope hP hdata, hP.parse_of_dump hplain htext]

theorem utf8_of_sealed {j : Json} {data : Bytes}
    (h : sealed P (P.json.dump 4 j) = .ok data) : j.Utf8 := by
  cases htext : P.json.dump 4 j with
  | error e => simp [sealed, htext] at h
  | ok text => exact hP.utf8_of_dump htext

/-- A saved binding reads back as itself, its times in whole seconds. -/
theorem bindingIn_sealed {binding : VehicleBinding} {data : Bytes}
    (h : sealed P (serializeBinding P binding) = .ok data) :
    bindingIn P (.file data) = some binding.reread := by
  have hread := recordIn_sealed hP (readBindingJson P) (bindingJson_plain binding) h
  rw [readBindingJson_bindingJson] at hread
  exact hread

theorem productionInfoIn_sealed {info : ProductionInfo} {data : Bytes}
    (h : sealed P (serializeProductionInfo P info) = .ok data) :
    productionInfoIn P (.file data) = some info.reread := by
  have hread :=
    recordIn_sealed hP (readProductionInfoJson P) (productionInfoJson_plain info) h
  rw [readProductionInfoJson_productionInfoJson] at hread
  exact hread

theorem configIn_sealed {config : VehicleConfig} {data : Bytes}
    (h : sealed P (serializeConfig P config) = .ok data) :
    configIn P (.file data) = some config.reread := by
  have hread := recordIn_sealed hP (readConfigJson P) (configJson_plain config) h
  rw [readConfigJson_configJson] at hread
  exact hread

theorem protectedIn_envelope {value data : Bytes} (h : Store.envelope P value = .ok data) :
    protectedIn P (.file data) = (value == bytes "1") := by
  simp [protectedIn, Store.loaded_envelope hP h]

end Lawful

end TboxProv
