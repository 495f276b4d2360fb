import TboxProv.ProvIpcDispatcher

/-!
# The client

`ProvClient` sends a method number and a JSON text through the framework's IPC
client and reads the business status out of the JSON text that comes back.  The
framework is a parameter: a function into whatever monad the transport runs in.
-/

namespace TboxProv

open Crash ProvService

/-- What the framework's `call` hands back: its own status and the answer. -/
structure FwReply where
  status : Int32
  response : Bytes

abbrev FwCall (m : Type → Type) := MethodId → Bytes → m FwReply

namespace ProvClient

variable (P : Platform)

/-- `try` with a `catch (...)` that keeps the default. -/
def caught {α : Type} (default : α) : Throws α → α
  | .ok a => a
  | .error _ => default

/-- Assignments inside a `try`: the first exception ends them, and what was assigned stays. -/
def tryAssign {α : Type} (a : α) : List (α → Throws α) → α
  | [] => a
  | step :: steps =>
      match step a with
      | .ok a' => tryAssign a' steps
      | .error _ => a

def bizStatus (response : Bytes) : Int32 :=
  caught 0 do (← P.json.parse response).value P.json.getInt32 "status" 0

def vinOf (response : Bytes) : Bytes :=
  caught [] do (← P.json.parse response).value Json.getString "vin" []

def provisionState (status : Int32) : ProvisionState := ⟨UInt8.ofInt status.toInt⟩

def stateOf (response : Bytes) : ProvisionState :=
  caught .none do
    return provisionState (← (← P.json.parse response).value P.json.getInt32 "state" 0)

def bindingOf (response : Bytes) : VehicleBinding :=
  match P.json.parse response with
  | .error _ => {}
  | .ok j => tryAssign {}
      [fun b ↦ do return { b with vin := ← j.value Json.getString "vin" [] },
       fun b ↦ do return { b with ecuUid := ← j.value Json.getString "ecu_uid" [] },
       fun b ↦ do return { b with sn := ← j.value Json.getString "sn" [] },
       fun b ↦ do return { b with state := provisionState (← j.value P.json.getInt32 "state" 0) },
       fun b ↦ do return { b with locked := ← j.value Json.getBool "locked" false }]

section Requests

variable {m : Type → Type} [Monad m] (fw : FwCall m)

/-- `(ok, biz_status, response_json)` -/
def sendRequest (methodId : MethodId) (params : Bytes) : m (Bool × Int32 × Bytes) := do
  let reply ← fw methodId params
  if reply.status < 0 then return (false, 0, [])
  else if 0 < reply.status then return (false, 0, [])
  else return (true, bizStatus P reply.response, reply.response)

def codeOf : Bool × Int32 × Bytes → ErrorCode
  | (ok, status, _) => if !ok then .invalidState else ⟨status.toUInt32⟩

def sendCoded (methodId : MethodId) (params : Json) : m (Throws ErrorCode) :=
  match P.json.dump (-1) params with
  | .error e => return .error e
  | .ok text => do return .ok (codeOf (← sendRequest P fw methodId text))

def initializeService : m ErrorCode := do
  return codeOf (← sendRequest P fw .initializeService (bytes "{}"))

def readVin : m Bytes := do
  let (ok, _, response) ← sendRequest P fw .readVin (bytes "{}")
  if !ok then return [] else return vinOf P response

def readBinding : m VehicleBinding := do
  let (ok, _, response) ← sendRequest P fw .readBinding (bytes "{}")
  if !ok then return {} else return bindingOf P response

def getProvisionState : m ProvisionState := do
  let (ok, _, response) ← sendRequest P fw .getProvisionState (bytes "{}")
  if !ok then return .none else return stateOf P response

def writeVin (vin : Bytes) : m (Throws ErrorCode) :=
  sendCoded P fw .writeVin (Json.ofFields [("vin", .string vin)])

/-- The bytes are not sent: the array is empty. -/
def writeVehicleConfig (_configData : List UInt8) : m (Throws ErrorCode) :=
  sendCoded P fw .writeVehicleConfig (Json.ofFields [("config_data", .array [])])

def writeProductionInfo (info : ProductionInfo) : m (Throws ErrorCode) :=
  sendCoded P fw .writeProductionInfo (Json.ofFields
    [("production_date", .string info.productionDate), ("batch_num", .string info.batchNum),
     ("station_id", .string info.stationId)])

def authorizeRewrite (newVin : Bytes) : m (Throws ErrorCode) :=
  sendCoded P fw .authorizeRewrite (Json.ofFields [("vin", .string newVin)])

end Requests

/-! ## The status of an answer -/

/-- The members whose conversion to a 32-bit integer is not zero. -/
def NonzeroInt32 : Json → Prop
  | .boolean b => b = true
  | .integer z => ¬ 2 ^ 32 ∣ z
  | .float q => ¬ 2 ^ 32 ∣ P.json.truncate (-2 ^ 31) (2 ^ 31 - 1) q
  | _ => False

def StatusZero (response : Bytes) : Prop :=
  ∃ fields, P.json.parse response = .ok (.object fields) ∧
    fields.lookup "status" = some (.integer 0)

def NonzeroStatus (response : Bytes) : Prop :=
  ∃ fields status, P.json.parse response = .ok (.object fields) ∧
    fields.lookup "status" = some status ∧ NonzeroInt32 P status

theorem int32_ofInt_eq_zero_iff (z : ℤ) : Int32.ofInt z = 0 ↔ 2 ^ 32 ∣ z := by
  rw [← Int32.toInt_inj, Int32.toInt_ofInt, Int32.toInt_zero]
  exact Int.dvd_iff_bmod_eq_zero.symm

theorem caught_getInt32 (j : Json) : caught 0 (P.json.getInt32 j) = 0 ↔ ¬ NonzeroInt32 P j := by
  cases j with
  | null | string | array | object => exact ⟨fun _ h ↦ h, fun _ ↦ rfl⟩
  | boolean b =>
      have hvalue : P.json.getInt32 (.boolean b) = .ok (Int32.ofInt (if b then 1 else 0)) := rfl
      rw [hvalue, caught, int32_ofInt_eq_zero_iff]
      cases b <;> simp [NonzeroInt32]
  | integer z => exact (int32_ofInt_eq_zero_iff z).trans not_not.symm
  | float q => exact (int32_ofInt_eq_zero_iff _).trans not_not.symm

theorem bizStatus_eq_zero_iff (response : Bytes) :
    bizStatus P response = 0 ↔ ¬ NonzeroStatus P response := by
  unfold bizStatus NonzeroStatus
  cases hparse : P.json.parse response with
  | error e => simp [caught]
  | ok j =>
      cases j with
      | object fields =>
          cases hstatus : fields.lookup "status" with
          | none => simp [Json.value, hstatus, caught]
          | some status => simp [Json.value, hstatus, caught_getInt32]
      | null | boolean | integer | float | string | array => simp [Json.value, caught]

@[simp] theorem codeOf_ok (status : Int32) (response : Bytes) :
    codeOf (true, status, response) = ⟨status.toUInt32⟩ := rfl

theorem cast_eq_success_iff (status : Int32) :
    (⟨status.toUInt32⟩ : ErrorCode) = .success ↔ status = 0 := by
  rw [ErrorCode.success, ErrorCode.mk.injEq]
  constructor
  · intro h
    rw [← Int32.toInt32_toUInt32 status, h]
    rfl
  · rintro rfl
    rfl

/-! ## Requests that report a code -/

inductive CodedRequest where
  | initializeService
  | writeVin (vin : Bytes)
  | authorizeRewrite (vin : Bytes)

namespace CodedRequest

def send {m : Type → Type} [Monad m] (fw : FwCall m) : CodedRequest → m (Throws ErrorCode)
  | .initializeService => do return .ok (← ProvClient.initializeService P fw)
  | .writeVin vin => ProvClient.writeVin P fw vin
  | .authorizeRewrite vin => ProvClient.authorizeRewrite P fw vin

/-- The parameters cannot be written as JSON, so nothing is sent. -/
def Unsent : CodedRequest → Prop
  | .initializeService => False
  | .writeVin vin | .authorizeRewrite vin =>
      ∃ e, P.json.dump (-1) (Json.ofFields [("vin", .string vin)]) = .error e

end CodedRequest

def handsBack (response : Bytes) : FwCall Id := fun _ _ ↦ ⟨0, response⟩

variable {P}

theorem sendCoded_handsBack (methodId : MethodId) (params : Json) (response : Bytes) :
    sendCoded P (handsBack response) methodId params =
      (P.json.dump (-1) params).map fun _ ↦ ⟨(bizStatus P response).toUInt32⟩ := by
  unfold sendCoded
  cases P.json.dump (-1) params <;> rfl

theorem send_handsBack_eq_success_iff (request : CodedRequest) (response : Bytes) :
    request.send P (handsBack response) = .ok .success ↔
      ¬ request.Unsent P ∧ bizStatus P response = 0 := by
  have hsent (methodId : MethodId) (params : Json) :
      sendCoded P (handsBack response) methodId params = .ok .success ↔
        (¬ ∃ e, P.json.dump (-1) params = .error e) ∧ bizStatus P response = 0 := by
    rw [sendCoded_handsBack, ← cast_eq_success_iff]
    cases P.json.dump (-1) params with
    | error e => simp [Except.map]
    | ok text =>
        rw [Except.map, Except.ok.injEq]
        simp
  cases request with
  | initializeService =>
      have hcode : CodedRequest.initializeService.send P (handsBack response) =
          .ok ⟨(bizStatus P response).toUInt32⟩ := rfl
      rw [hcode, Except.ok.injEq, cast_eq_success_iff]
      constructor
      · intro hzero
        exact ⟨fun hunsent ↦ hunsent, hzero⟩
      · rintro ⟨-, hzero⟩
        exact hzero
  | writeVin vin => exact hsent .writeVin _
  | authorizeRewrite vin => exact hsent .authorizeRewrite _

theorem StatusZero.not_nonzeroStatus {response : Bytes} (h : StatusZero P response) :
    ¬ NonzeroStatus P response := by
  obtain ⟨fields, hparse, hstatus⟩ := h
  rintro ⟨fields', status, hparse', hstatus', hnonzero⟩
  rw [hparse] at hparse'
  cases hparse'
  rw [hstatus] at hstatus'
  cases hstatus'
  exact hnonzero (dvd_zero _)

theorem StatusZero.success {response : Bytes} (h : StatusZero P response)
    {request : CodedRequest} (hsent : ¬ request.Unsent P) :
    request.send P (handsBack response) = .ok .success :=
  (send_handsBack_eq_success_iff request response).2
    ⟨hsent, (bizStatus_eq_zero_iff P response).2 h.not_nonzeroStatus⟩

variable (P) in
def NeverInventsSuccess (request : CodedRequest) (response : Bytes) : Prop :=
  request.send P (handsBack response) = .ok .success → StatusZero P response

/-- Success is not invented exactly where the answer is an object whose status is the
integer 0 or converts to another number, or where nothing was sent. -/
theorem neverInventsSuccess_iff (request : CodedRequest) (response : Bytes) :
    NeverInventsSuccess P request response ↔
      StatusZero P response ∨ NonzeroStatus P response ∨ request.Unsent P := by
  unfold NeverInventsSuccess
  rw [send_handsBack_eq_success_iff, bizStatus_eq_zero_iff]
  tauto

theorem empty_answer_success : ¬ NeverInventsSuccess textPlatform .initializeService [] := by
  intro h
  obtain ⟨fields, hparse, -⟩ := h rfl
  cases hparse

end ProvClient

end TboxProv
