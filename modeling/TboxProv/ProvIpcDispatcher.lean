import TboxProv.Runs

/-!
# The IPC dispatcher

`ProvIpcDispatcher::dispatch` turns a method number and a JSON text into a call
on the service, and its result into a JSON text with a `status` member.  An
exception of a handler is caught and answered; one thrown while the answer is
built leaves the function.
-/

namespace TboxProv

open Crash ProvService

/-- `MethodId` of `ipc_protocol.h` -/
structure MethodId where
  value : UInt32
  deriving DecidableEq

namespace MethodId

def initializeService : MethodId := ⟨1⟩
def readVin : MethodId := ⟨2⟩
def readBinding : MethodId := ⟨3⟩
def getProvisionState : MethodId := ⟨4⟩
def writeVin : MethodId := ⟨5⟩
def writeVehicleConfig : MethodId := ⟨6⟩
def writeProductionInfo : MethodId := ⟨7⟩
def authorizeRewrite : MethodId := ⟨8⟩

end MethodId

def ErrorCode.toInt32 (code : ErrorCode) : Int32 := code.value.toInt32

namespace ProvIpcDispatcher

/-- FW-0306 -/
def fwHandlerFailed : Int32 := 306

variable (P : Platform)

def makeJsonResponse (status : Int32) (payload : Json) : Throws Bytes := do
  P.json.dump (-1) (← payload.assign "status" (.integer status.toInt))

/-- A field that is missing, not a string, or in a text that does not parse, is empty. -/
def extractStringField (params : Bytes) (field : String) : Bytes :=
  match P.json.parse params with
  | .error _ => []
  | .ok j =>
      if j.contains field then
        match j.subscript field with
        | .ok (.string s) => s
        | _ => []
      else []

abbrev Reply := Int32 × Bytes

def payload (status : Int32) (members : List (String × Json)) : Throws Reply := do
  return (status, ← P.json.dump (-1) (Json.ofFields members))

def errorMember (message : Bytes) : List (String × Json) := [("error", .string message)]

def codedReply (result : ErrorCode) : Throws Reply :=
  payload P result.toInt32 [("success", .boolean (result == .success))]

def failedReply (code : ErrorCode) (message : String) : Throws Reply :=
  payload P code.toInt32 [("success", .boolean false), ("error", .string (bytes message))]

variable (env : Env)

def handleInitialize : ServiceAction (Throws Reply) := do
  return codedReply P (← initializeService P env)

def handleReadVin : ServiceAction (Throws Reply) := do
  return payload P 0 [("vin", .string (← ProvService.readVin P))]

def handleReadBinding : ServiceAction (Throws Reply) := do
  let binding ← ProvService.readBinding P env
  return payload P 0
    [("vin", .string binding.vin), ("ecu_uid", .string binding.ecuUid),
     ("sn", .string binding.sn), ("state", .integer binding.state.value.toNat),
     ("locked", .boolean binding.locked)]

def handleGetProvisionState : ServiceAction (Throws Reply) := do
  let state ← ProvService.getProvisionState P
  return payload P 0 [("state", .integer state.value.toNat)]

/-- The two handlers that take a VIN differ in the operation they call. -/
def handleBindingCall (call : BindingCall) (params : Bytes) : ServiceAction (Throws Reply) := do
  let vin := extractStringField P params "vin"
  if vin.isEmpty then return failedReply P .invalidVinFormat "Missing vin parameter"
  else return codedReply P (← call.run P env vin)

def handleWriteVin (params : Bytes) : ServiceAction (Throws Reply) :=
  handleBindingCall P env .writeVin params

def handleAuthorizeRewrite (params : Bytes) : ServiceAction (Throws Reply) :=
  handleBindingCall P env .authorizeRewrite params

def handleWriteVehicleConfig : ServiceAction (Throws Reply) := do
  return failedReply P .configWriteFailed "Not implemented"

def handleWriteProductionInfo : ServiceAction (Throws Reply) := do
  return failedReply P .productionInfoWriteFailed "Not implemented"

def methodField (methodId : MethodId) : String × FieldValue :=
  ("method_id", .int methodId.value.toInt32.toInt)

def handle (methodId : MethodId) (params : Bytes) : ServiceAction (Throws Reply) :=
  if methodId = .initializeService then handleInitialize P env
  else if methodId = .readVin then handleReadVin P
  else if methodId = .readBinding then handleReadBinding P env
  else if methodId = .getProvisionState then handleGetProvisionState P
  else if methodId = .writeVin then handleWriteVin P env params
  else if methodId = .writeVehicleConfig then handleWriteVehicleConfig P
  else if methodId = .writeProductionInfo then handleWriteProductionInfo P
  else if methodId = .authorizeRewrite then handleAuthorizeRewrite P env params
  else do
    log "ipc" .warn "prov.ipc.unknown_method" "Unknown method ID" [methodField methodId]
    return payload P fwHandlerFailed (errorMember (bytes "Unknown method"))

/-- The last step of `dispatch`: the payload with its status. -/
def respond (reply : Reply) : Throws Bytes :=
  match (do makeJsonResponse P reply.1 (← P.json.parse reply.2) : Throws Bytes) with
  | .ok response => .ok response
  | .error _ =>
      makeJsonResponse P reply.1 (Json.ofFields (errorMember (bytes "Invalid response")))

def answer : Throws Reply → Throws Bytes
  | .ok reply => respond P reply
  | .error e => do respond P (← payload P fwHandlerFailed (errorMember e.what))

/-- Every exception is a `std::exception` here, so the last `catch (...)` has no part. -/
def dispatch (methodId : MethodId) (params : Bytes) : ServiceAction (Throws Bytes) := do
  log "ipc" .debug "prov.ipc.dispatch" "Dispatching request"
    [methodField methodId, ("params_bytes", .int (Int32.ofInt params.length).toInt)]
  let result ← handle P env methodId params
  match result with
  | .ok _ => pure ()
  | .error e =>
      log "ipc" .error "prov.ipc.dispatch_exception" "Exception in dispatch"
        [methodField methodId, ("what", .str e.what)]
  return answer P result

/-! ## Answers on the wire -/

theorem plain_int32 (n : Int32) : (Json.integer n.toInt).Plain := by
  have hlo := Int32.le_toInt n
  have hhi := Int32.toInt_lt n
  constructor <;> omega

section Lawful

variable {P} (hP : P.json.Lawful)
include hP

/-- A payload that was dumped is read back, and dumped again with its status. -/
theorem reencoded {status : Int32} {members : List (String × Json)}
    (hplain : ∀ m ∈ members, m.2.Plain) {reply : Reply}
    (h : payload P status members = .ok reply) :
    ∃ response, (do makeJsonResponse P reply.1 (← P.json.parse reply.2) : Throws Bytes) =
        .ok response ∧
      P.json.parse response =
        .ok (Json.ofFields (members ++ [("status", .integer status.toInt)])) := by
  have hobject : (Json.ofFields members).Plain := Json.plain_ofFields hplain
  cases hdump : P.json.dump (-1) (Json.ofFields members) with
  | error e =>
      simp [payload, hdump] at h
  | ok text =>
      have hreply : reply = (status, text) := by simpa [payload, hdump, eq_comm] using h
      have hparse := hP.parse_of_dump hobject hdump
      have hstatus : (Json.integer status.toInt).Utf8 := trivial
      obtain ⟨response, hresponse, hanswer⟩ := hP.parse_dump (-1) _
        (Json.plain_ofFields_append hobject "status" (plain_int32 status))
        (Json.utf8_ofFields_append (hP.utf8_of_dump hdump) "status" hstatus)
      refine ⟨response, ?_, hanswer⟩
      simp [hreply, makeJsonResponse, hparse, Json.assign_ofFields, hresponse]

/-- The answer on the wire is the object of the payload, with the status as one more member. -/
theorem exists_answer (status : Int32) {members : List (String × Json)}
    (hplain : ∀ m ∈ members, m.2.Plain) (hutf8 : ∀ m ∈ members, m.2.Utf8) :
    ∃ reply response, payload P status members = .ok reply ∧ respond P reply = .ok response ∧
      P.json.parse response =
        .ok (Json.ofFields (members ++ [("status", .integer status.toInt)])) := by
  obtain ⟨text, htext⟩ :=
    hP.exists_dump (-1) (Json.plain_ofFields hplain) (Json.utf8_ofFields hutf8)
  have hreply : payload P status members = .ok (status, text) := by simp [payload, htext]
  obtain ⟨response, hresponse, hanswer⟩ := reencoded hP hplain hreply
  refine ⟨(status, text), response, hreply, ?_, hanswer⟩
  rw [respond, hresponse]

/-- The answer that carries an error code: an object with the code as its status. -/
theorem exists_codedAnswer (result : ErrorCode) :
    ∃ reply response, codedReply P result = .ok reply ∧ respond P reply = .ok response ∧
      P.json.parse response = .ok (Json.ofFields
        [("success", .boolean (result == .success)),
         ("status", .integer result.toInt32.toInt)]) :=
  exists_answer hP result.toInt32 (by simp [Json.Plain]) (by simp [Json.Utf8])

end Lawful

variable {P env} {s : Machine ProvService} {methodId : MethodId} {params : Bytes}

theorem dispatch_state :
    (dispatch P env methodId params s).state = (handle P env methodId params s).state := by
  simp only [dispatch, Prog.bind_state, log, Prog.emit_val, Prog.emit_state, Option.elim_some]
  rcases (handle P env methodId params s).val with _ | (e | reply) <;> simp

theorem dispatch_val :
    (dispatch P env methodId params s).val =
      (handle P env methodId params s).val.map (answer P) := by
  simp only [dispatch, Prog.bind_val, log, Prog.emit_val, Prog.emit_state, Option.bind_some]
  rcases (handle P env methodId params s).val with _ | (e | reply) <;> simp

/-! ## The two handlers that take a VIN -/

def methodOf : BindingCall → MethodId
  | .writeVin => .writeVin
  | .authorizeRewrite => .authorizeRewrite

theorem handle_binding (call : BindingCall) :
    handle P env (methodOf call) params = handleBindingCall P env call params := by
  cases call <;> rfl

theorem handleBindingCall_present (call : BindingCall) {vin : Bytes}
    (hfield : extractStringField P params "vin" = vin) (hne : vin ≠ []) :
    (handleBindingCall P env call params s).val =
        (call.run P env vin s).val.map (codedReply P) ∧
      (handleBindingCall P env call params s).state = (call.run P env vin s).state := by
  have hpresent : vin.isEmpty = false := by simpa using hne
  simp only [handleBindingCall, hfield, hpresent, Bool.false_eq_true, if_false, Prog.bind_val,
    Prog.bind_state]
  cases (call.run P env vin s).val <;> exact ⟨rfl, rfl⟩

end ProvIpcDispatcher

end TboxProv
