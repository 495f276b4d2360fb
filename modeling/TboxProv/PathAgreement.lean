import TboxProv.Identity
import TboxProv.Redelivery

/-!
# The IPC path and the direct path

An operation can be called on the service or through the client, the transport
and the dispatcher.  Every request is decoded, executed, encoded and decoded
again, and `PathsAgree` says that none of this shows.  It shows where a string
cannot be encoded, and where an empty VIN meets the order of the guards.
-/

namespace TboxProv.ProvClient

open Crash ProvService

/-! ## One request over the transport -/

section Transport

variable (P : Platform)

/-- What the framework hands back for an outcome of `dispatch`. -/
def carried : Throws Bytes → FwReply
  | .ok response => ⟨0, response⟩
  | .error _ => ⟨ProvIpcDispatcher.fwHandlerFailed, []⟩

def received (reply : FwReply) : Bool × Int32 × Bytes :=
  if reply.status < 0 then (false, 0, [])
  else if 0 < reply.status then (false, 0, [])
  else (true, bizStatus P reply.response, reply.response)

/-- What the client gets to see of a handler's result. -/
def exchanged (result : Throws ProvIpcDispatcher.Reply) : Bool × Int32 × Bytes :=
  received P (carried (ProvIpcDispatcher.answer P result))

theorem sendRequest_eq (fw : FwCall ServiceAction) (methodId : MethodId) (text : Bytes) :
    sendRequest P fw methodId text = do return received P (← fw methodId text) := by
  unfold sendRequest received
  congr 1
  funext reply
  split_ifs <;> rfl

theorem served_eq (env : Env) (methodId : MethodId) (text : Bytes) :
    served P env methodId text = do
      return carried (← ProvIpcDispatcher.dispatch P env methodId text) := by
  unfold served
  congr 1
  funext result
  cases result <;> rfl

variable {P}

/-- A request whose handler runs `p` and encodes its result. -/
theorem sendRequest_served {α : Type} {env : Env} {methodId : MethodId} {text : Bytes}
    {p : ServiceAction α} {reply : α → Throws ProvIpcDispatcher.Reply}
    (h : ProvIpcDispatcher.handle P env methodId text = do return reply (← p))
    (s : Machine ProvService) :
    (sendRequest P (served P env) methodId text s).val =
        (p s).val.map (fun a ↦ exchanged P (reply a)) ∧
      (sendRequest P (served P env) methodId text s).state = (p s).state := by
  rw [sendRequest_eq, Prog.bind_pure_val, Prog.bind_pure_state, served_eq, Prog.bind_pure_val,
    Prog.bind_pure_state, ProvIpcDispatcher.dispatch_val, ProvIpcDispatcher.dispatch_state, h,
    Prog.bind_pure_val, Prog.bind_pure_state]
  refine ⟨?_, rfl⟩
  simp only [Option.map_map]
  rfl

variable (hP : P.json.Lawful)
include hP

/-- A payload that can be encoded reaches the client with its status. -/
theorem exchanged_payload (status : Int32) (members : List (String × Json))
    (hplain : ∀ m ∈ members, m.2.Plain) (hutf8 : ∀ m ∈ members, m.2.Utf8) :
    ∃ response, exchanged P (ProvIpcDispatcher.payload P status members) =
        (true, status, response) ∧
      P.json.parse response =
        .ok (Json.ofFields (members ++ [("status", .integer status.toInt)])) := by
  obtain ⟨reply, response, hreply, hresponse, hparse⟩ :=
    ProvIpcDispatcher.exists_answer hP status hplain hutf8
  refine ⟨response, ?_, hparse⟩
  have hanswer : ProvIpcDispatcher.answer P (ProvIpcDispatcher.payload P status members) =
      .ok response := by
    rw [hreply]
    exact hresponse
  have hstatus : bizStatus P response = status := by
    simp [bizStatus, hparse, Json.value_ofFields, caught]
  rw [exchanged, hanswer]
  simp [carried, received, hstatus]

/-- The members of the answer that stands for an exception of a handler. -/
def failureMembers (e : Exception) : List (String × Json) :=
  ProvIpcDispatcher.errorMember e.what ++
    [("status", .integer ProvIpcDispatcher.fwHandlerFailed.toInt)]

/-- An exception reaches the client as an answer without any of the expected members, or
as a failed call. -/
theorem exchanged_error (e : Exception) :
    exchanged P (.error e) = (false, 0, []) ∨
      ∃ response, exchanged P (.error e) =
          (true, ProvIpcDispatcher.fwHandlerFailed, response) ∧
        P.json.parse response = .ok (Json.ofFields (failureMembers e)) := by
  by_cases hutf8 : Utf8 e.what
  · right
    have hplain : ∀ m ∈ ProvIpcDispatcher.errorMember e.what, m.2.Plain := by
      simp [ProvIpcDispatcher.errorMember, Json.Plain]
    have hmembers : ∀ m ∈ ProvIpcDispatcher.errorMember e.what, m.2.Utf8 := by
      simpa [ProvIpcDispatcher.errorMember, Json.Utf8] using hutf8
    obtain ⟨text, htext⟩ := hP.exists_dump (-1) (Json.plain_ofFields hplain)
      (Json.utf8_ofFields hmembers)
    obtain ⟨response, hsent, hparse⟩ :=
      exchanged_payload hP ProvIpcDispatcher.fwHandlerFailed _ hplain hmembers
    have hanswer : ProvIpcDispatcher.answer P (.error e) = ProvIpcDispatcher.answer P
        (ProvIpcDispatcher.payload P ProvIpcDispatcher.fwHandlerFailed
          (ProvIpcDispatcher.errorMember e.what)) := by
      simp [ProvIpcDispatcher.answer, ProvIpcDispatcher.payload, htext]
    refine ⟨response, ?_, hparse⟩
    rw [exchanged, hanswer]
    exact hsent
  · left
    have hinvalid : ¬ (Json.ofFields (ProvIpcDispatcher.errorMember e.what)).Utf8 :=
      fun h ↦ hutf8 (Json.utf8_member h "error" rfl)
    obtain ⟨e', he'⟩ := hP.dump_invalid (-1) _ hinvalid
    have hanswer : ProvIpcDispatcher.answer P (.error e) = .error e' := by
      simp [ProvIpcDispatcher.answer, ProvIpcDispatcher.payload, he']
    rw [exchanged, hanswer]
    rfl

end Transport

/-! ## Decoding -/

section Decoding

variable (P : Platform)

def receivedVin : Bool × Int32 × Bytes → Bytes
  | (ok, _, response) => if !ok then [] else vinOf P response

def receivedBinding : Bool × Int32 × Bytes → VehicleBinding
  | (ok, _, response) => if !ok then {} else bindingOf P response

def receivedState : Bool × Int32 × Bytes → ProvisionState
  | (ok, _, response) => if !ok then .none else stateOf P response

theorem readVin_eq (fw : FwCall ServiceAction) :
    readVin P fw = do return receivedVin P (← sendRequest P fw .readVin (bytes "{}")) := by
  unfold readVin
  congr 1
  funext ⟨ok, status, response⟩
  cases ok <;> rfl

theorem readBinding_eq (fw : FwCall ServiceAction) :
    readBinding P fw = do
      return receivedBinding P (← sendRequest P fw .readBinding (bytes "{}")) := by
  unfold readBinding
  congr 1
  funext ⟨ok, status, response⟩
  cases ok <;> rfl

theorem getProvisionState_eq (fw : FwCall ServiceAction) :
    getProvisionState P fw = do
      return receivedState P (← sendRequest P fw .getProvisionState (bytes "{}")) := by
  unfold getProvisionState
  congr 1
  funext ⟨ok, status, response⟩
  cases ok <;> rfl

/-- The five members that `READ_BINDING` transports. -/
def onWire (binding : VehicleBinding) : VehicleBinding :=
  { vin := binding.vin, ecuUid := binding.ecuUid, sn := binding.sn, state := binding.state,
    locked := binding.locked }

def bindingMembers (binding : VehicleBinding) : List (String × Json) :=
  [("vin", .string binding.vin), ("ecu_uid", .string binding.ecuUid),
   ("sn", .string binding.sn), ("state", .integer binding.state.value.toNat),
   ("locked", .boolean binding.locked)]

theorem provisionState_cast (state : ProvisionState) :
    provisionState (Int32.ofInt state.value.toNat) = state := by
  have hlt := state.value.toNat_lt
  have hcast : (Int32.ofInt state.value.toNat).toInt = state.value.toNat := by
    apply Int32.toInt_ofInt_of_le <;> omega
  rw [provisionState, hcast, ofInt_toNat_uint8]

variable {P} (hP : P.json.Lawful)
include hP

theorem receivedVin_sent {vin : Bytes} (h : Utf8 vin) :
    receivedVin P (exchanged P (ProvIpcDispatcher.payload P 0 [("vin", .string vin)])) = vin := by
  obtain ⟨response, hsent, hparse⟩ := exchanged_payload hP 0 [("vin", .string vin)]
    (by simp [Json.Plain]) (by simpa [Json.Utf8] using h)
  rw [hsent]
  simp [receivedVin, vinOf, hparse, Json.value_ofFields, Json.lookup_cons_ite, caught]

theorem receivedState_sent (state : ProvisionState) :
    receivedState P (exchanged P
      (ProvIpcDispatcher.payload P 0 [("state", .integer state.value.toNat)])) = state := by
  obtain ⟨response, hsent, hparse⟩ :=
    exchanged_payload hP 0 [("state", .integer state.value.toNat)]
      (by simpa using plain_uint8 state.value) (by simp [Json.Utf8])
  rw [hsent]
  simp [receivedState, stateOf, hparse, Json.value_ofFields, Json.lookup_cons_ite, caught,
    provisionState_cast]

theorem receivedBinding_sent {binding : VehicleBinding}
    (h : Utf8 binding.vin ∧ Utf8 binding.ecuUid ∧ Utf8 binding.sn) :
    receivedBinding P (exchanged P
      (ProvIpcDispatcher.payload P 0 (bindingMembers binding))) = onWire binding := by
  have hplain : ∀ m ∈ bindingMembers binding, m.2.Plain := by
    simp only [bindingMembers, List.mem_cons, List.not_mem_nil, or_false, forall_eq_or_imp,
      forall_eq]
    exact ⟨trivial, trivial, trivial, plain_uint8 _, trivial⟩
  have hutf8 : ∀ m ∈ bindingMembers binding, m.2.Utf8 := by
    simp only [bindingMembers, List.mem_cons, List.not_mem_nil, or_false, forall_eq_or_imp,
      forall_eq]
    exact ⟨h.1, h.2.1, h.2.2, trivial, trivial⟩
  obtain ⟨response, hsent, hparse⟩ := exchanged_payload hP 0 _ hplain hutf8
  rw [hsent]
  simp [receivedBinding, bindingOf, hparse, bindingMembers, Json.value_ofFields,
    Json.lookup_cons_ite, tryAssign, provisionState_cast, onWire]

theorem receivedBinding_error (e : Exception) :
    receivedBinding P (exchanged P (.error e)) = {} := by
  rcases exchanged_error hP e with hfailed | ⟨response, hsent, hparse⟩
  · rw [hfailed]
    rfl
  · rw [hsent]
    simp [receivedBinding, bindingOf, hparse, failureMembers, ProvIpcDispatcher.errorMember,
      Json.value_ofFields, Json.lookup_cons_ite, tryAssign, provisionState]
    rfl

end Decoding

/-! ## Agreement -/

section Agreement

/-- The two programs return the same, as far as `f` and `g` show it, and leave the same
machine. -/
def Agrees {α β γ : Type} (f : β → γ) (g : α → γ) (client : ServiceAction β)
    (direct : ServiceAction α) (s : Machine ProvService) : Prop :=
  (client s).val.map f = (direct s).val.map g ∧ (client s).state = (direct s).state

variable (P : Platform) (env : Env) (vin : Bytes) (s : Machine ProvService)

structure PathsAgree : Prop where
  initializeService : Agrees id id (initializeService P (served P env))
    (ProvService.initializeService P env) s
  readVin : Agrees id id (readVin P (served P env)) (ProvService.readVin P) s
  readBinding : Agrees onWire onWire (readBinding P (served P env))
    (ProvService.readBinding P env) s
  getProvisionState : Agrees id id (getProvisionState P (served P env))
    (ProvService.getProvisionState P) s
  binding : ∀ call, Agrees id .ok (sendBinding P (served P env) call vin)
    (call.run P env vin) s

/-- What the two paths can agree on: strings that can be encoded, and no empty VIN for a
service that would refuse the call before looking at it. -/
structure Transportable : Prop where
  encodable : Utf8 vin
  admitted : vin = [] → s.mem.initialized = true ∧ s.mem.shuttingDown = false
  stored : s.mem.initialized = true → ∀ binding,
    bindingIn P (s.disk .binding) = some binding →
      Utf8 binding.vin ∧ Utf8 binding.ecuUid ∧ Utf8 (withSn env binding).sn

variable {P env vin s}

/-- It is enough to look at the two codecs: what the handler encodes, the client decodes. -/
theorem Agrees.of_handle {α β γ : Type} {f : β → γ} {g : α → γ} {client : ServiceAction β}
    {direct : ServiceAction α} {methodId : MethodId} {text : Bytes}
    {reply : α → Throws ProvIpcDispatcher.Reply} {decode : Bool × Int32 × Bytes → β}
    (hhandle : ProvIpcDispatcher.handle P env methodId text = do return reply (← direct))
    (hclient : client = do return decode (← sendRequest P (served P env) methodId text))
    (hdecode : ∀ a, (direct s).val = some a → f (decode (exchanged P (reply a))) = g a) :
    Agrees f g client direct s := by
  obtain ⟨hval, hstate⟩ := sendRequest_served hhandle s
  constructor
  · rw [hclient, Prog.bind_pure_val, hval]
    cases hdirect : (direct s).val with
    | none => rfl
    | some a => exact congrArg some (hdecode a hdirect)
  · rw [hclient, Prog.bind_pure_state, hstate]

theorem sendBinding_of_dump (fw : FwCall ServiceAction) (call : BindingCall) {text : Bytes}
    (hdump : P.json.dump (-1) (Json.ofFields [("vin", .string vin)]) = .ok text) :
    sendBinding P fw call vin = do
      return .ok (codeOf (← sendRequest P fw (ProvIpcDispatcher.methodOf call) text)) := by
  rw [sendBinding_eq]
  simp only [sendCoded, hdump]

section Lawful

variable (hP : P.json.Lawful)
include hP

theorem codeOf_sent (code : ErrorCode) (members : List (String × Json))
    (hplain : ∀ m ∈ members, m.2.Plain) (hutf8 : ∀ m ∈ members, m.2.Utf8) :
    codeOf (exchanged P (ProvIpcDispatcher.payload P code.toInt32 members)) = code := by
  obtain ⟨response, hsent, -⟩ := exchanged_payload hP code.toInt32 members hplain hutf8
  rw [hsent, codeOf_ok]
  rfl

theorem codeOf_codedReply (code : ErrorCode) :
    codeOf (exchanged P (ProvIpcDispatcher.codedReply P code)) = code :=
  codeOf_sent hP code _ (by simp [Json.Plain]) (by simp [Json.Utf8])

variable (env s) in
theorem initializeService_agrees :
    Agrees id id (initializeService P (served P env)) (ProvService.initializeService P env) s := by
  have hhandle : ProvIpcDispatcher.handle P env .initializeService (bytes "{}") = do
      return ProvIpcDispatcher.codedReply P (← ProvService.initializeService P env) := rfl
  apply Agrees.of_handle hhandle rfl
  intro code _
  exact codeOf_codedReply hP code

variable (env s) in
theorem getProvisionState_agrees :
    Agrees id id (getProvisionState P (served P env)) (ProvService.getProvisionState P) s := by
  have hhandle : ProvIpcDispatcher.handle P env .getProvisionState (bytes "{}") =
      ProvService.getProvisionState P >>= fun state ↦
        pure (ProvIpcDispatcher.payload P 0 [("state", .integer state.value.toNat)]) := rfl
  apply Agrees.of_handle hhandle (getProvisionState_eq P _)
  intro state _
  exact receivedState_sent hP state

theorem readVin_agrees (h : Transportable P env vin s) :
    Agrees id id (readVin P (served P env)) (ProvService.readVin P) s := by
  have hhandle : ProvIpcDispatcher.handle P env .readVin (bytes "{}") = do
      return ProvIpcDispatcher.payload P 0 [("vin", .string (← ProvService.readVin P))] := rfl
  apply Agrees.of_handle hhandle (readVin_eq P _)
  intro shown hshown
  apply receivedVin_sent hP
  rw [readVin_returns, Option.some.injEq] at hshown
  rw [← hshown]
  split
  case isFalse => exact Utf8.nil
  case isTrue hinit =>
    cases hread : bindingIn P (s.disk .binding) with
    | none => exact Utf8.nil
    | some binding => exact (h.stored hinit binding hread).1

/-- What the client shows when the binding cannot be encoded is empty. -/
theorem receivedBinding_payload (binding : VehicleBinding) :
    onWire (receivedBinding P (exchanged P
        (ProvIpcDispatcher.payload P 0 (bindingMembers binding)))) = onWire binding ↔
      Utf8 binding.vin ∧ Utf8 binding.ecuUid ∧ Utf8 binding.sn := by
  constructor
  · intro hsame
    by_contra hno
    have hinvalid : ¬ (Json.ofFields (bindingMembers binding)).Utf8 := fun h ↦
      hno ⟨Json.utf8_member h "vin" rfl, Json.utf8_member h "ecu_uid" rfl,
        Json.utf8_member h "sn" rfl⟩
    obtain ⟨e, he⟩ := hP.dump_invalid (-1) _ hinvalid
    have hpayload : ProvIpcDispatcher.payload P 0 (bindingMembers binding) = .error e := by
      simp [ProvIpcDispatcher.payload, he]
    rw [hpayload, receivedBinding_error hP] at hsame
    obtain ⟨hvin, huid, hsn, -⟩ : [] = binding.vin ∧ [] = binding.ecuUid ∧ [] = binding.sn ∧ _ := by
      simpa [onWire] using hsame
    apply hno
    rw [← hvin, ← huid, ← hsn]
    exact ⟨Utf8.nil, Utf8.nil, Utf8.nil⟩
  · intro h
    rw [receivedBinding_sent hP h]
    rfl

variable (env s) in
theorem readBinding_agrees_iff :
    Agrees onWire onWire (readBinding P (served P env)) (ProvService.readBinding P env) s ↔
      Utf8 (shownBinding P env s).vin ∧ Utf8 (shownBinding P env s).ecuUid ∧
        Utf8 (shownBinding P env s).sn := by
  have hhandle : ProvIpcDispatcher.handle P env .readBinding (bytes "{}") =
      ProvService.readBinding P env >>= fun binding ↦
        pure (ProvIpcDispatcher.payload P 0 (bindingMembers binding)) := rfl
  rw [← receivedBinding_payload hP]
  constructor
  · rintro ⟨hval, -⟩
    obtain ⟨hsent, -⟩ := sendRequest_served hhandle s
    rw [readBinding_eq, Prog.bind_pure_val, hsent, readBinding_val] at hval
    exact Option.some.inj hval
  · intro hsame
    apply Agrees.of_handle hhandle (readBinding_eq P _)
    intro binding hbinding
    rw [readBinding_val, Option.some.injEq] at hbinding
    rw [← hbinding]
    exact hsame

omit hP in
variable (P env s) in
theorem shownBinding_utf8_iff :
    (Utf8 (shownBinding P env s).vin ∧ Utf8 (shownBinding P env s).ecuUid ∧
        Utf8 (shownBinding P env s).sn) ↔
      (s.mem.initialized = true → ∀ binding, bindingIn P (s.disk .binding) = some binding →
        Utf8 binding.vin ∧ Utf8 binding.ecuUid ∧ Utf8 (withSn env binding).sn) := by
  cases hinit : s.mem.initialized with
  | false => simp [shownBinding, hinit]
  | true =>
      cases hread : bindingIn P (s.disk .binding) with
      | none => simp [shownBinding, hinit, hread]
      | some binding =>
          obtain ⟨hvin, huid⟩ := withSn_fields env binding
          simp [shownBinding, hinit, hread, hvin, huid]

/-- A VIN that is present is executed by the service as it is. -/
theorem binding_agrees_present (call : BindingCall) (hvin : Utf8 vin) (hne : vin ≠ []) :
    Agrees id .ok (sendBinding P (served P env) call vin) (call.run P env vin) s := by
  obtain ⟨hval, hstate⟩ := served_binding hP call hvin hne
  refine ⟨?_, hstate⟩
  rw [hval, Option.map_id]
  rfl

variable (env s) in
/-- An empty VIN does not get past the dispatcher. -/
theorem sendBinding_empty (call : BindingCall) :
    (sendBinding P (served P env) call [] s).val = some (.ok .invalidVinFormat) ∧
      (sendBinding P (served P env) call [] s).state = s := by
  obtain ⟨text, hdump, hfield⟩ := exists_params hP Utf8.nil
  have hhandle : ProvIpcDispatcher.handle P env (ProvIpcDispatcher.methodOf call) text =
      (pure () : ServiceAction Unit) >>= fun _ ↦
        pure (ProvIpcDispatcher.failedReply P .invalidVinFormat "Missing vin parameter") := by
    rw [ProvIpcDispatcher.handle_binding, ProvIpcDispatcher.handleBindingCall, hfield]
    rfl
  obtain ⟨hval, hstate⟩ := sendRequest_served hhandle s
  have hcode : codeOf (exchanged P
      (ProvIpcDispatcher.failedReply P .invalidVinFormat "Missing vin parameter")) =
        .invalidVinFormat :=
    codeOf_sent hP .invalidVinFormat _ (by simp [Json.Plain]) (by simp [Json.Utf8])
  rw [sendBinding_of_dump _ call hdump, Prog.bind_pure_val, Prog.bind_pure_state, hval, hstate]
  exact ⟨congrArg (some ∘ Except.ok) hcode, rfl⟩

theorem binding_agrees_iff (call : BindingCall) :
    Agrees id .ok (sendBinding P (served P env) call vin) (call.run P env vin) s ↔
      Utf8 vin ∧ (vin = [] → s.mem.initialized = true ∧ s.mem.shuttingDown = false) := by
  by_cases hvin : Utf8 vin
  case neg =>
    have hinvalid : ¬ (Json.ofFields [("vin", .string vin)]).Utf8 :=
      fun h ↦ hvin (Json.utf8_member h "vin" rfl)
    obtain ⟨e, he⟩ := hP.dump_invalid (-1) _ hinvalid
    -- the client throws where the service returns a code
    have hthrown : (sendBinding P (served P env) call vin s).val = some (.error e) := by
      rw [sendBinding_eq]
      simp [sendCoded, he]
    refine ⟨fun h ↦ ?_, fun h ↦ absurd h.1 hvin⟩
    have hval := h.1
    rw [hthrown] at hval
    cases hrun : (call.run P env vin s).val with
    | none =>
        rw [hrun] at hval
        cases hval
    | some code =>
        rw [hrun] at hval
        cases hval
  by_cases hne : vin = []
  case neg =>
    exact ⟨fun _ ↦ ⟨hvin, fun h ↦ absurd h hne⟩, fun _ ↦ binding_agrees_present hP call hvin hne⟩
  subst hne
  obtain ⟨hval, hstate⟩ := sendBinding_empty env s hP call
  obtain ⟨hrun, hend⟩ := run_empty P env s call
  unfold Agrees
  rw [hval, hstate, hrun, hend]
  by_cases hserving : s.mem.initialized = true ∧ s.mem.shuttingDown = false
  · rw [if_pos hserving]
    exact ⟨fun _ ↦ ⟨hvin, fun _ ↦ hserving⟩, fun _ ↦ ⟨rfl, rfl⟩⟩
  · rw [if_neg hserving]
    constructor
    · rintro ⟨hsame, -⟩
      exact absurd (Except.ok.inj (Option.some.inj hsame)) (by decide)
    · rintro ⟨-, hadmitted⟩
      exact absurd (hadmitted rfl) hserving

/-- The client and the service agree exactly where the strings can be encoded and an empty
VIN would not have been refused earlier. -/
theorem paths_agree_iff : PathsAgree P env vin s ↔ Transportable P env vin s := by
  constructor
  · intro h
    obtain ⟨hvin, hadmitted⟩ := (binding_agrees_iff hP .writeVin).1 (h.binding .writeVin)
    exact ⟨hvin, hadmitted, (shownBinding_utf8_iff P env s).1
      ((readBinding_agrees_iff env s hP).1 h.readBinding)⟩
  · intro h
    have hshown := (shownBinding_utf8_iff P env s).2 h.stored
    exact ⟨initializeService_agrees env s hP, readVin_agrees hP h,
      (readBinding_agrees_iff env s hP).2 hshown, getProvisionState_agrees env s hP,
      fun call ↦ (binding_agrees_iff hP call).2 ⟨h.encodable, h.admitted⟩⟩

/-- In the states that the service gets itself into only the arguments matter: the VIN
that is passed and the SN that the provider returns. -/
theorem transportable_run_iff {config : ProvServiceConfig} {calls : List Call}
    (hnever : ∀ c ∈ calls, c.NeverInvents P)
    (hs : s = run (exec P) calls (fresh config Disk.empty)) :
    Transportable P env vin s ↔
      Utf8 vin ∧ (vin = [] → s.mem.initialized = true ∧ s.mem.shuttingDown = false) ∧
        (s.mem.initialized = true → (bindingIn P (s.disk .binding)).isSome →
          env.sn.success = true → Utf8 env.sn.sn) := by
  have hencodable : Encodable P s.disk := by
    rw [hs]
    exact run_encodable hP config hnever
  constructor
  · rintro ⟨hvin, hadmitted, hstored⟩
    refine ⟨hvin, hadmitted, fun hinit hsome hprovided ↦ ?_⟩
    obtain ⟨binding, hread⟩ := Option.isSome_iff_exists.1 hsome
    have hsn := (hstored hinit binding hread).2.2
    simpa [withSn, (hencodable binding hread).1, hprovided] using hsn
  · rintro ⟨hvin, hadmitted, hsn⟩
    refine ⟨hvin, hadmitted, fun hinit binding hread ↦ ?_⟩
    obtain ⟨hempty, hvin', huid⟩ := hencodable binding hread
    refine ⟨hvin', huid, ?_⟩
    cases hprovided : env.sn.success with
    | false => simp [withSn, hempty, hprovided]
    | true =>
        have hutf8 := hsn hinit (by rw [hread]; rfl) hprovided
        simpa [withSn, hempty, hprovided] using hutf8

end Lawful

theorem paths_agree_sample : PathsAgree textPlatform sampleEnv sampleVin (started {}) := by
  refine (paths_agree_iff textPlatform_lawful).2 ⟨Utf8.bytes _, ?_, ?_⟩
  · intro hempty
    exact absurd hempty (by decide)
  · intro _ binding hread
    cases hread

/-- An empty VIN before `initialize`, and a VIN that is not UTF-8 after it. -/
theorem paths_disagree :
    ¬ PathsAgree textPlatform sampleEnv [] (fresh {} Disk.empty) ∧
      ¬ PathsAgree textPlatform sampleEnv [255] (started {}) := by
  constructor
  · intro h
    obtain ⟨hinit, -⟩ :=
      ((binding_agrees_iff textPlatform_lawful .writeVin).1 (h.binding .writeVin)).2 rfl
    cases hinit
  · intro h
    have hutf8 := ((binding_agrees_iff textPlatform_lawful .writeVin).1 (h.binding .writeVin)).1
    revert hutf8
    decide

end Agreement

end TboxProv.ProvClient
