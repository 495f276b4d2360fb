import TboxProv.ProvClient

/-!
# Redelivery of a VIN write

A VIN write can reach the service more than once: the caller repeats it, or the
transport executes it again because the first answer was lost.  The section on
the transport connects the client to the service through the dispatcher; the
rest of the file follows what every further execution does to the binding.
-/

namespace TboxProv

open Crash ProvService

/-! ## The transport -/

namespace ProvClient

variable (P : Platform)

/-- One execution on the server.  An exception that leaves the handler is answered
by the framework with a status of its own. -/
def served (env : Env) : FwCall ServiceAction := fun methodId params ↦ do
  match ← ProvIpcDispatcher.dispatch P env methodId params with
  | .ok response => return ⟨0, response⟩
  | .error _ => return ⟨ProvIpcDispatcher.fwHandlerFailed, []⟩

/-- The first execution's answer is lost, and the request is sent again. -/
def resent (lost env : Env) : FwCall ServiceAction := fun methodId params ↦ do
  let _ ← ProvIpcDispatcher.dispatch P lost methodId params
  served P env methodId params

def sendBinding {m : Type → Type} [Monad m] (fw : FwCall m) :
    BindingCall → Bytes → m (Throws ErrorCode)
  | .writeVin => ProvClient.writeVin P fw
  | .authorizeRewrite => ProvClient.authorizeRewrite P fw

variable {P} {env : Env} {s : Machine ProvService} {vin : Bytes}

theorem sendBinding_eq {m : Type → Type} [Monad m] (fw : FwCall m) (call : BindingCall)
    (vin : Bytes) :
    sendBinding P fw call vin = sendCoded P fw (ProvIpcDispatcher.methodOf call)
      (Json.ofFields [("vin", .string vin)]) := by
  cases call <;> rfl

theorem exists_params (hP : P.json.Lawful) (hvin : Utf8 vin) :
    ∃ params, P.json.dump (-1) (Json.ofFields [("vin", .string vin)]) = .ok params ∧
      ProvIpcDispatcher.extractStringField P params "vin" = vin := by
  obtain ⟨params, hdump, hparse⟩ := hP.parse_dump (-1) (Json.ofFields [("vin", .string vin)])
    (Json.plain_ofFields (by simp [Json.Plain]))
    (Json.utf8_ofFields (by simpa [Json.Utf8] using hvin))
  refine ⟨params, hdump, ?_⟩
  simp [ProvIpcDispatcher.extractStringField, hparse, Json.contains_ofFields,
    Json.subscript_ofFields]

theorem code_of_answer (hP : P.json.Lawful) (result : ErrorCode) :
    ∃ response, ProvIpcDispatcher.answer P (ProvIpcDispatcher.codedReply P result) =
        .ok response ∧ codeOf (true, bizStatus P response, response) = result := by
  obtain ⟨reply, response, hreply, hresponse, hparse⟩ :=
    ProvIpcDispatcher.exists_codedAnswer hP result
  refine ⟨response, by rw [hreply]; exact hresponse, ?_⟩
  have hstatus : bizStatus P response = result.toInt32 := by
    simp [bizStatus, hparse, Json.value_ofFields, caught]
  rw [codeOf_ok, hstatus]
  rfl

variable (P) in
/-- What the framework transports when the service has returned a code. -/
def Carries (answerOf : ErrorCode → Bytes) : Prop :=
  ∀ result,
    ProvIpcDispatcher.answer P (ProvIpcDispatcher.codedReply P result) = .ok (answerOf result) ∧
      codeOf (true, bizStatus P (answerOf result), answerOf result) = result

variable {answerOf : ErrorCode → Bytes} {text : Bytes}

theorem exists_carries (hP : P.json.Lawful) : ∃ answerOf, Carries P answerOf := by
  choose answerOf hanswer using code_of_answer hP
  exact ⟨answerOf, hanswer⟩

theorem sendCoded_carried (hcarries : Carries P answerOf) {fw : FwCall ServiceAction}
    {methodId : MethodId} {params : Json} {outcome : Option ErrorCode}
    (hdump : P.json.dump (-1) params = .ok text)
    (h : (fw methodId text s).val = outcome.map fun result ↦ ⟨0, answerOf result⟩) :
    (sendCoded P fw methodId params s).val = outcome.map .ok ∧
      (sendCoded P fw methodId params s).state = (fw methodId text s).state := by
  cases outcome with
  | none => simp [sendCoded, sendRequest, hdump, h]
  | some result =>
      have hcode := (hcarries result).2
      rw [codeOf_ok] at hcode
      simp [sendCoded, sendRequest, hdump, h, hcode]

variable (env s) in
theorem dispatch_binding (hcarries : Carries P answerOf) (call : BindingCall)
    (hfield : ProvIpcDispatcher.extractStringField P text "vin" = vin) (hne : vin ≠ []) :
    (ProvIpcDispatcher.dispatch P env (ProvIpcDispatcher.methodOf call) text s).val =
        (call.run P env vin s).val.map (fun result ↦ .ok (answerOf result)) ∧
      (ProvIpcDispatcher.dispatch P env (ProvIpcDispatcher.methodOf call) text s).state =
        (call.run P env vin s).state := by
  obtain ⟨hval, hstate⟩ := ProvIpcDispatcher.handleBindingCall_present (s := s) call hfield hne
  rw [ProvIpcDispatcher.dispatch_val, ProvIpcDispatcher.dispatch_state,
    ProvIpcDispatcher.handle_binding, hval, hstate, Option.map_map]
  refine ⟨?_, rfl⟩
  congr 1
  funext result
  exact (hcarries result).1

variable (env s) in
theorem served_carries (hcarries : Carries P answerOf) (call : BindingCall)
    (hfield : ProvIpcDispatcher.extractStringField P text "vin" = vin) (hne : vin ≠ []) :
    (served P env (ProvIpcDispatcher.methodOf call) text s).val =
        (call.run P env vin s).val.map (fun result ↦ ⟨0, answerOf result⟩) ∧
      (served P env (ProvIpcDispatcher.methodOf call) text s).state =
        (call.run P env vin s).state := by
  obtain ⟨hval, hstate⟩ := dispatch_binding env s hcarries call hfield hne
  rw [served, Prog.bind_val, Prog.bind_state, hval, hstate]
  cases (call.run P env vin s).val <;> exact ⟨rfl, rfl⟩

/-- A binding call through the client and the dispatcher is the call on the service. -/
theorem served_binding (hP : P.json.Lawful) (call : BindingCall) (hvin : Utf8 vin)
    (hne : vin ≠ []) :
    (sendBinding P (served P env) call vin s).val = (call.run P env vin s).val.map .ok ∧
      (sendBinding P (served P env) call vin s).state = (call.run P env vin s).state := by
  obtain ⟨text, hdump, hfield⟩ := exists_params hP hvin
  obtain ⟨answerOf, hcarries⟩ := exists_carries hP
  obtain ⟨hval, hstate⟩ := served_carries env s hcarries call hfield hne
  obtain ⟨hsent, hend⟩ := sendCoded_carried hcarries hdump hval
  rw [sendBinding_eq]
  exact ⟨hsent, hend.trans hstate⟩

variable (env) in
theorem resent_after {lost : Env} {methodId : MethodId} {answer : Throws Bytes}
    {t : Machine ProvService}
    (hval : (ProvIpcDispatcher.dispatch P lost methodId text s).val = some answer)
    (hstate : (ProvIpcDispatcher.dispatch P lost methodId text s).state = t) :
    (resent P lost env methodId text s).val = (served P env methodId text t).val ∧
      (resent P lost env methodId text s).state = (served P env methodId text t).state := by
  rw [resent, Prog.bind_val, Prog.bind_state, hval, hstate]
  exact ⟨rfl, rfl⟩

/-- When the first answer is lost the service executes the call twice. -/
theorem resent_binding (hP : P.json.Lawful) (call : BindingCall) (hvin : Utf8 vin)
    (hne : vin ≠ []) {lost : Env} {code : ErrorCode}
    (h : (call.run P lost vin s).val = some code) :
    (sendBinding P (resent P lost env) call vin s).val =
        (call.run P env vin (call.run P lost vin s).state).val.map .ok ∧
      (sendBinding P (resent P lost env) call vin s).state =
        (call.run P env vin (call.run P lost vin s).state).state := by
  obtain ⟨text, hdump, hfield⟩ := exists_params hP hvin
  obtain ⟨answerOf, hcarries⟩ := exists_carries hP
  obtain ⟨hlost, hmiddle⟩ := dispatch_binding lost s hcarries call hfield hne
  obtain ⟨hval, hstate⟩ :=
    served_carries env (call.run P lost vin s).state hcarries call hfield hne
  rw [h, Option.map_some] at hlost
  obtain ⟨hresent, hafter⟩ := resent_after env hlost hmiddle
  rw [hval] at hresent
  obtain ⟨hsent, hend⟩ := sendCoded_carried hcarries hdump hresent
  rw [sendBinding_eq]
  exact ⟨hsent, (hend.trans hafter).trans hstate⟩

/-! ## Reads through the client -/

inductive ReadOp where
  | vin
  | binding
  | provisionState

variable (P) in
def sendRead (fw : FwCall ServiceAction) : ReadOp → ServiceAction Unit
  | .vin => do let _ ← ProvClient.readVin P fw
  | .binding => do let _ ← ProvClient.readBinding P fw
  | .provisionState => do let _ ← ProvClient.getProvisionState P fw

def ReadOp.method : ReadOp → MethodId
  | .vin => .readVin
  | .binding => .readBinding
  | .provisionState => .getProvisionState

variable (P) in
theorem sendRequest_readOnly {fw : FwCall ServiceAction} {methodId : MethodId} {text : Bytes}
    (h : Prog.ReadOnly (fw methodId text)) : Prog.ReadOnly (sendRequest P fw methodId text) :=
  h.bind fun _ ↦ .ite (.pure _) (.ite (.pure _) (.pure _))

variable (P) in
theorem sendRead_readOnly {fw : FwCall ServiceAction} {op : ReadOp}
    (h : ∀ text, Prog.ReadOnly (fw op.method text)) : Prog.ReadOnly (sendRead P fw op) := by
  cases op with
  | vin | binding | provisionState =>
      refine .bind (.bind (sendRequest_readOnly P (h _)) fun reply ↦ ?_) fun _ ↦ .pure _
      exact .ite (.pure _) (.pure _)

variable (P env) in
theorem dispatch_read (op : ReadOp) (text : Bytes) :
    Prog.ReadOnly (ProvIpcDispatcher.dispatch P env op.method text) := by
  intro s
  rw [ProvIpcDispatcher.dispatch_state]
  cases op with
  | vin => exact Prog.ReadOnly.bind (fun s ↦ readVin_state P s) (fun _ ↦ .pure _) s
  | binding => exact Prog.ReadOnly.bind (fun s ↦ readBinding_state P env s) (fun _ ↦ .pure _) s
  | provisionState =>
      exact Prog.ReadOnly.bind (fun s ↦ getProvisionState_state P s) (fun _ ↦ .pure _) s

variable (P env) in
theorem served_read (op : ReadOp) (text : Bytes) :
    Prog.ReadOnly (served P env op.method text) :=
  (dispatch_read P env op text).bind fun
    | .ok _ => .pure _
    | .error _ => .pure _

variable (P env) in
theorem resent_read (lost : Env) (op : ReadOp) (text : Bytes) :
    Prog.ReadOnly (resent P lost env op.method text) :=
  (dispatch_read P lost op text).bind fun _ ↦ served_read P env op text

end ProvClient

namespace ProvService

open ProvClient

variable (P : Platform)

/-! ## Deliveries -/

inductive Route where
  | direct (env : Env)
  | client (env : Env)
  | resent (lost env : Env)

namespace Route

def envs : Route → List Env
  | direct env | client env => [env]
  | resent lost env => [lost, env]

def write (vin : Bytes) : Route → ServiceAction (Throws ErrorCode)
  | direct env => do return .ok (← ProvService.writeVin P env vin)
  | client env => ProvClient.writeVin P (served P env) vin
  | resent lost env => ProvClient.writeVin P (ProvClient.resent P lost env) vin

def readDirect (env : Env) : ReadOp → ServiceAction Unit
  | .vin => do let _ ← ProvService.readVin P
  | .binding => do let _ ← ProvService.readBinding P env
  | .provisionState => do let _ ← ProvService.getProvisionState P

def read (op : ReadOp) : Route → ServiceAction Unit
  | direct env => readDirect P env op
  | client env => sendRead P (served P env) op
  | resent lost env => sendRead P (ProvClient.resent P lost env) op

end Route

inductive Delivery where
  | write (route : Route)
  | read (op : ReadOp) (route : Route)

namespace Delivery

def IsRead : Delivery → Prop
  | write _ => False
  | read _ _ => True

def envs : Delivery → List Env
  | write route | read _ route => route.envs

/-- The state for the next delivery; on a store without faults none is cut short. -/
def after (vin : Bytes) : Delivery → Machine ProvService → Machine ProvService
  | write route, s => (route.write P vin s).state
  | read op route, s => (route.read P op s).state

def Succeeds (vin : Bytes) : Delivery → Machine ProvService → Prop
  | write route, s => (route.write P vin s).val = some (.ok .success)
  | read _ _, _ => True

end Delivery

/-- The provider returns the UID, and every save takes effect. -/
def FaultFree (uid : Bytes) (env : Env) : Prop :=
  env.uid.success = true ∧ env.uid.uid = uid ∧ ∀ n, env.save n = .stored

def keyFields (s : Machine ProvService) : Option (Bytes × Bytes × ProvisionState × UInt32) :=
  (bindingIn P (s.disk .binding)).map fun b ↦ (b.vin, b.ecuUid, b.state, b.rewriteCount)

/-- Every delivery succeeds, and none changes what is stored about the binding. -/
def Idempotent (vin : Bytes) (deliveries : List Delivery) (s : Machine ProvService) : Prop :=
  Along (Delivery.after P vin) (Delivery.Succeeds P vin) deliveries s ∧
    Throughout (Delivery.after P vin) (fun t ↦ keyFields P t = keyFields P s) deliveries s

structure Delivered (vin uid : Bytes) (s : Machine ProvService) : Prop where
  admits : Admits P vin s .writeVin
  utf8 : Utf8 uid
  readsBack : ReadsBack P vin s

variable {P} {vin uid : Bytes} {s : Machine ProvService}

/-! ## One more execution -/

def rewrites (P : Platform) (s : Machine ProvService) : UInt32 :=
  (keyFields P s).elim 0 fun fields ↦ fields.2.2.2

theorem SuccessExit.delivered (hP : P.json.Lawful) {env : Env} {t : Machine ProvService}
    (hadm : Admits P vin s .writeVin) (huid : env.uid.success = true)
    (exit : SuccessExit P env vin s t) : Delivered P vin env.uid.uid t := by
  cases exit with
  | uidFailed hfailed =>
      rw [huid] at hfailed
      cases hfailed
  | unlocked _ w _ _ hread =>
      refine ⟨⟨hadm.initialized, hadm.running, hadm.valid, ?_⟩, w.utf8_uid hP, hread⟩
      intro hcall
      cases hcall
  | locked _ w _ _ hread =>
      refine ⟨⟨hadm.initialized, hadm.running, hadm.valid, ?_⟩, w.utf8_uid hP, ?_⟩
      · intro hcall
        cases hcall
      · obtain ⟨binding, hbinding, hvin⟩ := hread
        refine ⟨binding, ?_, hvin⟩
        rw [afterProtection_binding]
        exact hbinding

/-- Where the VIN is stored already, storing it once more counts as a rewrite. -/
theorem BoundBy.rewrites {env : Env} {t : Machine ProvService} (h : BoundBy P env vin s t)
    (hread : ReadsBack P vin s) : rewrites P t = rewrites P s + 1 := by
  obtain ⟨old, hold, hvin⟩ := hread
  have hcount : (boundRecord P env vin s).reread.rewriteCount = old.rewriteCount + 1 := by
    simp [boundRecord, writtenRecord, newBinding, VehicleBinding.reread, hold, hvin]
  simp [ProvService.rewrites, keyFields, h.binding, hold, hcount]

theorem write_again (hP : P.json.Lawful) (h : Delivered P vin uid s) {env : Env}
    (hfree : FaultFree uid env) :
    ((writeVin P env vin s).val = some .vinWriteFailed ∧ (writeVin P env vin s).state = s) ∨
      ((writeVin P env vin s).val = some .success ∧
        Delivered P vin uid (writeVin P env vin s).state ∧
        rewrites P (writeVin P env vin s).state = rewrites P s + 1) := by
  obtain ⟨huid, rfl, hsaves⟩ := hfree
  cases hprot : s.mem.storage.writeProtected with
  | true => exact .inl (run_protected h.admits huid hprot)
  | false =>
      obtain ⟨hval, hbound⟩ := run_stored hP h.admits huid hprot h.utf8 hsaves
      refine .inr ⟨hval, ⟨hbound.admits h.admits h.admits.valid, h.utf8, ?_⟩,
        hbound.rewrites h.readsBack⟩
      exact ⟨_, hbound.binding, (boundRecord_reread P env vin s).1⟩

/-- Whatever the route, the answer is that of an execution of `write_vin`, perhaps after
an earlier one. -/
theorem Route.write_last (hP : P.json.Lawful) (h : Delivered P vin uid s) {route : Route}
    (hfree : ∀ env ∈ route.envs, FaultFree uid env) :
    ∃ env t, FaultFree uid env ∧ Delivered P vin uid t ∧
      (rewrites P t = rewrites P s ∨ rewrites P t = rewrites P s + 1) ∧
      (route.write P vin s).val = (writeVin P env vin t).val.map .ok ∧
      (route.write P vin s).state = (writeVin P env vin t).state := by
  have hutf8 := VinValidator.utf8_of_validate h.admits.valid
  have hne : vin ≠ [] := by
    rintro rfl
    exact absurd h.admits.valid (by decide)
  cases route with
  | direct env =>
      refine ⟨env, s, hfree env (by simp [envs]), h, .inl rfl, ?_⟩
      rw [Route.write, Prog.bind_val, Prog.bind_state]
      cases (writeVin P env vin s).val <;> exact ⟨rfl, rfl⟩
  | client env =>
      refine ⟨env, s, hfree env (by simp [envs]), h, .inl rfl, ?_⟩
      exact served_binding hP .writeVin hutf8 hne
  | resent lost env =>
      have hlost := hfree lost (by simp [envs])
      have henv := hfree env (by simp [envs])
      obtain ⟨code, hval, hnext, hcount⟩ : ∃ code, (writeVin P lost vin s).val = some code ∧
          Delivered P vin uid (writeVin P lost vin s).state ∧
          (rewrites P (writeVin P lost vin s).state = rewrites P s ∨
            rewrites P (writeVin P lost vin s).state = rewrites P s + 1) := by
        rcases write_again hP h hlost with ⟨hval, hstate⟩ | ⟨hval, hnext, hcount⟩
        · rw [hstate]
          exact ⟨_, hval, h, .inl rfl⟩
        · exact ⟨_, hval, hnext, .inr hcount⟩
      refine ⟨env, _, henv, hnext, hcount, ?_⟩
      exact resent_binding hP .writeVin hutf8 hne hval

theorem Route.write_changes (hP : P.json.Lawful) (h : Delivered P vin uid s) {route : Route}
    (hfree : ∀ env ∈ route.envs, FaultFree uid env)
    (hsuccess : (route.write P vin s).val = some (.ok .success)) :
    keyFields P (route.write P vin s).state ≠ keyFields P s := by
  obtain ⟨env, t, henv, ht, hcount, hval, hstate⟩ := Route.write_last hP h hfree
  rw [hval] at hsuccess
  rw [hstate]
  intro hsame
  have hrewrites : rewrites P (writeVin P env vin t).state = rewrites P s := by
    rw [rewrites, hsame, rewrites]
  rcases write_again hP ht henv with ⟨hfailed, -⟩ | ⟨-, -, hnext⟩
  · rw [hfailed] at hsuccess
    cases hsuccess
  · rw [hrewrites] at hnext
    rcases hcount with hcount | hcount
    · rw [hcount] at hnext
      simp at hnext
    · rw [hcount, UInt32.add_assoc] at hnext
      simp at hnext

theorem Route.read_state (op : ReadOp) (route : Route) : (route.read P op s).state = s := by
  cases route with
  | direct env =>
      cases op with
      | vin => exact Prog.ReadOnly.bind (readVin_state P) (fun _ ↦ .pure _) s
      | binding => exact Prog.ReadOnly.bind (readBinding_state P env) (fun _ ↦ .pure _) s
      | provisionState => exact Prog.ReadOnly.bind (getProvisionState_state P) (fun _ ↦ .pure _) s
  | client env => exact sendRead_readOnly P (served_read P env op) s
  | resent lost env => exact sendRead_readOnly P (resent_read P env lost op) s

theorem idempotent_iff (hP : P.json.Lawful) (h : Delivered P vin uid s)
    {deliveries : List Delivery}
    (hfree : ∀ d ∈ deliveries, ∀ env ∈ d.envs, FaultFree uid env) :
    Idempotent P vin deliveries s ↔ ∀ d ∈ deliveries, d.IsRead := by
  unfold Idempotent
  induction deliveries with
  | nil => simp [Along, Throughout]
  | cons d deliveries ih =>
      have hrest : ∀ d ∈ deliveries, ∀ env ∈ d.envs, FaultFree uid env := by
        intro d' hd'
        exact hfree d' (List.mem_cons_of_mem d hd')
      rw [List.forall_mem_cons]
      cases d with
      | write route =>
          have hroute := hfree (.write route) List.mem_cons_self
          constructor
          · rintro ⟨⟨hsuccess, -⟩, -, hthroughout⟩
            exact absurd hthroughout.head (Route.write_changes hP h hroute hsuccess)
          · rintro ⟨hread, -⟩
            exact hread.elim
      | read op route =>
          have hstate : Delivery.after P vin (.read op route) s = s := Route.read_state op route
          rw [← ih hrest]
          simp only [Along, Throughout, hstate]
          constructor
          · rintro ⟨⟨-, halong⟩, -, hthroughout⟩
            exact ⟨trivial, halong, hthroughout⟩
          · rintro ⟨-, halong, hthroughout⟩
            exact ⟨⟨trivial, halong⟩, trivial, hthroughout⟩

theorem delivered_of_success (hP : P.json.Lawful) {first : Env}
    (huid : first.uid.success = true) (h : (writeVin P first vin s).val = some .success) :
    Delivered P vin first.uid.uid (writeVin P first vin s).state := by
  have hrun : (BindingCall.writeVin.run P first vin s).val = some .success := h
  obtain ⟨hadm, exit⟩ := run_success hP hrun
  exact exit.delivered hP hadm huid

/-- After a successful write the deliveries are idempotent exactly where they only read. -/
theorem redelivery_idempotent_iff (hP : P.json.Lawful) {first : Env}
    (huid : first.uid.success = true) (hfirst : (writeVin P first vin s).val = some .success)
    {deliveries : List Delivery}
    (hfree : ∀ d ∈ deliveries, ∀ env ∈ d.envs, FaultFree first.uid.uid env) :
    Idempotent P vin deliveries (writeVin P first vin s).state ↔ ∀ d ∈ deliveries, d.IsRead :=
  idempotent_iff hP (delivered_of_success hP huid hfirst) hfree

def sampleDeliveries : List Delivery :=
  [.read .vin (.client sampleEnv), .write (.client sampleEnv)]

theorem sampleDeliveries_faultFree :
    ∀ d ∈ sampleDeliveries, ∀ env ∈ d.envs, FaultFree sampleUid env := by
  intro d hd env henv
  have hsample : env = sampleEnv := by
    simp only [sampleDeliveries, List.mem_cons, List.not_mem_nil, or_false] at hd
    rcases hd with rfl | rfl <;> exact List.mem_singleton.1 henv
  subst hsample
  exact ⟨rfl, rfl, fun _ ↦ rfl⟩

theorem writeVin_started (config : ProvServiceConfig) :
    (writeVin textPlatform sampleEnv sampleVin (started config)).val = some .success := by
  have hsample := (write_sample config .writeVin).1
  rw [binding_returned] at hsample
  exact hsample

theorem redelivery_idempotent_sample :
    Idempotent textPlatform sampleVin sampleDeliveries
        (writeVin textPlatform sampleEnv sampleVin (started {})).state ↔
      ∀ d ∈ sampleDeliveries, d.IsRead :=
  redelivery_idempotent_iff textPlatform_lawful rfl (writeVin_started {})
    sampleDeliveries_faultFree

/-- A repeated write is not idempotent, with write protection or without. -/
theorem repeated_write_not_idempotent :
    ¬ Idempotent textPlatform sampleVin sampleDeliveries
        (writeVin textPlatform sampleEnv sampleVin (started {})).state ∧
      ¬ Idempotent textPlatform sampleVin sampleDeliveries
        (writeVin textPlatform sampleEnv sampleVin
          (started { enableWriteProtection := false })).state := by
  have hrepeated (config : ProvServiceConfig) :
      ¬ Idempotent textPlatform sampleVin sampleDeliveries
        (writeVin textPlatform sampleEnv sampleVin (started config)).state := by
    rw [idempotent_iff textPlatform_lawful
      (delivered_of_success textPlatform_lawful rfl (writeVin_started config))
      sampleDeliveries_faultFree]
    intro hreads
    exact hreads (.write (.client sampleEnv)) (by simp [sampleDeliveries])
  exact ⟨hrepeated _, hrepeated _⟩

end ProvService

end TboxProv
