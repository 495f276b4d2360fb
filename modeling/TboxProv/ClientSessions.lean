import TboxProv.Crash.Trace
import TboxProv.PathAgreement
import TboxProv.Protection

/-!
# Sessions over a transport that loses messages

A client talks to the service over a transport on which a request or its answer can be
lost; the framework then reports a failure.  In between, the daemon is restarted,
initialized, shut down.  A session is compared with the same calls made on the service
itself.
-/

namespace TboxProv.ProvClient

open Crash Store ProvService

/-! ## The transport -/

/-- What becomes of a request; the framework's status of a failure is not zero. -/
inductive Delivery where
  | arrives
  | requestLost (status : Int32)
  | answerLost (status : Int32)

namespace Delivery

def Reported : Delivery → Prop
  | .arrives => True
  | .requestLost status | .answerLost status => status ≠ 0

def fw (P : Platform) (env : Env) : Delivery → FwCall ServiceAction
  | .arrives => served P env
  | .requestLost status => fun _ _ ↦ return ⟨status, []⟩
  | .answerLost status => fun methodId params ↦ do
      let _ ← served P env methodId params
      return ⟨status, []⟩

end Delivery

theorem received_failed {P : Platform} {status : Int32} {response : Bytes} (h : status ≠ 0) :
    received P ⟨status, response⟩ = (false, 0, []) := by
  unfold received
  split
  · rfl
  · split
    · rfl
    · case isFalse.isFalse hneg hpos =>
        exact absurd (Int32.le_antisymm (Int32.not_lt.1 hpos) (Int32.not_lt.1 hneg)) h

theorem Agrees.map {α β γ δ : Type} {s : Machine ProvService} {f : β → γ} {g : α → γ}
    {client : ServiceAction β} {direct : ServiceAction α} (k : γ → δ)
    (h : Agrees f g client direct s) :
    Agrees (fun b ↦ k (f b)) (fun a ↦ k (g a)) client direct s := by
  refine ⟨?_, h.2⟩
  have hval := congrArg (Option.map k) h.1
  rw [Option.map_map, Option.map_map] at hval
  exact hval

/-! ## Requests of a client -/

inductive RemoteCall where
  | initializeService
  | binding (call : BindingCall) (vin : Bytes)
  | readVin
  | readBinding
  | getProvisionState

/-- What the client's caller gets; of a binding, the members that are transported. -/
inductive Returned where
  | code (code : ErrorCode)
  | vin (vin : Bytes)
  | binding (binding : VehicleBinding)
  | state (state : ProvisionState)
  | threw (e : Exception)

namespace RemoteCall

def ofCode : Throws ErrorCode → Returned
  | .ok code => .code code
  | .error e => .threw e

def send (P : Platform) (fw : FwCall ServiceAction) : RemoteCall → ServiceAction Returned
  | .initializeService => do return .code (← ProvClient.initializeService P fw)
  | .binding call vin => do return ofCode (← sendBinding P fw call vin)
  | .readVin => do return .vin (← ProvClient.readVin P fw)
  | .readBinding => do return .binding (onWire (← ProvClient.readBinding P fw))
  | .getProvisionState => do return .state (← ProvClient.getProvisionState P fw)

/-- The same call on the service. -/
def call (env : Env) : RemoteCall → Call
  | .initializeService => .initializeService env
  | .binding call vin => .binding call env vin
  | .readVin => .readVin
  | .readBinding => .readBinding env
  | .getProvisionState => .getProvisionState

def direct (P : Platform) (env : Env) : RemoteCall → ServiceAction Returned
  | .initializeService => do return .code (← ProvService.initializeService P env)
  | .binding call vin => do return .code (← call.run P env vin)
  | .readVin => do return .vin (← ProvService.readVin P)
  | .readBinding => do return .binding (onWire (← ProvService.readBinding P env))
  | .getProvisionState => do return .state (← ProvService.getProvisionState P)

/-- What the client makes of a failed exchange. -/
def failed : RemoteCall → Returned
  | .initializeService | .binding _ _ => .code .invalidState
  | .readVin => .vin []
  | .readBinding => .binding {}
  | .getProvisionState => .state .none

/-- The strings that are sent either way can be encoded, and a VIN is there. -/
def Sendable (env : Env) : RemoteCall → Prop
  | .binding _ vin => Utf8 vin ∧ vin ≠ []
  | .readBinding => env.sn.success = true → Utf8 env.sn.sn
  | _ => True

variable {P : Platform} {env : Env} {c : RemoteCall} {s : Machine ProvService}

/-- A request is one exchange, and the caller gets to see what it brings back. -/
theorem exists_exchange (hP : P.json.Lawful) (h : c.Sendable env) :
    ∃ (methodId : MethodId) (text : Bytes) (decode : Bool × Int32 × Bytes → Returned),
      decode (false, 0, []) = c.failed ∧
      ∀ fw, c.send P fw = do return decode (← sendRequest P fw methodId text) := by
  cases c with
  | initializeService =>
      refine ⟨.initializeService, bytes "{}", fun r ↦ .code (codeOf r), rfl, fun fw ↦ ?_⟩
      exact Prog.bind_pure_bind_pure _ _ _
  | binding call vin =>
      obtain ⟨text, hdump, -⟩ := exists_params hP h.1
      refine ⟨ProvIpcDispatcher.methodOf call, text, fun r ↦ .code (codeOf r), rfl, fun fw ↦ ?_⟩
      rw [send, sendBinding_of_dump fw call hdump]
      exact Prog.bind_pure_bind_pure _ _ _
  | readVin =>
      refine ⟨.readVin, bytes "{}", fun r ↦ .vin (receivedVin P r), rfl, fun fw ↦ ?_⟩
      rw [send, readVin_eq]
      exact Prog.bind_pure_bind_pure _ _ _
  | readBinding =>
      refine ⟨.readBinding, bytes "{}", fun r ↦ .binding (onWire (receivedBinding P r)), rfl,
        fun fw ↦ ?_⟩
      rw [send, readBinding_eq]
      exact Prog.bind_pure_bind_pure _ _ _
  | getProvisionState =>
      refine ⟨.getProvisionState, bytes "{}", fun r ↦ .state (receivedState P r), rfl,
        fun fw ↦ ?_⟩
      rw [send, getProvisionState_eq]
      exact Prog.bind_pure_bind_pure _ _ _

/-- A lost request leaves the service alone. -/
theorem send_requestLost (hP : P.json.Lawful) (h : c.Sendable env) {status : Int32}
    (hstatus : status ≠ 0) (s : Machine ProvService) :
    (c.send P (Delivery.fw P env (.requestLost status)) s).val = some c.failed ∧
      (c.send P (Delivery.fw P env (.requestLost status)) s).state = s := by
  obtain ⟨methodId, text, decode, hfailed, hsend⟩ := exists_exchange hP h
  rw [hsend, sendRequest_eq]
  simp [Delivery.fw, received_failed hstatus, hfailed]

/-- A lost answer leaves the service where the answer would have, and the client with the
report of a failure. -/
theorem send_answerLost (hP : P.json.Lawful) (h : c.Sendable env) {status : Int32}
    (hstatus : status ≠ 0) (s : Machine ProvService) :
    (c.send P (Delivery.fw P env (.answerLost status)) s).val =
        (c.send P (served P env) s).val.map (fun _ ↦ c.failed) ∧
      (c.send P (Delivery.fw P env (.answerLost status)) s).state =
        (c.send P (served P env) s).state := by
  obtain ⟨methodId, text, decode, hfailed, hsend⟩ := exists_exchange hP h
  rw [hsend, hsend, sendRequest_eq, sendRequest_eq]
  simp only [Prog.bind_pure_val, Prog.bind_pure_state, Delivery.fw]
  refine ⟨?_, trivial⟩
  cases (served P env methodId text s).val with
  | none => rfl
  | some reply => simp [received_failed hstatus, hfailed]

theorem of_agrees {α β : Type} {client : ServiceAction β} {direct : ServiceAction α}
    {f : β → Returned} {g : α → Returned} (h : Agrees f g client direct s) :
    ((do return f (← client) : ServiceAction Returned) s).val =
        ((do return g (← direct) : ServiceAction Returned) s).val ∧
      ((do return f (← client) : ServiceAction Returned) s).state =
        ((do return g (← direct) : ServiceAction Returned) s).state := by
  simp only [Prog.bind_pure_val, Prog.bind_pure_state]
  exact h

/-- Over a transport that delivers, a request is the call on the service. -/
theorem send_arrives (hP : P.json.Lawful) (h : c.Sendable env) (hs : Encodable P s.disk) :
    (c.send P (served P env) s).val = (c.direct P env s).val ∧
      (c.send P (served P env) s).state = (c.direct P env s).state := by
  cases c with
  | initializeService => exact of_agrees ((initializeService_agrees env s hP).map Returned.code)
  | binding call vin => exact of_agrees ((binding_agrees_present hP call h.1 h.2).map ofCode)
  | readVin =>
      have hstored : Transportable P { env with sn := {} } [65] s := by
        refine ⟨by decide, nofun, fun _ binding hread ↦ ?_⟩
        obtain ⟨hempty, hvin, huid⟩ := hs binding hread
        exact ⟨hvin, huid, by simp [withSn, hempty]⟩
      exact of_agrees ((readVin_agrees hP hstored).map Returned.vin)
  | readBinding =>
      have hshown : Utf8 (shownBinding P env s).vin ∧ Utf8 (shownBinding P env s).ecuUid ∧
          Utf8 (shownBinding P env s).sn := by
        rw [shownBinding_utf8_iff]
        intro _ binding hread
        obtain ⟨hempty, hvin, huid⟩ := hs binding hread
        refine ⟨hvin, huid, ?_⟩
        cases hprovided : env.sn.success with
        | false => simp [withSn, hempty, hprovided]
        | true => simpa [withSn, hempty, hprovided] using h hprovided
      exact of_agrees (((readBinding_agrees_iff env s hP).2 hshown).map Returned.binding)
  | getProvisionState => exact of_agrees ((getProvisionState_agrees env s hP).map Returned.state)

/-- A call on the service leaves what its program leaves. -/
theorem direct_prog (P : Platform) (env : Env) (c : RemoteCall) (s : Machine ProvService) :
    ((c.direct P env).settle restarted s) = exec P (c.call env) s := by
  cases c <;>
    simp only [direct, call, exec, Call.prog, coded, uncoded, Prog.settle, Prog.bind_pure_val,
      Prog.bind_pure_state] <;>
    cases Outcome.val _ <;> rfl

end RemoteCall

/-! ## Sessions -/

/-- What happens to a service: a request of a client, or a call of the daemon. -/
inductive Event where
  | remote (request : RemoteCall) (env : Env) (delivery : Delivery)
  | onSite (c : Call)

namespace Event

/-- Through the client, the transport and the dispatcher.  The client outlives a daemon
that is killed, and is told of a failure. -/
def remotely (P : Platform) (e : Event) (s : Machine ProvService) :
    Option Returned × Machine ProvService :=
  match e with
  | remote request env delivery =>
      let p := request.send P (delivery.fw P env)
      (some ((p s).val.getD request.failed), p.settle restarted s)
  | onSite c => (none, exec P c s)

/-- On the service itself; a request or an answer that is lost is a failure. -/
def directly (P : Platform) (e : Event) (s : Machine ProvService) :
    Option Returned × Machine ProvService :=
  match e with
  | remote request env .arrives =>
      (some ((request.direct P env s).val.getD request.failed), exec P (request.call env) s)
  | remote request _ (.requestLost _) => (some request.failed, s)
  | remote request env (.answerLost _) => (some request.failed, exec P (request.call env) s)
  | onSite c => (none, exec P c s)

/-- What is sent can be encoded, failures are reported, and no save makes up a record. -/
def Sendable (P : Platform) : Event → Prop
  | remote request env delivery =>
      request.Sendable env ∧ delivery.Reported ∧ (request.call env).NeverInvents P
  | onSite c => c.NeverInvents P

end Event

section Sessions

variable {P : Platform} (hP : P.json.Lawful) {s : Machine ProvService} {e : Event}
include hP

theorem Event.encodable (he : e.Sendable P) (hs : Encodable P s.disk) :
    Encodable P (e.directly P s).2.disk := by
  cases e with
  | remote request env delivery =>
      cases delivery with
      | arrives => exact hs.exec hP he.2.2
      | requestLost status => exact hs
      | answerLost status => exact hs.exec hP he.2.2
  | onSite c => exact hs.exec hP he

/-- One request over the transport is one call, or none. -/
theorem Event.remotely_eq (he : e.Sendable P) (hs : Encodable P s.disk) :
    e.remotely P s = e.directly P s := by
  cases e with
  | onSite c => rfl
  | remote request env delivery =>
      obtain ⟨hsend, hreported, -⟩ := he
      cases delivery with
      | arrives =>
          obtain ⟨hval, hstate⟩ := RemoteCall.send_arrives hP hsend hs
          rw [Event.directly, ← RemoteCall.direct_prog, ← hval]
          simp only [Event.remotely, Delivery.fw, Prog.settle, hval, hstate]
      | requestLost status =>
          obtain ⟨hval, hstate⟩ := RemoteCall.send_requestLost hP hsend hreported s
          simp [Event.remotely, Event.directly, Prog.settle, hval, hstate]
      | answerLost status =>
          obtain ⟨hval, hstate⟩ := RemoteCall.send_answerLost hP hsend hreported s
          obtain ⟨hval', hstate'⟩ := RemoteCall.send_arrives hP hsend hs
          rw [hval'] at hval
          rw [hstate'] at hstate
          rw [Event.directly, ← RemoteCall.direct_prog]
          simp only [Event.remotely, Prog.settle, hval, hstate]
          cases (request.direct P env s).val <;> rfl

/-- A start, a write whose answer is lost, and a read. -/
def lostAnswerEvents : List Event :=
  [.onSite (.initializeService sampleEnv),
   .remote (.binding .writeVin sampleVin) sampleEnv (.answerLost 1),
   .remote .readVin sampleEnv .arrives]

omit hP in
theorem lostAnswerEvents_sendable : ∀ e ∈ lostAnswerEvents, e.Sendable textPlatform := by
  have hutf8 : Utf8 sampleVin := Utf8.bytes _
  have hne : sampleVin ≠ [] := by decide
  simp [lostAnswerEvents, Event.Sendable, RemoteCall.Sendable, RemoteCall.call,
    Delivery.Reported, Call.NeverInvents, NeverInvents, sampleEnv, hutf8, hne]

end Sessions

/-! ## A write whose answer is lost -/

section Lost

variable {P : Platform} {s : Machine ProvService} {e : Event}

/-- The state of the service after a session. -/
def left (P : Platform) (config : ProvServiceConfig) (events : List Event) : Machine ProvService :=
  (trace (Event.remotely P) events (fresh config Disk.empty)).2

/-- Every event is a call on the service, or nothing. -/
theorem Event.directly_cases (P : Platform) (e : Event) (s : Machine ProvService) :
    (∃ c, (e.directly P s).2 = exec P c s) ∨ (e.directly P s).2 = s := by
  cases e with
  | onSite c => exact .inl ⟨c, rfl⟩
  | remote request env delivery =>
      cases delivery with
      | arrives => exact .inl ⟨request.call env, rfl⟩
      | requestLost status => exact .inr rfl
      | answerLost status => exact .inl ⟨request.call env, rfl⟩

theorem left_append (config : ProvServiceConfig) (before after : List Event) :
    left P config (before ++ after) =
      run (fun e s ↦ (Event.remotely P e s).2) after (left P config before) := by
  rw [left, left, trace_state, trace_state, run_append]

section Lawful

variable (hP : P.json.Lawful)
include hP

/-- What a session keeps, as far as it is needed to go on with it. -/
theorem left_invariant (config : ProvServiceConfig) {events : List Event}
    (hevents : ∀ e ∈ events, e.Sendable P) :
    Encodable P (left P config events).disk ∧ (left P config events).mem.config = config := by
  have hstep : ∀ (e : Event) (s : Machine ProvService), e.Sendable P →
      Encodable P s.disk ∧ s.mem.config = config →
        Encodable P (e.remotely P s).2.disk ∧ (e.remotely P s).2.mem.config = config := by
    intro e s he hs
    rw [Event.remotely_eq hP he hs.1]
    refine ⟨Event.encodable hP he hs.1, ?_⟩
    rcases e.directly_cases P s with ⟨c, hexec⟩ | hsame
    · rw [hexec, exec_config hP]
      exact hs.2
    · rw [hsame]
      exact hs.2
  rw [left, trace_state]
  refine run_invariant hstep hevents ⟨?_, rfl⟩
  intro binding hread
  cases hread

variable {disk : Disk}

theorem frozen_run {events : List Event} (hevents : ∀ e ∈ events, e.Sendable P)
    (hs : Encodable P s.disk) (h : Frozen P disk s) :
    Frozen P disk (run (fun e s ↦ (Event.remotely P e s).2) events s) ∧
      Encodable P (run (fun e s ↦ (Event.remotely P e s).2) events s).disk := by
  have hstep : ∀ (e : Event) (s : Machine ProvService), e.Sendable P →
      Frozen P disk s ∧ Encodable P s.disk →
        Frozen P disk (e.remotely P s).2 ∧ Encodable P (e.remotely P s).2.disk := by
    intro e s he hs
    rw [Event.remotely_eq hP he hs.2]
    refine ⟨?_, Event.encodable hP he hs.2⟩
    rcases e.directly_cases P s with ⟨c, hexec⟩ | hsame
    · rw [hexec]
      exact hs.1.after_exec hP c
    · rw [hsame]
      exact hs.1
  exact run_invariant hstep hevents ⟨h, hs⟩

/-- A client gets no success out of a service that is protected. -/
theorem frozen_answer (hs : Encodable P s.disk) (h : Frozen P disk s) {call : BindingCall}
    {vin : Bytes} {env : Env} {delivery : Delivery}
    (he : (Event.remote (.binding call vin) env delivery).Sendable P)
    (huid : env.uid.success = false → env.uid.errorCode ≠ .success) :
    ((Event.remote (.binding call vin) env delivery).remotely P s).1 ≠
      some (.code .success) := by
  rw [Event.remotely_eq hP he hs]
  cases delivery with
  | requestLost status => simp [Event.directly, RemoteCall.failed]
  | answerLost status => simp [Event.directly, RemoteCall.failed]
  | arrives =>
      have hrefused := (h.refuses hP).1 call env vin huid
      simp only [Event.directly, RemoteCall.direct, Prog.bind_pure_val]
      cases hval : (call.run P env vin s).val with
      | none => simp [RemoteCall.failed]
      | some code =>
          rw [hval] at hrefused
          simpa using hrefused

/-- The answer to a `write_vin` or an `authorize_rewrite` that succeeds under write protection
is lost: from then on no answer tells the client of a success, but `read_vin` shows the VIN. -/
theorem lost_answer_unconfirmed (config : ProvServiceConfig)
    (hon : config.enableWriteProtection = true) {before after : List Event}
    (hbefore : ∀ e ∈ before, e.Sendable P) (hafter : ∀ e ∈ after, e.Sendable P)
    {call : BindingCall} {vin : Bytes} {env : Env} {status : Int32}
    (he : (Event.remote (.binding call vin) env (.answerLost status)).Sendable P)
    (hsaves : ∀ n, (env.save n).AllOrNothing)
    (huid : env.uid.success = false → env.uid.errorCode ≠ .success)
    (hcode : (call.run P env vin (left P config before)).val = some .success) :
    ((Event.remote (.binding call vin) env (.answerLost status)).remotely P
        (left P config before)).1 = some (.code .invalidState) ∧
      let t := left P config
        (before ++ .remote (.binding call vin) env (.answerLost status) :: after)
      (∀ call' vin' env' delivery',
        (Event.remote (.binding call' vin') env' delivery').Sendable P →
          (env'.uid.success = false → env'.uid.errorCode ≠ .success) →
            ((Event.remote (.binding call' vin') env' delivery').remotely P t).1 ≠
              some (.code .success)) ∧
        (t.mem.initialized = true →
          ∀ env', ((Event.remote .readVin env' .arrives).remotely P t).1 = some (.vin vin)) := by
  obtain ⟨hencodable, hconfig⟩ := left_invariant hP config hbefore
  have hstep := Event.remotely_eq hP he hencodable
  have hexec : ((Event.remote (.binding call vin) env (.answerLost status)).remotely P
      (left P config before)).2 = (call.run P env vin (left P config before)).state := by
    rw [hstep, ← exec_binding_of_returned ((binding_returned call env vin).trans hcode)]
    rfl
  refine ⟨by rw [hstep]; rfl, ?_⟩
  intro t
  have hprotecting : (left P config before).mem.config.enableWriteProtection = true := by
    rw [hconfig]
    exact hon
  obtain ⟨hfrozen, hread⟩ := frozen_of_success hP hprotecting hsaves huid hcode
  have hnext : Encodable P (call.run P env vin (left P config before)).state.disk := by
    rw [← hexec, hstep]
    exact Event.encodable hP he hencodable
  have ht : t = run (fun e s ↦ (Event.remotely P e s).2) after
      (call.run P env vin (left P config before)).state := by
    rw [← hexec]
    exact left_append config before _
  obtain ⟨hlast, hencoded⟩ := frozen_run hP hafter hnext hfrozen
  rw [← ht] at hlast hencoded
  refine ⟨fun call' vin' env' delivery' he' huid' ↦ frozen_answer hP hencoded hlast he' huid',
    fun hinit env' ↦ ?_⟩
  have hsendable : (Event.remote .readVin env' .arrives).Sendable P := ⟨trivial, trivial, trivial⟩
  obtain ⟨binding, hbinding, hvin⟩ := hread
  rw [Event.remotely_eq hP hsendable hencoded]
  simp only [Event.directly, RemoteCall.direct, Prog.bind_pure_val, readVin_val P t hinit,
    hlast.same, hbinding, hvin, Option.elim_some, Option.map_some, Option.getD_some]

end Lawful

theorem lost_answer_unconfirmed_sample :
    ((Event.remote (.binding .writeVin sampleVin) sampleEnv (.answerLost 1)).remotely textPlatform
      (left textPlatform {} [.onSite (.initializeService sampleEnv)])).1 =
        some (.code .invalidState) := by
  have hopened : exec textPlatform (.initializeService sampleEnv) (fresh {} Disk.empty) =
      started {} := exec_initialize_empty {} rfl
  have hstarted : left textPlatform {} [.onSite (.initializeService sampleEnv)] = started {} :=
    hopened
  have hcode : (BindingCall.writeVin.run textPlatform sampleEnv sampleVin
      (left textPlatform {} [.onSite (.initializeService sampleEnv)])).val = some .success := by
    rw [hstarted, ← binding_returned]
    exact (write_sample {} .writeVin).1
  have hbefore : ∀ e ∈ [Event.onSite (.initializeService sampleEnv)],
      e.Sendable textPlatform := by
    simp [Event.Sendable, Call.NeverInvents]
  have he := lostAnswerEvents_sendable (.remote (.binding .writeVin sampleVin) sampleEnv
    (.answerLost 1)) (by simp [lostAnswerEvents])
  have hnone : ∀ e ∈ ([] : List Event), e.Sendable textPlatform := by simp
  have huid : sampleEnv.uid.success = false → sampleEnv.uid.errorCode ≠ .success := by
    intro h
    cases h
  exact (lost_answer_unconfirmed textPlatform_lawful {} rfl hbefore hnone he (fun _ ↦ trivial)
    huid hcode).1

end Lost

end TboxProv.ProvClient
