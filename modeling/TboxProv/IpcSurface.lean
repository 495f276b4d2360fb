import TboxProv.ProvIpcDispatcher

/-!
# What the IPC surface can change

Of the eight methods only the two that take a VIN reach a write, and they reach
it only behind the checks of the service.  The parameters are arbitrary bytes, so
the VIN that gets through must have come out of a JSON object.
-/

namespace TboxProv.ProvIpcDispatcher

open Crash ProvService

structure Request where
  env : Env
  methodId : MethodId
  params : Bytes

variable (P : Platform)

/-- One request, and a restart if the process is killed in it. -/
def serve (request : Request) : Machine ProvService → Machine ProvService :=
  (dispatch P request.env request.methodId request.params).settle restarted

def CarriesVin (params vin : Bytes) : Prop :=
  ∃ fields, P.json.parse params = .ok (.object fields) ∧
    fields.lookup "vin" = some (.string vin)

variable {P} {env : Env} {s : Machine ProvService} {methodId : MethodId} {params vin : Bytes}

theorem carriesVin_of_extract (h : extractStringField P params "vin" = vin) (hne : vin ≠ []) :
    CarriesVin P params vin := by
  unfold extractStringField at h
  cases hparse : P.json.parse params with
  | error e =>
      rw [hparse] at h
      exact absurd h.symm hne
  | ok j =>
      rw [hparse] at h
      cases j with
      | object fields =>
          cases hfield : fields.lookup "vin" with
          | none =>
              apply absurd _ hne
              simpa [Json.contains, hfield] using h.symm
          | some value =>
              cases value with
              | string text =>
                  have htext : text = vin := by
                    simpa [Json.contains, Json.subscript, hfield] using h
                  exact ⟨fields, hparse, by rw [hfield, htext]⟩
              | null | boolean | integer | float | array | object =>
                  apply absurd _ hne
                  simpa [Json.contains, Json.subscript, hfield] using h.symm
      | null | boolean | integer | float | string | array =>
          exact absurd h.symm hne

/-- A binding call that changes anything was admitted, over an unprotected storage. -/
theorem run_changes {call : BindingCall} (h : (call.run P env vin s).state ≠ s) :
    Admits P vin s call ∧ s.mem.storage.writeProtected = false := by
  by_cases hadm : Admits P vin s call
  case neg =>
    obtain ⟨code, -, -, hstate⟩ := run_notAdmitted env hadm
    exact absurd hstate h
  refine ⟨hadm, ?_⟩
  cases hprot : s.mem.storage.writeProtected with
  | false => rfl
  | true =>
      cases huid : env.uid.success with
      | true => exact absurd (run_protected hadm huid hprot).2 h
      | false =>
          have hstate := (executeVinBindingFlow_uidFailed P vin s huid).2
          exact absurd ((run_admitted env hadm).2.trans hstate) h

/-! ## Requests -/

/-- The program returns, and leaves the disk and the shutdown flag alone. -/
def Quiet {α : Type} (p : ServiceAction α) : Prop :=
  ∀ s, ∃ a, (p s).val = some a ∧ (p s).state.disk = s.disk ∧
    (p s).state.mem.shuttingDown = s.mem.shuttingDown

namespace Quiet

variable {α β : Type}

theorem pure (a : α) : Quiet (Pure.pure a : ServiceAction α) := fun _ ↦ ⟨a, rfl, rfl, rfl⟩

theorem emit (o : Output) : Quiet (Prog.emit o : ServiceAction Unit) :=
  fun _ ↦ ⟨(), rfl, rfl, rfl⟩

theorem of_readOnly {p : ServiceAction α} (hval : ∀ s, ∃ a, (p s).val = some a)
    (hstate : Prog.ReadOnly p) : Quiet p := by
  intro s
  obtain ⟨a, ha⟩ := hval s
  have hs := hstate s
  exact ⟨a, ha, by rw [hs], by rw [hs]⟩

theorem bind {p : ServiceAction α} {f : α → ServiceAction β} (hp : Quiet p)
    (hf : ∀ a, Quiet (f a)) : Quiet (p >>= f) := by
  intro s
  obtain ⟨a, hval, hdisk, hdown⟩ := hp s
  obtain ⟨b, hval', hdisk', hdown'⟩ := hf a (p s).state
  refine ⟨b, ?_, ?_, ?_⟩
  · rw [Prog.bind_val, hval]
    exact hval'
  · rw [Prog.bind_state, hval]
    exact hdisk'.trans hdisk
  · rw [Prog.bind_state, hval]
    exact hdown'.trans hdown

end Quiet

variable (P env params) in
/-- The methods that take no VIN. -/
theorem handle_other (h : ∀ call, methodId ≠ methodOf call) :
    Quiet (handle P env methodId params) := by
  unfold handle
  split
  · exact .bind (initializeService_keeps P env) fun _ ↦ .pure _
  split
  · exact .bind (.of_readOnly (fun s ↦ ⟨_, readVin_returns P s⟩) (readVin_state P)) fun _ ↦
      .pure _
  split
  · exact .bind (.of_readOnly (fun s ↦ ⟨_, readBinding_val P env s⟩) (readBinding_state P env))
      fun _ ↦ .pure _
  split
  · exact .bind (.of_readOnly (fun s ↦ ⟨_, getProvisionState_returns P s⟩)
      (getProvisionState_state P)) fun _ ↦ .pure _
  split
  case isTrue hwrite => exact absurd hwrite (h .writeVin)
  split
  · exact .pure _
  split
  · exact .pure _
  split
  case isTrue hrewrite => exact absurd hrewrite (h .authorizeRewrite)
  · exact .bind (.emit _) fun _ ↦ .pure _

/-- What a request that changes the state has been checked for. -/
theorem handleBindingCall_changes {call : BindingCall}
    (h : (handleBindingCall P env call params s).state ≠ s) :
    ∃ vin, CarriesVin P params vin ∧ Admits P vin s call ∧
      s.mem.storage.writeProtected = false := by
  cases hfield : extractStringField P params "vin" with
  | nil => exact absurd (by simp [handleBindingCall, hfield]) h
  | cons c cs =>
      have hne : c :: cs ≠ [] := List.cons_ne_nil c cs
      rw [(handleBindingCall_present call hfield hne).2] at h
      exact ⟨c :: cs, carriesVin_of_extract hfield hne, run_changes h⟩

variable (P env methodId params) in
/-- Once the service is shutting down, a request finds it so and leaves it so. -/
theorem handle_shuttingDown (hdown : s.mem.shuttingDown = true) :
    ∃ reply, (handle P env methodId params s).val = some reply ∧
      (handle P env methodId params s).state.disk = s.disk ∧
      (handle P env methodId params s).state.mem.shuttingDown = true := by
  by_cases hother : ∀ call, methodId ≠ methodOf call
  · obtain ⟨reply, hval, hdisk, hkept⟩ := handle_other P env params hother s
    exact ⟨reply, hval, hdisk, hkept.trans hdown⟩
  simp only [not_forall, not_not] at hother
  obtain ⟨call, rfl⟩ := hother
  rw [handle_binding]
  cases hfield : extractStringField P params "vin" with
  | nil => exact ⟨_, by simp [handleBindingCall, hfield]; rfl, by simp [handleBindingCall, hfield],
      by simp [handleBindingCall, hfield, hdown]⟩
  | cons c cs =>
      obtain ⟨hval, hstate⟩ :=
        handleBindingCall_present (s := s) call hfield (List.cons_ne_nil c cs)
      have hno : ¬ Admits P (c :: cs) s call := by
        intro hadm
        rw [hadm.running] at hdown
        cases hdown
      obtain ⟨code, -, hcode, hsame⟩ := run_notAdmitted env hno
      rw [hval, hstate, hcode, hsame]
      exact ⟨_, rfl, rfl, hdown⟩

theorem serve_disk (request : Request) (s : Machine ProvService) :
    (serve P request s).disk =
      (handle P request.env request.methodId request.params s).state.disk := by
  rw [serve, settle_disk, dispatch_state]

/-- A service in shutdown, over a disk. -/
structure ShutDown (disk : Disk) (s : Machine ProvService) : Prop where
  down : s.mem.shuttingDown = true
  same : s.disk = disk

theorem ShutDown.serve {disk : Disk} (h : ShutDown disk s) (request : Request) :
    ShutDown disk (serve P request s) := by
  obtain ⟨reply, hval, hdisk, hdown⟩ :=
    handle_shuttingDown P request.env request.methodId request.params h.down
  refine ⟨?_, ((serve_disk request s).trans hdisk).trans h.same⟩
  rw [ProvIpcDispatcher.serve, Prog.settle, dispatch_val, hval, dispatch_state]
  exact hdown

/-- A request that changes a stored record is a VIN write that was admitted, and a service
that has begun its shutdown stays in it and stores nothing more. -/
theorem ipc_changes_only_by_admitted_write (P : Platform) (s : Machine ProvService) :
    (∀ request, (serve P request s).disk ≠ s.disk →
      (request.methodId = .writeVin ∨ request.methodId = .authorizeRewrite) ∧
        (∃ vin, CarriesVin P request.params vin ∧ VinValidator.validate vin = true) ∧
        s.mem.initialized = true ∧ s.mem.shuttingDown = false ∧
        (request.methodId = .writeVin → s.mem.storage.writeProtected = false)) ∧
      ∀ requests : List Request,
        (run (serve P) requests (beginShutdown s).state).mem.shuttingDown = true ∧
          (run (serve P) requests (beginShutdown s).state).disk = s.disk := by
  constructor
  · intro request hchange
    rw [serve_disk] at hchange
    by_cases hother : ∀ call, request.methodId ≠ methodOf call
    · obtain ⟨reply, -, hdisk, -⟩ := handle_other P request.env request.params hother s
      exact absurd hdisk hchange
    simp only [not_forall, not_not] at hother
    obtain ⟨call, hcall⟩ := hother
    rw [hcall, handle_binding] at hchange
    obtain ⟨vin, hcarries, hadm, hprot⟩ :=
      handleBindingCall_changes fun hsame ↦ hchange (by rw [hsame])
    refine ⟨?_, ⟨vin, hcarries, hadm.valid⟩, hadm.initialized, hadm.running, fun _ ↦ hprot⟩
    rw [hcall]
    cases call with
    | writeVin => exact .inl rfl
    | authorizeRewrite => exact .inr rfl
  · intro requests
    have hstart : ShutDown s.disk (beginShutdown s).state := ⟨by simp, by simp⟩
    obtain ⟨hdown, hsame⟩ : ShutDown s.disk (run (serve P) requests (beginShutdown s).state) :=
      run_invariant (fun request _ (_ : True) ht ↦ ht.serve request) (fun _ _ ↦ trivial) hstart
    exact ⟨hdown, hsame⟩

end TboxProv.ProvIpcDispatcher
