import TboxProv.IpcSurface

/-!
# Every request is answered

The bytes of a request, of the disk and of the providers are arbitrary, so a handler may
throw while it encodes them.  What it throws is answered under a status of its own; the
text of that answer comes from the JSON library, which words its messages in UTF-8, so
nothing is thrown after that.
-/

namespace TboxProv.ProvIpcDispatcher

open Crash ProvService

variable (P : Platform) (env : Env) (methodId : MethodId) (params : Bytes)
  (s : Machine ProvService)

def Known : Prop := 1 ≤ methodId.value ∧ methodId.value ≤ 8
  deriving Decidable

/-- The methods whose answer says whether they succeeded. -/
def Coded : Prop := methodId.value = 1 ∨ 5 ≤ methodId.value ∧ methodId.value ≤ 8
  deriving Decidable

/-- A `catch` of `dispatch` was reached: the one around the handlers, or the one around the
re-encoding of the payload. -/
def Caught : Prop :=
  (∃ e, (handle P env methodId params s).val = some (.error e)) ∨
    ∃ reply e, (handle P env methodId params s).val = some (.ok reply) ∧
      (do makeJsonResponse P reply.1 (← P.json.parse reply.2) : Throws Bytes) = .error e

/-! ## What a handler hands over -/

/-- The members of a handler's payload, against the status that goes with it. -/
structure Formed (status : Int32) (members : List (String × Json)) : Prop where
  plain : ∀ m ∈ members, m.2.Plain
  coded : Coded methodId → ∃ success, members.reverse.lookup "success" = some (.boolean success) ∧
    (success = true ↔ status = 0)
  unknown : ¬ Known methodId → status = fwHandlerFailed ∧
    ∃ text, members.reverse.lookup "error" = some (.string text)

variable {P env methodId params s}

theorem toInt32_eq_zero_iff (code : ErrorCode) : code.toInt32 = 0 ↔ code = .success := by
  constructor
  · intro hzero
    have hvalue : code.value = 0 := by
      rw [← UInt32.toUInt32_toInt32 code.value]
      exact congrArg Int32.toUInt32 hzero
    exact congrArg ErrorCode.mk hvalue
  · rintro rfl
    rfl

theorem Known.method (h : Known methodId) :
    methodId = .initializeService ∨ methodId = .readVin ∨ methodId = .readBinding ∨
      methodId = .getProvisionState ∨ methodId = .writeVin ∨ methodId = .writeVehicleConfig ∨
      methodId = .writeProductionInfo ∨ methodId = .authorizeRewrite := by
  obtain ⟨value⟩ := methodId
  obtain ⟨hlo, hhi⟩ := h
  simp only [MethodId.initializeService, MethodId.readVin, MethodId.readBinding,
    MethodId.getProvisionState, MethodId.writeVin, MethodId.writeVehicleConfig,
    MethodId.writeProductionInfo, MethodId.authorizeRewrite, MethodId.mk.injEq] at hlo hhi ⊢
  grind

section Members

variable (hknown : Known methodId)
include hknown

theorem formed_coded (result : ErrorCode) :
    Formed methodId result.toInt32 [("success", .boolean (result == .success))] := by
  refine ⟨by simp [Json.Plain], ?_, fun hunknown ↦ absurd hknown hunknown⟩
  intro _
  refine ⟨_, rfl, ?_⟩
  rw [toInt32_eq_zero_iff, beq_iff_eq]

theorem formed_failed {code : ErrorCode} (hcode : code ≠ .success) (message : String) :
    Formed methodId code.toInt32
      [("success", .boolean false), ("error", .string (bytes message))] := by
  refine ⟨by simp [Json.Plain], ?_, fun hunknown ↦ absurd hknown hunknown⟩
  intro _
  refine ⟨false, rfl, ?_⟩
  rw [toInt32_eq_zero_iff]
  simp [hcode]

theorem formed_uncoded (hcoded : ¬ Coded methodId) {members : List (String × Json)}
    (hplain : ∀ m ∈ members, m.2.Plain) : Formed methodId 0 members :=
  ⟨hplain, fun h ↦ absurd h hcoded, fun h ↦ absurd hknown h⟩

end Members

theorem formed_unknown (hunknown : ¬ Known methodId) :
    Formed methodId fwHandlerFailed (errorMember (bytes "Unknown method")) := by
  refine ⟨by simp [errorMember, Json.Plain], ?_, fun _ ↦ ⟨rfl, _, rfl⟩⟩
  intro hcoded
  apply absurd _ hunknown
  rcases hcoded with hone | ⟨hlo, hhi⟩
  · rw [Known, hone]
    decide
  · have hfive : (1 : UInt32) ≤ 5 := by decide
    exact ⟨UInt32.le_trans hfive hlo, hhi⟩

variable (P methodId) in
/-- Every result of the handler is a payload that was formed so. -/
def HandsOver (handler : ServiceAction (Throws Reply)) : Prop :=
  ∀ s result, (handler s).val = some result →
    ∃ status members, result = payload P status members ∧ Formed methodId status members

theorem HandsOver.of_call {α : Type} {call : ServiceAction α} {reply : α → Throws Reply}
    (hreply : ∀ a, ∃ status members, reply a = payload P status members ∧
      Formed methodId status members) :
    HandsOver P methodId (do return reply (← call)) := by
  intro s result h
  rw [Prog.bind_pure_val, Option.map_eq_some_iff] at h
  obtain ⟨a, -, rfl⟩ := h
  exact hreply a

theorem HandsOver.of_reply {status : Int32} {members : List (String × Json)}
    (h : Formed methodId status members) :
    HandsOver P methodId (do return payload P status members) := by
  intro s result hval
  rw [Prog.pure_val, Option.some.injEq] at hval
  exact ⟨status, members, hval.symm, h⟩

theorem handsOver_bindingCall (hknown : Known methodId) (call : BindingCall) :
    HandsOver P methodId (handleBindingCall P env call params) := by
  simp only [handleBindingCall]
  split
  · exact .of_reply (formed_failed hknown (by decide) _)
  · apply HandsOver.of_call
    intro result
    exact ⟨_, _, rfl, formed_coded hknown result⟩

variable (P env methodId params) in
theorem handsOver_handle : HandsOver P methodId (handle P env methodId params) := by
  unfold handle
  split_ifs with h₁ h₂ h₃ h₄ h₅ h₆ h₇ h₈
  · subst h₁
    apply HandsOver.of_call
    intro result
    exact ⟨_, _, rfl, formed_coded (by decide) result⟩
  · subst h₂
    apply HandsOver.of_call
    intro vin
    exact ⟨0, _, rfl, formed_uncoded (by decide) (by decide) (by simp [Json.Plain])⟩
  · subst h₃
    apply HandsOver.of_call
    intro binding
    refine ⟨0, _, rfl, formed_uncoded (by decide) (by decide) ?_⟩
    simp only [List.mem_cons, List.not_mem_nil, or_false, forall_eq_or_imp, forall_eq]
    exact ⟨trivial, trivial, trivial, plain_uint8 _, trivial⟩
  · subst h₄
    apply HandsOver.of_call
    intro state
    refine ⟨0, _, rfl, formed_uncoded (by decide) (by decide) ?_⟩
    simpa using plain_uint8 state.value
  · subst h₅
    exact handsOver_bindingCall (by decide) .writeVin
  · subst h₆
    exact .of_reply (formed_failed (by decide) (by decide) _)
  · subst h₇
    exact .of_reply (formed_failed (by decide) (by decide) _)
  · subst h₈
    exact handsOver_bindingCall (by decide) .authorizeRewrite
  · apply HandsOver.of_call
    intro _
    have hunknown : ¬ Known methodId := by
      intro hknown
      apply absurd hknown.method
      simp [h₁, h₂, h₃, h₄, h₅, h₆, h₇, h₈]
    exact ⟨_, _, rfl, formed_unknown hunknown⟩

/-! ## What the answer says -/

section Answers

variable (hP : P.json.Lawful)
include hP

/-- The answer to a request whose handler threw. -/
theorem answer_error {e : Exception} (he : Utf8 e.what) :
    ∃ response, answer P (.error e) = .ok response ∧
      P.json.parse response = .ok (Json.ofFields
        (errorMember e.what ++ [("status", .integer fwHandlerFailed.toInt)])) := by
  have hplain : ∀ m ∈ errorMember e.what, m.2.Plain := by simp [errorMember, Json.Plain]
  have hutf8 : ∀ m ∈ errorMember e.what, m.2.Utf8 := by simpa [errorMember, Json.Utf8] using he
  obtain ⟨reply, response, hreply, hresponse, hparse⟩ :=
    exists_answer hP fwHandlerFailed hplain hutf8
  refine ⟨response, ?_, hparse⟩
  rw [answer, hreply]
  exact hresponse

end Answers

variable (P) in
/-- The text is an object of these members and the status. -/
structure Answers (status : Int32) (members : List (String × Json)) (response : Bytes)
    (fields : List (String × Json)) : Prop where
  parsed : P.json.parse response = .ok (.object fields)
  status : fields.lookup "status" = some (.integer status.toInt)
  kept : ∀ key, key ≠ "status" → fields.lookup key = members.reverse.lookup key

theorem exists_answers {status : Int32} {members : List (String × Json)} {response : Bytes}
    (h : P.json.parse response =
      .ok (Json.ofFields (members ++ [("status", .integer status.toInt)]))) :
    ∃ fields, Answers P status members response fields := by
  rw [Json.ofFields] at h
  refine ⟨_, h, ?_, ?_⟩
  · simp
  · intro key hkey
    simp [Json.lookup_foldl_insertField, hkey]

/-! ## Every request is answered -/

theorem flowExit_returns {vin : Bytes} {code : Option ErrorCode} {t : Machine ProvService}
    (exit : FlowExit P env vin s code t) (hsave : ∀ n, (env.save n).returned ≠ none) :
    code ≠ none := by
  cases exit with
  | uidFailed | refused | unencodable | readBack | unlocked => exact Option.some_ne_none _
  | first | second | lock => exact Option.map_eq_none_iff.not.2 (hsave _)

theorem run_returns (hP : P.json.Lawful) (call : BindingCall) (vin : Bytes)
    (hsave : ∀ n, (env.save n).returned ≠ none) : (call.run P env vin s).val ≠ none := by
  have exit := run_exit env vin s hP call
  generalize (call.run P env vin s).val = code at exit
  generalize (call.run P env vin s).state = t at exit
  cases exit with
  | turnedAway => exact Option.some_ne_none _
  | flow _ exit => exact flowExit_returns exit hsave

variable (methodId params s) in
/-- Only a kill in a save keeps a request from being answered. -/
theorem handle_returns (hP : P.json.Lawful) (hsave : ∀ n, (env.save n).returned ≠ none) :
    (handle P env methodId params s).val ≠ none := by
  by_cases hother : ∀ call, methodId ≠ methodOf call
  · obtain ⟨reply, hval, -, -⟩ := handle_other P env params hother s
    rw [hval]
    exact Option.some_ne_none _
  simp only [not_forall, not_not] at hother
  obtain ⟨call, rfl⟩ := hother
  rw [handle_binding]
  cases hfield : extractStringField P params "vin" with
  | nil => simp [handleBindingCall, hfield]
  | cons c cs =>
      rw [(handleBindingCall_present call hfield (List.cons_ne_nil c cs)).1]
      exact Option.map_eq_none_iff.not.2 (run_returns hP call _ hsave)

theorem handle_unknown (hunknown : ¬ Known methodId) :
    (handle P env methodId params s).state.disk = s.disk := by
  have hother : ∀ call, methodId ≠ methodOf call := by
    rintro call rfl
    cases call with
    | writeVin => exact hunknown (by decide)
    | authorizeRewrite => exact hunknown (by decide)
  obtain ⟨-, -, hdisk, -⟩ := handle_other P env params hother s
  exact hdisk

/-- What a handler returned is answered by its own members; what it threw, by the text of the
exception under FW-0306. -/
theorem exists_response (hP : P.json.Lawful) (hreports : P.json.ReportsInUtf8)
    {result : Throws Reply} (h : (handle P env methodId params s).val = some result) :
    ∃ response fields status members, answer P result = .ok response ∧
      Answers P status members response fields ∧
      (¬ Caught P env methodId params s ∧ Formed methodId status members ∨
        Caught P env methodId params s ∧ status = fwHandlerFailed ∧
          ∃ text, members = errorMember text) := by
  obtain ⟨status, members, hresult, hformed⟩ := handsOver_handle P env methodId params s result h
  cases result with
  | error e =>
      have hutf8 : Utf8 e.what := by
        cases hdump : P.json.dump (-1) (Json.ofFields members) with
        | error e' =>
            have he : e = e' := by simpa [payload, hdump] using hresult
            rw [he]
            exact hreports _ _ _ hdump
        | ok text => simp [payload, hdump] at hresult
      obtain ⟨response, hresponse, hparse⟩ := answer_error hP hutf8
      obtain ⟨fields, hfields⟩ := exists_answers hparse
      exact ⟨response, fields, _, _, hresponse, hfields, .inr ⟨.inl ⟨e, h⟩, rfl, _, rfl⟩⟩
  | ok reply =>
      obtain ⟨response, hinner, hparse⟩ := reencoded hP hformed.plain hresult.symm
      obtain ⟨fields, hfields⟩ := exists_answers hparse
      refine ⟨response, fields, status, members, ?_, hfields, .inl ⟨?_, hformed⟩⟩
      · rw [answer, respond, hinner]
      · rintro (⟨e, he⟩ | ⟨reply', e, hreply, he⟩)
        · rw [h] at he
          cases he
        · rw [h, Option.some.injEq, Except.ok.injEq] at hreply
          rw [← hreply, hinner] at he
          cases he

/-- A request is answered unless the process is killed in a save, and what is answered is
always an object with an integer as its status. -/
theorem dispatch_total_well_formed (P : Platform) (hP : P.json.Lawful)
    (hreports : P.json.ReportsInUtf8) (env : Env) (methodId : MethodId) (params : Bytes)
    (s : Machine ProvService) :
    ((∀ n, (env.save n).returned ≠ none) → (dispatch P env methodId params s).val ≠ none) ∧
      (∀ result, (dispatch P env methodId params s).val = some result →
        ∃ response fields status, result = .ok response ∧
          P.json.parse response = .ok (.object fields) ∧
          fields.lookup "status" = some (.integer status) ∧
          (Coded methodId → ¬ Caught P env methodId params s →
            ∃ success, fields.lookup "success" = some (.boolean success) ∧
              (success = true ↔ status = 0)) ∧
          (¬ Known methodId ∨ Caught P env methodId params s →
            status = 306 ∧ ∃ text, fields.lookup "error" = some (.string text))) ∧
      (¬ Known methodId → (dispatch P env methodId params s).state.disk = s.disk) := by
  refine ⟨?_, ?_, ?_⟩
  · intro hsave
    rw [dispatch_val]
    exact Option.map_eq_none_iff.not.2 (handle_returns methodId params s hP hsave)
  · intro result hresult
    rw [dispatch_val, Option.map_eq_some_iff] at hresult
    obtain ⟨handled, hhandled, rfl⟩ := hresult
    obtain ⟨response, fields, status, members, hresponse, hfields, hcase⟩ :=
      exists_response hP hreports hhandled
    refine ⟨response, fields, status.toInt, hresponse, hfields.parsed, hfields.status, ?_, ?_⟩
    · intro hcoded hcaught
      obtain ⟨-, hformed⟩ | ⟨hcaught', -⟩ := hcase
      · obtain ⟨success, hsuccess, hstatus⟩ := hformed.coded hcoded
        refine ⟨success, (hfields.kept _ (by decide)).trans hsuccess, hstatus.trans ?_⟩
        rw [← Int32.toInt_inj, Int32.toInt_zero]
      · exact absurd hcaught' hcaught
    · intro hfailed
      rw [hfields.kept _ (by decide)]
      obtain ⟨hcaught, hformed⟩ | ⟨-, rfl, text, rfl⟩ := hcase
      · obtain ⟨rfl, htext⟩ := hformed.unknown (hfailed.resolve_right hcaught)
        exact ⟨rfl, htext⟩
      · exact ⟨rfl, text, rfl⟩
  · intro hunknown
    rw [dispatch_state]
    exact handle_unknown hunknown

/-- An unknown method, with parameters that are not text. -/
theorem dispatch_total_sample :
    ∃ response fields,
      (dispatch textPlatform sampleEnv ⟨99⟩ [255] (started {})).val = some (.ok response) ∧
        textPlatform.json.parse response = .ok (.object fields) ∧
        fields.lookup "status" = some (.integer 306) ∧
        (dispatch textPlatform sampleEnv ⟨99⟩ [255] (started {})).state.disk =
          (started {}).disk := by
  have hunknown : ¬ Known ⟨99⟩ := by decide
  obtain ⟨hreturns, hanswers, hdisk⟩ :=
    dispatch_total_well_formed textPlatform textPlatform_lawful JsonText.textLib_reportsInUtf8
      sampleEnv ⟨99⟩ [255] (started {})
  obtain ⟨result, hresult⟩ :=
    Option.ne_none_iff_exists'.1 (hreturns fun _ ↦ Option.some_ne_none true)
  obtain ⟨response, fields, status, rfl, hparse, hstatus, -, hfailed⟩ := hanswers _ hresult
  obtain ⟨rfl, -⟩ := hfailed (.inl hunknown)
  exact ⟨response, fields, hresult, hparse, hstatus, hdisk hunknown⟩

end TboxProv.ProvIpcDispatcher
