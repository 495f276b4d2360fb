import TboxProv.Identity

/-!
# After a failed read-back

A failed read-back is to be marked in the record: state `FAILED`, the error, one more
retry.  The flow only returns its code.  Whatever the store holds once it works again, it
is the record from before or one of the two that the call had saved.
-/

namespace TboxProv.ProvService

open Crash Store

variable {P : Platform} {env env' : Env} {vin : Bytes} {s t : Machine ProvService}
  {call : BindingCall} {entry : Entry}

/-! ## A store that works again -/

variable (P env vin s call) in
/-- What the binding's file can turn out to be: what the call left there, or what a read
during the call did not show. -/
inductive Recovers : Entry → Prop where
  | left : Recovers ((call.run P env vin s).state.disk .binding)
  | previous : Recovers (s.disk .binding)
  | first {c₀ : Bytes} (h : sealed P (serializeBinding P (writtenRecord P env vin s)) = .ok c₀) :
      Recovers (.file c₀)
  | second {c₁ : Bytes} (h : sealed P (serializeBinding P (boundRecord P env vin s)) = .ok c₁) :
      Recovers (.file c₁)

variable (P env vin s call entry) in
def recovered : Machine ProvService := (call.run P env vin s).state.put .binding entry

variable (P vin s) in
def retryCountBefore : ℕ := (bindingIn P (s.disk .binding)).elim 0 (·.retryCount.toNat)

variable (P env' vin s call) in
/-- The failure is marked, nothing is locked, and the write can be repeated. -/
structure RecordsFailure (t : Machine ProvService) : Prop where
  shown : ∃ binding, (readBinding P env' t).val = some binding ∧ binding.state = .failed ∧
    binding.lastError ≠ [] ∧ retryCountBefore P s < binding.retryCount.toNat
  state : (getProvisionState P t).val = some .failed
  unlocked : t.mem.storage = s.mem.storage ∧ t.disk .protection = s.disk .protection
  repeatable : Admits P vin t call

/-! ## What the call leaves -/

theorem run_old_or_record (hP : P.json.Lawful) (hnever : ∀ n, NeverInvents P (env.save n))
    (call : BindingCall) {binding : VehicleBinding}
    (hread : bindingIn P ((call.run P env vin s).state.disk .binding) = some binding) :
    bindingIn P (s.disk .binding) = some binding ∨ IsRecord P env vin s binding := by
  have exit := run_exit env vin s hP call
  generalize (call.run P env vin s).val = code at exit
  generalize (call.run P env vin s).state = u at exit hread
  cases exit with
  | turnedAway => exact Or.inl hread
  | flow hadm exit =>
      by_cases hrecords : Records env s
      · obtain ⟨binding', hread', hrecord⟩ := exit.record hP hrecords
        rw [hread, Option.some.injEq] at hread'
        subst hread'
        exact Or.inr hrecord
      · exact Or.inl (exit.old hP hnever hrecords hread)

/-- The record found later is the old one or one that the call wrote. -/
theorem Recovers.old_or_record (hP : P.json.Lawful)
    (hnever : ∀ n, NeverInvents P (env.save n)) (h : Recovers P env vin s call entry)
    {binding : VehicleBinding} (hread : bindingIn P entry = some binding) :
    bindingIn P (s.disk .binding) = some binding ∨ IsRecord P env vin s binding := by
  cases h with
  | left => exact run_old_or_record hP hnever call hread
  | previous => exact Or.inl hread
  | first hc₀ =>
      rw [bindingIn_sealed hP hc₀, Option.some.injEq] at hread
      exact Or.inr (Or.inl hread.symm)
  | second hc₁ =>
      rw [bindingIn_sealed hP hc₁, Option.some.injEq] at hread
      exact Or.inr (Or.inr hread.symm)

theorem IsRecord.not_failed {binding : VehicleBinding} (h : IsRecord P env vin s binding) :
    binding.state ≠ .failed := by
  rcases h with rfl | rfl
  · rw [(writtenRecord_reread P env vin s).2.2.1]
    decide
  · rw [(boundRecord_reread P env vin s).2.2.1]
    decide

theorem IsRecord.unlocked {binding : VehicleBinding} (h : IsRecord P env vin s binding) :
    binding.locked = false := by
  rcases h with rfl | rfl
  · exact (writtenRecord_reread P env vin s).2.2.2
  · exact (boundRecord_reread P env vin s).2.2.2

theorem recovered_binding :
    (recovered P env vin s call entry).disk .binding = entry := by
  simp [recovered]

theorem not_readback_of_turnedAway {code : ErrorCode} (h : TurnedAway call code) :
    code ≠ .readbackVerificationFailed := by
  rcases h with rfl | rfl | ⟨rfl, -⟩ <;> decide

/-- A flow that reports a failed read-back has locked nothing. -/
theorem FlowExit.unlocked_of_readback
    (exit : FlowExit P env vin s (some .readbackVerificationFailed) t) :
    t.mem = s.mem ∧ t.disk .protection = s.disk .protection := by
  generalize hc : some ErrorCode.readbackVerificationFailed = code at exit
  cases exit with
  | uidFailed | refused | unencodable => exact ⟨rfl, rfl⟩
  | first => exact ⟨rfl, afterFirst_protection⟩
  | second | readBack | unlocked => exact ⟨rfl, afterSecond_protection⟩
  | lock =>
      obtain ⟨saved, -, hcode⟩ := Option.map_eq_some_iff.1 hc.symm
      cases saved <;> exact absurd hcode (by decide)

/-- What the call does keep to: nothing is locked, and the write can be repeated. -/
theorem recovered_repeatable (hP : P.json.Lawful) (hnever : ∀ n, NeverInvents P (env.save n))
    (hfailed : (call.run P env vin s).val = some .readbackVerificationFailed)
    (hentry : Recovers P env vin s call entry) :
    (recovered P env vin s call entry).mem.storage = s.mem.storage ∧
      (recovered P env vin s call entry).disk .protection = s.disk .protection ∧
        Admits P vin (recovered P env vin s call entry) call := by
  have exit := run_exit env vin s hP call
  rw [hfailed] at exit
  obtain ⟨hadm, hmem, hprotection⟩ : Admits P vin s call ∧
      (call.run P env vin s).state.mem = s.mem ∧
        (call.run P env vin s).state.disk .protection = s.disk .protection := by
    generalize hc : some ErrorCode.readbackVerificationFailed = code at exit
    generalize (call.run P env vin s).state = u at exit
    cases exit with
    | turnedAway _ hcode =>
        exact absurd (Option.some.inj hc).symm (not_readback_of_turnedAway hcode)
    | flow hadm exit =>
        subst hc
        exact ⟨hadm, exit.unlocked_of_readback⟩
  have hmem' : (recovered P env vin s call entry).mem = s.mem := hmem
  refine ⟨by rw [hmem'], ?_, ⟨?_, ?_, hadm.valid, ?_⟩⟩
  · simpa [recovered] using hprotection
  · rw [hmem']
    exact hadm.initialized
  · rw [hmem']
    exact hadm.running
  · rintro hcall ⟨binding, hread, hlocked, hvin⟩
    rw [recovered_binding] at hread
    rcases hentry.old_or_record hP hnever hread with hold | hrecord
    · exact hadm.allowed hcall ⟨binding, hold, hlocked, hvin⟩
    · rw [hrecord.unlocked] at hlocked
      cases hlocked

theorem not_recordsFailure (hP : P.json.Lawful) (hnever : ∀ n, NeverInvents P (env.save n))
    (hentry : Recovers P env vin s call entry) :
    ¬ RecordsFailure P env' vin s call (recovered P env vin s call entry) := by
  intro h
  obtain ⟨binding, hshown, hstate, -, hretry⟩ := h.shown
  rw [readBinding_val, Option.some.injEq, shownBinding, recovered_binding] at hshown
  subst hshown
  split at hstate
  case isFalse => exact absurd hstate (by decide)
  case isTrue hinit =>
    rw [if_pos hinit] at hretry
    cases hread : bindingIn P entry with
    | none =>
        have hnone : ProvisionState.none ≠ .failed := by decide
        rw [hread] at hstate
        exact hnone hstate
    | some record =>
        rw [hread, Option.elim_some] at hstate hretry
        have hkeeps : (withSn env' record).state = record.state ∧
            (withSn env' record).retryCount = record.retryCount := by
          unfold withSn
          split <;> exact ⟨rfl, rfl⟩
        rw [hkeeps.1] at hstate
        rw [hkeeps.2] at hretry
        rcases hentry.old_or_record hP hnever hread with hold | hrecord
        · rw [retryCountBefore, hold, Option.elim_some] at hretry
          exact lt_irrefl _ hretry
        · exact hrecord.not_failed hstate

/-- No record found after a failed read-back says so; that nothing is locked and that the
write can be repeated holds all the same. -/
theorem readback_failure_unrecorded (hP : P.json.Lawful)
    (hnever : ∀ n, NeverInvents P (env.save n))
    (hfailed : (call.run P env vin s).val = some .readbackVerificationFailed)
    (hentry : Recovers P env vin s call entry) :
    ¬ RecordsFailure P env' vin s call (recovered P env vin s call entry) ∧
      (recovered P env vin s call entry).mem.storage = s.mem.storage ∧
        (recovered P env vin s call entry).disk .protection = s.disk .protection ∧
          Admits P vin (recovered P env vin s call entry) call :=
  ⟨not_recordsFailure hP hnever hentry, recovered_repeatable hP hnever hfailed hentry⟩

/-- A store that loses every save without saying so. -/
def lostEnv : Env := { uid := .ofUid sampleUid, save := fun _ ↦ .lost }

theorem neverInvents_lostEnv (n : ℕ) : NeverInvents textPlatform (lostEnv.save n) :=
  fun _ h ↦ by cases h

theorem lostEnv_readback :
    (BindingCall.writeVin.run textPlatform lostEnv sampleVin (started {})).val =
      some .readbackVerificationFailed := by
  have hadm := admits_started (P := textPlatform) {} validate_sampleVin .writeVin
  have hvin := VinValidator.utf8_of_validate validate_sampleVin
  obtain ⟨c₀, c₁, k, w⟩ : ∃ c₀ c₁ k,
      Writable textPlatform lostEnv sampleVin (started {}) c₀ c₁ k :=
    exists_writable textPlatform_lawful rfl hvin utf8_sampleUid
  obtain ⟨hval, hstate⟩ := establishBinding_saved w rfl rfl
  have hrefused : ¬ ReadsBack textPlatform sampleVin (afterSecond lostEnv (started {}) c₀ c₁) := by
    rintro ⟨binding, hread, -⟩
    rw [afterSecond_binding] at hread
    cases hread
  rw [(run_admitted lostEnv hadm).1, (executeVinBindingFlow_of_established rfl hval hstate).1,
    verifyWrite_refused hrefused]
  rfl

def lostRecovered (entry : Entry) : Machine ProvService :=
  recovered textPlatform lostEnv sampleVin (started {}) .writeVin entry

theorem readback_failure_unrecorded_sample :
    ¬ RecordsFailure textPlatform sampleEnv sampleVin (started {}) .writeVin
        (lostRecovered .absent) ∧
      (lostRecovered .absent).mem.storage = {} ∧
        (lostRecovered .absent).disk .protection = .absent ∧
          Admits textPlatform sampleVin (lostRecovered .absent) .writeVin :=
  readback_failure_unrecorded textPlatform_lawful neverInvents_lostEnv lostEnv_readback .previous

/-- The reads of the call show nothing of what it saved, and later the record is `BOUND`. -/
theorem readback_failure_bound :
    (BindingCall.writeVin.run textPlatform lostEnv sampleVin (started {})).val =
        some .readbackVerificationFailed ∧
      ∃ entry, Recovers textPlatform lostEnv sampleVin (started {}) .writeVin entry ∧
        (getProvisionState textPlatform (lostRecovered entry)).val = some .bound ∧
          ¬ RecordsFailure textPlatform sampleEnv sampleVin (started {}) .writeVin
            (lostRecovered entry) := by
  have hP : textPlatform.json.Lawful := textPlatform_lawful
  have hvin := VinValidator.utf8_of_validate validate_sampleVin
  obtain ⟨c₀, c₁, k, w⟩ : ∃ c₀ c₁ k,
      Writable textPlatform lostEnv sampleVin (started {}) c₀ c₁ k :=
    exists_writable hP rfl hvin utf8_sampleUid
  have hinit : (lostRecovered (.file c₁)).mem.initialized = true := by
    have hadm := (recovered_repeatable hP neverInvents_lostEnv lostEnv_readback
      (.second w.bound)).2.2
    exact hadm.initialized
  have hbound : (getProvisionState textPlatform (lostRecovered (.file c₁))).val =
      some .bound := by
    rw [getProvisionState_val _ _ hinit, lostRecovered, recovered_binding, w.bindingIn_bound hP,
      Option.elim_some, (boundRecord_reread textPlatform lostEnv sampleVin (started {})).2.2.1]
  refine ⟨lostEnv_readback, .file c₁, .second w.bound, hbound, fun h ↦ ?_⟩
  have hstate := h.state
  rw [hbound, Option.some.injEq] at hstate
  exact absurd hstate (by decide)

end TboxProv.ProvService
