import TboxProv.Runs

/-!
# Which identities are stored

The VIN is validated before the flow, the UID nowhere.  A run keeps only valid
pairs in the store exactly when no call gets an invalid UID into it.
-/

namespace TboxProv.ProvService

open Crash Store

variable {P : Platform} {env : Env} {vin : Bytes} {s : Machine ProvService}

variable (P) in
def ValidIdentity (disk : Disk) : Prop :=
  ∀ binding, bindingIn P (disk .binding) = some binding →
    VinValidator.validate binding.vin = true ∧ EcuUid.validate binding.ecuUid = true

variable (P) in
/-- A save that never leaves a record of its own making. -/
def NeverInvents (outcome : SaveOutcome) : Prop :=
  ∀ entry, outcome = .replaced entry → bindingIn P entry = none

variable (P) in
def Call.NeverInvents : Call → Prop
  | .binding _ env _ => ∀ n, ProvService.NeverInvents P (env.save n)
  | _ => True

/-- Which outcomes of the two binding saves leave the record of this call. -/
def LeavesRecord (env : Env) : Prop :=
  match env.save 0 with
  | .stored => ∀ entry, env.save 1 ≠ .replaced entry
  | .killedAfter => True
  | .lost | .replaced _ => env.save 1 = .stored ∨ env.save 1 = .killedAfter
  | .failed _ | .killedBefore => False

variable (P env vin s) in
def IsRecord (binding : VehicleBinding) : Prop :=
  binding = (writtenRecord P env vin s).reread ∨ binding = (boundRecord P env vin s).reread

theorem IsRecord.fields {binding : VehicleBinding} (h : IsRecord P env vin s binding) :
    binding.vin = vin ∧ binding.ecuUid = env.uid.uid := by
  rcases h with rfl | rfl
  · obtain ⟨hvin, huid, -⟩ := writtenRecord_reread P env vin s
    exact ⟨hvin, huid⟩
  · obtain ⟨hvin, huid, -⟩ := boundRecord_reread P env vin s
    exact ⟨hvin, huid⟩

theorem IsRecord.sn {binding : VehicleBinding} (h : IsRecord P env vin s binding) :
    binding.sn = [] := by
  obtain ⟨-, -, -, -, hsn, -⟩ :=
    newBinding_fields env vin (bindingIn P (s.disk .binding)) env.uid.uid
  rcases h with rfl | rfl <;> exact hsn

/-! ## What the two saves leave -/

section Saves

variable {c₀ c₁ k : Bytes} (hP : P.json.Lawful) (w : Writable P env vin s c₀ c₁ k)
include hP w

theorem isRecord_written : ∃ binding, bindingIn P (.file c₀) = some binding ∧
    IsRecord P env vin s binding := ⟨_, w.bindingIn_written hP, .inl rfl⟩

theorem isRecord_bound : ∃ binding, bindingIn P (.file c₁) = some binding ∧
    IsRecord P env vin s binding := ⟨_, w.bindingIn_bound hP, .inr rfl⟩

theorem afterFirst_record (h₀ : (env.save 0).returned ≠ some true) (h : LeavesRecord env) :
    ∃ binding, bindingIn P ((afterFirst env s c₀).disk .binding) = some binding ∧
      IsRecord P env vin s binding := by
  rw [afterFirst_binding]
  unfold LeavesRecord at h
  cases hsave : env.save 0 with
  | killedAfter => exact isRecord_written hP w
  | failed what =>
      rw [hsave] at h
      exact h.elim
  | killedBefore =>
      rw [hsave] at h
      exact h.elim
  | stored => exact absurd (by rw [hsave]; rfl) h₀
  | lost => exact absurd (by rw [hsave]; rfl) h₀
  | replaced entry => exact absurd (by rw [hsave]; rfl) h₀

theorem afterSecond_record (h₀ : (env.save 0).returned = some true) (h : LeavesRecord env) :
    ∃ binding, bindingIn P ((afterSecond env s c₀ c₁).disk .binding) = some binding ∧
      IsRecord P env vin s binding := by
  rw [afterSecond_binding]
  unfold LeavesRecord at h
  cases hsave₀ : env.save 0 with
  | stored =>
      rw [hsave₀] at h
      cases hsave₁ : env.save 1 with
      | stored => exact isRecord_bound hP w
      | killedAfter => exact isRecord_bound hP w
      | failed what => exact isRecord_written hP w
      | lost => exact isRecord_written hP w
      | killedBefore => exact isRecord_written hP w
      | replaced entry => exact absurd hsave₁ (h entry)
  | lost =>
      rw [hsave₀] at h
      rcases h with h | h <;> rw [h] <;> exact isRecord_bound hP w
  | replaced entry =>
      rw [hsave₀] at h
      rcases h with h | h <;> rw [h] <;> exact isRecord_bound hP w
  | failed what => simp [hsave₀, SaveOutcome.returned] at h₀
  | killedBefore => simp [hsave₀, SaveOutcome.returned] at h₀
  | killedAfter => simp [hsave₀, SaveOutcome.returned] at h₀

omit hP w

theorem afterFirst_old (h₀ : (env.save 0).returned ≠ some true) (h : ¬ LeavesRecord env) :
    (afterFirst env s c₀).disk .binding = s.disk .binding := by
  rw [afterFirst_binding]
  unfold LeavesRecord at h
  cases hsave : env.save 0 with
  | killedAfter =>
      rw [hsave] at h
      exact absurd trivial h
  | failed what => rfl
  | killedBefore => rfl
  | stored => exact absurd (by rw [hsave]; rfl) h₀
  | lost => exact absurd (by rw [hsave]; rfl) h₀
  | replaced entry => exact absurd (by rw [hsave]; rfl) h₀

theorem afterSecond_old (hnever : ∀ n, NeverInvents P (env.save n))
    (h₀ : (env.save 0).returned = some true) (h : ¬ LeavesRecord env) {binding : VehicleBinding}
    (hread : bindingIn P ((afterSecond env s c₀ c₁).disk .binding) = some binding) :
    bindingIn P (s.disk .binding) = some binding := by
  have hinvented : ∀ n entry, env.save n = .replaced entry → bindingIn P entry ≠ some binding := by
    intro n entry hsave hsome
    rw [hnever n entry hsave] at hsome
    cases hsome
  rw [afterSecond_binding] at hread
  rcases (env.save 1).leaves_cases c₁ ((env.save 0).leaves c₀ (s.disk .binding)) with
    ⟨htaken, -⟩ | ⟨entry, hsave, hentry⟩ | ⟨⟨-, -, hkept⟩, hsame⟩
  · refine absurd ?_ h
    unfold LeavesRecord
    cases hsave₀ : env.save 0 with
    | stored => rcases htaken with htaken | htaken <;> simp [htaken]
    | lost => exact htaken
    | replaced entry => exact htaken
    | failed | killedBefore | killedAfter =>
        rw [hsave₀] at h₀
        cases h₀
  · rw [hentry] at hread
    exact absurd hread (hinvented 1 entry hsave)
  · rw [hsame] at hread
    cases hsave₀ : env.save 0 with
    | stored =>
        refine absurd ?_ h
        unfold LeavesRecord
        rw [hsave₀]
        exact hkept
    | lost =>
        rw [hsave₀] at hread
        exact hread
    | replaced entry =>
        rw [hsave₀] at hread
        exact absurd hread (hinvented 0 entry hsave₀)
    | failed | killedBefore | killedAfter =>
        rw [hsave₀] at h₀
        cases h₀

end Saves

/-! ## Calls and runs -/

variable (env s) in
/-- The call gets to its saves, and they leave its record. -/
def Records : Prop :=
  env.uid.success = true ∧ s.mem.storage.writeProtected = false ∧ Utf8 env.uid.uid ∧
    LeavesRecord env

variable (P) in
def StoresInvalid : Call → Machine ProvService → Prop
  | .binding call env vin, s =>
      Admits P vin s call ∧ Records env s ∧ EcuUid.validate env.uid.uid = false
  | _, _ => False

theorem FlowExit.record (hP : P.json.Lawful) {code : Option ErrorCode} {t : Machine ProvService}
    (exit : FlowExit P env vin s code t) (h : Records env s) :
    ∃ binding, bindingIn P (t.disk .binding) = some binding ∧ IsRecord P env vin s binding := by
  obtain ⟨huid, hprot, hutf8, hleaves⟩ := h
  cases exit with
  | uidFailed hfailed =>
      rw [huid] at hfailed
      cases hfailed
  | refused _ hon =>
      rw [hprot] at hon
      cases hon
  | unencodable _ _ hno => exact absurd hutf8 hno
  | first _ w h₀ => exact afterFirst_record hP w h₀ hleaves
  | second _ w h₀ => exact afterSecond_record hP w h₀ hleaves
  | readBack _ w h₀ => exact afterSecond_record hP w h₀ hleaves
  | unlocked _ w h₀ => exact afterSecond_record hP w h₀ hleaves
  | lock _ w h₀ =>
      rw [afterProtection_binding]
      exact afterSecond_record hP w h₀ hleaves

theorem FlowExit.old (hP : P.json.Lawful) {code : Option ErrorCode} {t : Machine ProvService}
    (exit : FlowExit P env vin s code t) (hnever : ∀ n, NeverInvents P (env.save n))
    (h : ¬ Records env s) {binding : VehicleBinding}
    (hread : bindingIn P (t.disk .binding) = some binding) :
    bindingIn P (s.disk .binding) = some binding := by
  have hleaves : ∀ {c₀ c₁ k}, env.uid.success = true → Writable P env vin s c₀ c₁ k →
      ¬ LeavesRecord env :=
    fun huid w hleaves ↦ h ⟨huid, w.unprotected, w.utf8_uid hP, hleaves⟩
  cases exit with
  | uidFailed => exact hread
  | refused => exact hread
  | unencodable => exact hread
  | first huid w h₀ =>
      rw [afterFirst_old h₀ (hleaves huid w)] at hread
      exact hread
  | second huid w h₀ => exact afterSecond_old hnever h₀ (hleaves huid w) hread
  | readBack huid w h₀ => exact afterSecond_old hnever h₀ (hleaves huid w) hread
  | unlocked huid w h₀ => exact afterSecond_old hnever h₀ (hleaves huid w) hread
  | lock huid w h₀ =>
      rw [afterProtection_binding] at hread
      exact afterSecond_old hnever h₀ (hleaves huid w) hread

variable (P) in
def Call.Stores : Call → Machine ProvService → Prop
  | .binding call env vin, s => Admits P vin s call ∧ Records env s
  | _, _ => False

theorem exec_stores (hP : P.json.Lawful) {call : BindingCall}
    (h : (Call.binding call env vin).Stores P s) :
    ∃ binding, bindingIn P ((exec P (.binding call env vin) s).disk .binding) = some binding ∧
      IsRecord P env vin s binding := by
  obtain ⟨hadm, hrecords⟩ := h
  rw [exec, settle_disk, Call.prog, coded_state, (run_admitted env hadm).2]
  have exit := executeVinBindingFlow_exit env s hP (VinValidator.utf8_of_validate hadm.valid)
  exact exit.record hP hrecords

/-- A call that does not store its record leaves none that was not there before. -/
theorem Effect.old (hP : P.json.Lawful) {c : Call} {t : Machine ProvService}
    (effect : Effect P s c t) (hnever : c.NeverInvents P) (hno : ¬ c.Stores P s)
    {binding : VehicleBinding} (hread : bindingIn P (t.disk .binding) = some binding) :
    bindingIn P (s.disk .binding) = some binding := by
  cases effect with
  | opened => exact hread
  | closed _ hdisk => rwa [hdisk] at hread
  | shutdown => exact hread
  | restart => exact hread
  | config _ _ _ frame => rwa [frame.other _ (by decide)] at hread
  | productionInfo _ _ _ frame => rwa [frame.other _ (by decide)] at hread
  | binding call env vin hadm exit => exact exit.old hP hnever (fun h ↦ hno ⟨hadm, h⟩) hread
  | nothing => exact hread

theorem exec_old (hP : P.json.Lawful) {c : Call} (hnever : c.NeverInvents P)
    (hno : ¬ c.Stores P s) {binding : VehicleBinding}
    (hread : bindingIn P ((exec P c s).disk .binding) = some binding) :
    bindingIn P (s.disk .binding) = some binding := by
  rw [exec, settle_disk] at hread
  exact (prog_effect hP c s).old hP hnever hno hread

/-- One call keeps the stored identity valid exactly when it does not get an invalid
UID into the store. -/
theorem validIdentity_exec_iff (hP : P.json.Lawful) (c : Call) (s : Machine ProvService)
    (hnever : c.NeverInvents P) (h : ValidIdentity P s.disk) :
    ValidIdentity P (exec P c s).disk ↔ ¬ StoresInvalid P c s := by
  by_cases hstores : c.Stores P s
  · cases c with
    | binding call env vin =>
        obtain ⟨record, hrecord, his⟩ := exec_stores hP hstores
        obtain ⟨hvin, huid⟩ := his.fields
        constructor
        · rintro hafter ⟨-, -, hinvalid⟩
          have hvalid := (hafter record hrecord).2
          rw [huid, hinvalid] at hvalid
          cases hvalid
        · intro hno binding hread
          rw [hrecord, Option.some.injEq] at hread
          rw [← hread, hvin, huid]
          refine ⟨hstores.1.valid, ?_⟩
          by_contra hinvalid
          exact hno ⟨hstores.1, hstores.2, by simpa using hinvalid⟩
    | _ => exact hstores.elim
  · constructor
    · intro _ hbad
      cases c with
      | binding call env vin => exact hstores ⟨hbad.1, hbad.2.1⟩
      | _ => exact hbad
    · intro _ binding hread
      exact h binding (exec_old hP hnever hstores hread)

/-! ## What a run stores -/

variable (P) in
def Encodable (disk : Disk) : Prop :=
  ∀ binding, bindingIn P (disk .binding) = some binding →
    binding.sn = [] ∧ Utf8 binding.vin ∧ Utf8 binding.ecuUid

theorem Encodable.exec (hP : P.json.Lawful) {c : Call} (hnever : c.NeverInvents P)
    (h : Encodable P s.disk) : Encodable P (exec P c s).disk := by
  intro binding hread
  by_cases hstores : c.Stores P s
  · cases c with
    | binding call env vin =>
        obtain ⟨record, hrecord, his⟩ := exec_stores hP hstores
        rw [hrecord, Option.some.injEq] at hread
        obtain ⟨hvin, huid⟩ := his.fields
        rw [← hread, hvin, huid]
        exact ⟨his.sn, VinValidator.utf8_of_validate hstores.1.valid, hstores.2.2.2.1⟩
    | _ => exact hstores.elim
  · exact h binding (exec_old hP hnever hstores hread)

/-- Whatever a run from an empty store leaves can be encoded again, and holds no SN. -/
theorem run_encodable (hP : P.json.Lawful) (config : ProvServiceConfig) {calls : List Call}
    (hnever : ∀ c ∈ calls, c.NeverInvents P) :
    Encodable P (run (ProvService.exec P) calls (fresh config Disk.empty)).disk := by
  have hstart : Encodable P (fresh config Disk.empty).disk := by
    intro binding hread
    cases hread
  have hstep : ∀ (c : Call) (s : Machine ProvService), c.NeverInvents P →
      Encodable P s.disk → Encodable P (ProvService.exec P c s).disk :=
    fun _ _ hc h ↦ h.exec hP hc
  exact run_invariant hstep hnever hstart

/-! ## Valid identities -/

/-- A run from an empty store keeps the stored identity valid at every point exactly
when none of its calls gets an invalid UID into the store. -/
theorem valid_identity_iff (hP : P.json.Lawful) (config : ProvServiceConfig)
    (calls : List Call) (hnever : ∀ c ∈ calls, c.NeverInvents P) :
    Throughout (exec P) (fun s ↦ ValidIdentity P s.disk) calls (fresh config Disk.empty) ↔
      Along (exec P) (fun c s ↦ ¬ StoresInvalid P c s) calls (fresh config Disk.empty) := by
  have hstart : ValidIdentity P (fresh config Disk.empty).disk := by
    intro binding hread
    cases hread
  exact throughout_iff_along (fun _ _ _ (_ : True) ↦ trivial)
    (fun c s hc _ h ↦ validIdentity_exec_iff hP c s hc h) hnever trivial hstart

theorem valid_identity_sample :
    Throughout (exec textPlatform) (fun s ↦ ValidIdentity textPlatform s.disk)
      [.initializeService sampleEnv, .binding .writeVin sampleEnv sampleVin]
      (fresh {} Disk.empty) := by
  refine (valid_identity_iff textPlatform_lawful {} _ ?_).2 ⟨id, ?_, trivial⟩
  · simp [Call.NeverInvents, NeverInvents, sampleEnv]
  · rintro ⟨-, -, hinvalid⟩
    revert hinvalid
    decide

def shortUidEnv : Env := { uid := .ofUid (bytes "HSM-1") }

theorem short_uid_stored :
    ¬ ValidIdentity textPlatform (run (exec textPlatform)
      [.initializeService sampleEnv, .binding .writeVin shortUidEnv sampleVin]
      (fresh {} Disk.empty)).disk := by
  have hadm := admits_started (P := textPlatform) {} validate_sampleVin .writeVin
  obtain ⟨hval, hbound⟩ : _ ∧ BoundBy textPlatform shortUidEnv sampleVin (started {}) _ :=
    run_stored textPlatform_lawful hadm rfl rfl (Utf8.bytes "HSM-1") fun _ ↦ rfl
  rw [← binding_returned] at hval
  intro hvalid
  rw [run_cons, run_cons, run_nil, exec_initialize_empty {} rfl,
    exec_binding_of_returned hval] at hvalid
  have huid := (hvalid _ hbound.binding).2
  rw [(boundRecord_reread textPlatform shortUidEnv sampleVin (started {})).2.1] at huid
  revert huid
  decide

end TboxProv.ProvService
