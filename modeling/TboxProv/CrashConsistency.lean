import TboxProv.Runs

/-!
# Crashes between the saves

The binding and the protection flag are separate files, saved one after the
other.  `Gap` describes the calls that stop between the save of the bound record
and the save of the flag; a run keeps the two in step exactly when it has none.
-/

namespace TboxProv.ProvService

open Crash Store

variable {P : Platform} {env : Env} {vin : Bytes} {s : Machine ProvService}

/-! ## The flag and the disk -/

variable (P) in
/-- The cached flag of an initialized service is the one on the disk. -/
def Linked (s : Machine ProvService) : Prop :=
  s.mem.initialized = true → s.mem.storage.writeProtected = protectedIn P (s.disk .protection)

theorem linked_restarted (s : Machine ProvService) : Linked P (restarted s) := by
  intro hinit
  cases hinit

def Call.AllOrNothing : Call → Prop
  | .binding _ env _ => ∀ n, (env.save n).AllOrNothing
  | _ => True

theorem FlowExit.linked (hP : P.json.Lawful) {code : ErrorCode} {t : Machine ProvService}
    (exit : FlowExit P env vin s (some code) t) (hsaves : ∀ n, (env.save n).AllOrNothing)
    (h : Linked P s) : Linked P t := by
  generalize hc : some code = result at exit
  intro hinit
  cases exit with
  | uidFailed => exact h hinit
  | refused => exact h hinit
  | unencodable => exact h hinit
  | first =>
      rw [afterFirst_protection]
      exact h hinit
  | second =>
      rw [afterSecond_protection]
      exact h hinit
  | readBack =>
      rw [afterSecond_protection]
      exact h hinit
  | unlocked =>
      rw [afterSecond_protection]
      exact h hinit
  | lock huid w h₀ h₁ hread hcfg =>
      obtain ⟨saved, hret, -⟩ := Option.map_eq_some_iff.1 hc.symm
      cases saved with
      | false =>
          obtain ⟨what, hsave⟩ := SaveOutcome.failed_of_returned hret
          rw [afterProtection_protection, hsave]
          have hflag := h hinit
          simpa [afterProtection, hsave, SaveOutcome.leaves, SaveOutcome.returned,
            afterSecond_other] using hflag
      | true =>
          rw [afterProtection_protection, (hsaves 2).stored hret]
          simp [afterProtection, hret, SaveOutcome.leaves, w.protectedIn_flag hP]

theorem linked_exec (hP : P.json.Lawful) {c : Call} (hsaves : c.AllOrNothing)
    (h : Linked P s) : Linked P (exec P c s) := by
  have effect := prog_effect hP c s
  cases hval : (c.prog P s).val with
  | none =>
      rw [exec, Prog.settle, hval]
      exact linked_restarted _
  | some result =>
      rw [exec, Prog.settle, hval]
      change Linked P (c.prog P s).state
      generalize (c.prog P s).state = t at effect ⊢
      cases effect with
      | opened env hinit hopen => exact fun _ ↦ rfl
      | closed env hdisk hinit hcfg =>
          intro hon
          rw [hinit] at hon
          cases hon
      | shutdown => exact h
      | restart => exact h
      | config env configData hadm frame =>
          intro hinit
          rw [frame.mem] at hinit ⊢
          rw [frame.other _ (by decide)]
          exact h hinit
      | productionInfo env info hadm frame =>
          intro hinit
          rw [frame.mem] at hinit ⊢
          rw [frame.other _ (by decide)]
          exact h hinit
      | @binding call env vin code t hadm exit hcode =>
          rw [hval] at hcode
          cases code with
          | none => cases hcode
          | some code => exact exit.linked hP hsaves h
      | nothing => exact h

/-! ## Bound and protected -/

variable (P) in
def HoldsBound (disk : Disk) : Prop :=
  ∃ binding, bindingIn P (disk .binding) = some binding ∧ binding.state = .bound

variable (P) in
/-- If a bound record is stored, a service that starts on the disk is protected. -/
def RestartsLocked (disk : Disk) : Prop :=
  HoldsBound P disk → ∀ config env, Opens env disk →
    (initializeService P env (fresh config disk)).state.mem.storage.writeProtected = true

def Visible (disk : Disk) : Prop := ∀ what, disk .protection ≠ .inaccessible what

theorem restartsLocked_iff {disk : Disk} (h : Visible disk) :
    RestartsLocked P disk ↔ (HoldsBound P disk → protectedIn P (disk .protection) = true) := by
  constructor
  · intro hlocked hbound
    have hopen : Opens sampleEnv disk := ⟨rfl, h⟩
    have hflag := hlocked hbound {} sampleEnv hopen
    rw [(initializeService_opened P sampleEnv (fresh {} disk) rfl hopen).2] at hflag
    exact hflag
  · intro hlocked hbound config env hopen
    rw [(initializeService_opened P env (fresh config disk) rfl hopen).2]
    exact hlocked hbound

/-- The saves stop after the bound record and before the flag. -/
def StopsBetween (env : Env) : Prop :=
  env.save 0 = .stored ∧
    (env.save 1 = .killedAfter ∨
      env.save 1 = .stored ∧ env.save 2 ≠ .stored ∧ env.save 2 ≠ .killedAfter)

theorem not_holdsBound_written (hP : P.json.Lawful) {c₀ c₁ k : Bytes}
    (w : Writable P env vin s c₀ c₁ k) {binding : VehicleBinding}
    (h : bindingIn P (.file c₀) = some binding) : binding.state ≠ .bound := by
  rw [w.bindingIn_written hP, Option.some.injEq] at h
  rw [← h, (writtenRecord_reread P env vin s).2.2.1]
  exact ProvisionState.vinWritten_ne_bound

variable (env s) in
/-- The call gets to its saves and stops between the last two. -/
def InGap : Prop :=
  env.uid.success = true ∧ s.mem.storage.writeProtected = false ∧ Utf8 env.uid.uid ∧
    StopsBetween env

variable (P) in
def Gap : Call → Machine ProvService → Prop
  | .binding call env vin, s => Admits P vin s call ∧ InGap env s
  | _, _ => False

theorem FlowExit.of_inGap (hP : P.json.Lawful) {code : Option ErrorCode}
    {t : Machine ProvService} (exit : FlowExit P env vin s code t)
    (hcfg : s.mem.config.enableWriteProtection = true)
    (hsaves : ∀ n, (env.save n).AllOrNothing) (h : InGap env s) :
    HoldsBound P t.disk ∧ t.disk .protection = s.disk .protection := by
  obtain ⟨huid, hprot, hutf8, hsave₀, hsave₁⟩ := h
  have hbound := (boundRecord_reread P env vin s).2.2.1
  cases exit with
  | uidFailed hfailed =>
      rw [huid] at hfailed
      cases hfailed
  | refused _ hon =>
      rw [hprot] at hon
      cases hon
  | unencodable _ _ hno => exact absurd hutf8 hno
  | first _ w h₀ => exact absurd (by rw [hsave₀]; rfl) h₀
  | second _ w h₀ h₁ =>
      rcases hsave₁ with hsave₁ | ⟨hsave₁, -⟩
      · refine ⟨⟨_, ?_, hbound⟩, afterSecond_protection⟩
        rw [afterSecond_binding, hsave₁]
        exact w.bindingIn_bound hP
      · exact absurd (by rw [hsave₁]; rfl) h₁
  | readBack _ w h₀ h₁ hread =>
      refine absurd ⟨_, ?_, (boundRecord_reread P env vin s).1⟩ hread
      rw [afterSecond_binding, (hsaves 1).stored h₁]
      exact w.bindingIn_bound hP
  | unlocked _ _ _ _ _ hoff =>
      rw [hcfg] at hoff
      cases hoff
  | lock _ w h₀ h₁ =>
      have hsave₂ : env.save 2 ≠ .stored ∧ env.save 2 ≠ .killedAfter := by
        rcases hsave₁ with hsave₁ | ⟨-, hsave₂⟩
        · rw [hsave₁] at h₁
          cases h₁
        · exact hsave₂
      refine ⟨⟨_, ?_, hbound⟩, ?_⟩
      · rw [afterProtection_binding, afterSecond_binding, (hsaves 1).stored h₁]
        exact w.bindingIn_bound hP
      · rw [afterProtection_protection, afterSecond_protection]
        rcases (hsaves 2).leaves_cases _ (s.disk .protection) with ⟨htaken, -⟩ | ⟨-, hold⟩
        · rcases htaken with htaken | htaken
          · exact absurd htaken hsave₂.1
          · exact absurd htaken hsave₂.2
        · exact hold

theorem FlowExit.keeps_protected (hP : P.json.Lawful) {code : Option ErrorCode}
    {t : Machine ProvService} (exit : FlowExit P env vin s code t)
    (hcfg : s.mem.config.enableWriteProtection = true)
    (hsaves : ∀ n, (env.save n).AllOrNothing) (hno : ¬ InGap env s)
    (h : HoldsBound P s.disk → protectedIn P (s.disk .protection) = true) :
    HoldsBound P t.disk → protectedIn P (t.disk .protection) = true := by
  cases exit with
  | uidFailed => exact h
  | refused => exact h
  | unencodable => exact h
  | first _ w h₀ =>
      rintro ⟨binding, hread, hbound⟩
      rw [afterFirst_protection]
      rw [afterFirst_binding] at hread
      rcases (hsaves 0).leaves_cases _ (s.disk .binding) with ⟨-, hnew⟩ | ⟨-, hold⟩
      · rw [hnew] at hread
        exact absurd hbound (not_holdsBound_written hP w hread)
      · rw [hold] at hread
        exact h ⟨binding, hread, hbound⟩
  | second huid w h₀ h₁ =>
      rintro ⟨binding, hread, hbound⟩
      rw [afterSecond_binding, (hsaves 0).stored h₀] at hread
      rcases (hsaves 1).leaves_cases _ _ with ⟨htaken, -⟩ | ⟨-, hold⟩
      · rcases htaken with htaken | htaken
        · exact absurd (by rw [htaken]; rfl) h₁
        · exact absurd ⟨huid, w.unprotected, w.utf8_uid hP, (hsaves 0).stored h₀, .inl htaken⟩ hno
      · rw [hold] at hread
        exact absurd hbound (not_holdsBound_written hP w hread)
  | readBack _ w h₀ h₁ hread =>
      refine absurd ⟨_, ?_, (boundRecord_reread P env vin s).1⟩ hread
      rw [afterSecond_binding, (hsaves 1).stored h₁]
      exact w.bindingIn_bound hP
  | unlocked _ _ _ _ _ hoff =>
      rw [hcfg] at hoff
      cases hoff
  | lock huid w h₀ h₁ =>
      intro _
      rw [afterProtection_protection]
      rcases (hsaves 2).leaves_cases _ _ with ⟨-, hnew⟩ | ⟨⟨hstored, hkilled⟩, -⟩
      · rw [hnew]
        exact w.protectedIn_flag hP
      · have hstops : StopsBetween env :=
          ⟨(hsaves 0).stored h₀, .inr ⟨(hsaves 1).stored h₁, hstored, hkilled⟩⟩
        exact absurd ⟨huid, w.unprotected, w.utf8_uid hP, hstops⟩ hno

/-! ## Runs -/

variable (P) in
/-- What every run from an empty store keeps. -/
structure Running (s : Machine ProvService) : Prop where
  linked : Linked P s
  protecting : s.mem.config.enableWriteProtection = true
  visible : Visible s.disk

theorem FlowExit.visible {code : Option ErrorCode} {t : Machine ProvService}
    (exit : FlowExit P env vin s code t) (hsaves : ∀ n, (env.save n).AllOrNothing)
    (h : Visible s.disk) : Visible t.disk := by
  intro what
  cases exit with
  | uidFailed => exact h what
  | refused => exact h what
  | unencodable => exact h what
  | first =>
      rw [afterFirst_protection]
      exact h what
  | second =>
      rw [afterSecond_protection]
      exact h what
  | readBack =>
      rw [afterSecond_protection]
      exact h what
  | unlocked =>
      rw [afterSecond_protection]
      exact h what
  | lock =>
      rw [afterProtection_protection, afterSecond_protection]
      rcases (hsaves 2).leaves_cases _ (s.disk .protection) with ⟨-, hnew⟩ | ⟨-, hold⟩
      · rw [hnew]
        simp
      · rw [hold]
        exact h what

theorem Effect.visible {c : Call} {t : Machine ProvService} (effect : Effect P s c t)
    (hsaves : c.AllOrNothing) (h : Visible s.disk) : Visible t.disk := by
  cases effect with
  | opened => exact h
  | closed _ hdisk => rwa [hdisk]
  | shutdown => exact h
  | restart => exact h
  | config _ _ _ frame =>
      unfold Visible
      rwa [frame.other _ (by decide)]
  | productionInfo _ _ _ frame =>
      unfold Visible
      rwa [frame.other _ (by decide)]
  | binding call env vin hadm exit => exact exit.visible hsaves h
  | nothing => exact h

theorem running_exec (hP : P.json.Lawful) (c : Call) (s : Machine ProvService)
    (hsaves : c.AllOrNothing) (h : Running P s) : Running P (exec P c s) := by
  refine ⟨linked_exec hP hsaves h.linked, ?_, ?_⟩
  · rw [exec_config hP]
    exact h.protecting
  · rw [exec, settle_disk]
    exact (prog_effect hP c s).visible hsaves h.visible

theorem Effect.keeps_protected (hP : P.json.Lawful) {c : Call} {t : Machine ProvService}
    (effect : Effect P s c t) (hsaves : c.AllOrNothing) (hs : Running P s) (hno : ¬ Gap P c s)
    (h : HoldsBound P s.disk → protectedIn P (s.disk .protection) = true) :
    HoldsBound P t.disk → protectedIn P (t.disk .protection) = true := by
  cases effect with
  | opened => exact h
  | closed _ hdisk => rwa [hdisk]
  | shutdown => exact h
  | restart => exact h
  | config _ _ _ frame =>
      unfold HoldsBound
      rwa [frame.other _ (by decide), frame.other _ (by decide)]
  | productionInfo _ _ _ frame =>
      unfold HoldsBound
      rwa [frame.other _ (by decide), frame.other _ (by decide)]
  | binding call env vin hadm exit =>
      exact exit.keeps_protected hP hs.protecting hsaves (fun hgap ↦ hno ⟨hadm, hgap⟩) h
  | nothing => exact h

theorem restartsLocked_exec_iff (hP : P.json.Lawful) (c : Call) (s : Machine ProvService)
    (hsaves : c.AllOrNothing) (hs : Running P s) (h : RestartsLocked P s.disk) :
    RestartsLocked P (exec P c s).disk ↔ ¬ Gap P c s := by
  have hnext := running_exec hP c s hsaves hs
  have hprotected := (restartsLocked_iff hs.visible).1 h
  rw [restartsLocked_iff hnext.visible, exec, settle_disk]
  constructor
  · intro hafter hgap
    cases c with
    | binding call env vin =>
        obtain ⟨hadm, hgap⟩ := hgap
        rw [Call.prog, coded_state, (run_admitted env hadm).2] at hafter
        have exit := executeVinBindingFlow_exit env s hP
          (VinValidator.utf8_of_validate hadm.valid)
        obtain ⟨hbound, hflag⟩ := exit.of_inGap hP hs.protecting hsaves hgap
        have hon := hafter hbound
        rw [hflag, ← hs.linked hadm.initialized, hgap.2.1] at hon
        cases hon
    | _ => exact hgap
  · intro hno
    exact (prog_effect hP c s).keeps_protected hP hsaves hs hno hprotected

/-- A run from an empty store restarts locked at every point exactly when none of
its calls is in the gap. -/
theorem crash_consistent_iff (hP : P.json.Lawful) {config : ProvServiceConfig}
    (hcfg : config.enableWriteProtection = true) (calls : List Call)
    (hsaves : ∀ c ∈ calls, c.AllOrNothing) :
    Throughout (exec P) (fun s ↦ RestartsLocked P s.disk) calls (fresh config Disk.empty) ↔
      Along (exec P) (fun c s ↦ ¬ Gap P c s) calls (fresh config Disk.empty) := by
  have hstart : Running P (fresh config Disk.empty) := by
    refine ⟨?_, hcfg, ?_⟩
    · intro hinit
      cases hinit
    · intro what h
      cases h
  apply throughout_iff_along (running_exec hP) (restartsLocked_exec_iff hP) hsaves hstart
  rintro ⟨binding, hread, -⟩
  cases hread

theorem crash_consistent_sample :
    Throughout (exec textPlatform) (fun s ↦ RestartsLocked textPlatform s.disk)
      [.initializeService sampleEnv, .binding .writeVin sampleEnv sampleVin]
      (fresh {} Disk.empty) := by
  refine (crash_consistent_iff textPlatform_lawful rfl _ ?_).2 ⟨id, ?_, trivial⟩
  · simp [Call.AllOrNothing, sampleEnv, SaveOutcome.AllOrNothing]
  · rintro ⟨-, -, -, -, -, hsave | ⟨-, hsave, -⟩⟩
    · cases hsave
    · exact hsave rfl

def killedEnv : Env :=
  { uid := .ofUid sampleUid, save := fun n ↦ if n = 1 then .killedAfter else .stored }

theorem killedEnv_disk :
    (run (exec textPlatform) [.initializeService sampleEnv, .binding .writeVin killedEnv sampleVin]
      (fresh {} Disk.empty)).disk =
      (executeVinBindingFlow textPlatform killedEnv sampleVin (started {})).state.disk := by
  have hadm := admits_started (P := textPlatform) {} validate_sampleVin .writeVin
  rw [run_cons, run_cons, run_nil, exec_initialize_empty {} rfl, exec, settle_disk, Call.prog,
    coded_state, (run_admitted killedEnv hadm).2]

theorem killedEnv_flow :
    HoldsBound textPlatform
        (executeVinBindingFlow textPlatform killedEnv sampleVin (started {})).state.disk ∧
      (executeVinBindingFlow textPlatform killedEnv sampleVin (started {})).state.disk
        .protection = .absent := by
  have hsaves : ∀ n, (killedEnv.save n).AllOrNothing := by
    intro n
    by_cases h : n = 1 <;> simp [killedEnv, h, SaveOutcome.AllOrNothing]
  have hgap : InGap killedEnv (started {}) := ⟨rfl, rfl, utf8_sampleUid, rfl, .inl rfl⟩
  have exit := executeVinBindingFlow_exit killedEnv (started {}) textPlatform_lawful
    (VinValidator.utf8_of_validate validate_sampleVin)
  exact exit.of_inGap textPlatform_lawful rfl hsaves hgap

theorem starts_unprotected {disk : Disk} (h : disk .protection = .absent) :
    (initializeService P sampleEnv (fresh {} disk)).val = some .success ∧
      (initializeService P sampleEnv (fresh {} disk)).state.mem.storage.writeProtected =
        false := by
  have hopen : Opens sampleEnv disk := by
    refine ⟨rfl, fun what hwhat ↦ ?_⟩
    rw [h] at hwhat
    cases hwhat
  obtain ⟨hval, hstate⟩ := initializeService_opened P sampleEnv (fresh {} disk) rfl hopen
  refine ⟨hval, ?_⟩
  rw [hstate]
  change protectedIn P (disk .protection) = false
  rw [h]
  rfl

/-- A kill during the first write leaves a bound record, and the service that starts
on it is not protected. -/
theorem killed_between_saves :
    HoldsBound textPlatform (run (exec textPlatform)
        [.initializeService sampleEnv, .binding .writeVin killedEnv sampleVin]
        (fresh {} Disk.empty)).disk ∧
      (initializeService textPlatform sampleEnv (fresh {} (run (exec textPlatform)
        [.initializeService sampleEnv, .binding .writeVin killedEnv sampleVin]
        (fresh {} Disk.empty)).disk)).val = some .success ∧
      (initializeService textPlatform sampleEnv (fresh {} (run (exec textPlatform)
        [.initializeService sampleEnv, .binding .writeVin killedEnv sampleVin]
        (fresh {} Disk.empty)).disk)).state.mem.storage.writeProtected = false := by
  rw [killedEnv_disk]
  exact ⟨killedEnv_flow.1, starts_unprotected killedEnv_flow.2⟩

end TboxProv.ProvService
