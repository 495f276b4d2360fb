import TboxProv.Correspondence

/-!
# The SN and the UID apart

`read_binding` shows two identifiers of the device.  The UID is the one that was read
when the stored binding was written, the SN the one that the provider returns now.
Neither is ever put in the other's place, in no run.
-/

namespace TboxProv.ProvService

open Crash Store

variable (P : Platform)

/-- The UID of the last call whose binding save took effect. -/
def LatestUid (calls : List Call) (s : Machine ProvService) (uid : Bytes) : Prop :=
  ∃ before call env vin after, calls = before ++ .binding call env vin :: after ∧
    uid = env.uid.uid ∧ (Call.binding call env vin).Stores P (run (exec P) before s) ∧
    Along (exec P) (fun c s ↦ ¬ c.Stores P s) after
      (exec P (.binding call env vin) (run (exec P) before s))

/-- The same outside, but for the UID that is read. -/
structure SameButUid (env env' : Env) : Prop where
  rest : env' = { env with uid := { env.uid with uid := env'.uid.uid } }
  utf8 : env.Utf8
  utf8' : env'.Utf8

/-- The same outside, but for the result of the SN provider. -/
def SameButSn (env env' : Env) : Prop := env' = { env with sn := env'.sn }

def reached (config : ProvServiceConfig) (calls : List Call) : Machine ProvService :=
  run (exec P) calls (fresh config Disk.empty)

/-- Where the SN and the UID come from, and that neither depends on the other. -/
structure Isolated (config : ProvServiceConfig) (calls : List Call) : Prop where
  shown (env : Env) : (reached P config calls).mem.initialized = true →
    (bindingIn P ((reached P config calls).disk .binding)).isSome →
      ∃ binding, (readBinding P env (reached P config calls)).val = some binding ∧
        binding.sn = (if env.sn.success then env.sn.sn else []) ∧
        LatestUid P calls (fresh config Disk.empty) binding.ecuUid
  uids (calls' : List Call) : List.Forall₂ (Call.Rel SameButUid Eq) calls calls' →
    ∀ env env', SameButUid env env' →
      (readBinding P env' (reached P config calls')).val.map (·.sn) =
        (readBinding P env (reached P config calls)).val.map (·.sn)
  sns (calls' : List Call) : List.Forall₂ (Call.Rel SameButSn Eq) calls calls' →
    reached P config calls' = reached P config calls ∧
      ∀ env env', SameButSn env env' →
        (readBinding P env' (reached P config calls')).val.map (fun b ↦ (b.vin, b.ecuUid)) =
          (readBinding P env (reached P config calls)).val.map (fun b ↦ (b.vin, b.ecuUid))
  unwritten (binding : VehicleBinding) :
    bindingIn P ((reached P config calls).disk .binding) = some binding → binding.sn = []

variable {P} {config : ProvServiceConfig} {calls calls' : List Call} {s t : Machine ProvService}

/-! ## The latest UID -/

/-- A stored binding comes from the last call that stored one, or was there before. -/
theorem latestUid_or_old (hP : P.json.Lawful) (hnever : ∀ c ∈ calls, c.NeverInvents P)
    {binding : VehicleBinding}
    (hread : bindingIn P ((run (exec P) calls s).disk .binding) = some binding) :
    LatestUid P calls s binding.ecuUid ∨
      Along (exec P) (fun c s ↦ ¬ c.Stores P s) calls s ∧
        bindingIn P (s.disk .binding) = some binding := by
  induction calls generalizing s with
  | nil => exact .inr ⟨trivial, hread⟩
  | cons c calls ih =>
      have hrest : ∀ c ∈ calls, c.NeverInvents P :=
        fun c' hc' ↦ hnever c' (List.mem_cons_of_mem c hc')
      rcases ih hrest hread with hlatest | ⟨halong, hold⟩
      · obtain ⟨before, call, env, vin, after, rfl, huid, hstores, hafter⟩ := hlatest
        exact .inl ⟨c :: before, call, env, vin, after, rfl, huid, hstores, hafter⟩
      by_cases hstores : c.Stores P s
      · cases c with
        | binding call env vin =>
            obtain ⟨record, hrecord, his⟩ := exec_stores hP hstores
            rw [hrecord, Option.some.injEq] at hold
            subst hold
            exact .inl ⟨[], call, env, vin, calls, rfl, his.fields.2, hstores, halong⟩
        | _ => exact hstores.elim
      · exact .inr ⟨⟨hstores, halong⟩, exec_old hP (hnever c List.mem_cons_self) hstores hold⟩

theorem latestUid_of_stored (hP : P.json.Lawful) (hnever : ∀ c ∈ calls, c.NeverInvents P)
    {binding : VehicleBinding}
    (hread : bindingIn P ((reached P config calls).disk .binding) = some binding) :
    LatestUid P calls (fresh config Disk.empty) binding.ecuUid := by
  rcases latestUid_or_old hP hnever hread with hlatest | ⟨-, hold⟩
  · exact hlatest
  · cases hold

/-! ## Runs that differ in the UIDs -/

theorem identifiers_any : Identifiers P (fun _ _ ↦ True) Eq (fun _ _ ↦ True) where
  vin_eq_iff h h' := by rw [h, h']
  vin_valid h := by rw [h]
  vin_hash h := by rw [h]
  uid_line _ _ := trivial

theorem SameButUid.corresponds {env env' : Env} (h : SameButUid env env') :
    env.Corresponds (fun _ _ ↦ True) env' := by
  have hsave : env'.save = env.save := by rw [h.rest]
  obtain ⟨hrest, -, -⟩ := h
  refine ⟨?_, fun _ ↦ trivial, ?_, ?_, ?_, fun n ↦ ?_, ?_⟩
  case refine_5 =>
    rw [hsave]
    exact .same _
  all_goals rw [hrest]

/-- Where the saves have the same outcomes, none of them makes up a record in either run. -/
theorem SameButUid.corresponds_call {c c' : Call} (h : c.Rel SameButUid Eq c')
    (hnever : c.NeverInvents P) : c.Corresponds P Eq (fun _ _ ↦ True) c' := by
  refine ⟨h.mono (fun _ _ ↦ corresponds) fun _ _ ↦ id, ?_, hnever, ?_⟩
  · cases h with
    | binding call henv =>
        show _ = _
        rw [henv.rest]
    | writeVehicleConfig henv | writeProductionInfo henv =>
        show _ = _
        rw [henv.rest]
    | _ => trivial
  · cases h with
    | binding call henv =>
        intro n
        rw [henv.rest]
        exact hnever n
    | _ => trivial

theorem SameButUid.step {c c' : Call} (hP : P.json.Lawful) (h : c.Rel SameButUid Eq c')
    (hnever : c.NeverInvents P) (hS : s.Corresponds P Eq (fun _ _ ↦ True) t) :
    Matches (fun _ _ ↦ True) (Machine.Corresponds P Eq (fun _ _ ↦ True)) Eq
      (c.prog P s) (c'.prog P t) := by
  refine prog_matches .all identifiers_any hP (corresponds_call h hnever) hS ?_
  cases h with
  | binding call h =>
      exact ⟨fun _ _ _ _ ↦ trivial, fun _ _ _ ↦ trivial, fun _ _ ↦ ⟨h.utf8, h.utf8'⟩⟩
  | readVin | readBinding | getProvisionState => exact fun _ ↦ trivial
  | _ => trivial

theorem reached_corresponds (hP : P.json.Lawful) (hnever : ∀ c ∈ calls, c.NeverInvents P)
    (h : List.Forall₂ (Call.Rel SameButUid Eq) calls calls') :
    (reached P config calls).Corresponds P Eq (fun _ _ ↦ True) (reached P config calls') := by
  have hstart : (fresh config Disk.empty).Corresponds P Eq (fun _ _ ↦ True)
      (fresh config Disk.empty) := ⟨rfl, fun _ _ ↦ rfl, .none⟩
  have hboth := (List.forall₂_and_left calls calls').2 ⟨hnever, h⟩
  exact (runs_match .all (fun _ _ ↦ restarted_corresponds)
    (fun c c' s t hc hS _ ↦ SameButUid.step hP hc.2 hc.1 hS) hboth hstart
      (.of_forall (fun _ _ _ _ ↦ trivial) _ _ _ _)).2

/-- Corresponding services show the same SN. -/
theorem shownBinding_sn {env env' : Env} (henv : env'.sn = env.sn)
    (hS : s.Corresponds P Eq (fun _ _ ↦ True) t) :
    (shownBinding P env' t).sn = (shownBinding P env s).sn := by
  unfold shownBinding
  rw [hS.mem]
  have hbinding := hS.binding
  cases hinit : s.mem.initialized with
  | false => rfl
  | true =>
      generalize bindingIn P (s.disk .binding) = stored,
        bindingIn P (t.disk .binding) = stored' at hbinding
      cases hbinding with
      | none => rfl
      | @some binding binding' h =>
          have hsn : binding'.sn = binding.sn := by rw [h.rest]
          simp only [if_true, Option.elim_some, withSn, hsn, henv]
          split
          · rfl
          · exact hsn

/-! ## Runs that differ in the SNs -/

theorem exec_readBinding (env : Env) (s : Machine ProvService) :
    exec P (.readBinding env) s = s := by
  refine exec_eq ?_ ?_
  · simp [Call.prog, uncoded, readBinding_val]
  · rw [Call.prog, uncoded_state, readBinding_state]

/-- What the SN provider returns does not enter the state. -/
theorem exec_sameButSn {c c' : Call} (h : c.Rel SameButSn Eq c') (s : Machine ProvService) :
    exec P c' s = exec P c s := by
  cases h with
  | initializeService h =>
      rw [h]
      rfl
  | binding call h hvin =>
      rw [h, ← hvin]
      cases call <;> rfl
  | writeVehicleConfig h =>
      rw [h]
      rfl
  | writeProductionInfo h =>
      rw [h]
      rfl
  | readBinding => rw [exec_readBinding, exec_readBinding]
  | beginShutdown | readVin | getProvisionState | isInitialized | restart => rfl

theorem reached_sameButSn (h : List.Forall₂ (Call.Rel SameButSn Eq) calls calls') :
    reached P config calls' = reached P config calls := by
  unfold reached
  generalize fresh config Disk.empty = s
  induction h generalizing s with
  | nil => rfl
  | cons hc _ ih => rw [run_cons, run_cons, exec_sameButSn hc, ih]

theorem shownBinding_identity (env env' : Env) (s : Machine ProvService) :
    (shownBinding P env' s).vin = (shownBinding P env s).vin ∧
      (shownBinding P env' s).ecuUid = (shownBinding P env s).ecuUid := by
  unfold shownBinding
  cases s.mem.initialized with
  | false => exact ⟨rfl, rfl⟩
  | true =>
      cases bindingIn P (s.disk .binding) with
      | none => exact ⟨rfl, rfl⟩
      | some binding =>
          obtain ⟨hvin, huid⟩ := withSn_fields env binding
          obtain ⟨hvin', huid'⟩ := withSn_fields env' binding
          exact ⟨hvin'.trans hvin.symm, huid'.trans huid.symm⟩

/-! ## Isolation -/

/-- In every run the SN that an initialized service shows is the provider's, and the UID
that of the latest stored call. -/
theorem sn_uid_isolated (hP : P.json.Lawful) (config : ProvServiceConfig)
    (hnever : ∀ c ∈ calls, c.NeverInvents P) : Isolated P config calls := by
  have hencodable : Encodable P (reached P config calls).disk := run_encodable hP config hnever
  refine ⟨fun env hinit hstored ↦ ?_, fun calls' h env env' henv ↦ ?_, fun calls' h ↦ ?_,
    fun binding hread ↦ (hencodable binding hread).1⟩
  · obtain ⟨binding, hread⟩ := Option.isSome_iff_exists.1 hstored
    have hempty := (hencodable binding hread).1
    refine ⟨_, readBinding_val P env _, ?_, ?_⟩
    · simp only [shownBinding, hinit, hread, if_true, Option.elim_some, withSn, hempty, true_and]
      split
      · rfl
      · exact hempty
    · have hshown : (shownBinding P env (reached P config calls)).ecuUid = binding.ecuUid := by
        simp only [shownBinding, hinit, hread, if_true, Option.elim_some]
        exact (withSn_fields env binding).2
      rw [hshown]
      exact latestUid_of_stored hP hnever hread
  · have hsn : env'.sn = env.sn := by rw [henv.rest]
    rw [readBinding_val, readBinding_val, Option.map_some, Option.map_some,
      shownBinding_sn hsn (reached_corresponds hP hnever h)]
  · refine ⟨reached_sameButSn h, fun env env' _ ↦ ?_⟩
    obtain ⟨hvin, huid⟩ := shownBinding_identity (P := P) env env' (reached P config calls)
    rw [reached_sameButSn h, readBinding_val, readBinding_val, Option.map_some, Option.map_some,
      hvin, huid]

theorem sn_uid_isolated_sample :
    Isolated textPlatform {} [.initializeService sampleEnv, .binding .writeVin sampleEnv sampleVin,
      .restart, .initializeService sampleEnv] := by
  apply sn_uid_isolated textPlatform_lawful {}
  simp [Call.NeverInvents, NeverInvents, sampleEnv]

def snEnv : Env := { sampleEnv with sn := { sn := bytes "SN-0001", success := true } }

theorem shownBinding_restarted (env : Env) (s : Machine ProvService) :
    shownBinding P env (restarted s) = {} := rfl

/-- After a restart, and before `initialize`, the SN is not shown although a binding is
stored. -/
theorem sn_not_shown :
    (bindingIn textPlatform ((reached textPlatform {} [.initializeService sampleEnv,
        .binding .writeVin sampleEnv sampleVin, .restart]).disk .binding)).isSome ∧
      (readBinding textPlatform snEnv (reached textPlatform {} [.initializeService sampleEnv,
        .binding .writeVin sampleEnv sampleVin, .restart])).val.map (·.sn) ≠
          some snEnv.sn.sn := by
  have hstate : reached textPlatform {} [.initializeService sampleEnv,
      .binding .writeVin sampleEnv sampleVin, .restart] = restarted (firstBinding {}) := by
    rw [reached, run_cons, run_cons, run_cons, run_nil, exec_restart, firstBinding, run_cons,
      run_cons, run_nil]
  rw [hstate, restarted_disk, (firstBinding_boundBy {}).binding, readBinding_val,
    shownBinding_restarted]
  exact ⟨rfl, by decide⟩

end TboxProv.ProvService
