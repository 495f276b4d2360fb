import TboxProv.Device

/-!
# What a device keeps

Results about every list of requests to a device, wherever the transactions are cut: a
record is never lost, every record comes from a request, and a locked device is bound.
-/

namespace TboxProv

open Crash

namespace Device

/-- Nothing that was there is gone. -/
structure Kept (d d' : Device) : Prop where
  binding : d.binding.isSome → d'.binding.isSome
  config : d.config.isSome → d'.config.isSome
  productionInfo : d.productionInfo.isSome → d'.productionInfo.isSome
  locked : d.locked = true → d'.locked = true

theorem Kept.refl (d : Device) : Kept d d := ⟨id, id, id, id⟩

theorem Kept.trans {d d' d'' : Device} (h : Kept d d') (h' : Kept d' d'') : Kept d d'' :=
  ⟨h'.binding ∘ h.binding, h'.config ∘ h.config, h'.productionInfo ∘ h.productionInfo,
    h'.locked ∘ h.locked⟩

theorem apply_kept (edit : Edit) (d : Device) : Kept d (apply edit d) := by
  cases edit with
  | bind record => exact ⟨fun _ ↦ rfl, id, id, id⟩
  | configure record => exact ⟨id, fun _ ↦ rfl, id, id⟩
  | label record => exact ⟨id, id, fun _ ↦ rfl, id⟩
  | lock => exact ⟨id, id, id, fun _ ↦ rfl⟩

/-! ## Sources -/

/-- A binding record that one of the requests accounts for. -/
def BindingFrom (all : List Request) (record : VehicleBinding) : Prop :=
  ∃ rewrite vin uid boundAt rewrittenAt fate,
    Request.bind rewrite vin uid boundAt rewrittenAt fate ∈ all ∧ VinGrammar.IsVin vin ∧
      uid.success = true ∧ (record.state = .vinWritten ∨ record.state = .bound) ∧
      record = { vin, ecuUid := uid.uid, state := record.state, boundAt := wholeSeconds boundAt,
                 rewriteCount := record.rewriteCount, lastRewriteAt := record.lastRewriteAt }

def ConfigFrom (all : List Request) (record : VehicleConfig) : Prop :=
  ∃ data writtenAt fate, Request.configure data writtenAt fate ∈ all ∧
    record = { variantCoding := data, writtenAt := wholeSeconds writtenAt,
               verified := record.verified }

def InfoFrom (all : List Request) (record : ProductionInfo) : Prop :=
  ∃ info writtenAt fate, Request.label info writtenAt fate ∈ all ∧
    record = { info with writtenAt := wholeSeconds writtenAt }

/-- Every record of the device comes from one of the requests, and the lock is wanted. -/
structure Sourced (protecting : Bool) (all : List Request) (d : Device) : Prop where
  binding : ∀ record, d.binding = some record → BindingFrom all record
  config : ∀ record, d.config = some record → ConfigFrom all record
  productionInfo : ∀ record, d.productionInfo = some record → InfoFrom all record
  locked : d.locked = true → protecting = true

theorem sourced_empty (protecting : Bool) (all : List Request) : Sourced protecting all {} := by
  constructor
  all_goals
    intros
    contradiction

def EditFrom (protecting : Bool) (all : List Request) : Edit → Prop
  | .bind record => BindingFrom all record
  | .configure record => ConfigFrom all record
  | .label record => InfoFrom all record
  | .lock => protecting = true

theorem Sourced.apply {protecting : Bool} {all : List Request} {edit : Edit} {d : Device}
    (hedit : EditFrom protecting all edit) (h : Sourced protecting all d) :
    Sourced protecting all (apply edit d) := by
  cases edit with
  | bind new =>
      refine ⟨fun record hrecord ↦ ?_, h.config, h.productionInfo, h.locked⟩
      rw [← Option.some.inj hrecord]
      exact hedit
  | configure new =>
      refine ⟨h.binding, fun record hrecord ↦ ?_, h.productionInfo, h.locked⟩
      rw [← Option.some.inj hrecord]
      exact hedit
  | label new =>
      refine ⟨h.binding, h.config, fun record hrecord ↦ ?_, h.locked⟩
      rw [← Option.some.inj hrecord]
      exact hedit
  | lock => exact ⟨h.binding, h.config, h.productionInfo, fun _ ↦ hedit⟩

section Record

variable (d : Device) (vin ecuUid : Bytes) (boundAt rewrittenAt : TimePoint)
  (state : ProvisionState)

theorem record_fields :
    (d.record vin ecuUid boundAt rewrittenAt state).vin = vin ∧
      (d.record vin ecuUid boundAt rewrittenAt state).state = state := by
  unfold record
  cases d.binding with
  | none => exact ⟨rfl, rfl⟩
  | some old => by_cases hvin : old.vin = vin <;> simp [hvin]

theorem record_eq :
    d.record vin ecuUid boundAt rewrittenAt state =
      { vin, ecuUid, state, boundAt := wholeSeconds boundAt,
        rewriteCount := (d.record vin ecuUid boundAt rewrittenAt state).rewriteCount,
        lastRewriteAt := (d.record vin ecuUid boundAt rewrittenAt state).lastRewriteAt } := by
  unfold record
  cases d.binding with
  | none => rfl
  | some old => by_cases hvin : old.vin = vin <;> simp [hvin]

/-- The count is at most one more than the one of the record before. -/
theorem record_count {n : ℕ}
    (h : ∀ old, d.binding = some old → old.rewriteCount.toNat + 1 ≤ n) :
    (d.record vin ecuUid boundAt rewrittenAt state).rewriteCount.toNat ≤ n := by
  unfold record
  cases hbinding : d.binding with
  | none => exact Nat.zero_le n
  | some old =>
      have hold := h old hbinding
      by_cases hvin : old.vin = vin
      · have hwrap : (old.rewriteCount + 1).toNat ≤ old.rewriteCount.toNat + 1 := by
          rw [UInt32.toNat_add]
          exact Nat.mod_le _ _
        simpa [hvin] using hwrap.trans hold
      · simp [hvin]

end Record

end Device

namespace Provisioner

open Device

variable (protecting : Bool)

def next (request : Request) (s : Provisioner) : Provisioner := (step protecting request s).2

/-! ## What one request can do -/

/-- The requests that get as far as their transaction. -/
inductive Transacts (s : Provisioner) :
    Request → List (Stage Edit ErrorCode) → (ℕ → Fate) → Prop where
  | bind {rewrite : Bool} {vin : Bytes} {uid : UidReadResult} {boundAt rewrittenAt : TimePoint}
      {fate : ℕ → Fate} (h : s.bindRefusal rewrite vin uid = none) :
      Transacts s (.bind rewrite vin uid boundAt rewrittenAt fate)
        (bindStages protecting (s.device.record vin uid.uid boundAt rewrittenAt .vinWritten)
          (s.device.record vin uid.uid boundAt rewrittenAt .bound)) fate
  | configure {data : List UInt8} {writtenAt : TimePoint} {fate : ℕ → Fate}
      (h : s.writeRefusal = none) :
      Transacts s (.configure data writtenAt fate) (configureStages data writtenAt) fate
  | label {info : ProductionInfo} {writtenAt : TimePoint} {fate : ℕ → Fate}
      (h : s.labelRefusal info = none) :
      Transacts s (.label info writtenAt fate) (labelStages info writtenAt) fate

variable {protecting} {s : Provisioner} {request : Request}

theorem transact_device (stages : List (Stage Edit ErrorCode)) (fate : ℕ → Fate) :
    (s.transact stages fate).2.device =
      (perform Device.apply ErrorCode.success stages fate s.device).2 := by
  unfold transact
  rcases perform Device.apply ErrorCode.success stages fate s.device with ⟨_ | code, device⟩ <;> rfl

variable (protecting s request) in
/-- A request leaves the device alone or runs its transaction. -/
theorem next_device :
    (next protecting request s).device = s.device ∨
      ∃ stages fate, Transacts protecting s request stages fate ∧
        (next protecting request s).device =
          (perform Device.apply ErrorCode.success stages fate s.device).2 := by
  cases request with
  | bind rewrite vin uid boundAt rewrittenAt fate =>
      simp only [next, step, refuseOr]
      cases hrefusal : s.bindRefusal rewrite vin uid with
      | some code => exact .inl rfl
      | none => exact .inr ⟨_, _, .bind hrefusal, transact_device _ _⟩
  | configure data writtenAt fate =>
      simp only [next, step, refuseOr]
      cases hrefusal : s.writeRefusal with
      | some code => exact .inl rfl
      | none => exact .inr ⟨_, _, .configure hrefusal, transact_device _ _⟩
  | label info writtenAt fate =>
      simp only [next, step, refuseOr]
      cases hrefusal : s.labelRefusal info with
      | some code => exact .inl rfl
      | none => exact .inr ⟨_, _, .label hrefusal, transact_device _ _⟩
  | start available =>
      left
      simp only [next, step]
      split_ifs <;> rfl
  | close | readVin | readBinding | readState | isUp | powerCycle => exact .inl rfl

theorem bindRefusal_none {rewrite : Bool} {vin : Bytes} {uid : UidReadResult}
    (h : s.bindRefusal rewrite vin uid = none) :
    VinGrammar.IsVin vin ∧ uid.success = true ∧ s.device.locked = false := by
  unfold bindRefusal at h
  split_ifs at h with hsession hvin hconflict huid hwritable
  rw [not_or] at hwritable
  exact ⟨hvin, by simpa using huid, by simpa using hwritable.1⟩

/-! ## Nothing is lost -/

theorem next_kept (request : Request) (s : Provisioner) :
    Kept s.device (next protecting request s).device := by
  rcases next_device protecting s request with hsame | ⟨stages, fate, -, hperform⟩
  · rw [hsame]
    exact Kept.refl s.device
  · rw [hperform]
    exact perform_keeps Kept.refl Kept.trans fun stage _ d ↦ apply_kept stage.edit d

variable (protecting) in
theorem run_kept (requests : List Request) (s : Provisioner) :
    Kept s.device (run (next protecting) requests s).device := by
  have hinv : ∀ (request : Request) (t : Provisioner), True → Kept s.device t.device →
      Kept s.device (next protecting request t).device :=
    fun request t _ h ↦ h.trans (next_kept request t)
  exact run_invariant hinv (fun _ _ ↦ trivial) (Kept.refl s.device)

/-! ## Nothing is invented -/

theorem Transacts.editFrom {all : List Request} {stages : List (Stage Edit ErrorCode)}
    {fate : ℕ → Fate} (h : Transacts protecting s request stages fate) (hmem : request ∈ all) :
    ∀ stage ∈ stages, EditFrom protecting all stage.edit := by
  cases h with
  | @bind rewrite vin uid boundAt rewrittenAt fate hrefusal =>
      obtain ⟨hvin, huid, -⟩ := bindRefusal_none hrefusal
      have hrecord : ∀ state, state = .vinWritten ∨ state = .bound →
          BindingFrom all (s.device.record vin uid.uid boundAt rewrittenAt state) := by
        intro state hstate
        obtain ⟨-, hsame⟩ :=
          record_fields s.device vin uid.uid boundAt rewrittenAt state
        refine ⟨rewrite, vin, uid, boundAt, rewrittenAt, fate, hmem, hvin, huid, ?_, ?_⟩
        · rw [hsame]
          exact hstate
        · rw [hsame]
          exact record_eq s.device vin uid.uid boundAt rewrittenAt state
      intro stage hstage
      rw [bindStages_eq] at hstage
      rcases List.mem_cons.1 hstage with rfl | hstage
      · exact hrecord .vinWritten (.inl rfl)
      rcases List.mem_cons.1 hstage with rfl | hstage
      · exact hrecord .bound (.inr rfl)
      cases protecting with
      | false => cases hstage
      | true =>
          obtain rfl := List.mem_singleton.1 hstage
          rfl
  | configure =>
      intro stage hstage
      simp only [configureStages, List.mem_cons, List.not_mem_nil, or_false] at hstage
      rcases hstage with rfl | rfl <;> exact ⟨_, _, _, hmem, rfl⟩
  | label =>
      intro stage hstage
      obtain rfl := List.mem_singleton.1 hstage
      exact ⟨_, _, _, hmem, rfl⟩

theorem next_sourced {all : List Request} (request : Request) (s : Provisioner)
    (hmem : request ∈ all) (h : Sourced protecting all s.device) :
    Sourced protecting all (next protecting request s).device := by
  rcases next_device protecting s request with hsame | ⟨stages, fate, htransacts, hperform⟩
  · rw [hsame]
    exact h
  · rw [hperform]
    have hedits := htransacts.editFrom hmem
    exact perform_keeps
      (R := fun d d' ↦ Sourced protecting all d → Sourced protecting all d') (fun _ h ↦ h)
      (fun h h' hd ↦ h' (h hd)) (fun stage hstage _ hd ↦ hd.apply (hedits stage hstage)) h

variable (protecting) in
theorem run_sourced (requests : List Request) {s : Provisioner} (h : s.device = {}) :
    Sourced protecting requests (run (next protecting) requests s).device := by
  have hstart : Sourced protecting requests s.device := by
    rw [h]
    exact sourced_empty protecting requests
  have hinv : ∀ request (t : Provisioner), request ∈ requests →
      Sourced protecting requests t.device →
        Sourced protecting requests (next protecting request t).device :=
    fun request t hmem ht ↦ next_sourced request t hmem ht
  exact run_invariant hinv (fun _ hmem ↦ hmem) hstart

/-! ## Counting -/

def Counted (n : ℕ) (d : Device) : Prop :=
  ∀ record, d.binding = some record → record.rewriteCount.toNat + 1 ≤ n

def isBind : Request → Bool
  | .bind .. => true
  | _ => false

theorem Counted.apply {n : ℕ} {d : Device} (h : Counted n d) {edit : Edit}
    (hedit : ∀ record, edit = .bind record → record.rewriteCount.toNat + 1 ≤ n) :
    Counted n (apply edit d) := by
  cases edit with
  | bind new =>
      intro record hrecord
      rw [← Option.some.inj hrecord]
      exact hedit new rfl
  | configure | label | lock => exact h

theorem Transacts.counted {n : ℕ} {stages : List (Stage Edit ErrorCode)} {fate : ℕ → Fate}
    (h : Transacts protecting s request stages fate) (hs : Counted n s.device) :
    ∀ stage ∈ stages, ∀ record, stage.edit = .bind record →
      isBind request = true ∧ record.rewriteCount.toNat ≤ n := by
  cases h with
  | @bind rewrite vin uid boundAt rewrittenAt =>
      intro stage hstage record hrecord
      refine ⟨rfl, ?_⟩
      have hcount := fun state ↦ record_count s.device vin uid.uid boundAt rewrittenAt state hs
      rw [bindStages_eq] at hstage
      rcases List.mem_cons.1 hstage with rfl | hstage
      · rw [← Edit.bind.inj hrecord]
        exact hcount .vinWritten
      rcases List.mem_cons.1 hstage with rfl | hstage
      · rw [← Edit.bind.inj hrecord]
        exact hcount .bound
      cases protecting with
      | false => cases hstage
      | true =>
          obtain rfl := List.mem_singleton.1 hstage
          cases hrecord
  | configure =>
      intro stage hstage record hrecord
      simp only [configureStages, List.mem_cons, List.not_mem_nil, or_false] at hstage
      rcases hstage with rfl | rfl <;> cases hrecord
  | label =>
      intro stage hstage record hrecord
      obtain rfl := List.mem_singleton.1 hstage
      cases hrecord

theorem next_counted {n : ℕ} (request : Request) (s : Provisioner) (h : Counted n s.device) :
    Counted (if isBind request then n + 1 else n) (next protecting request s).device := by
  have hmore : Counted (if isBind request then n + 1 else n) s.device := by
    intro record hrecord
    have hcount := h record hrecord
    split
    · omega
    · exact hcount
  rcases next_device protecting s request with hsame | ⟨stages, fate, htransacts, hperform⟩
  · rw [hsame]
    exact hmore
  · have hedits := htransacts.counted h
    rw [hperform]
    refine perform_keeps (R := fun d d' ↦ Counted (if isBind request then n + 1 else n) d →
      Counted (if isBind request then n + 1 else n) d') (fun _ h ↦ h) (fun h h' hd ↦ h' (h hd))
      (fun stage hstage d hd ↦ hd.apply fun record hrecord ↦ ?_) hmore
    obtain ⟨hbind, hcount⟩ := hedits stage hstage record hrecord
    rw [if_pos hbind]
    omega

variable (protecting) in
/-- A rewrite count is smaller than the number of binding requests. -/
theorem run_counted {n : ℕ} (requests : List Request) {s : Provisioner} (h : Counted n s.device) :
    Counted (n + requests.countP isBind) (run (next protecting) requests s).device := by
  induction requests generalizing n s with
  | nil => exact h
  | cons request requests ih =>
      have hnext : Counted (if isBind request then n + 1 else n)
          (next protecting request s).device := next_counted request s h
      have hrest := ih hnext
      rw [run_cons, List.countP_cons]
      cases hbind : isBind request with
      | true =>
          rw [hbind, if_pos rfl] at hrest
          intro record hrecord
          have hcount := hrest record hrecord
          rw [if_pos rfl]
          omega
      | false =>
          rw [hbind, if_neg Bool.false_ne_true] at hrest
          exact hrest

/-! ## Locked and bound -/

/-- A request whose three edits were made: it bound the record, and then it locked. -/
def LockedWith (all : List Request) (record : VehicleBinding) : Prop :=
  ∃ rewrite vin uid boundAt rewrittenAt fate,
    Request.bind rewrite vin uid boundAt rewrittenAt fate ∈ all ∧ uid.success = true ∧
      VinGrammar.IsVin vin ∧ fate 0 = .done ∧ fate 1 = .done ∧
        (fate 2 = .done ∨ fate 2 = .cutAfter) ∧
      record.vin = vin ∧ record.ecuUid = uid.uid ∧ record.state = .bound

/-- The lock of a device comes with the record that it holds. -/
def LockedBound (all : List Request) (d : Device) : Prop :=
  d.locked = true → ∃ record, d.binding = some record ∧ LockedWith all record

/-- The lock is the last edit of a binding, and the bound record the one before. -/
theorem bindStages_locks {written bound : VehicleBinding} {fate : ℕ → Fate} {d : Device}
    (hopen : d.locked = false) (hlocked : (perform Device.apply ErrorCode.success
      (bindStages protecting written bound) fate d).2.locked = true) :
    (perform Device.apply ErrorCode.success
        (bindStages protecting written bound) fate d).2.binding = some bound ∧
      fate 0 = .done ∧ fate 1 = .done ∧ (fate 2 = .done ∨ fate 2 = .cutAfter) := by
  have hstrict : ∀ stage ∈ bindStages protecting written bound, stage.failure ≠ none := by
    cases protecting <;> simp [bindStages]
  obtain ⟨n, hmade, hfate⟩ : ∃ n, (perform Device.apply ErrorCode.success
      (bindStages protecting written bound) fate d).2 = _ ∧ _ := exists_perform_take hstrict
  rw [hmade] at hlocked ⊢
  rcases n with _ | _ | _ | n
  · exact absurd hlocked (by simp [hopen])
  · exact absurd hlocked (by simp [bindStages, Device.apply, hopen])
  · exact absurd hlocked (by simp [bindStages, Device.apply, hopen])
  have hdone : ∀ i < 2, fate i = .done := by
    intro i hi
    rcases hfate i (by omega) with hdone | ⟨-, hlast⟩
    · exact hdone
    · omega
  refine ⟨?_, hdone 0 (by decide), hdone 1 (by decide), ?_⟩
  · cases protecting <;> simp [bindStages, Device.apply]
  · exact (hfate 2 (by omega)).imp_right And.left

/-- The edits other than a binding's leave record and lock alone. -/
theorem perform_lockedBound {all : List Request} {stages : List (Stage Edit ErrorCode)}
    {fate : ℕ → Fate} {d : Device} (hstages : ∀ stage ∈ stages, ∀ d,
      (apply stage.edit d).locked = d.locked ∧ (apply stage.edit d).binding = d.binding)
    (h : LockedBound all d) :
    LockedBound all (perform Device.apply ErrorCode.success stages fate d).2 := by
  refine perform_keeps (R := fun d d' ↦ LockedBound all d → LockedBound all d') (fun _ h ↦ h)
    (fun h h' hd ↦ h' (h hd)) (fun stage hstage d hd ↦ ?_) h
  obtain ⟨hlocked, hbinding⟩ := hstages stage hstage d
  unfold LockedBound
  rwa [hlocked, hbinding]

theorem next_lockedBound {all : List Request} (request : Request) (s : Provisioner)
    (hmem : request ∈ all) (h : LockedBound all s.device) :
    LockedBound all (next protecting request s).device := by
  rcases next_device protecting s request with hsame | ⟨stages, fate, htransacts, hperform⟩
  · rw [hsame]
    exact h
  rw [hperform]
  cases htransacts with
  | @bind rewrite vin uid boundAt rewrittenAt fate hrefusal =>
      obtain ⟨hvin, huid, hopen⟩ := bindRefusal_none hrefusal
      intro hlocked
      obtain ⟨hbinding, hfate₀, hfate₁, hfate₂⟩ := bindStages_locks hopen hlocked
      refine ⟨_, hbinding, rewrite, vin, uid, boundAt, rewrittenAt, fate, hmem, huid, hvin, hfate₀,
        hfate₁, hfate₂, ?_⟩
      rw [record_eq]
      exact ⟨rfl, rfl, rfl⟩
  | configure hrefusal =>
      refine perform_lockedBound (fun stage hstage d ↦ ?_) h
      simp only [configureStages, List.mem_cons, List.not_mem_nil, or_false] at hstage
      rcases hstage with rfl | rfl <;> exact ⟨rfl, rfl⟩
  | label hrefusal =>
      refine perform_lockedBound (fun stage hstage d ↦ ?_) h
      obtain rfl := List.mem_singleton.1 hstage
      exact ⟨rfl, rfl⟩

variable (protecting) in
theorem run_lockedBound (requests : List Request) {s : Provisioner} (h : s.device = {}) :
    LockedBound requests (run (next protecting) requests s).device := by
  have hstart : LockedBound requests s.device := by
    intro hlocked
    rw [h] at hlocked
    cases hlocked
  have hinv : ∀ request (t : Provisioner), request ∈ requests → LockedBound requests t.device →
      LockedBound requests (next protecting request t).device :=
    fun request t hmem ht ↦ next_lockedBound request t hmem ht
  exact run_invariant hinv (fun _ hmem ↦ hmem) hstart

theorem bindStages_made (written bound : VehicleBinding) (d : Device) :
    ((bindStages protecting written bound).foldl (fun d stage ↦ apply stage.edit d) d).binding =
      some bound := by
  cases protecting <;> rfl

variable (protecting s) in
/-- From wherever it is, a device that is not locked can be bound after a power cycle. -/
theorem bind_after_powerCycle {vin : Bytes} {uid : UidReadResult}
    (boundAt rewrittenAt : TimePoint) {fate : ℕ → Fate} (hopen : s.device.locked = false)
    (hvin : VinGrammar.IsVin vin) (huid : uid.success = true) (hutf8 : Utf8 uid.uid)
    (hfate : ∀ n, fate n = .done) :
    let t := trace (step protecting)
      [.powerCycle, .start true, .bind false vin uid boundAt rewrittenAt fate] s
    t.1 = [none, some (.code .success), some (.code .success)] ∧ t.2.up = true ∧
      ∃ record, t.2.device.binding = some record ∧ record.vin = vin ∧
        record.ecuUid = uid.uid ∧ record.state = .bound := by
  have hrefusal : ({ device := s.device, up := true } : Provisioner).bindRefusal false vin uid =
      none := by
    simp [bindRefusal, hvin, huid, hopen, hutf8]
  have hrecord := record_eq s.device vin uid.uid boundAt rewrittenAt .bound
  intro t
  have ht : t = trace (step protecting)
    [.powerCycle, .start true, .bind false vin uid boundAt rewrittenAt fate] s := rfl
  simp only [trace_cons, trace_nil, step, Bool.false_eq_true, if_false, if_true, hrefusal,
    refuseOr, transact, perform_all_done hfate] at ht
  rw [ht]
  refine ⟨rfl, rfl, _, bindStages_made _ _ _, ?_⟩
  rw [hrecord]
  exact ⟨rfl, rfl, rfl⟩

end Provisioner

end TboxProv
