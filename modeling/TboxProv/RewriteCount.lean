import TboxProv.Runs

/-!
# Counting rewrites

`establish_binding` recomputes the counter from the record it finds: one more when
that record has the same VIN, zero when it has another.  So the counter follows the
repetitions of one VIN, and a change of the VIN resets it.
-/

namespace TboxProv.ProvService

open Crash Store

variable {P : Platform} {env : Env} {vin : Bytes} {s : Machine ProvService}

/-! ## The next count -/

variable (P vin s) in
/-- The count that the next record of the VIN will carry. -/
def nextCount : UInt32 :=
  match bindingIn P (s.disk .binding) with
  | some old => if old.vin = vin then old.rewriteCount + 1 else 0
  | none => 0

theorem writtenRecord_rewriteCount :
    (writtenRecord P env vin s).rewriteCount = nextCount P vin s := by
  unfold writtenRecord newBinding nextCount
  cases bindingIn P (s.disk .binding) with
  | none => rfl
  | some old => by_cases hvin : old.vin = vin <;> simp [hvin]

theorem boundRecord_rewriteCount :
    (boundRecord P env vin s).reread.rewriteCount = nextCount P vin s :=
  writtenRecord_rewriteCount

theorem nextCount_same {old : VehicleBinding} (hold : bindingIn P (s.disk .binding) = some old)
    (hvin : old.vin = vin) : nextCount P vin s = old.rewriteCount + 1 := by
  simp [nextCount, hold, hvin]

theorem nextCount_other {old : VehicleBinding}
    (hold : bindingIn P (s.disk .binding) = some old) (hvin : old.vin ≠ vin) :
    nextCount P vin s = 0 := by
  simp [nextCount, hold, hvin]

/-! ## Rewrites -/

structure Rewrite where
  call : BindingCall
  env : Env
  vin : Bytes

namespace Rewrite

def toCall (r : Rewrite) : Call := .binding r.call r.env r.vin

variable (P) (r : Rewrite) (s : Machine ProvService)

def after : Machine ProvService := exec P r.toCall s

def Succeeds : Prop := r.toCall.returned P s = some .success

/-- The counter does not go back, and a rewrite to another VIN adds one. -/
def Counted : Prop :=
  ∀ old new, bindingIn P (s.disk .binding) = some old →
    bindingIn P ((r.after P s).disk .binding) = some new →
      old.rewriteCount ≤ new.rewriteCount ∧
        (r.call = .authorizeRewrite → r.vin ≠ old.vin →
          new.rewriteCount.toNat = old.rewriteCount.toNat + 1)

/-- The VIN stays the same and the counter is below its limit, or there is nothing to lose
in a `write_vin` of another VIN. -/
def Countable : Prop :=
  ∀ old, bindingIn P (s.disk .binding) = some old →
    if r.env.uid.success = true then
      r.vin = old.vin ∧ old.rewriteCount.toNat + 1 < 2 ^ 32 ∨
        r.vin ≠ old.vin ∧ r.call = .writeVin ∧ old.rewriteCount = 0
    else r.vin ≠ old.vin → r.call = .writeVin

end Rewrite

variable {r : Rewrite}

theorem BindingCall.ne_authorizeRewrite (call : BindingCall) :
    call ≠ .authorizeRewrite ↔ call = .writeVin := by
  cases call <;> decide

/-- The count of a record, written over one with the same VIN. -/
theorem count_same_iff (old : UInt32) : old ≤ old + 1 ↔ old.toNat + 1 < 2 ^ 32 := by
  have hlt := old.toNat_lt
  rw [UInt32.le_iff_toNat_le, UInt32.toNat_add, UInt32.toNat_one]
  omega

theorem count_other_iff (old : UInt32) : old ≤ 0 ↔ old = 0 := by
  rw [UInt32.le_iff_toNat_le, ← UInt32.toNat_inj, UInt32.toNat_zero]
  omega

theorem Rewrite.binds_of_succeeds (hP : P.json.Lawful) (huid : r.env.uid.success = true)
    (hsuccess : r.Succeeds P s) : Binds P r.env r.vin s r.call := by
  by_contra hno
  obtain ⟨hfailed, -⟩ := (exec_notBinds hP hno).1 hsuccess
  rw [huid] at hfailed
  cases hfailed

/-- A successful call that bound nothing counts only where nothing was to be counted. -/
theorem Rewrite.counted_iff_of_uidFailed (hP : P.json.Lawful)
    (huid : r.env.uid.success = false) : r.Counted P s ↔ r.Countable P s := by
  have hno : ¬ Binds P r.env r.vin s r.call := by
    intro hbinds
    rw [hbinds.uid] at huid
    cases huid
  have hsame : r.after P s = s := (exec_notBinds hP hno).2
  unfold Counted Countable
  rw [hsame]
  simp only [huid, Bool.false_eq_true, if_false]
  constructor
  · intro hcounted old hold hvin
    rw [← BindingCall.ne_authorizeRewrite]
    intro hcall
    have hnext := (hcounted old old hold hold).2 hcall hvin
    omega
  · intro hcountable old new hold hnew
    rw [hold, Option.some.injEq] at hnew
    subst hnew
    refine ⟨UInt32.le_refl _, fun hcall hvin ↦ ?_⟩
    rw [hcountable old hold hvin] at hcall
    cases hcall

theorem Rewrite.counted_iff (hP : P.json.Lawful) (hsaves : ∀ n, r.env.save n = .stored)
    (hsuccess : r.Succeeds P s) : r.Counted P s ↔ r.Countable P s := by
  cases huid : r.env.uid.success with
  | false => exact counted_iff_of_uidFailed hP huid
  | true =>
      have hbinds := binds_of_succeeds hP huid hsuccess
      have hafter : bindingIn P ((r.after P s).disk .binding) =
          some (boundRecord P r.env r.vin s).reread := (exec_binds hP hbinds hsaves).2.binding
      constructor
      · intro hcounted old hold
        obtain ⟨hle, hone⟩ := hcounted old _ hold hafter
        rw [boundRecord_rewriteCount] at hle hone
        rw [if_pos huid]
        by_cases hvin : old.vin = r.vin
        · left
          rw [nextCount_same hold hvin] at hle
          exact ⟨hvin.symm, (count_same_iff _).1 hle⟩
        · right
          rw [nextCount_other hold hvin] at hle hone
          refine ⟨Ne.symm hvin, ?_, (count_other_iff _).1 hle⟩
          rw [← BindingCall.ne_authorizeRewrite]
          intro hcall
          have hreset := hone hcall (Ne.symm hvin)
          rw [UInt32.toNat_zero] at hreset
          omega
      · intro hcountable old new hold hnew
        have hcase := hcountable old hold
        rw [hafter, Option.some.injEq] at hnew
        rw [if_pos huid] at hcase
        rw [← hnew, boundRecord_rewriteCount]
        rcases hcase with ⟨hvin, hlimit⟩ | ⟨hvin, hcall, hzero⟩
        · rw [nextCount_same hold hvin.symm]
          exact ⟨(count_same_iff _).2 hlimit, fun _ hne ↦ absurd hvin hne⟩
        · rw [nextCount_other hold (Ne.symm hvin)]
          refine ⟨(count_other_iff _).2 hzero, fun hauthorize ↦ ?_⟩
          rw [hcall] at hauthorize
          cases hauthorize

/-- Along a run of successful calls the counter counts exactly where every call keeps the
VIN below the limit, or replaces it through `write_vin` at a count of zero. -/
theorem rewrite_count_iff (hP : P.json.Lawful) (s : Machine ProvService)
    {rewrites : List Rewrite} (hsaves : ∀ r ∈ rewrites, ∀ n, r.env.save n = .stored)
    (hsuccess : Along (Rewrite.after P) (Rewrite.Succeeds P) rewrites s) :
    Along (Rewrite.after P) (Rewrite.Counted P) rewrites s ↔
      Along (Rewrite.after P) (Rewrite.Countable P) rewrites s := by
  have hgiven : Along (Rewrite.after P)
      (fun r s ↦ (∀ n, r.env.save n = .stored) ∧ r.Succeeds P s) rewrites s :=
    Along.of_invariant (fun _ _ _ _ _ ↦ trivial) (fun _ _ hr (_ : True) hs ↦ ⟨hr, hs⟩) hsaves
      trivial hsuccess
  exact along_iff_along (fun _ _ _ _ _ ↦ trivial)
    (fun r s hr (_ : True) ↦ r.counted_iff hP hr.1 hr.2) hgiven trivial

/-! ## A first binding without write protection -/

def unprotectedBinding : Machine ProvService := firstBinding { enableWriteProtection := false }

theorem unprotectedBinding_stored :
    ∃ old, bindingIn textPlatform (unprotectedBinding.disk .binding) = some old ∧
      old.vin = sampleVin ∧ old.rewriteCount = 0 := by
  have hfirst : BoundBy textPlatform sampleEnv sampleVin
      (started { enableWriteProtection := false }) unprotectedBinding := firstBinding_boundBy _
  refine ⟨_, hfirst.binding, (boundRecord_reread _ _ _ _).1, ?_⟩
  rw [boundRecord_rewriteCount]
  rfl

theorem succeeds_unprotectedBinding (call : BindingCall) {vin : Bytes}
    (hvin : VinValidator.validate vin = true) :
    Rewrite.Succeeds textPlatform ⟨call, sampleEnv, vin⟩ unprotectedBinding := by
  have hadm := firstBinding_admits { enableWriteProtection := false } hvin call
  have hflag := (firstBinding_boundBy { enableWriteProtection := false }).unlocked rfl
  exact (exec_binds textPlatform_lawful ⟨hadm, rfl, utf8_sampleUid, hflag.1⟩ fun _ ↦ rfl).1

theorem rewrite_count_sample :
    Along (Rewrite.after textPlatform) (Rewrite.Counted textPlatform)
      [⟨.writeVin, sampleEnv, sampleVin⟩] unprotectedBinding := by
  have hsuccess : Along (Rewrite.after textPlatform) (Rewrite.Succeeds textPlatform)
      [⟨.writeVin, sampleEnv, sampleVin⟩] unprotectedBinding :=
    ⟨succeeds_unprotectedBinding .writeVin validate_sampleVin, trivial⟩
  refine (rewrite_count_iff textPlatform_lawful _ ?_ hsuccess).2 ⟨?_, trivial⟩
  · simp [sampleEnv]
  · intro old hold
    obtain ⟨stored, hstored, hvin, hzero⟩ := unprotectedBinding_stored
    rw [hold, Option.some.injEq] at hstored
    subst hstored
    exact .inl ⟨hvin.symm, by rw [hzero]; decide⟩

/-- A successful rewrite to another VIN leaves the counter at zero. -/
theorem rewrite_not_counted :
    Along (Rewrite.after textPlatform) (Rewrite.Succeeds textPlatform)
        [⟨.authorizeRewrite, sampleEnv, otherVin⟩] unprotectedBinding ∧
      ¬ Along (Rewrite.after textPlatform) (Rewrite.Counted textPlatform)
        [⟨.authorizeRewrite, sampleEnv, otherVin⟩] unprotectedBinding := by
  have hsuccess := succeeds_unprotectedBinding .authorizeRewrite validate_otherVin
  refine ⟨⟨hsuccess, trivial⟩, ?_⟩
  rintro ⟨hcounted, -⟩
  obtain ⟨old, hold, hvin, -⟩ := unprotectedBinding_stored
  have hcountable := (Rewrite.counted_iff textPlatform_lawful (fun _ ↦ rfl) hsuccess).1 hcounted
  have hcase : otherVin = old.vin ∧ old.rewriteCount.toNat + 1 < 2 ^ 32 ∨
      otherVin ≠ old.vin ∧ BindingCall.authorizeRewrite = .writeVin ∧ old.rewriteCount = 0 :=
    hcountable old hold
  rcases hcase with ⟨hsame, -⟩ | ⟨-, hcall, -⟩
  · rw [hvin] at hsame
    exact absurd hsame (by decide)
  · cases hcall

end TboxProv.ProvService
