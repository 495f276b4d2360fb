import Mathlib.Data.Nat.Notation
import TboxProv.Crash.Run

/-!
# Programs that are run in steps

A resumption is run one step at a time, and a step ends with what is left to do.  Between
two steps others may change the state.  Run without a pause, a resumption is a program.
-/

namespace Crash

inductive Resumption (σ ω α : Type)
  | done (a : α)
  | step (p : σ → Outcome σ ω (Resumption σ ω α))

/-- The same outcome with another value. -/
def Outcome.map {σ ω α β : Type} (f : α → β) (x : Outcome σ ω α) : Outcome σ ω β :=
  ⟨x.val.map f, x.state, x.out⟩

namespace Resumption

variable {σ ω α β γ : Type}

/-- What holds of all that a step can leave holds of the step. -/
@[elab_as_elim, induction_eliminator]
theorem induct {motive : Resumption σ ω α → Prop} (done : ∀ a, motive (done a))
    (step : ∀ p, (∀ s r, (p s).val = some r → motive r) → motive (step p))
    (r : Resumption σ ω α) : motive r :=
  @Resumption.rec σ ω α motive (fun x ↦ ∀ r, x.val = some r → motive r)
    (fun val ↦ ∀ r, val = some r → motive r) done step (fun _ _ _ h ↦ h)
    (fun _ h ↦ by cases h) (fun _ hmotive _ h ↦ Option.some.inj h ▸ hmotive) r

/-! ## Without a pause -/

mutual

/-- All steps in a row. -/
def prog : Resumption σ ω α → Prog σ ω α
  | .done a => pure a
  | .step p => fun s ↦ progAfter (p s)

def progAfter : Outcome σ ω (Resumption σ ω α) → Outcome σ ω α
  | ⟨val, s, out⟩ => progRest val s out

def progRest : Option (Resumption σ ω α) → σ → List ω → Outcome σ ω α
  | none, s, out => ⟨none, s, out⟩
  | some r, s, out => ⟨(r.prog s).val, (r.prog s).state, out ++ (r.prog s).out⟩

end

@[simp] theorem prog_done (a : α) : (done a : Resumption σ ω α).prog = pure a := rfl

section Equations

variable (p : σ → Outcome σ ω (Resumption σ ω α)) (s : σ)

@[simp] theorem prog_step_val :
    ((step p).prog s).val = (p s).val.bind fun r ↦ (r.prog (p s).state).val := by
  change (progAfter (p s)).val = _
  rcases p s with ⟨_ | r, t, out⟩ <;> rfl

@[simp] theorem prog_step_state :
    ((step p).prog s).state = (p s).val.elim (p s).state fun r ↦ (r.prog (p s).state).state := by
  change (progAfter (p s)).state = _
  rcases p s with ⟨_ | r, t, out⟩ <;> rfl

@[simp] theorem prog_step_out :
    ((step p).prog s).out =
      (p s).out ++ (p s).val.elim [] fun r ↦ (r.prog (p s).state).out := by
  change (progAfter (p s)).out = _
  rcases p s with ⟨_ | r, t, out⟩
  · exact (List.append_nil out).symm
  · rfl

end Equations

/-! ## Composition -/

mutual

def bind (f : α → Resumption σ ω β) : Resumption σ ω α → Resumption σ ω β
  | .done a => f a
  | .step p => .step fun s ↦ bindAfter f (p s)

def bindAfter (f : α → Resumption σ ω β) :
    Outcome σ ω (Resumption σ ω α) → Outcome σ ω (Resumption σ ω β)
  | ⟨val, s, out⟩ => ⟨bindRest f val, s, out⟩

def bindRest (f : α → Resumption σ ω β) :
    Option (Resumption σ ω α) → Option (Resumption σ ω β)
  | none => none
  | some r => some (bind f r)

end

instance : Monad (Resumption σ ω) where
  pure := done
  bind r f := r.bind f

theorem pure_eq (a : α) : (pure a : Resumption σ ω α) = done a := rfl

@[simp] theorem done_bind (a : α) (f : α → Resumption σ ω β) : (done a >>= f) = f a := rfl

theorem step_bind (p : σ → Outcome σ ω (Resumption σ ω α)) (f : α → Resumption σ ω β) :
    (step p >>= f) = step fun s ↦ (p s).map (· >>= f) := by
  change step (fun s ↦ bindAfter f (p s)) = _
  congr 1
  funext s
  rcases p s with ⟨_ | r, t, out⟩ <;> rfl

@[simp] theorem prog_pure (a : α) : (pure a : Resumption σ ω α).prog = pure a := rfl

@[simp] theorem prog_bind (r : Resumption σ ω α) (f : α → Resumption σ ω β) :
    (r >>= f).prog = r.prog >>= fun a ↦ (f a).prog := by
  induction r with
  | done a => rw [done_bind, prog_done, Prog.pure_bind]
  | step p ih =>
      rw [step_bind]
      funext s
      cases hp : (p s).val with
      | none => apply Outcome.ext <;> simp [Outcome.map, hp]
      | some r =>
          have hr := congrFun (ih s r hp) (p s).state
          apply Outcome.ext <;> simp [Outcome.map, hp, hr]

/-- A program as one step. -/
def call (p : Prog σ ω α) : Resumption σ ω α := step fun s ↦ (p s).map done

@[simp] theorem prog_call (p : Prog σ ω α) : (call p).prog = p := by
  funext s
  cases hp : (p s).val <;> apply Outcome.ext <;> simp [call, Outcome.map, hp]

theorem call_bind (p : Prog σ ω α) (f : α → Resumption σ ω β) :
    (call p >>= f) = step fun s ↦ (p s).map f := by
  rw [call, step_bind]
  congr 1
  funext s
  rcases hp : p s with ⟨_ | a, t, out⟩ <;> rfl

/-! ## Among others -/

section Holds

variable (rely guar : σ → σ → Prop) (post : α → σ → Prop)

/-- As long as the others keep to `rely` between the steps, every step keeps to `guar` and
the value, once there is one, is as `post` says. -/
inductive Holds : Resumption σ ω α → σ → Prop
  | done {a : α} {s : σ} (h : post a s) : Holds (done a) s
  | step {p : σ → Outcome σ ω (Resumption σ ω α)} {s : σ} (hguar : guar s (p s).state)
      (hrest : ∀ r, (p s).val = some r → ∀ t, rely (p s).state t → Holds r t) : Holds (step p) s

variable {rely guar : σ → σ → Prop} {post : α → σ → Prop} {mid : β → σ → Prop}

theorem Holds.bind {r : Resumption σ ω β} {f : β → Resumption σ ω α} {s : σ}
    (h : Holds rely guar mid r s) (hf : ∀ b t, mid b t → Holds rely guar post (f b) t) :
    Holds rely guar post (r >>= f) s := by
  induction h with
  | done h => exact hf _ _ h
  | @step p s hguar _ ih =>
      rw [step_bind]
      refine .step hguar fun r hr t ht ↦ ?_
      obtain ⟨r', hr', rfl⟩ := Option.map_eq_some_iff.1 hr
      exact ih r' hr' t ht

theorem Holds.call_bind {p : Prog σ ω β} {f : β → Resumption σ ω α} {s : σ}
    (hguar : guar s (p s).state)
    (hf : ∀ b, (p s).val = some b → ∀ t, rely (p s).state t → Holds rely guar post (f b) t) :
    Holds rely guar post (call p >>= f) s := by
  rw [Resumption.call_bind]
  refine .step hguar fun r hr t ht ↦ ?_
  obtain ⟨b, hb, rfl⟩ := Option.map_eq_some_iff.1 hr
  exact hf b hb t ht

theorem Holds.pure {a : α} {s : σ} (h : post a s) :
    Holds rely guar post (Pure.pure a : Resumption σ ω α) s := .done h

theorem Holds.call {p : Prog σ ω α} {s : σ} (hguar : guar s (p s).state)
    (hpost : ∀ a, (p s).val = some a → ∀ t, rely (p s).state t → post a t) :
    Holds rely guar post (call p) s := by
  refine .step hguar fun r hr t ht ↦ ?_
  obtain ⟨a, ha, rfl⟩ := Option.map_eq_some_iff.1 hr
  exact .done (hpost a ha t ht)

end Holds

end Resumption

end Crash
