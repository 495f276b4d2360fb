import TboxProv.Crash.Program

/-!
# Runs

A system is given by what each label does to the state.  A killed program
restarts: `settle` turns a program into such a step.  Invariants are carried
from one step to a whole run by `run_invariant`.
-/

namespace Crash

/-- The state a program leaves behind, after a restart if it was killed. -/
def Prog.settle {σ ω α : Type} (reboot : σ → σ) (p : Prog σ ω α) (s : σ) : σ :=
  (p s).val.elim (reboot (p s).state) fun _ ↦ (p s).state

theorem Prog.settle_congr {σ ω α β : Type} {reboot : σ → σ} {p : Prog σ ω α} {q : Prog σ ω β}
    {s : σ} (hval : (p s).val.isSome = (q s).val.isSome) (hstate : (p s).state = (q s).state) :
    p.settle reboot s = q.settle reboot s := by
  unfold Prog.settle
  rw [hstate]
  cases hp : (p s).val <;> cases hq : (q s).val <;> rw [hp, hq] at hval
  · rfl
  · cases hval
  · cases hval
  · rfl

section Run

variable {σ ι : Type} (step : ι → σ → σ)

def run : List ι → σ → σ
  | [], s => s
  | i :: is, s => run is (step i s)

@[simp] theorem run_nil (s : σ) : run step [] s = s := rfl

@[simp] theorem run_cons (i : ι) (is : List ι) (s : σ) :
    run step (i :: is) s = run step is (step i s) := rfl

theorem run_append (is js : List ι) (s : σ) :
    run step (is ++ js) s = run step js (run step is s) := by
  induction is generalizing s with
  | nil => rfl
  | cons i is ih => exact ih (step i s)

variable {step}

/-- What every admissible step preserves holds after an admissible run. -/
theorem run_invariant {Inv : σ → Prop} {Ok : ι → Prop}
    (hstep : ∀ i s, Ok i → Inv s → Inv (step i s)) {is : List ι} (hok : ∀ i ∈ is, Ok i)
    {s : σ} (h : Inv s) : Inv (run step is s) := by
  induction is generalizing s with
  | nil => exact h
  | cons i is ih =>
      exact ih (fun j hj ↦ hok j (List.mem_cons_of_mem i hj))
        (hstep i s (hok i List.mem_cons_self) h)

/-! ## Along a run -/

variable (step)

/-- Every state of the run, the first and the last included. -/
def Throughout (good : σ → Prop) : List ι → σ → Prop
  | [], s => good s
  | i :: is, s => good s ∧ Throughout good is (step i s)

def Along (ok : ι → σ → Prop) : List ι → σ → Prop
  | [], _ => True
  | i :: is, s => ok i s ∧ Along ok is (step i s)

variable {step}

theorem Throughout.head {good : σ → Prop} {is : List ι} {s : σ}
    (h : Throughout step good is s) : good s := by
  cases is with
  | nil => exact h
  | cons i is => exact h.1

/-- A run whose steps meet a condition keeps an invariant, and with it every consequence
that the two have for a step. -/
theorem Along.of_invariant {Inv : σ → Prop} {Ok : ι → Prop} {ok good : ι → σ → Prop}
    (hinv : ∀ i s, Ok i → Inv s → ok i s → Inv (step i s))
    (hgood : ∀ i s, Ok i → Inv s → ok i s → good i s) {is : List ι} (hok : ∀ i ∈ is, Ok i)
    {s : σ} (hs : Inv s) (h : Along step ok is s) : Along step good is s := by
  induction is generalizing s with
  | nil => trivial
  | cons i is ih =>
      have hi := hok i List.mem_cons_self
      have hrest : ∀ j ∈ is, Ok j := fun j hj ↦ hok j (List.mem_cons_of_mem i hj)
      exact ⟨hgood i s hi hs h.1, ih hrest (hinv i s hi hs h.1) h.2⟩

theorem Along.of_forall {ok : ι → σ → Prop} {is : List ι} (h : ∀ i ∈ is, ∀ s, ok i s) (s : σ) :
    Along step ok is s := by
  induction is generalizing s with
  | nil => trivial
  | cons i is ih =>
      exact ⟨h i List.mem_cons_self s, ih (fun j hj ↦ h j (List.mem_cons_of_mem i hj)) _⟩

/-- Two conditions on the steps that agree under an invariant single out the same runs. -/
theorem along_iff_along {Inv : σ → Prop} {given ok good : ι → σ → Prop}
    (hinv : ∀ i s, given i s → Inv s → ok i s → Inv (step i s))
    (hiff : ∀ i s, given i s → Inv s → (good i s ↔ ok i s)) {is : List ι} {s : σ}
    (hgiven : Along step given is s) (hs : Inv s) :
    Along step good is s ↔ Along step ok is s := by
  induction is generalizing s with
  | nil => exact Iff.rfl
  | cons i is ih =>
      obtain ⟨hi, hrest⟩ := hgiven
      constructor
      · rintro ⟨hgood, hgoods⟩
        have hok := (hiff i s hi hs).1 hgood
        exact ⟨hok, (ih hrest (hinv i s hi hs hok)).1 hgoods⟩
      · rintro ⟨hok, hoks⟩
        exact ⟨(hiff i s hi hs).2 hok, (ih hrest (hinv i s hi hs hok)).2 hoks⟩

/-- If a step that meets a condition keeps the system safe, and one that does not ends in
a bad state, a run stays good exactly when all its steps meet the condition. -/
theorem throughout_iff_along_of_safe {safe good : σ → Prop} {Ok : ι → Prop}
    {ok : ι → σ → Prop} (hgood : ∀ s, safe s → good s)
    (hkeep : ∀ i s, Ok i → safe s → ok i s → safe (step i s))
    (hbreak : ∀ i s, Ok i → safe s → ¬ ok i s → ¬ good (step i s)) {is : List ι}
    (hok : ∀ i ∈ is, Ok i) {s : σ} (hs : safe s) :
    Throughout step good is s ↔ Along step ok is s := by
  induction is generalizing s with
  | nil => exact ⟨fun _ ↦ trivial, fun _ ↦ hgood s hs⟩
  | cons i is ih =>
      have hi := hok i List.mem_cons_self
      have hrest : ∀ j ∈ is, Ok j := fun j hj ↦ hok j (List.mem_cons_of_mem i hj)
      constructor
      · rintro ⟨-, hstates⟩
        have hstep : ok i s := by
          by_contra hno
          exact hbreak i s hi hs hno hstates.head
        exact ⟨hstep, (ih hrest (hkeep i s hi hs hstep)).1 hstates⟩
      · rintro ⟨hstep, hsteps⟩
        exact ⟨hgood s hs, (ih hrest (hkeep i s hi hs hstep)).2 hsteps⟩

/-- If a step from a good state is harmless exactly when it meets a condition, a run
stays good exactly when all its steps meet it. -/
theorem throughout_iff_along {Inv good : σ → Prop} {Ok : ι → Prop} {ok : ι → σ → Prop}
    (hinv : ∀ i s, Ok i → Inv s → Inv (step i s))
    (hgood : ∀ i s, Ok i → Inv s → good s → (good (step i s) ↔ ok i s)) {is : List ι}
    (hok : ∀ i ∈ is, Ok i) {s : σ} (hs : Inv s) (h : good s) :
    Throughout step good is s ↔ Along step ok is s := by
  have hkeep : ∀ i s, Ok i → Inv s ∧ good s → ok i s → Inv (step i s) ∧ good (step i s) :=
    fun i s hi hs hstep ↦ ⟨hinv i s hi hs.1, (hgood i s hi hs.1 hs.2).2 hstep⟩
  have hbreak : ∀ i s, Ok i → Inv s ∧ good s → ¬ ok i s → ¬ good (step i s) :=
    fun i s hi hs hno hnext ↦ hno ((hgood i s hi hs.1 hs.2).1 hnext)
  exact throughout_iff_along_of_safe (fun _ hs ↦ hs.2) hkeep hbreak hok ⟨hs, h⟩

end Run

end Crash
