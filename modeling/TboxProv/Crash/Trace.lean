import Mathlib.Data.List.Forall2
import TboxProv.Crash.Run

/-!
# Traces

A machine answers a request and moves to its next state.  The answers to a list of
requests are its trace.  A view of the states of one machine as states of another one,
under which a single step looks the same, carries over to traces.
-/

namespace Crash

section Trace

variable {ι ρ σ : Type} (step : ι → σ → ρ × σ)

/-- The answers to the requests, and the state after the last one. -/
def trace : List ι → σ → List ρ × σ
  | [], s => ([], s)
  | i :: is, s => ((step i s).1 :: (trace is (step i s).2).1, (trace is (step i s).2).2)

@[simp] theorem trace_nil (s : σ) : trace step [] s = ([], s) := rfl

theorem trace_cons (i : ι) (is : List ι) (s : σ) :
    trace step (i :: is) s =
      ((step i s).1 :: (trace step is (step i s).2).1, (trace step is (step i s).2).2) := rfl

theorem trace_append (is js : List ι) (s : σ) :
    trace step (is ++ js) s =
      ((trace step is s).1 ++ (trace step js (trace step is s).2).1,
        (trace step js (trace step is s).2).2) := by
  induction is generalizing s with
  | nil => rfl
  | cons i is ih =>
      rw [List.cons_append, trace_cons, trace_cons, ih]
      rfl

/-- A trace passes through the same states as a run. -/
theorem trace_state (is : List ι) (s : σ) :
    (trace step is s).2 = run (fun i s ↦ (step i s).2) is s := by
  induction is generalizing s with
  | nil => rfl
  | cons i is ih => exact ih (step i s).2

end Trace

/-! ## Refinement -/

section Refinement

variable {ι κ ρ σ τ : Type} {lower : ι → σ → ρ × σ} {upper : κ → τ → ρ × τ} {label : ι → κ}
  {view : σ → τ} {Inv : σ → Prop} {Ok : ι → Prop}

/-- The lower machine gives the answers of the upper one, in every trace whose requests
are admissible. -/
theorem trace_refines (hinv : ∀ i s, Ok i → Inv s → Inv (lower i s).2)
    (hstep : ∀ i s, Ok i → Inv s → upper (label i) (view s) = ((lower i s).1, view (lower i s).2))
    {is : List ι} (hok : ∀ i ∈ is, Ok i) {s : σ} (hs : Inv s) :
    trace upper (is.map label) (view s) = ((trace lower is s).1, view (trace lower is s).2) := by
  induction is generalizing s with
  | nil => rfl
  | cons i is ih =>
      have hi := hok i List.mem_cons_self
      have hrest := ih (fun j hj ↦ hok j (List.mem_cons_of_mem i hj)) (hinv i s hi hs)
      rw [List.map_cons, trace_cons, hstep i s hi hs, hrest, trace_cons]

/-- States that look the same from above cannot be told apart from their answers. -/
theorem trace_eq_of_view_eq (hinv : ∀ i s, Ok i → Inv s → Inv (lower i s).2)
    (hstep : ∀ i s, Ok i → Inv s → upper (label i) (view s) = ((lower i s).1, view (lower i s).2))
    {is : List ι} (hok : ∀ i ∈ is, Ok i) {s t : σ} (hs : Inv s) (ht : Inv t)
    (h : view s = view t) : (trace lower is s).1 = (trace lower is t).1 := by
  have hs' := trace_refines hinv hstep hok hs
  have ht' := trace_refines hinv hstep hok ht
  rw [h, ht'] at hs'
  exact (congrArg Prod.fst hs').symm

/-- The labels of the upper machine may depend on the state that the lower one is in. -/
theorem exists_trace {C : ι → κ → Prop} (hstep : ∀ i s, Ok i →
      ∃ k, C i k ∧ upper k (view s) = ((lower i s).1, view (lower i s).2)) {is : List ι}
    (hok : ∀ i ∈ is, Ok i) (s : σ) :
    ∃ ks, List.Forall₂ C is ks ∧
      trace upper ks (view s) = ((trace lower is s).1, view (trace lower is s).2) := by
  induction is generalizing s with
  | nil => exact ⟨[], .nil, rfl⟩
  | cons i is ih =>
      obtain ⟨k, hC, hk⟩ := hstep i s (hok i List.mem_cons_self)
      obtain ⟨ks, hCs, hks⟩ := ih (fun j hj ↦ hok j (List.mem_cons_of_mem i hj)) (lower i s).2
      refine ⟨k :: ks, .cons hC hCs, ?_⟩
      rw [trace_cons, hk, hks, trace_cons]

end Refinement

/-! ## Two machines side by side -/

end Crash
