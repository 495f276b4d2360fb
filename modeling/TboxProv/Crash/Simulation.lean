import Mathlib.Data.List.ReduceOption
import TboxProv.Crash.Trace

/-!
# Forward simulation

A system moves from one state to the next, and a move may be seen from outside or not.  If
every move of one system is matched by moves of another one that look the same, the histories
of the first are histories of the second.
-/

namespace Crash

section History

variable {σ ο : Type} (move : σ → Option ο → σ → Prop)

/-- What is seen on the way from one state to another. -/
inductive History : σ → List ο → σ → Prop
  | nil (s : σ) : History s [] s
  | unseen {s t u : σ} {os : List ο} (h : move s none t) (hrest : History t os u) :
      History s os u
  | seen {s t u : σ} {o : ο} {os : List ο} (h : move s (some o) t) (hrest : History t os u) :
      History s (o :: os) u

variable {move} {s t u : σ}

theorem History.single {l : Option ο} (h : move s l t) : History move s l.toList t := by
  cases l with
  | none => exact .unseen h (.nil t)
  | some o => exact .seen h (.nil t)

theorem History.append {os os' : List ο} (h : History move s os t) (h' : History move t os' u) :
    History move s (os ++ os') u := by
  induction h with
  | nil => exact h'
  | unseen h _ ih => exact .unseen h (ih h')
  | seen h _ ih => exact .seen h (ih h')

end History

/-- A machine whose answers are what is seen of it: if each admissible step is matched by
moves that look the same, so is every admissible trace. -/
theorem exists_history {ι σ τ ο : Type} {lower : ι → σ → Option ο × σ}
    {upper : τ → Option ο → τ → Prop} {ok : ι → σ → Prop} {R : σ → τ → Prop}
    (hstep : ∀ {i s t}, ok i s → R s t →
      ∃ t', History upper t (lower i s).1.toList t' ∧ R (lower i s).2 t')
    {is : List ι} {s : σ} {t : τ} (hok : Along (fun i s ↦ (lower i s).2) ok is s) (hR : R s t) :
    ∃ t', History upper t (trace lower is s).1.reduceOption t' ∧ R (trace lower is s).2 t' := by
  induction is generalizing s t with
  | nil => exact ⟨t, .nil t, hR⟩
  | cons i is ih =>
      obtain ⟨t₁, hfirst, hR₁⟩ := hstep hok.1 hR
      obtain ⟨t₂, hrest, hR₂⟩ := ih hok.2 hR₁
      refine ⟨t₂, ?_, hR₂⟩
      have hall := hfirst.append hrest
      rw [trace_cons]
      cases hseen : (lower i s).1 with
      | none =>
          rw [hseen] at hall
          rwa [List.reduceOption_cons_of_none]
      | some o =>
          rw [hseen] at hall
          rwa [List.reduceOption_cons_of_some]

end Crash
