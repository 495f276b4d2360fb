import Mathlib.Data.List.Forall2
import TboxProv.Crash.Run

/-!
# Two executions side by side

Two programs match when, from related states, they end in related states with
related values and with outputs that compare.  How outputs compare is left open:
they may have to be equal, or may not matter.
-/

namespace Crash

variable {σ τ ω α β γ δ ι : Type}

/-- What is asked of a comparison of outputs. -/
structure Comparison (O : List ω → List ω → Prop) : Prop where
  refl : ∀ out, O out out
  append : ∀ {out₁ out₂ out₁' out₂'}, O out₁ out₁' → O out₂ out₂' →
    O (out₁ ++ out₂) (out₁' ++ out₂')

theorem Comparison.eq : Comparison (fun out out' : List ω ↦ out = out') :=
  ⟨fun _ ↦ rfl, fun h h' ↦ by rw [h, h']⟩

theorem Comparison.all : Comparison (fun _ _ : List ω ↦ True) :=
  ⟨fun _ ↦ trivial, fun _ _ ↦ trivial⟩

section Matches

variable (O : List ω → List ω → Prop) (S : σ → τ → Prop) (A : α → β → Prop)

structure Matches (x : Outcome σ ω α) (y : Outcome τ ω β) : Prop where
  val : Option.Rel A x.val y.val
  state : S x.state y.state
  out : O x.out y.out

/-- The programs match from every pair of related states. -/
def Prog.Simulates (p : Prog σ ω α) (q : Prog τ ω β) : Prop :=
  ∀ s t, S s t → Matches O S A (p s) (q t)

end Matches

variable {O : List ω → List ω → Prop} {S : σ → τ → Prop} {A : α → β → Prop} {B : γ → δ → Prop}

/-! ## One pair of states -/

section Pointwise

variable {p : Prog σ ω α} {q : Prog τ ω β} {f : α → Prog σ ω γ} {g : β → Prog τ ω δ} {s : σ}
  {t : τ}

theorem Matches.of_some {a : α} {b : β} (hp : (p s).val = some a) (hq : (q t).val = some b)
    (hab : A a b) (hS : S (p s).state (q t).state) (hout : O (p s).out (q t).out) :
    Matches O S A (p s) (q t) := by
  refine ⟨?_, hS, hout⟩
  rw [hp, hq]
  exact .some hab

theorem Matches.pure (hO : Comparison O) {a : α} {b : β} (hab : A a b) (hS : S s t) :
    Matches O S A ((Pure.pure a : Prog σ ω α) s) ((Pure.pure b : Prog τ ω β) t) :=
  ⟨.some hab, hS, hO.refl []⟩

/-- The continuations need to match only from where the first parts get to. -/
theorem Matches.bind (hO : Comparison O) (hp : Matches O S A (p s) (q t))
    (hf : ∀ a b, A a b → (p s).val = some a → (q t).val = some b →
      S (p s).state (q t).state → Matches O S B (f a (p s).state) (g b (q t).state)) :
    Matches O S B ((p >>= f) s) ((q >>= g) t) := by
  obtain ⟨hval, hstate, hout⟩ := hp
  cases hps : (p s).val with
  | none =>
      cases hqt : (q t).val with
      | some b =>
          rw [hps, hqt] at hval
          cases hval
      | none =>
          refine ⟨?_, ?_, ?_⟩
          · simp [hps, hqt]
          · simpa [hps, hqt] using hstate
          · simpa [hps, hqt] using hout
  | some a =>
      cases hqt : (q t).val with
      | none =>
          rw [hps, hqt] at hval
          cases hval
      | some b =>
          rw [hps, hqt] at hval
          cases hval with
          | some hab =>
              obtain ⟨hval', hstate', hout'⟩ := hf a b hab hps hqt hstate
              refine ⟨?_, ?_, ?_⟩
              · simpa [hps, hqt] using hval'
              · simpa [hps, hqt] using hstate'
              · simpa [hps, hqt] using hO.append hout hout'

/-- A program that looks at the state first goes on from it. -/
theorem Matches.get_bind (hO : Comparison O) {f : σ → Prog σ ω γ} {g : τ → Prog τ ω δ}
    (hS : S s t) (h : Matches O S B (f s s) (g t t)) :
    Matches O S B ((Prog.get >>= f) s) ((Prog.get >>= g) t) := by
  refine .bind (A := S) hO ⟨.some hS, hS, hO.refl []⟩ fun a b _ ha hb _ ↦ ?_
  obtain rfl : s = a := Option.some.inj ha
  obtain rfl : t = b := Option.some.inj hb
  exact h

theorem Matches.ite {p' : Prog σ ω α} {q' : Prog τ ω β} {c d : Prop} [Decidable c] [Decidable d]
    (hcd : c ↔ d) (htrue : c → d → Matches O S A (p s) (q t))
    (hfalse : ¬ c → ¬ d → Matches O S A (p' s) (q' t)) :
    Matches O S A ((if c then p else p') s) ((if d then q else q') t) := by
  by_cases hc : c
  · have hd := hcd.1 hc
    rw [if_pos hc, if_pos hd]
    exact htrue hc hd
  · have hd : ¬ d := fun hd ↦ hc (hcd.2 hd)
    rw [if_neg hc, if_neg hd]
    exact hfalse hc hd

/-- Killed or not, the next program starts from related states. -/
theorem Matches.settle {S : σ → σ → Prop} {p q : Prog σ ω α} {A : α → α → Prop} {s t : σ}
    {reboot : σ → σ} (hreboot : ∀ s t, S s t → S (reboot s) (reboot t))
    (h : Matches O S A (p s) (q t)) : S (p.settle reboot s) (q.settle reboot t) := by
  obtain ⟨hval, hstate, -⟩ := h
  unfold Prog.settle
  cases hps : (p s).val <;> cases hqt : (q t).val <;> rw [hps, hqt] at hval
  · exact hreboot _ _ hstate
  · cases hval
  · cases hval
  · exact hstate

end Pointwise

/-! ## All related states -/

namespace Prog.Simulates

variable {p p' : Prog σ ω α} {q q' : Prog τ ω β} {f : α → Prog σ ω γ} {g : β → Prog τ ω δ}

theorem pure (hO : Comparison O) {a : α} {b : β} (hab : A a b) :
    Simulates O S A (Pure.pure a : Prog σ ω α) (Pure.pure b : Prog τ ω β) :=
  fun _ _ hS ↦ .pure hO hab hS

theorem get (hO : Comparison O) :
    Simulates O S S (Prog.get : Prog σ ω σ) (Prog.get : Prog τ ω τ) :=
  fun _ _ hS ↦ ⟨.some hS, hS, hO.refl []⟩

theorem modify (hO : Comparison O) {m : σ → σ} {n : τ → τ} (h : ∀ s t, S s t → S (m s) (n t)) :
    Simulates O S Eq (Prog.modify m : Prog σ ω Unit) (Prog.modify n : Prog τ ω Unit) :=
  fun s t hS ↦ ⟨.some rfl, h s t hS, hO.refl []⟩

theorem emit {o o' : ω} (h : O [o] [o']) :
    Simulates O S Eq (Prog.emit o : Prog σ ω Unit) (Prog.emit o' : Prog τ ω Unit) :=
  fun _ _ hS ↦ ⟨.some rfl, hS, h⟩

theorem bind (hO : Comparison O) (hp : Simulates O S A p q)
    (hf : ∀ a b, A a b → Simulates O S B (f a) (g b)) : Simulates O S B (p >>= f) (q >>= g) :=
  fun s t hS ↦ .bind hO (hp s t hS) fun a b hab _ _ hS' ↦ hf a b hab _ _ hS'

theorem ite {c d : Prop} [Decidable c] [Decidable d] (hcd : c ↔ d)
    (hp : Simulates O S A p q) (hp' : Simulates O S A p' q') :
    Simulates O S A (if c then p else p') (if d then q else q') :=
  fun s t hS ↦ .ite hcd (fun _ _ ↦ hp s t hS) fun _ _ ↦ hp' s t hS

theorem refl (hO : Comparison O) (r : Prog σ ω α) : Simulates O Eq Eq r r := by
  rintro s _ rfl
  refine ⟨?_, rfl, hO.refl _⟩
  cases (r s).val with
  | none => exact .none
  | some a => exact .some rfl

/-- Programs that match on parts of the states. -/
theorem zoom {ρ π : Type} {T : ρ → π → Prop} {r : Prog ρ ω α} {r' : Prog π ω β} {part : σ → ρ}
    {part' : τ → π} {put : ρ → σ → σ} {put' : π → τ → τ} (h : Simulates O T A r r')
    (hpart : ∀ s t, S s t → T (part s) (part' t))
    (hput : ∀ s t u v, S s t → T u v → S (put u s) (put' v t)) :
    Simulates O S A (Prog.zoom part put r) (Prog.zoom part' put' r') := by
  intro s t hS
  obtain ⟨hval, hstate, hout⟩ := h _ _ (hpart s t hS)
  exact ⟨hval, hput s t _ _ hS hstate, hout⟩

end Prog.Simulates

/-! ## Two runs -/

section Runs

variable (prog : ι → Prog σ ω α) (reboot : σ → σ)

/-- Everything a run puts out. -/
def outputs : List ι → σ → List ω
  | [], _ => []
  | i :: is, s => (prog i s).out ++ outputs is ((prog i).settle reboot s)

theorem outputs_append (is js : List ι) (s : σ) :
    outputs prog reboot (is ++ js) s = outputs prog reboot is s ++
      outputs prog reboot js (run (fun i ↦ (prog i).settle reboot) is s) := by
  induction is generalizing s with
  | nil => rfl
  | cons i is ih => rw [List.cons_append, outputs, outputs, ih, run_cons, List.append_assoc]

variable (step : ι → σ → σ) (ok : ι → ι → σ → σ → Prop)

/-- Along two runs, label by label. -/
def AlongBoth : List ι → List ι → σ → σ → Prop
  | i :: is, j :: js, s, t => ok i j s t ∧ AlongBoth is js (step i s) (step j t)
  | _, _, _, _ => True

variable {step ok}

theorem AlongBoth.of_forall (h : ∀ i j s t, ok i j s t) (is js : List ι) (s t : σ) :
    AlongBoth step ok is js s t := by
  induction is generalizing js s t with
  | nil => cases js <;> trivial
  | cons i is ih =>
      cases js with
      | nil => trivial
      | cons j js => exact ⟨h i j s t, ih js _ _⟩

variable {prog reboot} {S : σ → σ → Prop} {A : α → α → Prop} {C : ι → ι → Prop}

/-- Two runs with matching steps put out the same and end in related states. -/
theorem runs_match (hO : Comparison O) (hreboot : ∀ s t, S s t → S (reboot s) (reboot t))
    (hstep : ∀ i j s t, C i j → S s t → ok i j s t → Matches O S A (prog i s) (prog j t))
    {is js : List ι} (hij : List.Forall₂ C is js) {s t : σ} (hS : S s t)
    (hok : AlongBoth (fun i ↦ (prog i).settle reboot) ok is js s t) :
    O (outputs prog reboot is s) (outputs prog reboot js t) ∧
      S (run (fun i ↦ (prog i).settle reboot) is s)
        (run (fun i ↦ (prog i).settle reboot) js t) := by
  induction hij generalizing s t with
  | nil => exact ⟨hO.refl [], hS⟩
  | cons hC _ ih =>
      obtain ⟨hhere, hrest⟩ := hok
      have hmatch := hstep _ _ s t hC hS hhere
      obtain ⟨hout, hend⟩ := ih (hmatch.settle hreboot) hrest
      exact ⟨hO.append hmatch.out hout, hend⟩

end Runs

end Crash
