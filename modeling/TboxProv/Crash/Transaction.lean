import Mathlib.Data.Nat.Notation
import Mathlib.Data.Option.Basic

/-!
# Staged transactions

A transaction is a list of edits, each of them indivisible and made in turn.  An edit may
be made, be refused without an effect, or be the last thing that happens before a crash,
which comes just before it or just after it.  A refusal ends the transaction with the
failure of its stage, or is passed over.
-/

namespace Crash

/-- What becomes of one edit. -/
inductive Fate
  | done
  | refused
  | cutBefore
  | cutAfter
  deriving DecidableEq

structure Stage (ε γ : Type) where
  edit : ε
  /-- None where a refusal is passed over. -/
  failure : Option γ

section Perform

variable {δ ε γ : Type} (apply : ε → δ → δ) (complete : γ)

/-- The result is none if the transaction is cut by a crash. -/
def perform : List (Stage ε γ) → (ℕ → Fate) → δ → Option γ × δ
  | [], _, d => (some complete, d)
  | stage :: stages, fate, d =>
      match fate 0 with
      | .done => perform stages (fun n ↦ fate (n + 1)) (apply stage.edit d)
      | .refused =>
          match stage.failure with
          | some code => (some code, d)
          | none => perform stages (fun n ↦ fate (n + 1)) d
      | .cutBefore => (none, d)
      | .cutAfter => (none, apply stage.edit d)

@[simp] theorem perform_nil (fate : ℕ → Fate) (d : δ) :
    perform apply complete [] fate d = (some complete, d) := rfl

variable {apply complete} {stage : Stage ε γ} {stages : List (Stage ε γ)} {fate : ℕ → Fate} {d : δ}

theorem perform_cons_done (h : fate 0 = .done) :
    perform apply complete (stage :: stages) fate d =
      perform apply complete stages (fun n ↦ fate (n + 1)) (apply stage.edit d) := by
  rw [perform, h]

theorem perform_cons_refused {code : γ} (h : fate 0 = .refused)
    (hcode : stage.failure = some code) :
    perform apply complete (stage :: stages) fate d = (some code, d) := by
  rw [perform, h]
  simp only [hcode]

theorem perform_cons_passed (h : fate 0 = .refused) (hcode : stage.failure = none) :
    perform apply complete (stage :: stages) fate d =
      perform apply complete stages (fun n ↦ fate (n + 1)) d := by
  rw [perform, h]
  simp only [hcode]

theorem perform_cons_cutBefore (h : fate 0 = .cutBefore) :
    perform apply complete (stage :: stages) fate d = (none, d) := by
  rw [perform, h]

theorem perform_cons_cutAfter (h : fate 0 = .cutAfter) :
    perform apply complete (stage :: stages) fate d = (none, apply stage.edit d) := by
  rw [perform, h]

/-- A relation that every edit keeps holds between the two ends of a transaction,
wherever it stops. -/
theorem perform_keeps {R : δ → δ → Prop} (hrefl : ∀ d, R d d)
    (htrans : ∀ {d d' d''}, R d d' → R d' d'' → R d d'')
    (hedit : ∀ stage ∈ stages, ∀ d, R d (apply stage.edit d)) :
    R d (perform apply complete stages fate d).2 := by
  induction stages generalizing fate d with
  | nil => exact hrefl d
  | cons stage stages ih =>
      have hhead := hedit stage List.mem_cons_self
      have htail : ∀ other ∈ stages, ∀ d, R d (apply other.edit d) :=
        fun other hother ↦ hedit other (List.mem_cons_of_mem stage hother)
      cases hfate : fate 0 with
      | done =>
          rw [perform_cons_done hfate]
          exact htrans (hhead d) (ih htail)
      | refused =>
          cases hcode : stage.failure with
          | some code =>
              rw [perform_cons_refused hfate hcode]
              exact hrefl d
          | none =>
              rw [perform_cons_passed hfate hcode]
              exact ih htail
      | cutBefore =>
          rw [perform_cons_cutBefore hfate]
          exact hrefl d
      | cutAfter =>
          rw [perform_cons_cutAfter hfate]
          exact hhead d

/-- If no refusal is passed over, the edits that have been made are the first ones, and only
the last of them may have been made just before a crash. -/
theorem exists_perform_take (hstrict : ∀ stage ∈ stages, stage.failure ≠ none) :
    ∃ n, (perform apply complete stages fate d).2 =
        (stages.take n).foldl (fun d stage ↦ apply stage.edit d) d ∧
      ∀ i < n, fate i = .done ∨ fate i = .cutAfter ∧ i + 1 = n := by
  induction stages generalizing fate d with
  | nil => exact ⟨0, rfl, fun i hi ↦ absurd hi i.not_lt_zero⟩
  | cons stage stages ih =>
      have htail : ∀ other ∈ stages, other.failure ≠ none :=
        fun other hother ↦ hstrict other (List.mem_cons_of_mem stage hother)
      cases hfate : fate 0 with
      | done =>
          obtain ⟨n, heq, hmade⟩ : ∃ n, (perform apply complete stages (fun n ↦ fate (n + 1))
              (apply stage.edit d)).2 = _ ∧ _ := ih htail
          rw [perform_cons_done hfate]
          refine ⟨n + 1, heq, fun i hi ↦ ?_⟩
          cases i with
          | zero => exact .inl hfate
          | succ i =>
              rcases hmade i (by omega) with hdone | ⟨hcut, hlast⟩
              · exact .inl hdone
              · exact .inr ⟨hcut, by omega⟩
      | refused =>
          obtain ⟨code, hcode⟩ := Option.ne_none_iff_exists'.1 (hstrict stage List.mem_cons_self)
          rw [perform_cons_refused hfate hcode]
          exact ⟨0, rfl, fun i hi ↦ absurd hi i.not_lt_zero⟩
      | cutBefore =>
          rw [perform_cons_cutBefore hfate]
          exact ⟨0, rfl, fun i hi ↦ absurd hi i.not_lt_zero⟩
      | cutAfter =>
          rw [perform_cons_cutAfter hfate]
          refine ⟨1, rfl, fun i hi ↦ ?_⟩
          obtain rfl : i = 0 := by omega
          exact .inr ⟨hfate, rfl⟩

/-- An edit that is always made leaves its transaction complete. -/
theorem perform_all_done (hfate : ∀ n, fate n = .done) :
    perform apply complete stages fate d =
      (some complete, stages.foldl (fun d stage ↦ apply stage.edit d) d) := by
  induction stages generalizing fate d with
  | nil => rfl
  | cons stage stages ih =>
      rw [perform_cons_done (hfate 0), ih fun n ↦ hfate (n + 1), List.foldl_cons]

end Perform

end Crash
