import Mathlib.Algebra.BigOperators.Fin
import Mathlib.Algebra.BigOperators.Group.Finset.Piecewise
import Mathlib.Algebra.Ring.Basic
import Mathlib.Tactic.Ring

/-!
# Weighted checksums

The sum of the digits of a word, each multiplied by the weight of its position.  Over a
ring without zero divisors it shows a changed digit where the weight is not zero, and two
exchanged digits where their weights differ.
-/

namespace Checksum

/-- The weighted sum of the digits `x`. -/
def checksum {ι R : Type*} [Fintype ι] [Semiring R] (w x : ι → R) : R := ∑ i, w i * x i

/-- A loop over a list of weights and a list of characters computes the sum. -/
theorem sum_zipWith {R α : Type*} [Semiring R] (value : α → R) (d : α) (ws : List R)
    (cs : List α) (hlen : cs.length = ws.length) :
    (List.zipWith (fun w c ↦ w * value c) ws cs).sum =
      checksum (fun i : Fin ws.length ↦ ws.get i) fun i ↦ value (cs.getD i d) := by
  unfold checksum
  induction ws generalizing cs with
  | nil => simp
  | cons w ws ih =>
      cases cs with
      | nil => cases hlen
      | cons c cs =>
          rw [List.zipWith_cons_cons, List.sum_cons, ih cs (Nat.succ.inj hlen)]
          exact (Fin.sum_univ_succ fun i : Fin (ws.length + 1) ↦
            (w :: ws).get i * value ((c :: cs).getD i d)).symm

theorem natCast_checksum {ι R : Type*} [Fintype ι] [Semiring R] (w x : ι → ℕ) :
    ((checksum w x : ℕ) : R) = checksum (fun i ↦ (w i : R)) fun i ↦ (x i : R) := by
  simp [checksum]

variable {ι R : Type*} [Fintype ι] [CommRing R] {w x y : ι → R} {i j : ι} {a : R}

theorem checksum_congr (h : ∀ k, w k ≠ 0 → y k = x k) : checksum w y = checksum w x := by
  apply Finset.sum_congr rfl
  intro k _
  by_cases hk : w k = 0
  · rw [hk, zero_mul, zero_mul]
  · rw [h k hk]

variable [DecidableEq ι]

theorem checksum_update (w x : ι → R) (i : ι) (a : R) :
    checksum w (Function.update x i a) = checksum w x + w i * (a - x i) := by
  have hrest : ∑ k ∈ Finset.univ.erase i, w k * Function.update x i a k =
      ∑ k ∈ Finset.univ.erase i, w k * x k := by
    apply Finset.sum_congr rfl
    intro k hk
    rw [Function.update_of_ne (Finset.ne_of_mem_erase hk)]
  unfold checksum
  rw [← Finset.add_sum_erase _ _ (Finset.mem_univ i), hrest, Function.update_self,
    ← Finset.add_sum_erase _ (fun k ↦ w k * x k) (Finset.mem_univ i)]
  ring

/-- The word with the digits at `i` and `j` exchanged. -/
def exchange (x : ι → R) (i j : ι) : ι → R := Function.update (Function.update x i (x j)) j (x i)

theorem checksum_exchange (w x : ι → R) (hij : i ≠ j) :
    checksum w (exchange x i j) = checksum w x + (w i - w j) * (x j - x i) := by
  unfold exchange
  rw [checksum_update, checksum_update, Function.update_of_ne hij.symm]
  ring

variable [NoZeroDivisors R]

theorem checksum_update_ne (hw : w i ≠ 0) (ha : a ≠ x i) :
    checksum w (Function.update x i a) ≠ checksum w x := by
  rw [checksum_update]
  intro h
  have hzero : w i * (a - x i) = 0 := by simpa using h
  rcases mul_eq_zero.1 hzero with hw' | ha'
  · exact hw hw'
  · exact ha (sub_eq_zero.1 ha')

theorem checksum_exchange_ne (hij : i ≠ j) (hw : w i ≠ w j) (hx : x i ≠ x j) :
    checksum w (exchange x i j) ≠ checksum w x := by
  rw [checksum_exchange w x hij]
  intro h
  have hzero : (w i - w j) * (x j - x i) = 0 := by simpa using h
  rcases mul_eq_zero.1 hzero with hw' | hx'
  · exact hw (sub_eq_zero.1 hw')
  · exact hx (sub_eq_zero.1 hx').symm

end Checksum
