import AgentWorkflow.Decimal.Rounding
import Mathlib.Data.Rat.Floor

/-!
# Exact arithmetic

Without any rounding, a multiple of a whole number that is not below zero is computed as it is in
the rational numbers, and its whole part is the floor there.

## Main definitions

* `Decimal.Ratio.toRat`, `Decimal.Binary.toRat?`: the rational numbers that are meant

## Main results

* `Decimal.scaleWhole_exact`: the whole part of a multiple
-/

namespace AgentWorkflow.Decimal

/-- The rational number that is meant. -/
def Ratio.toRat (r : Ratio) : ℚ := r.num / r.den

/-- The rational number that is meant, if it is one. -/
def Binary.toRat? : Binary → Option ℚ
  | .finite negative m q => some ((if negative then -1 else 1) * (m * 2 ^ q))
  | .infinite _ => none
  | .nan => none

theorem Ratio.toRat_scaled (m : Nat) (q : Int) : (Ratio.scaled m q).toRat = m * 2 ^ q := by
  cases q with
  | ofNat k => simp [scaled, toRat]
  | negSucc k => simp [scaled, toRat, zpow_negSucc, div_eq_mul_inv]

/-- Without rounding, the whole part of a multiple is its floor. -/
theorem scaleWhole_exact (factor : Ratio) {n : Int} (nonneg : 0 ≤ n) :
    scaleWhole .exact factor n = ⌊n * factor.toRat⌋ := by
  lift n to Nat using nonneg
  have floor_eq : ⌊((n * factor.num : Nat) : ℚ) / factor.den⌋ =
      ((n * factor.num / factor.den : Nat) : Int) := by
    rw [Rat.floor_natCast_div_natCast]
    rfl
  have not_negative : ¬ ((n : Int) < 0) := by omega
  rw [scaleWhole, if_neg not_negative]
  simp only [Rounding.exact, id_eq, Ratio.mul, Ratio.floor, Int.natAbs_natCast, Nat.one_mul,
    ← floor_eq, Ratio.toRat]
  push_cast
  rw [mul_div_assoc]

end AgentWorkflow.Decimal
