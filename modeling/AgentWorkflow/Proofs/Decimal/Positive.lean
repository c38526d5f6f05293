import AgentWorkflow.Config.Field
import Mathlib

/-!
# Floating-point numbers above zero

A number that is not at most zero is above zero or no number at all. What is above zero stays there
when it is read as a whole number, since its sign is clear and some other bit is set. And a whole
number above zero has a floating-point number above zero: its bits are shifted until 53 of them are
left, and the first one, which is set, is kept. Only a number far below one could be shifted away.

## Main definitions

* `Decimal.IsAbove`: an unpacked number above zero

## Main results

* `Decimal.not_le_zero_iff`: what is not at most zero
* `Decimal.Binary.one_le_of_toInt?`: whole numbers that are floating-point numbers above zero
* `Decimal.zero_lt_ofWhole`: floating-point numbers for whole numbers above zero
-/

namespace AgentWorkflow.Decimal

open Float.Model Float.Model.UnpackedFloat

/-- An unpacked number above zero. A finite one is a multiple of the smallest such number. -/
inductive IsAbove : UnpackedFloat → Prop
  | infinity : IsAbove (.infinity .positive)
  | finite {m : Nat} {e : Int} {pos : 0 < m} (low : -1074 ≤ e) : IsAbove (.finite .positive m e pos)

/-! ### The order of numbers and zero -/

section Order

variable {x : Float}

theorem zero_lt_iff : 0.0 < x ↔ UnpackedFloat.lt (.zero .positive) x.toModel.unpack = true := by
  change decide (UnpackedFloat.lt (0.0 : Float).toModel.unpack x.toModel.unpack = true) = true ↔ _
  exact decide_eq_true_iff

theorem le_zero_iff : x ≤ 0.0 ↔ UnpackedFloat.le x.toModel.unpack (.zero .positive) = true := by
  change decide (UnpackedFloat.le x.toModel.unpack (0.0 : Float).toModel.unpack = true) = true ↔ _
  exact decide_eq_true_iff

theorem zero_lt_of_isAbove (above : IsAbove x.toModel.unpack) : 0.0 < x := by
  rw [zero_lt_iff]
  generalize x.toModel.unpack = unpacked at above ⊢
  cases above <;> rfl

/-- A number that is not at most zero is above zero, unless it is no number. -/
theorem not_le_zero_iff : ¬ x ≤ 0.0 ↔ 0.0 < x ∨ x.isNaN = true := by
  have isNaN_eq : x.isNaN = x.toModel.unpack.isNaN := rfl
  rw [zero_lt_iff, le_zero_iff, isNaN_eq]
  cases x.toModel.unpack with
  | infinity sign =>
    cases sign <;>
      simp [UnpackedFloat.lt, UnpackedFloat.le, UnpackedFloat.compare, UnpackedFloat.isNaN]
  | finite sign m e pos =>
    cases sign <;>
      simp [UnpackedFloat.lt, UnpackedFloat.le, UnpackedFloat.compare, UnpackedFloat.isNaN]
  | _ => simp [UnpackedFloat.lt, UnpackedFloat.le, UnpackedFloat.compare, UnpackedFloat.isNaN]

theorem isNaN_of_zero_lt (above : 0.0 < x) : x.isNaN = false := by
  have isNaN_eq : x.isNaN = x.toModel.unpack.isNaN := rfl
  rw [zero_lt_iff] at above
  rw [isNaN_eq]
  generalize x.toModel.unpack = unpacked at above ⊢
  cases unpacked with
  | notANumber => cases above
  | _ => rfl

end Order

/-! ### Bits -/

section Bits

variable {b : BitVec Format.binary64.numBits} {x : Float} {n : Int}

theorem toNat_unpackSign : (unpackSign b).toNat = b.toNat / 2 ^ 63 := by
  have bound : b.toNat < 2 ^ 64 := b.isLt
  simp only [unpackSign, BitVec.toNat_cast, BitVec.extractLsb_toNat, Nat.shiftRight_eq_div_pow]
  change b.toNat / 2 ^ 63 % 2 ^ 1 = _
  omega

theorem toNat_unpackExponent :
    (unpackExponent b).toNat = b.toNat / 2 ^ 52 % 2 ^ 11 := by
  simp [unpackExponent, BitVec.extractLsb_toNat, Nat.shiftRight_eq_div_pow]

theorem toNat_unpackMantissa :
    (unpackMantissa b).toNat = b.toNat % 2 ^ 52 := by
  simp [unpackMantissa, BitVec.extractLsb_toNat]

/-- A number above zero has no sign, and some other bit is set. -/
theorem bits_of_zero_lt
    (above : UnpackedFloat.lt (.zero .positive) (unpack Format.binary64 b) = true) :
    b.toNat / 2 ^ 63 = 0 ∧ (b.toNat % 2 ^ 52 ≠ 0 ∨ b.toNat / 2 ^ 52 % 2 ^ 11 ≠ 0) := by
  rw [← toNat_unpackSign, ← toNat_unpackMantissa, ← toNat_unpackExponent]
  have sign_eq : unpackSign b = 0#1 := by
    by_contra signed
    have negative : Sign.ofBitVec (unpackSign b) = .negative :=
      if_neg signed
    simp only [UnpackedFloat.unpack] at above
    rw [negative] at above
    split_ifs at above <;> simp [UnpackedFloat.lt, UnpackedFloat.compare] at above
  refine ⟨by rw [sign_eq]; rfl, ?_⟩
  by_contra clear
  obtain ⟨no_fraction, no_exponent⟩ := not_or.mp clear
  have fraction_eq : unpackMantissa b = 0#_ :=
    BitVec.eq_of_toNat_eq (not_not.mp no_fraction)
  have exponent_eq : unpackExponent b = 0#_ :=
    BitVec.eq_of_toNat_eq (not_not.mp no_exponent)
  have unpack_eq : unpack Format.binary64 b = .zero .positive := by
    simp only [UnpackedFloat.unpack, sign_eq, fraction_eq, exponent_eq]
    rw [if_neg (by decide), if_pos trivial, dif_pos trivial]
    rfl
  rw [unpack_eq] at above
  cases above

/-- A finite number above zero that is whole is at least one. -/
theorem Binary.one_le_of_toInt?_finite {m : Nat} {q : Int} (pos : 0 < m)
    (whole : (Binary.finite false m q).toInt? = some n) : 1 ≤ n := by
  have parts_pos : 0 < (Ratio.scaled m q).num ∧ 0 < (Ratio.scaled m q).den := by
    cases q with
    | ofNat k => exact ⟨Nat.mul_pos pos (Nat.two_pow_pos k), Nat.one_pos⟩
    | negSucc k => exact ⟨pos, Nat.two_pow_pos (k + 1)⟩
  simp only [toInt?, Bool.false_eq_true, ↓reduceIte] at whole
  generalize Ratio.scaled m q = r at parts_pos whole
  obtain ⟨num_pos, den_pos⟩ := parts_pos
  split_ifs at whole with divides
  have le : r.den ≤ r.num := Nat.le_of_dvd num_pos (Nat.dvd_of_mod_eq_zero (beq_iff_eq.mp divides))
  have quotient_pos : 0 < r.num / r.den := Nat.div_pos le den_pos
  cases whole
  omega

/-- A number above zero that is whole is at least one. -/
theorem Binary.one_le_of_toInt? (above : 0.0 < x) (whole : (ofFloat x).toInt? = some n) :
    1 ≤ n := by
  obtain ⟨unsigned, some_bit⟩ := bits_of_zero_lt (zero_lt_iff.mp above)
  change x.toBits.toNat / 2 ^ 63 = 0 at unsigned
  change x.toBits.toNat % 2 ^ 52 ≠ 0 ∨ x.toBits.toNat / 2 ^ 52 % 2 ^ 11 ≠ 0 at some_bit
  have positive : (x.toBits.toNat / Nat.pow 2 63 == 1) = false := by
    change (x.toBits.toNat / 2 ^ 63 == 1) = false
    rw [unsigned]
    rfl
  simp only [ofFloat, ofBits, positive] at whole
  split_ifs at whole with largest _ subnormal
  · cases whole
  · cases whole
  · have no_exponent : x.toBits.toNat / 2 ^ 52 % 2 ^ 11 = 0 := beq_iff_eq.mp subnormal
    have fraction_pos : 0 < x.toBits.toNat % 2 ^ 52 := by omega
    exact one_le_of_toInt?_finite fraction_pos whole
  · exact one_le_of_toInt?_finite (Nat.add_pos_left (by decide) _) whole

/-- What is no number is no whole number. -/
theorem Binary.toInt?_of_isNaN (unreal : x.isNaN = true) : (ofFloat x).toInt? = none := by
  change (unpack Format.binary64 x.toModel.toBits.toBitVec).isNaN = true at unreal
  simp only [UnpackedFloat.unpack] at unreal
  split_ifs at unreal with all_ones
  · cases unreal
  · have largest : x.toBits.toNat / 2 ^ 52 % 2 ^ 11 = 2047 :=
      toNat_unpackExponent.symm.trans (congrArg BitVec.toNat all_ones)
    have biased : (x.toBits.toNat / hiddenBit % Nat.pow 2 11 == 2047) = true :=
      beq_iff_eq.mpr largest
    simp only [ofFloat, ofBits, biased, ↓reduceIte]
    split_ifs <;> rfl
  all_goals cases unreal

end Bits

/-! ### Packing -/

section Packing

variable {e : BitVec 11} {m : BitVec 52}

/-- Parts of which one is set are those of a number above zero, unless they stand for no number. -/
theorem isAbove_unpack_packComponents (some_bit : e ≠ 0#11 ∨ m ≠ 0#52)
    (number : e = -1#11 → m = 0#52) :
    IsAbove (unpack Format.binary64 (packComponents Format.binary64 .positive e m)) := by
  have bias : (Format.binary64.exponentBias : Int) = 1023 := rfl
  simp only [UnpackedFloat.unpack, unpackExponent_packComponents, unpackMantissa_packComponents,
    unpackSign_packComponents, Sign.ofBitVec_toBitVec, bias]
  split_ifs with all_ones no_fraction no_exponent no_fraction
  · exact .infinity
  · exact absurd (number all_ones) no_fraction
  · simp [no_exponent, no_fraction] at some_bit
  · exact .finite (by omega)
  · have exponent_pos : e.toNat ≠ 0 := fun none => no_exponent (BitVec.eq_of_toNat_eq none)
    exact .finite (by omega)

/-- A number above zero of at most 53 bits is still above zero when it has been packed. -/
theorem isAbove_unpack_pack {m : Nat} {e : Int} (pos : 0 < m) (bound : m < 2 ^ 53)
    (low : -1074 ≤ e) : IsAbove (Float.Model.pack (.finite .positive m e pos)).unpack := by
  change IsAbove (unpack Format.binary64 (pack Format.binary64 (.finite .positive m e pos)))
  have log_lt : m.log2 < 53 := (Nat.log2_lt pos.ne').mpr bound
  have bias : (Format.binary64.exponentBias : Int) = 1023 := rfl
  simp only [UnpackedFloat.pack, bias]
  split_ifs with large normal
  · exact isAbove_unpack_packComponents (.inl (by decide)) fun _ => rfl
  -- a normal number has an exponent that is neither the lowest nor the highest
  · generalize exponent_eq : (e + 1023 + ((52 : Nat) : Int)).toNat = k at large ⊢
    have small : k + 1 < 2 ^ 11 := Nat.lt_of_not_le large
    have kept : (BitVec.ofNat 11 k).toNat = k := by
      rw [BitVec.toNat_ofNat]
      exact Nat.mod_eq_of_lt (by omega)
    refine isAbove_unpack_packComponents (.inl fun none => ?_) fun all_ones => ?_
    · have lowest : k = 0 := kept.symm.trans (congrArg BitVec.toNat none)
      omega
    · have highest : k = 2047 := kept.symm.trans (congrArg BitVec.toNat all_ones)
      omega
  -- any other number has no exponent, and all of its bits fit into the fraction
  · have fits : m < 2 ^ 52 := by
      refine (Nat.log2_lt pos.ne').mp ?_
      change m.log2 + 1 ≠ 53 at normal
      omega
    refine isAbove_unpack_packComponents (.inr fun none => ?_) fun all_ones => ?_
    · have zero := congrArg BitVec.toNat none
      rw [BitVec.toNat_ofNat, Nat.mod_eq_of_lt fits] at zero
      exact pos.ne' zero
    · exact absurd all_ones (by decide)

end Packing

/-! ### Rounding -/

section Rounding

variable {m : Nat} {e : Int}

theorem mantissa_shiftRight (em : ExtendedMantissa) (k : Nat) :
    (em >>> k).mantissa = em.mantissa / 2 ^ k := by
  induction k with
  | zero => simp [HShiftRight.hShiftRight, Nat.repeat]
  | succ k ih =>
    change (em >>> k).mantissa / 2 = _
    rw [ih, Nat.div_div_eq_div_mul, Nat.pow_succ]

theorem mantissa_le_roundedMantissa (em : ExtendedMantissa) :
    em.mantissa ≤ em.roundedMantissa := by
  rcases em with ⟨m, _ | _, _ | _⟩ <;>
    simp [ExtendedMantissa.roundedMantissa, ExtendedMantissa.accuracy, Accuracy.roundToNearestEven]

/-- Shifting a number to its place leaves at most 53 bits, of which the first one is set, if the
number is not below the smallest one. -/
theorem shiftToTargetExponent_spec (pos : 0 < m) (low : -1074 ≤ (m.log2 : Int) + e) :
    0 < (shiftToTargetExponent Format.binary64 m e .exact).1.mantissa ∧
      (shiftToTargetExponent Format.binary64 m e .exact).1.mantissa < 2 ^ 53 ∧
        -1074 ≤ (shiftToTargetExponent Format.binary64 m e .exact).2 := by
  let k := (Format.binary64.targetExponent (totalExponent m e) - e).toNat
  have k_eq : (k : Int) = max (max ((m.log2 : Int) - 52) (-1074 - e)) 0 := by
    simp only [k, Format.targetExponent, totalExponent, Format.mantissaBits, Format.minExponent]
    norm_num
    omega
  have mantissa_eq : (shiftToTargetExponent Format.binary64 m e .exact).1.mantissa = m / 2 ^ k :=
    mantissa_shiftRight ⟨m, false, false⟩ k
  have exponent_eq : (shiftToTargetExponent Format.binary64 m e .exact).2 = e + k := rfl
  rw [mantissa_eq, exponent_eq]
  refine ⟨?_, ?_, by omega⟩
  · refine Nat.div_pos ?_ (Nat.two_pow_pos k)
    calc 2 ^ k ≤ 2 ^ m.log2 := Nat.pow_le_pow_right (by decide) (by omega)
      _ ≤ m := Nat.log2_self_le pos.ne'
  · refine Nat.div_lt_of_lt_mul ?_
    calc m < 2 ^ (m.log2 + 1) := Nat.lt_log2_self
      _ ≤ 2 ^ (k + 53) := Nat.pow_le_pow_right (by decide) (by omega)
      _ = 2 ^ k * 2 ^ 53 := Nat.pow_add ..

/-- A number that is not below the smallest one is rounded to a number above zero. -/
theorem isAbove_round (pos : 0 < m) (low : -1074 ≤ (m.log2 : Int) + e) :
    IsAbove (Float.Model.pack
      (roundWithAccuracy Format.binary64 .positive m e .exact)).unpack := by
  -- the mantissa is shifted twice, since rounding it may have made it too long
  obtain ⟨first_pos, -, first_low⟩ := shiftToTargetExponent_spec pos low
  have rounded_pos := Nat.lt_of_lt_of_le first_pos (mantissa_le_roundedMantissa _)
  obtain ⟨last_pos, bound, last_low⟩ := shiftToTargetExponent_spec
    (e := (shiftToTargetExponent Format.binary64 m e .exact).2) rounded_pos (by omega)
  rw [roundWithAccuracy]
  dsimp only
  rw [dif_neg last_pos.ne']
  exact isAbove_unpack_pack last_pos bound last_low

/-- A factor of `2 ^ k` adds `k` bits. -/
theorem le_log2_mul_two_pow (pos : 0 < m) (k : Nat) : k ≤ (m * 2 ^ k).log2 := by
  refine (Nat.le_log2 (Nat.mul_pos pos (Nat.two_pow_pos k)).ne').mpr ?_
  exact Nat.le_mul_of_pos_left _ pos

end Rounding

/-! ### Whole numbers -/

section Whole

variable {m : Nat}

theorem unpack_mul (x y : Float) : (x * y).toModel.unpack =
    (Float.Model.pack (mul Format.binary64 x.toModel.unpack y.toModel.unpack)).unpack := rfl

theorem unpack_one : (Float.exactlyRepresentablePowersOfTen[0]).toModel.unpack =
    .finite .positive (2 ^ 52) (-52) (by decide) := rfl

theorem isAbove_mul_one {u : UnpackedFloat} (above : IsAbove u) :
    IsAbove (Float.Model.pack (mul Format.binary64 u
      (.finite .positive (2 ^ 52) (-52) (by decide)))).unpack := by
  cases above with
  | infinity => exact .infinity
  | @finite m e pos low =>
    have bits := le_log2_mul_two_pow pos 52
    exact isAbove_round (Nat.mul_pos pos (by decide)) (by omega)

theorem isAbove_ofNat (pos : 0 < m) :
    IsAbove (Float.Model.pack (ofNat Format.binary64 m)).unpack := by
  have positive : compare (m : Int) 0 = .gt := Int.compare_eq_gt.mpr (by omega)
  rw [UnpackedFloat.ofNat, UnpackedFloat.ofInt, UnpackedFloat.normalize, positive]
  simp only [UnpackedFloat.round, decreaseExponent, Int.toNat_natCast]
  generalize (0 - Format.binary64.targetExponent (totalExponent m 0)).toNat = k
  rw [Nat.shiftLeft_eq]
  have bits := le_log2_mul_two_pow pos k
  exact isAbove_round (Nat.mul_pos pos (Nat.two_pow_pos k)) (by omega)

/-- Without a power of ten a number is rounded from 53 bits more than it has. -/
theorem ofScientific_eq_roundWithAccuracy (pos : 0 < m) :
    UnpackedFloat.ofScientific Format.binary64 m 0 =
      roundWithAccuracy Format.binary64 .positive (m * 2 ^ 53 * 1) (-53) .exact := by
  have not_tiny : ¬ (0 : Int) < -((2 ^ Format.binary64.exponentBits : Int) + m.log2) := by
    change ¬ (0 : Int) < -(2048 + (m.log2 : Int))
    omega
  rw [UnpackedFloat.ofScientific, dif_neg pos.ne', if_neg (by decide), if_neg not_tiny,
    if_pos (Int.le_refl 0), UnpackedFloat.mul, Nat.shiftLeft_eq]
  rfl

theorem zero_lt_ofScientific (pos : 0 < m) : 0.0 < Float.ofScientific m false 0 := by
  apply zero_lt_of_isAbove
  simp only [Float.ofScientific, Bool.false_eq_true, ↓reduceIte]
  split_ifs with small
  -- a number of at most 53 bits is converted, and multiplied by one
  · have exact_nat : m.toUInt64.toNat = m := Nat.mod_eq_of_lt (by omega)
    have converted : IsAbove m.toUInt64.toFloat.toModel.unpack := by
      have above := isAbove_ofNat pos
      rw [← exact_nat] at above
      exact above
    generalize m.toUInt64.toFloat = x at converted ⊢
    rw [unpack_mul, unpack_one]
    exact isAbove_mul_one converted
  · have bits : 53 ≤ (m * 2 ^ 53 * 1).log2 := by
      rw [Nat.mul_one]
      exact le_log2_mul_two_pow pos 53
    change IsAbove (Float.Model.pack (UnpackedFloat.ofScientific Format.binary64 m 0)).unpack
    rw [ofScientific_eq_roundWithAccuracy pos]
    exact isAbove_round (by omega) (by omega)

/-- The nearest floating-point number to a whole number above zero is above zero. -/
theorem zero_lt_ofWhole {n : Int} (pos : 1 ≤ n) : 0.0 < Field.ofWhole n := by
  have natAbs_pos : 0 < n.natAbs := by omega
  have nonzero : n.natAbs ≠ 0 := by omega
  have not_negative : ¬ n < 0 := by omega
  have not_tiny : ¬ ((Nat.toDigits 10 n.natAbs).length : Int) < -400 := by omega
  unfold Field.ofWhole toFloat
  simp only [not_negative, nonzero, not_tiny, decide_false, beq_iff_eq, Bool.or_false,
    Bool.false_eq_true, ↓reduceIte, Int.zero_add]
  split_ifs with huge
  · decide
  · exact zero_lt_ofScientific (Nat.mul_pos natAbs_pos (by decide))

end Whole

end AgentWorkflow.Decimal
