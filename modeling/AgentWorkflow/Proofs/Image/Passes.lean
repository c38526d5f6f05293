import AgentWorkflow.Image.Preparation
import AgentWorkflow.Proofs.Decimal.Exact
import Mathlib.Algebra.Order.Field.Power

/-!
# The sizes in which an image is encoded

An image that is too large is scaled within the greatest dimension, and then by a step from pass to
pass. There are no more passes once they are spent, once a side is as short as it may become, or
once scaling changes nothing. The step does not enlarge anything, and a side that is put back to the
least length was longer than that before; so no size is larger than the one before it, and none is
larger than the image or leaves the greatest dimension.

All of this is in exact arithmetic: with lengths and steps as rational numbers, of which the whole
part is taken.

## Main definitions

* `Size.LeadsTo`: from the size of one pass to that of the next
* `Passes`: the sizes of all passes
* `Size.Admits`: the sizes that an image may be given

## Main results

* `Size.within_exact`: the size of the first pass
* `passes_passSizes`: the sizes that are computed are those of the passes
* `Passes.admitted`: an image may be given the sizes of all passes
-/

namespace AgentWorkflow.Image

open Decimal

variable {limits : ImageLimits} {step : ℚ} {source size next : Size} {sizes : List Size}
  {passes : Nat}

/-! ### One size after another -/

/-- A size scaled by a step. A side that becomes shorter than the least length is put back to it. -/
def Size.scaledBy (step : ℚ) (least : Int) (size : Size) : Size :=
  ⟨max ⌊size.width * step⌋ least, max ⌊size.height * step⌋ least⟩

/-- A size that is longer than the least length on both sides leads to another one, if the step
changes it. -/
structure Size.LeadsTo (limits : ImageLimits) (step : ℚ) (size next : Size) : Prop where
  width_above : limits.minDimension < size.width
  height_above : limits.minDimension < size.height
  next_eq : next = size.scaledBy step limits.minDimension
  changed : next ≠ size

/-- The sizes of the passes from a size on, when so many passes are left. -/
inductive Passes (limits : ImageLimits) (step : ℚ) : (passes : Nat) → Size → List Size → Prop
  | spent {size : Size} : Passes limits step 0 size []
  | last {passes : Nat} {size : Size} (ends : ∀ next, ¬ size.LeadsTo limits step next) :
    Passes limits step (passes + 1) size [size]
  | next {passes : Nat} {size next : Size} {sizes : List Size}
    (leads : size.LeadsTo limits step next) (rest : Passes limits step passes next sizes) :
    Passes limits step (passes + 1) size (size :: sizes)

/-- A multiple of a length by a step that is a number is rounded to the floor. -/
theorem scaledLength_exact {binary : Binary} {length : Int} (step_eq : binary.toRat? = some step)
    (step_nonneg : 0 ≤ step) (length_nonneg : 0 ≤ length) :
    scaledLength .exact binary length = .ok ⌊length * step⌋ := by
  cases binary with
  | nan => cases step_eq
  | infinite negative => cases step_eq
  | finite negative m q =>
    rw [scaledLength, scaleWhole_exact _ length_nonneg, Ratio.toRat_scaled]
    cases negative with
    | false =>
      simp only [Binary.toRat?, Bool.false_eq_true, if_false, one_mul, Option.some.injEq] at step_eq
      rw [step_eq]
      rfl
    | true =>
      -- a step with a sign is not below zero only if it is zero
      have magnitude_nonneg : (0 : ℚ) ≤ m * 2 ^ q := by positivity
      simp only [Binary.toRat?, if_true, neg_mul, one_mul, Option.some.injEq] at step_eq
      have magnitude_eq : (m * 2 ^ q : ℚ) = 0 := by linarith
      have step_zero : step = 0 := by linarith
      simp [magnitude_eq, step_zero]

/-- The step is a number, and neither side can be scaled down to nothing. -/
structure Steps (limits : ImageLimits) (step : ℚ) : Prop where
  step_eq : (Binary.ofFloat limits.scaleStep).toRat? = some step
  step_nonneg : 0 ≤ step
  step_le : step ≤ 1
  least_pos : 1 ≤ limits.minDimension

/-- The size that follows is computed, if there is one. -/
theorem nextSize_exact (steps : Steps limits step) (size : Size) :
    (∃ next, nextSize .exact limits size = .ok (some next) ∧ size.LeadsTo limits step next) ∨
      nextSize .exact limits size = .ok none ∧ ∀ next, ¬ size.LeadsTo limits step next := by
  have least_pos := steps.least_pos
  by_cases above : limits.minDimension < size.width ∧ limits.minDimension < size.height
  · obtain ⟨width_above, height_above⟩ := above
    have scaled : nextSize .exact limits size =
        .ok (if size.scaledBy step limits.minDimension == size then none
          else some (size.scaledBy step limits.minDimension)) := by
      have not_least : (decide (size.width ≤ limits.minDimension) ||
          decide (size.height ≤ limits.minDimension)) = false := by
        simp only [Bool.or_eq_false_iff, decide_eq_false_iff_not, not_le]
        exact ⟨width_above, height_above⟩
      rw [nextSize]
      dsimp only
      rw [not_least, scaledLength_exact steps.step_eq steps.step_nonneg (by omega),
        scaledLength_exact steps.step_eq steps.step_nonneg (by omega)]
      rfl
    by_cases same : size.scaledBy step limits.minDimension = size
    · refine Or.inr ⟨by rw [scaled, if_pos (beq_iff_eq.mpr same)], fun next leads => ?_⟩
      exact leads.changed (leads.next_eq.trans same)
    · refine Or.inl ⟨_, by rw [scaled, if_neg (by simpa using same)], ?_⟩
      exact ⟨width_above, height_above, rfl, same⟩
  · have least : (decide (size.width ≤ limits.minDimension) ||
        decide (size.height ≤ limits.minDimension)) = true := by
      simp only [Bool.or_eq_true, decide_eq_true_eq]
      omega
    refine Or.inr ⟨?_, fun next leads => above ⟨leads.width_above, leads.height_above⟩⟩
    rw [nextSize]
    dsimp only
    rw [if_pos least]
    rfl

/-- The sizes that are computed are those of the passes, and computing them is no fault. -/
theorem passes_passSizes (steps : Steps limits step) (passes : Nat) (size : Size) :
    ∃ sizes, passSizes .exact limits passes size = (sizes, none) ∧
      Passes limits step passes size sizes := by
  induction passes generalizing size with
  | zero => exact ⟨[], rfl, .spent⟩
  | succ passes ih =>
    rcases nextSize_exact steps size with ⟨next, computed, leads⟩ | ⟨computed, ends⟩
    · obtain ⟨sizes, rest, are_passes⟩ := ih next
      refine ⟨size :: sizes, ?_, .next leads are_passes⟩
      rw [passSizes, computed]
      dsimp only
      rw [rest]
    · refine ⟨[size], ?_, .last ends⟩
      rw [passSizes, computed]

/-! ### Sizes that an image may be given -/

/-- An image may be given a size that is not empty, larger than the image on no side, and within the
greatest dimension if there is one. -/
structure Size.Admits (limit : Int) (source size : Size) : Prop where
  width_pos : 1 ≤ size.width
  height_pos : 1 ≤ size.height
  width_le : size.width ≤ source.width
  height_le : size.height ≤ source.height
  within_limit : 0 < limit → size.width ≤ limit ∧ size.height ≤ limit

/-- With a size an image may be given any smaller one that is not empty. -/
theorem Size.Admits.mono {limit : Int} (admits : source.Admits limit size)
    (width_pos : 1 ≤ next.width) (height_pos : 1 ≤ next.height) (width_le : next.width ≤ size.width)
    (height_le : next.height ≤ size.height) : source.Admits limit next where
  width_pos := width_pos
  height_pos := height_pos
  width_le := width_le.trans admits.width_le
  height_le := height_le.trans admits.height_le
  within_limit limited := by
    obtain ⟨width_within, height_within⟩ := admits.within_limit limited
    exact ⟨width_le.trans width_within, height_le.trans height_within⟩

theorem floor_mul_le (length : Int) (length_nonneg : 0 ≤ length) (factor_le : step ≤ 1) :
    ⌊length * step⌋ ≤ length := by
  have below : (length : ℚ) * step ≤ length :=
    mul_le_of_le_one_right (by exact_mod_cast length_nonneg) factor_le
  exact_mod_cast (Int.floor_le _).trans below

/-- The step enlarges no side, and the least length is not longer than a side that is put back to
it. -/
theorem Size.LeadsTo.admits {limit : Int} (leads : size.LeadsTo limits step next)
    (steps : Steps limits step) (admits : source.Admits limit size) :
    source.Admits limit next := by
  obtain ⟨width_above, height_above, rfl, -⟩ := leads
  have least_pos := steps.least_pos
  have width_le := floor_mul_le size.width (by omega) steps.step_le
  have height_le := floor_mul_le size.height (by omega) steps.step_le
  exact admits.mono (le_max_of_le_right least_pos) (le_max_of_le_right least_pos)
    (max_le width_le width_above.le) (max_le height_le height_above.le)

/-- An image may be given the sizes of all passes, if it may be given the first one. -/
theorem Passes.admitted {limit : Int} (are_passes : Passes limits step passes size sizes)
    (steps : Steps limits step) (admits : source.Admits limit size) :
    ∀ s ∈ sizes, source.Admits limit s := by
  induction are_passes with
  | spent => exact fun _ member => nomatch member
  | last ends =>
    rintro _ (_ | ⟨_, ⟨⟩⟩)
    exact admits
  | next leads rest ih =>
    rintro s (_ | ⟨_, later⟩)
    · exact admits
    · exact ih (leads.admits steps admits) s later

theorem Passes.length_le (are_passes : Passes limits step passes size sizes) :
    sizes.length ≤ passes := by
  induction are_passes with
  | spent => exact Nat.le_refl 0
  | last ends => exact Nat.succ_le_succ (Nat.zero_le _)
  | next leads rest ih => exact Nat.succ_le_succ ih

/-! ### The first size -/

/-- In exact arithmetic an image that leaves the greatest dimension is scaled so that its longer
side has that length. -/
theorem Size.within_exact (limit : Int) (width_pos : 1 ≤ source.width)
    (height_pos : 1 ≤ source.height) :
    source.within .exact limit =
      if limit ≤ 0 ∨ source.width ≤ limit ∧ source.height ≤ limit then source
      else
        let scale : ℚ := limit / max source.width source.height
        ⟨max 1 ⌊source.width * scale⌋, max 1 ⌊source.height * scale⌋⟩ := by
  rw [within]
  by_cases inside : limit ≤ 0 ∨ source.width ≤ limit ∧ source.height ≤ limit
  · rw [if_pos inside, if_pos (by simpa using inside)]
  · have scale_eq : (Rounding.exact ⟨limit.natAbs, (max source.width source.height).natAbs⟩).toRat =
        (limit / max source.width source.height : ℚ) := by
      have limit_nonneg : 0 ≤ limit := by omega
      have longer_nonneg : 0 ≤ max source.width source.height := by omega
      simp only [Rounding.exact, id_eq, Ratio.toRat, Nat.cast_natAbs, abs_of_nonneg limit_nonneg,
        abs_of_nonneg longer_nonneg, Int.cast_max]
    rw [if_neg inside, if_neg (by simpa using inside)]
    dsimp only
    rw [scaleWhole_exact _ (by omega), scaleWhole_exact _ (by omega), scale_eq]

/-- A side that is scaled with the longer one is not longer than before, and within the limit. -/
theorem floor_mul_div_le {limit length longer : Int} (length_pos : 1 ≤ length)
    (length_le : length ≤ longer) (limit_nonneg : 0 ≤ limit) (limit_le : limit ≤ longer) :
    ⌊length * (limit / longer : ℚ)⌋ ≤ length ∧ ⌊length * (limit / longer : ℚ)⌋ ≤ limit := by
  have longer_pos : (0 : ℚ) < longer := by exact_mod_cast (by omega : 0 < longer)
  have scale_le : (limit / longer : ℚ) ≤ 1 :=
    (div_le_one longer_pos).mpr (by exact_mod_cast limit_le)
  have scale_nonneg : (0 : ℚ) ≤ limit / longer :=
    div_nonneg (by exact_mod_cast limit_nonneg) longer_pos.le
  refine ⟨floor_mul_le _ (by omega) scale_le, ?_⟩
  have below : (length * (limit / longer) : ℚ) ≤ limit :=
    calc (length * (limit / longer) : ℚ) ≤ longer * (limit / longer) :=
          mul_le_mul_of_nonneg_right (by exact_mod_cast length_le) scale_nonneg
      _ = limit := mul_div_cancel₀ _ longer_pos.ne'
  exact_mod_cast (Int.floor_le _).trans below

/-- An image may be given the size of its first pass. -/
theorem Size.admits_within (limit : Int) (width_pos : 1 ≤ source.width)
    (height_pos : 1 ≤ source.height) : source.Admits limit (source.within .exact limit) := by
  rw [within_exact limit width_pos height_pos]
  split_ifs with inside
  · refine ⟨width_pos, height_pos, le_rfl, le_rfl, fun limited => ?_⟩
    omega
  · have width_bounds := floor_mul_div_le width_pos (le_max_left source.width source.height)
      (by omega : 0 ≤ limit) (by omega)
    have height_bounds := floor_mul_div_le height_pos (le_max_right source.width source.height)
      (by omega : 0 ≤ limit) (by omega)
    have limit_pos : 1 ≤ limit := by omega
    exact {
      width_pos := le_max_left _ _
      height_pos := le_max_left _ _
      width_le := max_le width_pos width_bounds.1
      height_le := max_le height_pos height_bounds.1
      within_limit := fun _ => ⟨max_le limit_pos width_bounds.2, max_le limit_pos height_bounds.2⟩ }

end AgentWorkflow.Image
