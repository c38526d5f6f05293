import AgentWorkflow.Decimal.Binary

/-!
Ways of rounding. A computation with fractions takes the rounding that its results go through as a
parameter, so that it can be read as exact arithmetic or as floating-point arithmetic.
-/

namespace AgentWorkflow.Decimal

/-- A way of rounding non-negative rational numbers. -/
abbrev Rounding := Ratio → Ratio

namespace Rounding

/-- No rounding at all. -/
def exact : Rounding := id

/-- The exponent of the last of 53 bits of a positive number. Below the smallest floating-point
numbers it stays where it is. -/
def lastBit (a : Ratio) : Int :=
  let rough : Int := (Nat.log2 a.num : Int) - (Nat.log2 a.den : Int) - 52
  let exponent := if (Ratio.scaled hiddenBit rough).le a then rough else rough - 1
  max exponent (-1074)

/-- The nearest number of 53 bits; a half goes to the even neighbour. -/
def double : Rounding := fun a =>
  if a.num == 0 then ⟨0, 1⟩
  else
    let exponent := lastBit a
    Ratio.scaled (a.div (Ratio.scaled 1 exponent)).round exponent

end Rounding

/-- The product of two rational numbers. -/
def Ratio.mul (a b : Ratio) : Ratio := ⟨a.num * b.num, a.den * b.den⟩

/-- The whole part of a rational number. -/
def Ratio.floor (a : Ratio) : Nat := a.num / a.den

/-- The whole part of a multiple of a whole number, rounded toward zero. -/
def scaleWhole (rounding : Rounding) (factor : Ratio) (n : Int) : Int :=
  let product : Int := (rounding ((rounding ⟨n.natAbs, 1⟩).mul factor)).floor
  if n < 0 then -product else product

end AgentWorkflow.Decimal
