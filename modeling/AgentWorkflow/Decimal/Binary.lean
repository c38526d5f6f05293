/-!
The exact value of a floating-point number. A finite number is a whole multiple of a power of two,
read off its bits; everything that is said about its decimal forms is said about that value.
-/

namespace AgentWorkflow.Decimal

/-- A floating-point number, taken apart: a finite one is `± significand · 2 ^ exponent`. -/
inductive Binary
  | nan
  | infinite (negative : Bool)
  | finite (negative : Bool) (significand : Nat) (exponent : Int)
  deriving DecidableEq, Repr

/-- The bit in front of the 52 bits of a fraction, which normal numbers do not store. -/
def hiddenBit : Nat := Nat.pow 2 52

/-- Takes the bits of a number apart: a sign, eleven bits of an exponent and the fraction. -/
def Binary.ofBits (bits : Nat) : Binary :=
  let negative := bits / Nat.pow 2 63 == 1
  let biased : Nat := bits / hiddenBit % Nat.pow 2 11
  let fraction : Nat := bits % hiddenBit
  if biased == 2047 then
    if fraction == 0 then .infinite negative else .nan
  else if biased == 0 then .finite negative fraction (-1074)
  else .finite negative (hiddenBit + fraction) ((biased : Int) - 1075)

/-- Takes a number apart. -/
def Binary.ofFloat (x : Float) : Binary := .ofBits x.toBits.toNat

/-- A non-negative rational number. -/
structure Ratio where
  num : Nat
  den : Nat
  deriving DecidableEq, Repr

/-- `m · 2 ^ q`. -/
def Ratio.scaled (m : Nat) (q : Int) : Ratio :=
  match q with
  | .ofNat k => ⟨m * Nat.pow 2 k, 1⟩
  | .negSucc k => ⟨m, Nat.pow 2 (k + 1)⟩

/-- `m · 10 ^ q`. -/
def Ratio.decimal (m : Nat) (q : Int) : Ratio :=
  match q with
  | .ofNat k => ⟨m * Nat.pow 10 k, 1⟩
  | .negSucc k => ⟨m, Nat.pow 10 (k + 1)⟩

/-- The quotient of two rational numbers. -/
def Ratio.div (a b : Ratio) : Ratio := ⟨a.num * b.den, a.den * b.num⟩

/-- Whether `a ≤ b`. -/
def Ratio.le (a b : Ratio) : Bool := a.num * b.den ≤ b.num * a.den

/-- Whether `a < b`. -/
def Ratio.lt (a b : Ratio) : Bool := a.num * b.den < b.num * a.den

/-- The exponent of the leading decimal digit of a positive number. -/
def Ratio.magnitude (a : Ratio) : Int :=
  if a.den ≤ a.num then ((Nat.toDigits 10 (a.num / a.den)).length : Int) - 1
  else -((Nat.toDigits 10 ((a.den - 1) / a.num)).length : Int)

/-- The nearest whole number; a half goes to the even neighbour. -/
def Ratio.round (a : Ratio) : Nat :=
  let low := a.num / a.den
  let twice := 2 * (a.num % a.den)
  if twice < a.den then low
  else if a.den < twice then low + 1
  else if low % 2 == 0 then low else low + 1

/-- The whole number that a floating-point number equals, if there is one. -/
def Binary.toInt? : Binary → Option Int
  | .finite negative m q =>
    let r := Ratio.scaled m q
    if r.num % r.den == 0 then
      some (if negative then -((r.num / r.den : Nat) : Int) else (r.num / r.den : Nat))
    else none
  | _ => none

/-- The whole part of a finite number, rounded toward zero. -/
def Binary.truncate? : Binary → Option Int
  | .finite negative m q =>
    let r := Ratio.scaled m q
    some (if negative then -((r.num / r.den : Nat) : Int) else (r.num / r.den : Nat))
  | _ => none

end AgentWorkflow.Decimal
