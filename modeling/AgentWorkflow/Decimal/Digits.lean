import AgentWorkflow.Decimal.Binary

/-!
Decimal digits of floating-point numbers, and how they are laid out as text.

Two ways of choosing digits: the fewest that read back as the same number, and a fixed count of
significant digits. A `Layout` says where positional notation ends and whether a whole number keeps
a zero after its point.
-/

namespace AgentWorkflow.Decimal

/-- A decimal number: the digits as a whole number, and the exponent of the leading digit. -/
structure Digits where
  digits : Nat
  exponent : Int
  deriving DecidableEq, Repr

/-- The same number without zeros at the end of its digits. At most `fuel` zeros are taken off. -/
def dropZeros : (fuel digits : Nat) → Nat
  | 0, digits => digits
  | fuel + 1, digits =>
    if digits != 0 && digits % 10 == 0 then dropZeros fuel (digits / 10) else digits

/-- The numbers that round to a given floating-point number lie between two bounds, which belong to
them when the significand is even. -/
structure Interval where
  lower : Ratio
  upper : Ratio
  closed : Bool

/-- The numbers that round to `m · 2 ^ q`. Below a power of two the spacing is halved. -/
def Interval.around (m : Nat) (q : Int) : Interval where
  lower :=
    if m == hiddenBit && q > -1074 then .scaled (4 * m - 1) (q - 2)
    else .scaled (2 * m - 1) (q - 1)
  upper := .scaled (2 * m + 1) (q - 1)
  closed := m % 2 == 0

/-- Whether a number rounds to the one the interval belongs to. -/
def Interval.contains (i : Interval) (a : Ratio) : Bool :=
  if i.closed then i.lower.le a && a.le i.upper else i.lower.lt a && a.lt i.upper

/-- The decimal numbers with `count` digits next to `value`: of those that lie in the interval the
nearer one, of two equally near the one with an even last digit. -/
def nearestOnGrid (interval : Interval) (value : Ratio) (magnitude : Int) (count : Nat) :
    Option Nat :=
  let place := magnitude - (count : Int) + 1
  let quotient := value.div (.decimal 1 place)
  let low := quotient.num / quotient.den
  let lowFits := interval.contains (.decimal low place)
  let highFits := interval.contains (.decimal (low + 1) place)
  if lowFits && highFits then some quotient.round
  else if lowFits then some low
  else if highFits then some (low + 1)
  else none

/-- Searches the grids from `count` digits on; `fuel` grids are left. Seventeen digits always
suffice. -/
def shortestFrom (interval : Interval) (value : Ratio) (magnitude : Int) :
    (fuel count : Nat) → Digits
  | 0, _ => ⟨0, 0⟩
  | fuel + 1, count =>
    match nearestOnGrid interval value magnitude count with
    | some digits =>
      let carried := (Nat.toDigits 10 digits).length - count
      ⟨dropZeros 20 digits, magnitude + carried⟩
    | none => shortestFrom interval value magnitude fuel (count + 1)

/-- The fewest digits that read back as `m · 2 ^ q`. -/
def shortest (m : Nat) (q : Int) : Digits :=
  if m == 0 then ⟨0, 0⟩
  else
    let value := Ratio.scaled m q
    shortestFrom (.around m q) value value.magnitude 17 1

/-- The value to `count` significant digits, without zeros at the end. -/
def significant (count m : Nat) (q : Int) : Digits :=
  if m == 0 then ⟨0, 0⟩
  else
    let value := Ratio.scaled m q
    let magnitude := value.magnitude
    let digits := (value.div (.decimal 1 (magnitude - (count : Int) + 1))).round
    let carried := (Nat.toDigits 10 digits).length - count
    ⟨dropZeros (count + 1) digits, magnitude + carried⟩

/-- How digits are written: positional when the exponent of the leading digit is at least
`positionalFrom` and below `positionalBelow`, and otherwise with an exponent of at least two
digits. -/
structure Layout where
  positionalFrom : Int := -4
  positionalBelow : Int
  /-- Whether a whole number in positional notation ends in a point and a zero. -/
  keepsFraction : Bool
  nan : String := "nan"
  infinity : String := "inf"

/-- A signed exponent of at least two digits. -/
def exponentText (e : Int) : List Char :=
  let digits := Nat.toDigits 10 e.natAbs
  (if e < 0 then '-' else '+') :: (List.replicate (2 - digits.length) '0' ++ digits)

/-- The digits in the given layout, without a sign. -/
def Layout.digitsText (layout : Layout) (d : Digits) : List Char :=
  let text := Nat.toDigits 10 d.digits
  if layout.positionalFrom ≤ d.exponent && d.exponent < layout.positionalBelow then
    let fraction (cs : List Char) : List Char :=
      if cs.isEmpty then (if layout.keepsFraction then ['.', '0'] else []) else '.' :: cs
    if d.exponent < 0 then
      '0' :: '.' :: (List.replicate (d.exponent.natAbs - 1) '0' ++ text)
    else
      let whole := d.exponent.toNat + 1
      text.take whole ++ List.replicate (whole - text.length) '0' ++ fraction (text.drop whole)
  else
    let point := if text.length ≤ 1 then text else text.take 1 ++ '.' :: text.drop 1
    point ++ 'e' :: exponentText d.exponent

/-- The text of a number whose digits are chosen by `choose`. -/
def Layout.text (layout : Layout) (choose : Nat → Int → Digits) (x : Float) : String :=
  match Binary.ofFloat x with
  | .nan => layout.nan
  | .infinite negative => (if negative then "-" else "") ++ layout.infinity
  | .finite negative m q =>
    String.ofList ((if negative then ['-'] else []) ++ layout.digitsText (choose m q))

/-- A number in the fewest digits that read back as the same number. -/
def shortestText (x : Float) : String :=
  Layout.text { positionalBelow := 16, keepsFraction := true } shortest x

/-- A number in six significant digits at most. -/
def briefText (x : Float) : String :=
  Layout.text { positionalBelow := 6, keepsFraction := false } (significant 6) x

end AgentWorkflow.Decimal
