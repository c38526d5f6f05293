import AgentWorkflow.Text.Blank
import AgentWorkflow.Text.Digit
import AgentWorkflow.Text.Search
import AgentWorkflow.Decimal.Binary

/-!
Numbers read from text. White space around a number and a sign in front of it are allowed. The
lenient grammars take the digits of any script, and single underscores between digits; the plain
ones take plain digits only.
-/

namespace AgentWorkflow.Decimal

open Text

/-- Takes a sign off the front of a text. -/
def takeSign : List Char → Bool × List Char
  | '-' :: cs => (true, cs)
  | '+' :: cs => (false, cs)
  | cs => (false, cs)

/-- A whole number with the sign applied. -/
def signed (negative : Bool) (n : Nat) : Int := if negative then -(n : Int) else n

/-- The most digits that a whole number may have where texts and numbers are converted into each
other. -/
def longestWhole : Nat := 4300

/-- Reads a whole number written in the digits of any script. -/
def readInt (s : String) : Option Int :=
  let (negative, cs) := takeSign (trimSpace s.toList)
  match takeDigits digit? cs with
  | (digit :: digits, []) =>
    if longestWhole < (digit :: digits).length then none
    else some (signed negative (ofDigits (digit :: digits)))
  | _ => none

/-- Reads a whole number in plain digits that may be followed by a point and zeros. -/
def readWhole (s : String) : Option Int :=
  let (negative, cs) := takeSign (trimSpace s.toList)
  match takeDigits asciiDigit? cs with
  | (digit :: digits, rest) =>
    let value := signed negative (ofDigits (digit :: digits))
    match rest with
    | [] => some value
    | '.' :: zeros => if zeros != [] && zeros.all (· == '0') then some value else none
    | _ => none
  | _ => none

/-- `± m · 10 ^ e` as the nearest floating-point number. Exponents far outside the range of
floating-point numbers are not computed with. -/
def toFloat (negative : Bool) (m : Nat) (e : Int) : Float :=
  let size := (Nat.toDigits 10 m).length
  let x : Float :=
    if m == 0 || e + size < -400 then 0.0
    else if e + size > 400 then 1.0 / 0.0
    else
      match e with
      | .ofNat k => Float.ofScientific (m * Nat.pow 10 k) false 0
      | .negSucc k => Float.ofScientific m true (k + 1)
  if negative then -x else x

/-- An exponent part, if the text has one: an `e`, a sign and at least one digit. -/
def takeExponent (digitOf : Char → Option Nat) (cs : List Char) : Option (Int × List Char) :=
  match cs with
  | [] => some (0, [])
  | c :: rest =>
    if c == 'e' || c == 'E' then
      let (negative, rest) := takeSign rest
      match takeDigits digitOf rest with
      | ([], _) => none
      | (digits, rest) => some (signed negative (ofDigits digits), rest)
    else some (0, cs)

/-- Reads a floating-point number in given digits: digits with an optional point and exponent, or
the word for infinity or for no number in any case. -/
def readFloatIn (digitOf : Char → Option Nat) (cs : List Char) : Option Float :=
  let (negative, cs) := takeSign (trimSpace cs)
  let word := String.ofList (cs.map Char.toLower)
  if word == "inf" || word == "infinity" then
    some (if negative then -(1.0 / 0.0) else 1.0 / 0.0)
  else if word == "nan" then some (0.0 / 0.0)
  else
    let (whole, rest) := takeDigits digitOf cs
    let (fraction, rest) :=
      match rest with
      | '.' :: after => takeDigits digitOf after
      | _ => ([], rest)
    if whole.isEmpty && fraction.isEmpty then none
    else
      match takeExponent digitOf rest with
      | some (e, []) =>
        some (toFloat negative (ofDigits (whole ++ fraction)) (e - fraction.length))
      | _ => none

/-- Reads a floating-point number written in the digits of any script. -/
def readFloat (s : String) : Option Float := readFloatIn digit? s.toList

/-- Reads a floating-point number in plain digits. Underscores count for nothing, but none stands at
an end of the text or next to another one. -/
def readPlainFloat (s : String) : Option Float :=
  let cs := s.toList
  if cs.head? == some '_' || cs.getLast? == some '_' || occurs ['_', '_'] cs then none
  else readFloatIn asciiDigit? (cs.filter (· != '_'))

end AgentWorkflow.Decimal
