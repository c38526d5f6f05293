import AgentWorkflow.Text.Digit
import AgentWorkflow.Text.Search

/-!
Points in time: a calendar date and a time of day, with or without an offset from universal time.
-/

namespace AgentWorkflow

/-- A date and a time of day. The offset from universal time is in seconds. -/
structure Timestamp where
  year : Nat
  month : Nat
  day : Nat
  hour : Nat := 0
  minute : Nat := 0
  second : Nat := 0
  microsecond : Nat := 0
  offset : Option Int := none
  deriving DecidableEq, Repr, Inhabited

namespace Timestamp

open Text

/-- Days from the first of March of the year zero; the year is taken to begin in March. -/
def dayNumber (year month day : Nat) : Int :=
  let y : Int := if month ≤ 2 then (year : Int) - 1 else year
  let m : Int := if month ≤ 2 then (month : Int) + 9 else (month : Int) - 3
  365 * y + y / 4 - y / 100 + y / 400 + (153 * m + 2) / 5 + day

/-- Microseconds of universal time; a time without an offset counts as universal. -/
def instant (t : Timestamp) : Int :=
  let hours : Int := dayNumber t.year t.month t.day * 24 + t.hour
  let seconds : Int := (hours * 60 + t.minute) * 60 + t.second
  (seconds - t.offset.getD 0) * 1000000 + t.microsecond

/-- A number with zeros in front up to a width. -/
def padded (width n : Nat) : String :=
  let digits := Nat.toDigits 10 n
  String.ofList (List.replicate (width - digits.length) '0' ++ digits)

/-- An offset as hours and minutes, with seconds when there are any. -/
def offsetText (offset : Int) : String :=
  let size := offset.natAbs
  (if offset < 0 then "-" else "+") ++ padded 2 (size / 3600) ++ ":" ++ padded 2 (size / 60 % 60) ++
    (if size % 60 == 0 then "" else ":" ++ padded 2 (size % 60))

/-- The date and time in the extended format, with a fraction only when it is not zero. -/
def text (t : Timestamp) : String :=
  padded 4 t.year ++ "-" ++ padded 2 t.month ++ "-" ++ padded 2 t.day ++ "T" ++
    padded 2 t.hour ++ ":" ++ padded 2 t.minute ++ ":" ++ padded 2 t.second ++
    (if t.microsecond == 0 then "" else "." ++ padded 6 t.microsecond) ++
    (t.offset.map offsetText).getD ""

/-- Exactly `count` plain digits. -/
def takeNumber (count : Nat) (cs : List Char) : Option (Nat × List Char) :=
  let digits := (cs.take count).filterMap asciiDigit?
  if digits.length == count then some (ofDigits digits, cs.drop count) else none

/-- A number of two digits after a colon, or zero when there is no colon. -/
def takeOptional (cs : List Char) : Option (Nat × List Char) :=
  match cs with
  | ':' :: rest => takeNumber 2 rest
  | _ => some (0, cs)

/-- The fraction of a second in microseconds; further digits are dropped. -/
def takeFraction (cs : List Char) : Option (Nat × List Char) :=
  match cs with
  | '.' :: rest | ',' :: rest =>
    let digits := (rest.takeWhile fun c => (asciiDigit? c).isSome).filterMap asciiDigit?
    if digits.isEmpty then none
    else
      let six := digits.take 6
      some (ofDigits six * Nat.pow 10 (6 - six.length), rest.drop digits.length)
  | _ => some (0, cs)

/-- The offset from universal time at the end of a text. -/
def takeOffset (cs : List Char) : Option (Option Int) :=
  let size (rest : List Char) : Option Int := do
    let (hours, rest) ← takeNumber 2 rest
    let (minutes, rest) ← takeOptional rest
    let (seconds, rest) ← takeOptional rest
    if rest.isEmpty then some ((hours * 3600 + minutes * 60 + seconds : Nat) : Int) else none
  match cs with
  | [] => some none
  | ['Z'] => some (some 0)
  | '+' :: rest => (size rest).map some
  | '-' :: rest => (size rest).map fun n => some (-n)
  | _ => none

/-- Reads a date, or a date and a time, in the extended format. -/
def ofText? (s : String) : Option Timestamp := do
  let (year, cs) ← takeNumber 4 s.toList
  let cs ← dropFront? ['-'] cs
  let (month, cs) ← takeNumber 2 cs
  let cs ← dropFront? ['-'] cs
  let (day, cs) ← takeNumber 2 cs
  match cs with
  | [] => some { year, month, day }
  | _ :: cs =>
    let (hour, cs) ← takeNumber 2 cs
    let (minute, cs) ← takeOptional cs
    let (second, cs) ← takeOptional cs
    let (microsecond, cs) ← takeFraction cs
    let offset ← takeOffset cs
    some { year, month, day, hour, minute, second, microsecond, offset }

end Timestamp

end AgentWorkflow
