import AgentWorkflow.Text.Blank
import AgentWorkflow.Text.Digit
import AgentWorkflow.Text.Quoted
import AgentWorkflow.Text.Search

/-!
Universally unique identifiers: how they are read and written.
-/

namespace AgentWorkflow

/-- A 128-bit identifier. -/
structure Uuid where
  value : Nat
  deriving DecidableEq, Repr, Inhabited

namespace Uuid

open Text

/-- The value of a hexadecimal digit; decimal digits of every script count. -/
def hexDigit? (c : Char) : Option Nat :=
  if 'a' ≤ c && c ≤ 'f' then some (c.toNat - 'a'.toNat + 10)
  else if 'A' ≤ c && c ≤ 'F' then some (c.toNat - 'A'.toNat + 10)
  else digit? c

/-- A hexadecimal number with white space around it, an optional plus sign and an optional `0x`. -/
def readHex? (cs : List Char) : Option Nat :=
  let cs := trimSpace cs
  let cs :=
    match cs with
    | '+' :: rest => rest
    | _ => cs
  let cs :=
    match cs with
    | '0' :: x :: rest =>
      if x == 'x' || x == 'X' then
        match rest with
        | '_' :: more => more
        | _ => rest
      else cs
    | _ => cs
  match takeDigits hexDigit? cs with
  | (digit :: digits, []) =>
    some ((digit :: digits).foldl (fun value digit => 16 * value + digit) 0)
  | _ => none

/-- Reads an identifier: thirty-two hexadecimal digits, with hyphens anywhere, in braces or not, and
with or without the words that make it a name. -/
def ofText? (s : String) : Option Uuid :=
  let cs := removeAll "uuid:".toList (removeAll "urn:".toList s.toList)
  let isBrace (c : Char) : Bool := c.toNat == 0x7b || c.toNat == 0x7d
  let cs := ((cs.dropWhile isBrace).reverse.dropWhile isBrace).reverse
  let cs := cs.filter (· != '-')
  if cs.length == 32 then
    (readHex? cs).bind fun value => if value < Nat.pow 2 128 then some ⟨value⟩ else none
  else none

/-- The identifier in five hyphenated groups of lower-case digits. -/
def text (u : Uuid) : String :=
  let digits := hexDigits 32 u.value
  let group (start count : Nat) : String := String.ofList ((digits.drop start).take count)
  joined "-" [group 0 8, group 8 4, group 12 4, group 16 4, group 20 12]

end Uuid

end AgentWorkflow
