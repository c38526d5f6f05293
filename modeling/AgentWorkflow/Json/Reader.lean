import AgentWorkflow.Decimal.Reading
import AgentWorkflow.Value.Basic

/-!
JSON text as a value.

The grammar is the standard one with three additions: the words for infinity and for no number stand
for the floating-point values they name. A number is whole unless it has a fraction or an exponent.
Control characters inside a string are refused. A repeated key keeps its first place and its last
value. Half of a surrogate pair, which is no character, reads as the replacement character.

A text may fail to be read in two ways: it is no JSON text, or a whole number in it has too many
digits. The second is found as soon as the number is met, whatever stands behind it.
-/

namespace AgentWorkflow.Json

open Text Decimal

/-- Why a text is not read. -/
inductive Issue
  /-- The text is not that of one value. -/
  | malformed
  /-- A whole number has more digits than are read. -/
  | wholeTooLong
  deriving DecidableEq, Repr

/-- Blanks between the parts of a JSON text. -/
def isGap (c : Char) : Bool := c == ' ' || c == '\t' || c == '\n' || c == '\r'

/-- The text after the blanks at its front. -/
def skipGaps (cs : List Char) : List Char := cs.dropWhile isGap

/-- The value of four hexadecimal digits. -/
def hexQuad? : List Char → Option (Nat × List Char)
  | a :: b :: c :: d :: rest => do
    let digit (x : Char) : Option Nat := if x.toNat < 0x80 then Uuid.hexDigit? x else none
    let value := (((← digit a) * 16 + (← digit b)) * 16 + (← digit c)) * 16 + (← digit d)
    some (value, rest)
  | _ => none

/-- The character that an escaped code stands for, when what follows may complete a pair. -/
def codeChar (code : Nat) (rest : List Char) : Char × List Char :=
  if 0xd800 ≤ code && code < 0xdc00 then
    match rest with
    | '\\' :: 'u' :: more =>
      match hexQuad? more with
      | some (low, after) =>
        if 0xdc00 ≤ low && low < 0xe000 then
          (Char.ofNat (0x10000 + (code - 0xd800) * 0x400 + (low - 0xdc00)), after)
        else (Char.ofNat 0xfffd, rest)
      | none => (Char.ofNat 0xfffd, rest)
    | _ => (Char.ofNat 0xfffd, rest)
  else if 0xdc00 ≤ code && code < 0xe000 then (Char.ofNat 0xfffd, rest)
  else (Char.ofNat code, rest)

/-- The character that a letter after a backslash stands for. -/
def escapedChar? : Char → Option Char
  | '"' => some '"'
  | '\\' => some '\\'
  | '/' => some '/'
  | 'b' => some (Char.ofNat 8)
  | 'f' => some (Char.ofNat 12)
  | 'n' => some '\n'
  | 'r' => some '\r'
  | 't' => some '\t'
  | _ => none

/-- The characters of a string up to its closing quote; `fuel` characters are read at most. -/
def readString (fuel : Nat) (cs : List Char) : Option (List Char × List Char) :=
  match fuel, cs with
  | 0, _ => none
  | _ + 1, [] => none
  | _ + 1, '"' :: rest => some ([], rest)
  | fuel + 1, '\\' :: 'u' :: rest => do
    let (code, rest) ← hexQuad? rest
    let (c, rest) := codeChar code rest
    let (tail, rest) ← readString fuel rest
    some (c :: tail, rest)
  | fuel + 1, '\\' :: letter :: rest => do
    let c ← escapedChar? letter
    let (tail, rest) ← readString fuel rest
    some (c :: tail, rest)
  | fuel + 1, c :: rest =>
    if c.toNat < 0x20 || c == '\\' then none
    else do
      let (tail, rest) ← readString fuel rest
      some (c :: tail, rest)

/-- The plain digits at the front of a text. -/
def plainDigits (cs : List Char) : List Nat × List Char :=
  ((cs.takeWhile fun c => (asciiDigit? c).isSome).filterMap asciiDigit?,
    cs.dropWhile fun c => (asciiDigit? c).isSome)

/-- A point with digits after it; without digits the point is left. -/
def fractionPart (cs : List Char) : List Nat × List Char :=
  match cs with
  | '.' :: rest =>
    match plainDigits rest with
    | ([], _) => ([], cs)
    | found => found
  | _ => ([], cs)

/-- An exponent; without digits all of it is left. -/
def exponentPart (cs : List Char) : Option Int × List Char :=
  match cs with
  | c :: rest =>
    if c == 'e' || c == 'E' then
      let (negative, digits) := takeSign rest
      match plainDigits digits with
      | ([], _) => (none, cs)
      | (found, after) => (some (signed negative (ofDigits found)), after)
    else (none, cs)
  | [] => (none, cs)

/-- A number whose sign has been taken off. A zero is not followed by further digits. Only a whole
number can have too many digits. -/
def readNumber (negative : Bool) (cs : List Char) : Except Issue (Value × List Char) :=
  let whole : List Nat × List Char :=
    match cs with
    | '0' :: rest => ([0], rest)
    | _ => plainDigits cs
  match whole with
  | ([], _) => .error .malformed
  | (digits, rest) =>
    let (fraction, rest) := fractionPart rest
    let (exponent, rest) := exponentPart rest
    if fraction.isEmpty && exponent.isNone then
      if longestWhole < digits.length then .error .wholeTooLong
      else .ok (.int (signed negative (ofDigits digits)), rest)
    else
      let scale := exponent.getD 0 - (fraction.length : Int)
      .ok (.float (toFloat negative (ofDigits (digits ++ fraction)) scale), rest)

/-- A word that stands for a value. -/
def readWord (cs : List Char) : Option (Value × List Char) :=
  let words : List (String × Value) :=
    [("null", .null), ("true", .bool true), ("false", .bool false), ("NaN", .float (0.0 / 0.0)),
      ("Infinity", .float (1.0 / 0.0)), ("-Infinity", .float (-(1.0 / 0.0)))]
  words.findSome? fun (word, value) =>
    (dropFront? word.toList cs).map fun rest => (value, rest)

/-- What is found, where finding nothing is an issue. -/
def orMalformed {α : Type} : Option α → Except Issue α
  | some a => .ok a
  | none => .error .malformed

mutual

/-- A value at the front of a text; nesting and length are bounded by `fuel`. -/
def readValue (fuel : Nat) (cs : List Char) : Except Issue (Value × List Char) :=
  match fuel with
  | 0 => .error .malformed
  | fuel + 1 =>
    match cs with
    | '"' :: rest => do
      let (s, rest) ← orMalformed (readString (rest.length + 1) rest)
      return (.str (String.ofList s), rest)
    | '[' :: rest =>
      match skipGaps rest with
      | ']' :: rest => .ok (.list [], rest)
      | rest => do
        let (items, rest) ← readItems fuel rest
        return (.list items, rest)
    | '\x7b' :: rest =>
      match skipGaps rest with
      | '\x7d' :: rest => .ok (.object [], rest)
      | rest => do
        let (fields, rest) ← readFields fuel rest
        return (.object (Record.ofPairs fields), rest)
    | _ =>
      match readWord cs with
      | some found => .ok found
      | none =>
        match cs with
        | '-' :: rest => readNumber true rest
        | _ => readNumber false cs

/-- The items of a list up to its closing bracket. -/
def readItems (fuel : Nat) (cs : List Char) : Except Issue (List Value × List Char) :=
  match fuel with
  | 0 => .error .malformed
  | fuel + 1 => do
    let (item, rest) ← readValue fuel cs
    match skipGaps rest with
    | ']' :: rest => return ([item], rest)
    | ',' :: rest =>
      let (items, rest) ← readItems fuel (skipGaps rest)
      return (item :: items, rest)
    | _ => throw .malformed

/-- The fields of an object up to its closing brace. -/
def readFields (fuel : Nat) (cs : List Char) : Except Issue (List (String × Value) × List Char) :=
  match fuel, cs with
  | 0, _ => .error .malformed
  | fuel + 1, '"' :: rest => do
    let (key, rest) ← orMalformed (readString (rest.length + 1) rest)
    match skipGaps rest with
    | ':' :: rest =>
      let (value, rest) ← readValue fuel (skipGaps rest)
      match skipGaps rest with
      | '\x7d' :: rest => return ([(String.ofList key, value)], rest)
      | ',' :: rest =>
        let (fields, rest) ← readFields fuel (skipGaps rest)
        return ((String.ofList key, value) :: fields, rest)
      | _ => throw .malformed
    | _ => throw .malformed
  | _ + 1, _ => .error .malformed

end

/-- Reads a text that holds one value and blanks around it. -/
def parse (s : String) : Except Issue Value := do
  let cs := s.toList
  let (value, rest) ← readValue (cs.length + 1) (skipGaps cs)
  if (skipGaps rest).isEmpty then return value else throw .malformed

end AgentWorkflow.Json
