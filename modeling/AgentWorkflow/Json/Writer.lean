import AgentWorkflow.Decimal.Digits
import AgentWorkflow.Text.Quoted
import AgentWorkflow.Value.Display

/-!
Values as JSON text. A `Style` says whether keys are sorted, whether characters outside ASCII are
escaped, and whether the text is spread over indented lines.

Only plain data has a JSON form; anything else is written as null.
-/

namespace AgentWorkflow.Json

open Text Decimal

/-- How a value is written. -/
structure Style where
  sorted : Bool := false
  ascii : Bool := true
  /-- The indentation of one level, when every item has a line of its own. -/
  indent : Option Nat := none
  /-- What stands between two items on one line. -/
  comma : String := ", "
  /-- What stands between a key and its value. -/
  colon : String := ": "

/-- A code of sixteen bits as an escape. -/
def escapeCode (code : Nat) : List Char := '\\' :: 'u' :: hexDigits 4 code

/-- One character inside a string. -/
def escapeChar (ascii : Bool) (c : Char) : List Char :=
  let code := c.toNat
  if c == '"' || c == '\\' then ['\\', c]
  else if c == '\n' then ['\\', 'n']
  else if c == '\r' then ['\\', 'r']
  else if c == '\t' then ['\\', 't']
  else if code == 8 then ['\\', 'b']
  else if code == 12 then ['\\', 'f']
  else if code < 0x20 then escapeCode code
  else if !ascii || code < 0x7f then [c]
  else if code < 0x10000 then escapeCode code
  else
    escapeCode (0xd800 + (code - 0x10000) / 0x400) ++ escapeCode (0xdc00 + (code - 0x10000) % 0x400)

/-- A string in quotes. -/
def stringText (ascii : Bool) (s : String) : String :=
  String.ofList ('"' :: (s.toList.flatMap (escapeChar ascii) ++ ['"']))

/-- A floating-point number, with words for infinity and for no number. -/
def floatText (x : Float) : String :=
  Layout.text { positionalBelow := 16, keepsFraction := true, nan := "NaN", infinity := "Infinity" }
    shortest x

/-- The parts of a list or an object between its brackets, at a given depth. -/
def enclosed (style : Style) (depth : Nat) (left right : String) (parts : List String) : String :=
  if parts.isEmpty then left ++ right
  else
    match style.indent with
    | none => left ++ joined style.comma parts ++ right
    | some width =>
      let line (level : Nat) : String := "\n" ++ String.ofList (List.replicate (width * level) ' ')
      left ++ line (depth + 1) ++ joined ("," ++ line (depth + 1)) parts ++ line depth ++ right

/-- Pairs in the order of their keys; equal keys keep their order. -/
def sortPairs {α : Type} (pairs : List (String × α)) : List (String × α) :=
  pairs.mergeSort fun a b => !decide (b.1 < a.1)

/-- The parts of an object in the order the style asks for. -/
def orderParts (style : Style) (parts : List (String × String)) : List String :=
  (if style.sorted then sortPairs parts else parts).map fun (key, text) =>
    stringText style.ascii key ++ style.colon ++ text

mutual

/-- The text of a value at a given depth. -/
def valueText (style : Style) (depth : Nat) : Value → String
  | .null => "null"
  | .bool true => "true"
  | .bool false => "false"
  | .int n => toString n
  | .float x => floatText x
  | .str s => stringText style.ascii s
  | .list items => enclosed style depth "[" "]" (itemTexts style (depth + 1) items)
  | .tuple items => enclosed style depth "[" "]" (itemTexts style (depth + 1) items)
  | .object fields =>
    enclosed style depth "\x7b" "\x7d" (orderParts style (fieldTexts style (depth + 1) fields))
  | _ => "null"

/-- The texts of the items of a list. -/
def itemTexts (style : Style) (depth : Nat) : List Value → List String
  | [] => []
  | item :: items => valueText style depth item :: itemTexts style depth items

/-- The texts of the fields of an object with their keys. -/
def fieldTexts (style : Style) (depth : Nat) : List (String × Value) → List (String × String)
  | [] => []
  | (key, value) :: fields => (key, valueText style depth value) :: fieldTexts style depth fields

end

/-- Writes a value. -/
def write (style : Style) (v : Value) : Except Fault String := v.written (valueText style 0)

end AgentWorkflow.Json
