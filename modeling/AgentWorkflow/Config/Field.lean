import AgentWorkflow.Decimal.Binary
import AgentWorkflow.Decimal.Reading
import AgentWorkflow.Fault
import AgentWorkflow.Value.Basic

/-!
Typed fields of a configuration. A value is read as the type its field asks for, with the
conversions that lose nothing; several fields are read side by side, and the issues of all of them
are reported in the order of the fields.
-/

namespace AgentWorkflow

/-- The outcome of reading fields: a value, or the issues found. -/
abbrev Checked (α : Type) := Except (List FieldIssue) α

namespace Checked

variable {α β : Type}

/-- A single problem at the place of the field itself. -/
def problem (p : FieldProblem) : Checked α := .error [⟨[], p⟩]

/-- Locates the issues of a field inside what holds it. -/
def under (part : PathPart) : Checked α → Checked α
  | .ok a => .ok a
  | .error issues => .error (issues.map (·.under part))

/-- Reads two fields; the issues of both are kept. -/
def both : Checked α → Checked β → Checked (α × β)
  | .ok a, .ok b => .ok (a, b)
  | .ok _, .error issues => .error issues
  | .error issues, .ok _ => .error issues
  | .error first, .error second => .error (first ++ second)

/-- Reads every item; the issues of all of them are kept. -/
def all : List (Checked α) → Checked (List α)
  | [] => .ok []
  | first :: rest =>
    match both first (all rest) with
    | .ok (a, as) => .ok (a :: as)
    | .error issues => .error issues

end Checked

namespace Field

/-- A text. -/
def text : Value → Checked String
  | .str s => .ok s
  | _ => .problem .notText

/-- A text of more characters than this is not read as a whole number. -/
def longestNumber : Nat := 4300

/-- A whole number. Booleans count as zero and one; a floating-point number has to be whole and to
fit into 64 bits; a text has to be the text of a whole number. -/
def whole : Value → Checked Int
  | .int n => .ok n
  | .bool b => .ok (if b then 1 else 0)
  | .float x =>
    let binary := Decimal.Binary.ofFloat x
    match binary.truncate?, binary.toInt? with
    | none, _ => .problem .notFinite
    | some _, none => .problem .fractional
    | some _, some n => if n.natAbs < Nat.pow 2 63 then .ok n else .problem .tooLarge
  | .str s =>
    if longestNumber < s.length then .problem .tooLarge
    else
      match Decimal.readWhole s with
      | some n => .ok n
      | none => .problem .unreadableWhole
  | _ => .problem .notWhole

/-- The nearest floating-point number to a whole one. -/
def ofWhole (n : Int) : Float := Decimal.toFloat (n < 0) n.natAbs 0

/-- A floating-point number. Booleans are converted, and whole numbers that are not too large for
it; a text has to be the text of a number. -/
def number : Value → Checked Float
  | .float x => .ok x
  | .int n =>
    let x := ofWhole n
    if x.isInf then .problem .notNumber else .ok x
  | .bool b => .ok (if b then 1 else 0)
  | .str s =>
    match Decimal.readPlainFloat s with
    | some x => .ok x
    | none => .problem .unreadableNumber
  | _ => .problem .notNumber

/-- A list of texts. -/
def texts : Value → Checked (List String)
  | .list items =>
    .all ((items.zipIdx).map fun (item, index) => (text item).under (.index index))
  | _ => .problem .notList

/-- A record of texts. -/
def textRecord : Value → Checked (Record String)
  | .object fields =>
    .all (fields.map fun (key, value) =>
      Checked.under (.key key) ((text value).map fun s => (key, s)))
  | _ => .problem .notObject

/-- A field of a record that has a default when it is missing. -/
def optional {α : Type} (fields : Record Value) (key : String) (default : α)
    (read : Value → Checked α) : Checked α :=
  match fields.find? key with
  | none => .ok default
  | some value => (read value).under (.key key)

/-- A field of a record that must be there. -/
def required {α : Type} (fields : Record Value) (key : String) (read : Value → Checked α) :
    Checked α :=
  match fields.find? key with
  | none => .error [⟨[.key key], .missing⟩]
  | some value => (read value).under (.key key)

/-- Reads null as a default. -/
def orNull {α : Type} (default : α) (read : Value → Checked α) : Value → Checked α
  | .null => .ok default
  | value => read value

/-- Whether a value is a number that is not above zero. -/
def isNonPositive : Value → Bool
  | .bool b => !b
  | .int n => n ≤ 0
  | .float x => x ≤ 0.0
  | _ => false

/-- Reads null, and a number that is not above zero, as another value. -/
def positiveOr {α : Type} (substitute : Value) (read : Value → Checked α) (value : Value) :
    Checked α :=
  match value with
  | .null => read substitute
  | _ => if isNonPositive value then read substitute else read value

end Field

end AgentWorkflow
