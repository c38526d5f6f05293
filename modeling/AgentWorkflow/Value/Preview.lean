import AgentWorkflow.Json.Writer
import AgentWorkflow.Text.Blank
import AgentWorkflow.Value.Plain

/-!
Previews: values and texts cut down for a log line. A cut text says how much is missing.
-/

namespace AgentWorkflow.Preview

/-- The characters in front of a place; a negative place counts from the end. -/
def front (cs : List Char) (place : Int) : List Char :=
  if 0 ≤ place then cs.take place.toNat else cs.take ((cs.length : Int) + place).toNat

/-- The limit that applies: no limit and a limit of zero mean the default one. -/
def limitOr (default : Int) : Option Int → Int
  | none => default
  | some 0 => default
  | some limit => limit

/-- The text without blanks at its ends, cut at `limit` characters. -/
def text (limit : Int) (s : String) : String :=
  let cs := Text.stripChars s.toList
  if (cs.length : Int) ≤ limit then String.ofList cs
  else
    String.ofList (front cs limit) ++ "... (" ++ toString ((cs.length : Int) - limit) ++
      " more chars)"

/-- What stands for a value that cannot be written. -/
def unwritable (fault : Fault) : String := "<unserializable state: " ++ fault.text ++ ">"

/-- The value as one line of JSON with sorted keys, cut at `limit` characters. -/
def state (limit : Int) (value : Value) : String :=
  text limit <|
    match Json.write { sorted := true, ascii := false } value.plain with
    | .ok line => line
    | .error fault => unwritable fault

end AgentWorkflow.Preview
