/-!
Sets of characters given as ranges of code points. A table of a Unicode property is a list of
inclusive ranges, and membership is a search through it.
-/

namespace AgentWorkflow.Text

/-- An inclusive range of code points. -/
abbrev CodeRange := Nat × Nat

/-- Whether a code point lies in one of the ranges. -/
def inRanges (ranges : List CodeRange) (code : Nat) : Bool :=
  ranges.any fun range => range.1 ≤ code && code ≤ range.2

end AgentWorkflow.Text
