import AgentWorkflow.Text.CaseTable

/-!
Lower-case text. Each character becomes its lower-case form, with two exceptions: a capital dotted I
becomes an `i` and a combining dot, and a capital sigma at the end of a word becomes the final
sigma.
-/

namespace AgentWorkflow.Text

/-- Whether a run of the case table covers a code point. -/
def CaseRun.covers (run : CaseRun) (code : Nat) : Bool :=
  run.first ≤ code && code ≤ run.last && (code - run.first) % run.stride == 0

/-- The lower-case form of one character, regardless of its neighbours. Plain letters need no
look-up. -/
def lowerChar (c : Char) : Char :=
  if c.toNat < 0x80 then c.toLower else
    match lowerRuns.find? (·.covers c.toNat) with
    | some run => Char.ofNat ((c.toNat : Int) + run.shift).toNat
    | none => c

/-- Whether the first character that counts is a letter with case. -/
def startsCased (cs : List Char) : Bool :=
  match cs.dropWhile fun c => inRanges caseIgnorableRanges c.toNat with
  | [] => false
  | c :: _ => inRanges casedRanges c.toNat

/-- Lower-cases `cs`, where `before` holds the characters in front of them, nearest first. -/
def lowerAfter (before : List Char) : List Char → List Char
  | [] => []
  | c :: cs =>
    let lowered :=
      if c.toNat == 0x130 then ['i', Char.ofNat 0x307]
      else if c.toNat == 0x3a3 then
        [if startsCased before && !startsCased cs then Char.ofNat 0x3c2 else Char.ofNat 0x3c3]
      else [lowerChar c]
    lowered ++ lowerAfter (c :: before) cs

/-- The text in lower case. -/
def lower (s : String) : String := String.ofList (lowerAfter [] s.toList)

end AgentWorkflow.Text
