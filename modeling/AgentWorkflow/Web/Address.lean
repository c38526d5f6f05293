import AgentWorkflow.Text.Digit
import AgentWorkflow.Text.Search

/-!
Host addresses inside brackets. Brackets hold an address of eight groups of hexadecimal digits, in
which one run of zero groups may be left out, or an address of a later version.
-/

namespace AgentWorkflow.Web

open Text

/-- Whether a character is a hexadecimal digit. -/
def isHexDigit (c : Char) : Bool :=
  c.isDigit || ('a' ≤ c && c ≤ 'f') || ('A' ≤ c && c ≤ 'F')

/-- Whether a text is one number of a dotted address: at most 255, in plain digits, without a zero
in front. -/
def isOctet (cs : List Char) : Bool :=
  !cs.isEmpty && cs.all Char.isDigit && cs.length ≤ 3 && (cs.length == 1 || cs.head? != some '0') &&
    ofDigits (cs.filterMap asciiDigit?) ≤ 255

/-- Whether a text is a dotted address of four numbers. -/
def isDottedAddress (cs : List Char) : Bool :=
  let parts := splitAll '.' cs
  parts.length == 4 && parts.all isOctet

/-- Whether a text is one group of at most four hexadecimal digits. -/
def isGroup (cs : List Char) : Bool := !cs.isEmpty && cs.length ≤ 4 && cs.all isHexDigit

/-- The groups of an address, with a dotted address at the end written as two groups. -/
def expandDotted (parts : List (List Char)) : Option (List (List Char)) :=
  match parts.getLast? with
  | some last =>
    if last.contains '.' then
      if isDottedAddress last then some (parts.dropLast ++ [['0'], ['0']]) else none
    else some parts
  | none => some parts

/-- Whether the parts between colons form an address. An empty part inside stands for the groups
left out; an empty part at an end is allowed next to it only. -/
def areGroups (parts : List (List Char)) : Bool :=
  let inner := parts.dropLast.drop 1
  match inner.idxOf? [] with
  | none => parts.length == 8 && parts.all isGroup
  | some place =>
    let front := parts.take (place + 1)
    let back := parts.drop (place + 2)
    let front := if front == [[]] then [] else front
    let back := if back == [[]] then [] else back
    front.all isGroup && back.all isGroup && front.length + back.length < 8

/-- Whether a text is an address of eight groups. A zone may follow after a percent sign. -/
def isGroupedAddress (cs : List Char) : Bool :=
  let (address, zoned) :=
    match splitFirst? ['%'] cs with
    | some (address, zone) => (address, !zone.isEmpty && !zone.contains '%')
    | none => (cs, true)
  let parts := splitAll ':' address
  zoned && 3 ≤ parts.length &&
    match expandDotted parts with
    | some parts => parts.length ≤ 9 && areGroups parts
    | none => false

/-- Whether a text is an address of a later version: a `v`, the version in hexadecimal digits, a
point and something after it. -/
def isFutureAddress (cs : List Char) : Bool :=
  match splitFirst? ['.'] (cs.drop 1) with
  | some (version, rest) =>
    cs.head? == some 'v' && !version.isEmpty && version.all isHexDigit && !rest.isEmpty
  | none => false

/-- Whether a text may stand between the brackets of a host. -/
def isBracketed (cs : List Char) : Bool :=
  if cs.head? == some 'v' then isFutureAddress cs else isGroupedAddress cs

end AgentWorkflow.Web
