/-!
Decimal digits. A digit of any script counts as the digit of its value (Unicode 14).
-/

namespace AgentWorkflow.Text

/-- The code points of the zeros; the digits one to nine follow each of them. -/
def zeroDigits : List Nat := [
  0x30, 0x660, 0x6f0, 0x7c0, 0x966, 0x9e6, 0xa66, 0xae6, 0xb66, 0xbe6, 0xc66, 0xce6, 0xd66,
  0xde6, 0xe50, 0xed0, 0xf20, 0x1040, 0x1090, 0x17e0, 0x1810, 0x1946, 0x19d0, 0x1a80, 0x1a90,
  0x1b50, 0x1bb0, 0x1c40, 0x1c50, 0xa620, 0xa8d0, 0xa900, 0xa9d0, 0xa9f0, 0xaa50, 0xabf0,
  0xff10, 0x104a0, 0x10d30, 0x11066, 0x110f0, 0x11136, 0x111d0, 0x112f0, 0x11450, 0x114d0,
  0x11650, 0x116c0, 0x11730, 0x118e0, 0x11950, 0x11c50, 0x11d50, 0x11da0, 0x16a60, 0x16ac0,
  0x16b50, 0x1d7ce, 0x1d7d8, 0x1d7e2, 0x1d7ec, 0x1d7f6, 0x1e140, 0x1e2f0, 0x1e950, 0x1fbf0]

/-- The value of a plain digit. -/
def asciiDigit? (c : Char) : Option Nat :=
  if '0' ≤ c && c ≤ '9' then some (c.toNat - '0'.toNat) else none

/-- The value of a decimal digit of any script. -/
def digit? (c : Char) : Option Nat :=
  (zeroDigits.find? fun start => start ≤ c.toNat && c.toNat ≤ start + 9).map (c.toNat - ·)

/-- The number that a row of digits stands for. -/
def ofDigits (digits : List Nat) : Nat :=
  digits.foldl (fun value digit => 10 * value + digit) 0

/-- The digits of a row that has begun, with single underscores between two digits; what follows
them is the second part. -/
def moreDigits (digitOf : Char → Option Nat) : List Char → List Nat × List Char
  | [] => ([], [])
  | [c] =>
    match digitOf c with
    | some d => ([d], [])
    | none => ([], [c])
  | c :: next :: rest =>
    match digitOf c with
    | some d =>
      let (digits, tail) := moreDigits digitOf (next :: rest)
      (d :: digits, tail)
    | none =>
      match c == '_', digitOf next with
      | true, some d =>
        let (digits, tail) := moreDigits digitOf rest
        (d :: digits, tail)
      | _, _ => ([], c :: next :: rest)

/-- The digits at the front of a text, and what follows them. -/
def takeDigits (digitOf : Char → Option Nat) (cs : List Char) : List Nat × List Char :=
  match cs.head?.bind digitOf with
  | some _ => moreDigits digitOf cs
  | none => ([], cs)

end AgentWorkflow.Text
