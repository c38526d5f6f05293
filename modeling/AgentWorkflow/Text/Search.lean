/-!
Searching a text for another text: prefixes, first and last occurrences, removal.
-/

namespace AgentWorkflow.Text

/-- What follows `front` when the characters begin with it. -/
def dropFront? : (front cs : List Char) → Option (List Char)
  | [], cs => some cs
  | _ :: _, [] => none
  | f :: front, c :: cs => if f == c then dropFront? front cs else none

theorem dropFront?_append (front rest : List Char) :
    dropFront? front (front ++ rest) = some rest := by
  induction front with
  | nil => rfl
  | cons c front ih => simp [dropFront?, ih]

theorem eq_append_of_dropFront? {front cs rest : List Char} (h : dropFront? front cs = some rest) :
    cs = front ++ rest := by
  induction front generalizing cs with
  | nil => simpa [dropFront?] using h
  | cons f front ih =>
    cases cs with
    | nil => simp [dropFront?] at h
    | cons c cs =>
      by_cases same : f = c
      · subst same
        simpa using ih (by simpa [dropFront?] using h)
      · simp [dropFront?, same] at h

theorem isSome_dropFront?_iff {front cs : List Char} :
    (dropFront? front cs).isSome = true ↔ front <+: cs := by
  rw [Option.isSome_iff_exists]
  constructor
  · rintro ⟨rest, dropped⟩
    exact ⟨rest, (eq_append_of_dropFront? dropped).symm⟩
  · rintro ⟨rest, rfl⟩
    exact ⟨rest, dropFront?_append front rest⟩

/-- What stands before and after the first occurrence of a pattern. -/
def splitFirst? (pattern : List Char) : List Char → Option (List Char × List Char)
  | [] => if pattern.isEmpty then some ([], []) else none
  | c :: cs =>
    match dropFront? pattern (c :: cs) with
    | some rest => some ([], rest)
    | none => (splitFirst? pattern cs).map fun (before, after) => (c :: before, after)

/-- What stands before and after the last occurrence of a character. -/
def splitLast? (mark : Char) : List Char → Option (List Char × List Char)
  | [] => none
  | c :: cs =>
    match splitLast? mark cs with
    | some (before, after) => some (c :: before, after)
    | none => if c == mark then some ([], cs) else none

/-- Whether a pattern occurs in a text. -/
def occurs (pattern : List Char) (cs : List Char) : Bool := (splitFirst? pattern cs).isSome

theorem occurs_iff {pattern cs : List Char} : occurs pattern cs = true ↔ pattern <:+: cs := by
  induction cs with
  | nil => cases pattern <;> simp [occurs, splitFirst?]
  | cons c cs ih =>
    rw [List.infix_cons_iff, ← isSome_dropFront?_iff, ← ih, occurs, occurs, splitFirst?]
    cases dropFront? pattern (c :: cs) <;> simp

/-- The pieces between the occurrences of a character. -/
def splitAll (mark : Char) : List Char → List (List Char)
  | [] => [[]]
  | c :: cs =>
    match splitAll mark cs with
    | [] => [[c]]
    | piece :: pieces => if c == mark then [] :: piece :: pieces else (c :: piece) :: pieces

/-- The text without the occurrences of a non-empty pattern; `fuel` characters are looked at. -/
def removeFrom (pattern : List Char) : (fuel : Nat) → List Char → List Char
  | 0, cs => cs
  | _ + 1, [] => []
  | fuel + 1, c :: cs =>
    match dropFront? pattern (c :: cs) with
    | some rest => removeFrom pattern fuel rest
    | none => c :: removeFrom pattern fuel cs

/-- The text without the occurrences of a non-empty pattern, found from the left. -/
def removeAll (pattern cs : List Char) : List Char := removeFrom pattern cs.length cs

/-- Texts joined with a separator between two neighbours. -/
def joined (separator : String) (texts : List String) : String := separator.intercalate texts

end AgentWorkflow.Text
