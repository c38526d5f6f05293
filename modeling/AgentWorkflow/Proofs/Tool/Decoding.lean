import AgentWorkflow.Node.ToolCall
import AgentWorkflow.Proofs.Config.Legibility
import Mathlib.Data.List.TakeWhile
import Mathlib.Tactic.SplitIfs

/-!
# What is decoded from the result of a tool

A result has several places in which fields may stand, and they are looked at in a fixed order. A
reported failure comes before everything else, even where no fields are asked for; structured
content comes before text, even where it is no object and a text is one; and of the texts the first
one counts that is JSON text of an object. Parts in front of it that are no text, blank, no JSON
text or JSON text of something else hide nothing. What is left is an error, and it quotes the start
of the first text there is.

There is one part that is not passed over: a text with a whole number that is too long to be read.
When it stands in front of all objects, the result cannot be decoded, whatever comes after it.

The order is written down as a relation with one constructor for each place. It has exactly one
outcome for every result, the one that is computed, and it tells how the call of a tool node ends.

## Main definitions

* `Tool.Part.Blank`, `Tool.Part.Skipped`, `Tool.Part.Holds`, `Tool.Part.Overlong`: what a part is
  good for
* `Tool.Decodes`: what is made of a result, place by place
* `Tool.Excerpt`: how much of a text is quoted

## Main results

* `Tool.decode_eq_iff`: what is computed is what the relation says
* `Node.ToolPlan.gives_call_iff`, `Node.ToolPlan.fails_call_iff`: what comes of a call
* `Tool.decode_by_precedence`: all of this together, and the error that a caller sees
* `Tool.figures_hide_object`: a text that is not passed over
-/

namespace AgentWorkflow

namespace Text

theorem stripChars_eq_nil_iff {cs : List Char} :
    stripChars cs = [] ↔ ∀ c ∈ cs, isBlank c = true := by
  rw [stripChars, List.reverse_eq_nil_iff, List.dropWhile_eq_nil_iff]
  simp only [List.mem_reverse]
  constructor
  · intro rest c member
    rw [← List.takeWhile_append_dropWhile (p := isBlank) (l := cs), List.mem_append] at member
    exact member.elim List.mem_takeWhile_imp (rest c)
  · exact fun blank c member => blank c ((List.dropWhile_sublist _).mem member)

theorem strip_eq_empty_iff {s : String} : strip s = "" ↔ isBlankText s = true := by
  rw [strip, String.ofList_eq_empty_iff, stripChars_eq_nil_iff, isBlankText, List.all_eq_true]

end Text

namespace Tool

variable {result : Option Result} {fields : List String} {part : Part} {s : String}
  {o : Record Value} {outcome : Except Failure (Record Value)}

/-! ### The parts of a result -/

namespace Part

/-- A part without any text but blanks. -/
inductive Blank : Part → Prop
  | media : Blank .media
  | text {s : String} (blank : Text.isBlankText s = true) : Blank (.text s)

/-- A part whose text is JSON text of an object, up to blanks at its ends. -/
inductive Holds : Part → Record Value → Prop
  | text {s : String} {o : Record Value} (something : Text.isBlankText s = false)
      (object : Json.parse (Text.strip s) = .ok (.object o)) : Holds (.text s) o

/-- A part without an object: it has no text, or one that is no JSON text, or JSON text of
something else. -/
inductive Skipped : Part → Prop
  | blank {part : Part} (blank : part.Blank) : Skipped part
  | malformed {s : String} (malformed : Json.parse (Text.strip s) = .error .malformed) :
      Skipped (.text s)
  | other {s : String} {value : Value} (read : Json.parse (Text.strip s) = .ok value)
      (other : ∀ o, value ≠ .object o) : Skipped (.text s)

/-- A part whose text is read up to a whole number that is too long. -/
inductive Overlong : Part → Prop
  | text {s : String} (something : Text.isBlankText s = false)
      (long : Json.parse (Text.strip s) = .error .wholeTooLong) : Overlong (.text s)

theorem trimmed?_eq_none_iff : part.trimmed? = none ↔ part.Blank := by
  cases part with
  | media => exact iff_of_true rfl .media
  | text s =>
    simp only [trimmed?, beq_iff_eq, Text.strip_eq_empty_iff, ite_eq_left_iff, reduceCtorEq,
      imp_false, Decidable.not_not]
    constructor
    · exact .text
    · rintro (_ | blank)
      exact blank

theorem trimmed?_text_of_not_blank (something : Text.isBlankText s = false) :
    (Part.text s).trimmed? = some (Text.strip s) := by
  rw [trimmed?, if_neg]
  rw [beq_iff_eq, Text.strip_eq_empty_iff, something]
  exact Bool.false_ne_true

theorem trimmed?_eq_some_iff {trimmed : String} :
    part.trimmed? = some trimmed ↔
      ∃ s, part = .text s ∧ Text.isBlankText s = false ∧ Text.strip s = trimmed := by
  constructor
  · intro here
    cases part with
    | media => cases here
    | text s =>
      cases blank : Text.isBlankText s with
      | true => rw [trimmed?_eq_none_iff.mpr (.text blank)] at here; cases here
      | false =>
        rw [trimmed?_text_of_not_blank blank] at here
        exact ⟨s, rfl, blank, Option.some.inj here⟩
  · rintro ⟨s, rfl, something, rfl⟩
    exact trimmed?_text_of_not_blank something

theorem Skipped.objectOf_eq {trimmed : String} (skipped : part.Skipped)
    (found : part.trimmed? = some trimmed) : objectOf trimmed = .ok none := by
  obtain ⟨s, rfl, something, rfl⟩ := trimmed?_eq_some_iff.mp found
  cases skipped with
  | blank blank =>
    rw [trimmed?_eq_none_iff.mpr blank] at found
    cases found
  | malformed malformed => rw [objectOf, malformed]
  | @other _ value read other =>
    rw [objectOf, read]
    cases value with
    | object o => exact absurd rfl (other o)
    | _ => rfl

theorem Holds.exists_trimmed (holds : part.Holds o) :
    ∃ trimmed, part.trimmed? = some trimmed ∧ objectOf trimmed = .ok (some o) := by
  obtain ⟨something, object⟩ := holds
  refine ⟨_, trimmed?_text_of_not_blank something, ?_⟩
  rw [objectOf, object]
  rfl

theorem Overlong.exists_trimmed (overlong : part.Overlong) :
    ∃ trimmed, part.trimmed? = some trimmed ∧ objectOf trimmed = .error .badValue := by
  obtain ⟨something, long⟩ := overlong
  exact ⟨_, trimmed?_text_of_not_blank something, by rw [objectOf, long]⟩

theorem skipped_or_holds_or_overlong (part : Part) :
    part.Skipped ∨ (∃ o, part.Holds o) ∨ part.Overlong := by
  cases trimmed : part.trimmed? with
  | none => exact Or.inl (.blank (trimmed?_eq_none_iff.mp trimmed))
  | some t =>
    obtain ⟨s, rfl, something, rfl⟩ := trimmed?_eq_some_iff.mp trimmed
    cases read : Json.parse (Text.strip s) with
    | ok value =>
      cases value with
      | object o => exact Or.inr (Or.inl ⟨o, .text something read⟩)
      | _ => exact Or.inl (.other read nofun)
    | error issue =>
      cases issue with
      | malformed => exact Or.inl (.malformed read)
      | wholeTooLong => exact Or.inr (Or.inr (.text something read))

end Part

/-! ### The first object and the first text -/

namespace Result

/-- Parts without an object do not hide what comes after them. -/
theorem firstObject_of_skipped {earlier rest : List Part}
    (skipped : ∀ passed ∈ earlier, passed.Skipped) :
    firstObject ((earlier ++ rest).filterMap Part.trimmed?) =
      firstObject (rest.filterMap Part.trimmed?) := by
  induction earlier with
  | nil => rfl
  | cons part earlier ih =>
    obtain ⟨first, others⟩ := List.forall_mem_cons.mp skipped
    rw [List.cons_append, List.filterMap_cons]
    cases trimmed : part.trimmed? with
    | none => exact ih others
    | some t =>
      rw [firstObject, first.objectOf_eq trimmed]
      exact ih others

/-- Parts hold no object at all, or there is a first one that is not passed over. -/
theorem all_skipped_or_first (parts : List Part) :
    (∀ part ∈ parts, part.Skipped) ∨
      ∃ earlier part later, parts = earlier ++ part :: later ∧
        (∀ passed ∈ earlier, passed.Skipped) ∧ ((∃ o, part.Holds o) ∨ part.Overlong) := by
  induction parts with
  | nil => exact Or.inl nofun
  | cons first parts ih =>
    rcases first.skipped_or_holds_or_overlong with skipped | found
    · rcases ih with others | ⟨earlier, part, later, rfl, others, found⟩
      · exact Or.inl (List.forall_mem_cons.mpr ⟨skipped, others⟩)
      · exact Or.inr ⟨first :: earlier, part, later, rfl,
          List.forall_mem_cons.mpr ⟨skipped, others⟩, found⟩
    · exact Or.inr ⟨[], first, parts, rfl, nofun, found⟩

variable {result : Result} {earlier later : List Part}

theorem firstObject_eq_none (skipped : ∀ part ∈ result.parts, part.Skipped) :
    firstObject result.texts = .ok none := by
  have alone : firstObject ((result.parts ++ []).filterMap Part.trimmed?) = .ok none :=
    firstObject_of_skipped skipped
  rwa [List.append_nil] at alone

/-- The object that is found is that of the first part with one. -/
theorem firstObject_eq_some (split : result.parts = earlier ++ part :: later)
    (skipped : ∀ passed ∈ earlier, passed.Skipped) (holds : part.Holds o) :
    firstObject result.texts = .ok (some o) := by
  obtain ⟨t, trimmed, object⟩ := holds.exists_trimmed
  rw [texts, split, firstObject_of_skipped skipped, List.filterMap_cons_some trimmed, firstObject,
    object]
  rfl

/-- The search ends at a part whose text cannot be read. -/
theorem firstObject_eq_error (split : result.parts = earlier ++ part :: later)
    (skipped : ∀ passed ∈ earlier, passed.Skipped) (overlong : part.Overlong) :
    firstObject result.texts = .error .badValue := by
  obtain ⟨t, trimmed, fault⟩ := overlong.exists_trimmed
  rw [texts, split, firstObject_of_skipped skipped, List.filterMap_cons_some trimmed, firstObject,
    fault]
  rfl

theorem texts_eq_nil_iff :
    result.texts = [] ↔ ∀ part ∈ result.parts, part.Blank := by
  simp only [texts, List.filterMap_eq_nil_iff, Part.trimmed?_eq_none_iff]

/-- The first text is that of the first part that is not blank. -/
theorem head?_texts_eq_some_iff {first : String} :
    result.texts.head? = some first ↔
      ∃ earlier s later, result.parts = earlier ++ .text s :: later ∧
        (∀ passed ∈ earlier, passed.Blank) ∧ Text.isBlankText s = false ∧
        Text.strip s = first := by
  simp only [texts, List.head?_filterMap, List.findSome?_eq_some_iff, Part.trimmed?_eq_none_iff,
    Part.trimmed?_eq_some_iff]
  constructor
  · rintro ⟨earlier, _, later, split, ⟨s, rfl, something, same⟩, blank⟩
    exact ⟨earlier, s, later, split, blank, something, same⟩
  · rintro ⟨earlier, s, later, split, blank, something, same⟩
    exact ⟨earlier, _, later, split, ⟨s, rfl, something, same⟩, blank⟩

end Result

/-! ### The places in their order -/

/-- What is made of a result when these fields are asked for. Every constructor is a place to look
at, and says that nothing was found in the places before it. -/
inductive Decodes (fields : List String) :
    Option Result → Except Failure (Record Value) → Prop
  | reported {result : Result} (failed : result.failed = true) :
      Decodes fields (some result) (unusable (.reported result.texts))
  | ignored {result : Option Result} (fine : ∀ given ∈ result, given.failed = false)
      (unasked : fields = []) : Decodes fields result (.ok [])
  | missing (asked : fields ≠ []) : Decodes fields none (unusable .noResult)
  | structured {result : Result} {o : Record Value} (fine : result.failed = false)
      (asked : fields ≠ []) (object : result.structured = some (.object o)) :
      Decodes fields (some result) (.ok o)
  | misshapen {result : Result} {value : Value} (fine : result.failed = false)
      (asked : fields ≠ []) (present : result.structured = some value)
      (other : ∀ o, value ≠ .object o) : Decodes fields (some result) (unusable .structureNotObject)
  | text {result : Result} {earlier later : List Part} {part : Part} {o : Record Value}
      (fine : result.failed = false) (asked : fields ≠ []) (absent : result.structured = none)
      (split : result.parts = earlier ++ part :: later)
      (skipped : ∀ passed ∈ earlier, passed.Skipped) (holds : part.Holds o) :
      Decodes fields (some result) (.ok o)
  | overlong {result : Result} {earlier later : List Part} {part : Part}
      (fine : result.failed = false) (asked : fields ≠ []) (absent : result.structured = none)
      (split : result.parts = earlier ++ part :: later)
      (skipped : ∀ passed ∈ earlier, passed.Skipped) (overlong : part.Overlong) :
      Decodes fields (some result) (.error (.fault .badValue))
  | unreadable {result : Result} {earlier later : List Part} {s : String}
      (fine : result.failed = false) (asked : fields ≠ []) (absent : result.structured = none)
      (skipped : ∀ part ∈ result.parts, part.Skipped)
      (split : result.parts = earlier ++ .text s :: later)
      (blank : ∀ passed ∈ earlier, passed.Blank) (something : Text.isBlankText s = false) :
      Decodes fields (some result) (unusable (.unreadable (Text.strip s)))
  | speechless {result : Result} (fine : result.failed = false) (asked : fields ≠ [])
      (absent : result.structured = none) (blank : ∀ part ∈ result.parts, part.Blank) :
      Decodes fields (some result) (unusable .noText)

theorem decode_of_asked {result : Result} (fine : result.failed = false) (asked : fields ≠ []) :
    decode (some result) fields = result.content := by
  rw [decode, if_neg (by rw [fine]; exact Bool.false_ne_true),
    if_neg (by rwa [List.isEmpty_iff])]

/-- Where no part holds an object, the first text is told. -/
theorem Result.content_of_skipped {result : Result} (absent : result.structured = none)
    (skipped : ∀ part ∈ result.parts, part.Skipped) :
    result.content =
      match result.texts.head? with
      | some first => unusable (.unreadable first)
      | none => unusable .noText := by
  simp only [content, absent, firstObject_eq_none skipped]
  cases result.texts <;> rfl

/-- There is a place that tells what becomes of a result. -/
theorem decodes_decode (result : Option Result) (fields : List String) :
    Decodes fields result (decode result fields) := by
  -- the error flag comes first even where no field is asked for
  by_cases asked : fields = []
  · subst asked
    cases result with
    | none => exact .ignored nofun rfl
    | some given =>
      cases failed : given.failed with
      | true => rw [decode, if_pos failed]; exact .reported failed
      | false =>
        rw [decode, failed]
        exact .ignored (by rintro _ ⟨⟩; exact failed) rfl
  cases result with
  | none => rw [decode, if_neg (by rwa [List.isEmpty_iff])]; exact .missing asked
  | some given =>
    cases failed : given.failed with
    | true => rw [decode, if_pos failed]; exact .reported failed
    | false =>
      rw [decode_of_asked failed asked]
      cases structured : given.structured with
      | some value =>
        rw [Result.content, structured]
        cases value with
        | object o => exact .structured failed asked structured
        | _ => exact .misshapen failed asked structured nofun
      | none =>
        -- only now the texts matter, and the first part that is not skipped decides
        rcases Result.all_skipped_or_first given.parts with
          skipped | ⟨earlier, part, later, split, skipped, ⟨o, holds⟩ | overlong⟩
        · rw [Result.content_of_skipped structured skipped]
          cases first : given.texts.head? with
          | some t =>
            obtain ⟨earlier, s, later, split, blank, something, rfl⟩ :=
              Result.head?_texts_eq_some_iff.mp first
            exact .unreadable failed asked structured skipped split blank something
          | none =>
            rw [List.head?_eq_none_iff, Result.texts_eq_nil_iff] at first
            exact .speechless failed asked structured first
        · simp only [Result.content, structured,
            Result.firstObject_eq_some split skipped holds]
          exact .text failed asked structured split skipped holds
        · simp only [Result.content, structured,
            Result.firstObject_eq_error split skipped overlong]
          exact .overlong failed asked structured split skipped overlong

/-- Every place tells what is computed, so no two of them disagree. -/
theorem Decodes.decode_eq (decodes : Decodes fields result outcome) :
    decode result fields = outcome := by
  cases decodes with
  | reported failed => rw [decode, if_pos failed]
  | ignored fine unasked =>
    subst unasked
    cases result with
    | none => rfl
    | some given => rw [decode, fine given rfl]; rfl
  | missing asked => rw [decode, if_neg (by rwa [List.isEmpty_iff])]
  | structured fine asked object => rw [decode_of_asked fine asked, Result.content, object]
  | @misshapen _ value fine asked present other =>
    rw [decode_of_asked fine asked, Result.content, present]
    cases value with
    | object o => exact absurd rfl (other o)
    | _ => rfl
  | text fine asked absent split skipped holds =>
    simp only [decode_of_asked fine asked, Result.content, absent,
      Result.firstObject_eq_some split skipped holds]
  | overlong fine asked absent split skipped overlong =>
    simp only [decode_of_asked fine asked, Result.content, absent,
      Result.firstObject_eq_error split skipped overlong]
  | unreadable fine asked absent skipped split blank something =>
    rw [decode_of_asked fine asked, Result.content_of_skipped absent skipped,
      Result.head?_texts_eq_some_iff.mpr ⟨_, _, _, split, blank, something, rfl⟩]
  | speechless fine asked absent blank =>
    rw [decode_of_asked fine asked,
      Result.content_of_skipped absent fun part member => .blank (blank part member),
      Result.texts_eq_nil_iff.mpr blank]
    rfl

/-- What is computed is what the relation says. -/
theorem decode_eq_iff : decode result fields = outcome ↔ Decodes fields result outcome := by
  constructor
  · rintro rfl
    exact decodes_decode result fields
  · exact Decodes.decode_eq

/-! ### What is quoted of a text -/

/-- A text as it is quoted: the whole of it, or its first `limit` characters and dots. -/
inductive Excerpt (limit : Nat) (s : String) : String → Prop
  | whole (short : s.length ≤ limit) : Excerpt limit s s
  | start {front back : List Char} (split : s.toList = front ++ back) (long : back ≠ [])
      (full : front.length = limit) : Excerpt limit s (String.ofList front ++ "...")

theorem excerpt_trimmedText (limit : Nat) (s : String) : Excerpt limit s (trimmedText limit s) := by
  rw [trimmedText]
  split_ifs with short
  · exact .whole short
  · have longer : limit < s.toList.length := by
      rw [String.length_toList]
      exact not_le.mp short
    refine .start (List.take_append_drop limit s.toList).symm ?_ ?_
    · rw [ne_eq, List.drop_eq_nil_iff]
      exact not_le.mpr longer
    · rw [List.length_take, min_eq_left longer.le]

end Tool

/-! ### The call of a tool node -/

namespace Node.ToolPlan

variable {σ : Type} {plan : ToolPlan} {transport : Tool.Transport σ} {arguments : Record Value}
  {before after : σ} {output : Record Value} {failure : Failure}

/-- A call gives what is decoded from what the tool has to say. -/
theorem gives_call_iff :
    (plan.call transport arguments).Gives before output after ↔
      ∃ result, (transport.call plan.tool arguments).Gives before result after ∧
        Tool.decode result plan.outputs = .ok output := by
  simp only [call, Act.gives_bind_iff, Act.gives_ofExcept_iff]
  constructor
  · rintro ⟨result, _, called, decoded, rfl⟩
    exact ⟨result, called, decoded⟩
  · rintro ⟨result, called, decoded⟩
    exact ⟨result, after, called, decoded, rfl⟩

/-- A call fails where the tool does, and where what it has to say cannot be decoded. -/
theorem fails_call_iff :
    (plan.call transport arguments).Fails before failure after ↔
      (transport.call plan.tool arguments).Fails before failure after ∨
        ∃ result, (transport.call plan.tool arguments).Gives before result after ∧
          Tool.decode result plan.outputs = .error failure := by
  simp only [call, Act.fails_bind_iff, Act.fails_ofExcept_iff]
  refine or_congr_right ?_
  constructor
  · rintro ⟨result, _, called, decoded, rfl⟩
    exact ⟨result, called, decoded⟩
  · rintro ⟨result, called, decoded⟩
    exact ⟨result, after, called, decoded, rfl⟩

end Node.ToolPlan

namespace Tool

/-- What cannot be decoded is an error of execution, or a text in it is overlong. -/
theorem Decodes.failure {failure : Failure} (decodes : Decodes fields result (.error failure)) :
    (∃ issue, failure = .error (.execution (.tool issue))) ∨
      failure = .fault .badValue ∧ ∃ given ∈ result, ∃ part ∈ given.parts, part.Overlong := by
  cases decodes with
  | overlong fine asked absent split skipped overlong =>
    exact Or.inr ⟨rfl, _, rfl, _, by simp [split], overlong⟩
  | _ => exact Or.inl ⟨_, rfl⟩

/-- Every result has one outcome, found by going through the places in their order. A call gives
the object that is decoded, or fails with an error of execution, unless a text is overlong; where a
text is no JSON text, the message quotes no more than 160 characters of it. -/
theorem decode_by_precedence (result : Option Result) (fields : List String) :
    (∀ outcome, decode result fields = outcome ↔ Decodes fields result outcome) ∧
      (∀ {σ : Type} (plan : Node.ToolPlan) (transport : Transport σ) arguments before after,
        (∀ output, (plan.call transport arguments).Gives before output after ↔
          ∃ result, (transport.call plan.tool arguments).Gives before result after ∧
            Decodes plan.outputs result (.ok output)) ∧
        ∀ failure, (plan.call transport arguments).Fails before failure after ↔
          (transport.call plan.tool arguments).Fails before failure after ∨
            ∃ result, (transport.call plan.tool arguments).Gives before result after ∧
              Decodes plan.outputs result (.error failure)) ∧
      (∀ failure, decode result fields = .error failure →
        (∃ issue, failure = .error (.execution (.tool issue))) ∨
          failure = .fault .badValue ∧
            ∃ given ∈ result, ∃ part ∈ given.parts, part.Overlong) ∧
      (∀ issue, (GraphError.execution (.tool issue)).kind = .execution) ∧
      ∀ s, ∃ shown, Excerpt 160 s shown ∧
        ToolIssue.message (.unreadable s) =
          "failed to parse tool output json from text content: " ++ Text.quote shown := by
  refine ⟨fun outcome => decode_eq_iff, ?called,
    fun _ fails => (decode_eq_iff.mp fails).failure, fun issue => rfl, ?quoted⟩
  case called =>
    intro σ plan transport arguments before after
    simp only [← decode_eq_iff]
    exact ⟨fun output => Node.ToolPlan.gives_call_iff, fun failure => Node.ToolPlan.fails_call_iff⟩
  case quoted => exact fun s => ⟨_, excerpt_trimmedText 160 s, rfl⟩

/-- The second text of a result holds an object and the first one is a long number. But the result
cannot be decoded. -/
theorem figures_hide_object :
    (Part.text "\x7b\x7d").Holds [] ∧
      decode (some { parts := [.text (String.ofList Json.figures), .text "\x7b\x7d"] }) ["a"] =
        .error (.fault .badValue) := by
  have long : (Part.text (String.ofList Json.figures)).Overlong :=
    .text Json.not_blank_figures (by rw [Json.strip_figures, Json.parse_figures])
  refine ⟨.text (by decide) rfl, ?_⟩
  -- nothing stands in front of the long number
  exact (Decodes.overlong rfl (by decide) rfl (List.nil_append _).symm
    (List.forall_mem_nil _) long).decode_eq

end Tool

end AgentWorkflow
