import AgentWorkflow.Proofs.Image.Passes

/-!
# Images that are encoded until they fit

An image that is too large is encoded in the size of each pass and in one quality after the other.
The first encoding that fits is taken. When there is none, all of them have been made, and the first
of the smallest ones is reported.

Nothing is assumed of the encodings but that they can be made and that none is empty: an empty one
would be taken for none at all when the smallest one is looked for.

## Main definitions

* `Picture.Prints`: every encoding of an image can be made
* `Picture.Tries`: all encodings that may be made of an image, in order
* `upToFit`: encodings up to the first that fits
* `IsFirst`: the first item of a list with a property
* `Encodes`: an image is encoded as the first of its encodings that fits

## Main results

* `tryEach_eq`, `upToFit_cases`: which encodings are made
* `exists_smallest`: the encoding that is reported
* `prepare_first_fit`: what becomes of an image
-/

namespace AgentWorkflow

/-- The first item of a list with a property. -/
def IsFirst {α : Type} (p : α → Prop) (items : List α) (a : α) : Prop :=
  ∃ sooner later, items = sooner ++ a :: later ∧ p a ∧ ∀ b ∈ sooner, ¬ p b

namespace Image

open Decimal

/-- The sizes and qualities to try, in order. -/
def trials (sizes : List Size) (qualities : List Int) : List (Size × Int) :=
  sizes.flatMap fun size => qualities.map fun quality => (size, quality)

/-- The encoding of a picture in a size and a quality. -/
def Picture.encode (picture : Picture) (trial : Size × Int) : Except Fault Attempt := do
  let scale ← picture.pixels
  let encode ← scale trial.1
  return ⟨trial.1, trial.2, ← encode trial.2⟩

/-- All encodings that may be made of a picture: in all qualities for the size of one pass after the
other. -/
def Picture.Tries (limits : ImageLimits) (step : ℚ) (picture : Picture)
    (candidates : List Attempt) : Prop :=
  ∃ sizes, Passes limits step limits.maxResizePasses.toNat
      (picture.size.within .exact limits.maxDimension) sizes ∧
    (trials sizes limits.qualities).mapM picture.encode = .ok candidates

/-- A picture can be encoded in every size and quality. -/
def Picture.Prints (picture : Picture) (jpeg : Size → Int → ByteArray) : Prop :=
  picture.pixels = .ok fun size => .ok fun quality => .ok (jpeg size quality)

/-- What a codec opens has a size, and it can be encoded, never as nothing. -/
structure Codec.Regular (codec : Codec) : Prop where
  width_nonneg : ∀ {data picture}, codec data = .ok (some picture) → 0 ≤ picture.size.width
  height_nonneg : ∀ {data picture}, codec data = .ok (some picture) → 0 ≤ picture.size.height
  prints : ∀ {data picture}, codec data = .ok (some picture) →
    ∃ jpeg, picture.Prints jpeg ∧ ∀ size quality, (jpeg size quality).size ≠ 0

/-- Encodings up to the first that fits. -/
def upToFit (limit : Int) : List Attempt → List Attempt
  | [] => []
  | attempt :: rest => if attempt.fits limit then [attempt] else attempt :: upToFit limit rest

/-- One encoding among those that a picture has. -/
def attemptOf (jpeg : Size → Int → ByteArray) (trial : Size × Int) : Attempt :=
  ⟨trial.1, trial.2, jpeg trial.1 trial.2⟩

variable {codec : Codec} {limits : ImageLimits} {step : ℚ} {picture : Picture}
  {jpeg : Size → Int → ByteArray} {candidates attempts : List Attempt} {best : Attempt}
  {data : ByteArray} {contentType : String}

/-! ### The encodings that are made -/

/-- Either no encoding fits and all are made, or they are made up to the first that fits. -/
theorem upToFit_cases (limit : Int) (candidates : List Attempt) :
    (upToFit limit candidates = candidates ∧ ∀ a ∈ candidates, ¬ a.fits limit) ∨
      ∃ sooner chosen later, candidates = sooner ++ chosen :: later ∧
        upToFit limit candidates = sooner ++ [chosen] ∧ chosen.fits limit ∧
          ∀ a ∈ sooner, ¬ a.fits limit := by
  induction candidates with
  | nil => exact Or.inl ⟨rfl, fun _ member => nomatch member⟩
  | cons attempt candidates ih =>
    rw [upToFit]
    by_cases fits : attempt.fits limit = true
    · rw [if_pos fits]
      exact Or.inr ⟨[], _, _, rfl, rfl, fits, fun _ member => nomatch member⟩
    · rw [if_neg fits]
      rcases ih with ⟨made, none_fits⟩ | ⟨sooner, chosen, later, split, made, chosen_fits, before⟩
      · refine Or.inl ⟨by rw [made], ?_⟩
        rintro a (_ | ⟨_, member⟩)
        · exact fits
        · exact none_fits a member
      · refine Or.inr ⟨attempt :: sooner, chosen, later, by rw [split]; rfl, by rw [made]; rfl,
          chosen_fits, ?_⟩
        rintro a (_ | ⟨_, member⟩)
        · exact fits
        · exact before a member

/-- Encodings that come after others are made only if none of those fits. -/
theorem upToFit_append (limit : Int) (first rest : List Attempt) :
    upToFit limit (first ++ rest) =
      if (upToFit limit first).any (·.fits limit) then upToFit limit first
      else upToFit limit first ++ upToFit limit rest := by
  induction first with
  | nil => rfl
  | cons attempt first ih =>
    rw [List.cons_append, upToFit, upToFit]
    by_cases fits : attempt.fits limit = true
    · simp [fits]
    · rw [if_neg fits, if_neg fits, ih, List.any_cons, Bool.eq_false_of_not_eq_true fits,
        Bool.false_or]
      split_ifs <;> rfl

theorem tryQualities_eq (limit : Int) (size : Size) (qualities : List Int) :
    tryQualities limit size (fun quality => .ok (jpeg size quality)) qualities =
      (upToFit limit ((qualities.map fun quality => (size, quality)).map (attemptOf jpeg)),
        none) := by
  induction qualities with
  | nil => rfl
  | cons quality qualities ih =>
    rw [tryQualities, List.map_cons, List.map_cons, upToFit]
    dsimp only
    rw [ih]
    by_cases fits : (attemptOf jpeg (size, quality)).fits limit = true
    · rw [if_pos fits]
      exact if_pos fits
    · rw [if_neg fits]
      exact if_neg fits

/-- Encodings that can be made are made in order, up to the first that fits. -/
theorem tryEach_eq (limit : Int) (qualities : List Int) (sizes : List Size) :
    tryEach limit (fun size => .ok fun quality => .ok (jpeg size quality)) qualities sizes =
      (upToFit limit ((trials sizes qualities).map (attemptOf jpeg)), none) := by
  induction sizes with
  | nil => rfl
  | cons size sizes ih =>
    rw [tryEach, trials, List.flatMap_cons, ← trials, List.map_append, upToFit_append]
    dsimp only
    rw [tryQualities_eq, ih]
    dsimp only
    rw [Option.isSome_none, Bool.false_or]
    split_ifs <;> rfl

theorem mapM_encode (prints : picture.Prints jpeg) (tried : List (Size × Int)) :
    tried.mapM picture.encode = .ok (tried.map (attemptOf jpeg)) := by
  have each : picture.encode = fun trial => pure (attemptOf jpeg trial) := by
    funext trial
    rw [Picture.encode, prints]
    rfl
  rw [each]
  exact List.mapM_pure

theorem Picture.Tries.exists_passes (tries : picture.Tries limits step candidates)
    (prints : picture.Prints jpeg) :
    ∃ sizes, Passes limits step limits.maxResizePasses.toNat
        (picture.size.within .exact limits.maxDimension) sizes ∧
      (trials sizes limits.qualities).map (attemptOf jpeg) = candidates := by
  obtain ⟨sizes, are_passes, encoded⟩ := tries
  exact ⟨sizes, are_passes, Except.ok.inj ((mapM_encode prints _).symm.trans encoded)⟩

theorem length_trials (sizes : List Size) (qualities : List Int) :
    (trials sizes qualities).length = sizes.length * qualities.length := by
  induction sizes with
  | nil => simp [trials]
  | cons size sizes ih =>
    rw [trials, List.flatMap_cons, List.length_append, List.length_map, ← trials, ih,
      List.length_cons, Nat.succ_mul, Nat.add_comm]

theorem Picture.Tries.length_le (tries : picture.Tries limits step candidates)
    (prints : picture.Prints jpeg) :
    candidates.length ≤ limits.maxResizePasses.toNat * limits.qualities.length := by
  obtain ⟨sizes, are_passes, rfl⟩ := tries.exists_passes prints
  rw [List.length_map, length_trials]
  exact Nat.mul_le_mul_right _ are_passes.length_le

/-- An image may be given the size of any of its encodings. -/
theorem Picture.Tries.admits (tries : picture.Tries limits step candidates)
    (prints : picture.Prints jpeg) (steps : Steps limits step) (width_pos : 1 ≤ picture.size.width)
    (height_pos : 1 ≤ picture.size.height) :
    ∀ a ∈ candidates, picture.size.Admits limits.maxDimension a.size := by
  obtain ⟨sizes, are_passes, rfl⟩ := tries.exists_passes prints
  intro a member
  obtain ⟨trial, tried, rfl⟩ := List.mem_map.mp member
  obtain ⟨size, among, of_size⟩ := List.mem_flatMap.mp tried
  obtain ⟨quality, -, rfl⟩ := List.mem_map.mp of_size
  exact are_passes.admitted steps (Size.admits_within _ width_pos height_pos) size among

/-! ### The smallest encoding -/

/-- No encoding of a list is smaller. -/
def IsLeast (attempts : List Attempt) (a : Attempt) : Prop := ∀ b ∈ attempts, a.bytes ≤ b.bytes

theorem better_eq_of_ne_zero {attempt : Attempt} (nonempty : best.bytes ≠ 0) :
    best.better attempt = if attempt.bytes < best.bytes then attempt else best := by
  simp [Attempt.better, nonempty]

/-- The better of the first of the smallest encodings and one more is the first of the smallest ones
then. -/
theorem isFirst_better {attempt : Attempt} (nonempty : best.bytes ≠ 0)
    (first : IsFirst (IsLeast attempts) attempts best) :
    IsFirst (IsLeast (attempts ++ [attempt])) (attempts ++ [attempt]) (best.better attempt) := by
  obtain ⟨sooner, later, split, least, before⟩ := first
  rw [better_eq_of_ne_zero nonempty]
  split_ifs with smaller
  · -- the new one is smaller than all
    refine ⟨attempts, [], rfl, ?_, fun b member least_b => ?_⟩
    · intro b member
      rcases List.mem_append.mp member with member | member
      · exact smaller.le.trans (least b member)
      · rw [List.mem_singleton.mp member]
    · have le_attempt := least_b attempt (List.mem_append_right _ (List.mem_singleton_self _))
      exact absurd (smaller.trans_le (least b member)) (not_lt.mpr le_attempt)
  · refine ⟨sooner, later ++ [attempt], by rw [split]; simp, ?_, fun b member least_b => ?_⟩
    · intro b member
      rcases List.mem_append.mp member with member | member
      · exact least b member
      · rw [List.mem_singleton.mp member]
        exact not_lt.mp smaller
    · exact before b member fun c among => least_b c (List.mem_append_left _ among)

/-- Taking the better one along a list keeps the first of the smallest ones. -/
theorem isFirst_foldl_better (seen rest : List Attempt)
    (nonempty : ∀ a ∈ seen ++ rest, a.bytes ≠ 0) (first : IsFirst (IsLeast seen) seen best) :
    IsFirst (IsLeast (seen ++ rest)) (seen ++ rest) (rest.foldl Attempt.better best) := by
  induction rest generalizing seen best with
  | nil => rwa [List.append_nil]
  | cons attempt rest ih =>
    obtain ⟨sooner, later, split, -⟩ := id first
    have best_nonempty : best.bytes ≠ 0 :=
      nonempty best (List.mem_append_left _ (by rw [split]; simp))
    rw [List.foldl_cons, List.append_cons]
    rw [List.append_cons] at nonempty
    exact ih (seen ++ [attempt]) nonempty (isFirst_better best_nonempty first)

/-- Of some encodings the first of the smallest ones is found. -/
theorem exists_smallest (some_made : attempts ≠ []) (nonempty : ∀ a ∈ attempts, a.bytes ≠ 0) :
    ∃ best, smallest? attempts = some best ∧ IsFirst (IsLeast attempts) attempts best := by
  obtain ⟨attempt, rest, rfl⟩ := List.exists_cons_of_ne_nil some_made
  have alone : IsFirst (IsLeast [attempt]) [attempt] attempt := by
    refine ⟨[], [], rfl, fun b member => ?_, fun _ member => nomatch member⟩
    rw [List.mem_singleton.mp member]
  exact ⟨_, rfl, isFirst_foldl_better [attempt] rest nonempty alone⟩

/-! ### Encoding again -/

/-- An image that is made from data by one of its encodings. -/
def encoded (data : ByteArray) (picture : Picture) (chosen : Attempt) : Prepared where
  data := chosen.data
  mime := "image/jpeg"
  sourceBytes := data.size
  bytes := chosen.data.size
  sourceSize := picture.size
  size := chosen.size
  reencoded := true

/-- The failure that reports an encoding as the smallest one. -/
def reported (limits : ImageLimits) (data : ByteArray) (picture : Picture) (best : Attempt) :
    Failure :=
  .error (.execution (.image (.irreducible limits.maxBytes best.bytes best.quality best.size.width
    best.size.height data.size picture.size.width picture.size.height)))

/-- What becomes of a picture that is encoded again: the first of its encodings that fits; or, when
none does, a report on them after all have been made. -/
inductive Reencodes (limits : ImageLimits) (data : ByteArray) (picture : Picture)
    (candidates : List Attempt) : Preparation → Prop
  | fits {sooner later : List Attempt} {chosen : Attempt}
    (split : candidates = sooner ++ chosen :: later)
    (chosen_fits : chosen.fits limits.maxBytes) (before : ∀ a ∈ sooner, ¬ a.fits limits.maxBytes) :
    Reencodes limits data picture candidates
      ⟨sooner ++ [chosen], .ok (encoded data picture chosen)⟩
  | irreducible (none_fits : ∀ a ∈ candidates, ¬ a.fits limits.maxBytes) :
    Reencodes limits data picture candidates
      ⟨candidates, failed (Image.irreducible limits data.size picture.size
        (picture.size.within .exact limits.maxDimension) candidates)⟩

theorem reencodes_reencode (steps : Steps limits step) (data : ByteArray)
    (prints : picture.Prints jpeg) :
    ∃ candidates, picture.Tries limits step candidates ∧
      Reencodes limits data picture candidates (reencode .exact limits data.size picture) := by
  obtain ⟨sizes, computed, are_passes⟩ := passes_passSizes steps limits.maxResizePasses.toNat
    (picture.size.within .exact limits.maxDimension)
  refine ⟨_, ⟨sizes, are_passes, mapM_encode prints _⟩, ?_⟩
  rw [reencode, prints]
  dsimp only
  rw [computed, tryEach_eq]
  dsimp only
  rcases upToFit_cases limits.maxBytes ((trials sizes limits.qualities).map (attemptOf jpeg)) with
    ⟨made, none_fits⟩ | ⟨sooner, chosen, later, split, made, chosen_fits, before⟩
  · rw [made, List.find?_eq_none.mpr none_fits]
    exact .irreducible none_fits
  · have found : (sooner ++ [chosen]).find? (·.fits limits.maxBytes) = some chosen :=
      List.find?_eq_some_iff_append.mpr ⟨chosen_fits, sooner, [], rfl, by simpa using before⟩
    rw [made, found]
    exact .fits split chosen_fits before

/-! ### Preparing -/

/-- What becomes of non-empty data when a codec fails on it, or else when it is small enough, when
it has to be encoded again, and when it cannot be. -/
theorem prepare_cases (codec : Codec) (limits : ImageLimits) (nonempty : data.isEmpty = false)
    (contentType : String) :
    (∃ fault, prepare .exact codec limits data contentType = ⟨[], .error (.fault fault)⟩ ∧
        codec data = .error fault) ∨
      ((data.size : Int) ≤ limits.maxBytes ∧ ∃ image : Prepared,
        prepare .exact codec limits data contentType = ⟨[], .ok image⟩ ∧
          image.data = data ∧ image.bytes = data.size ∧ image.reencoded = false) ∨
      (limits.maxBytes < data.size ∧ ∃ picture, codec data = .ok (some picture) ∧
        picture.size.width ≠ 0 ∧ picture.size.height ≠ 0 ∧
          prepare .exact codec limits data contentType =
            reencode .exact limits data.size picture) ∨
      limits.maxBytes < data.size ∧
        (∀ picture, codec data = .ok (some picture) →
          picture.size.width = 0 ∨ picture.size.height = 0) ∧
        ∃ issue, prepare .exact codec limits data contentType = ⟨[], failed issue⟩ := by
  have not_empty : ¬ data.isEmpty = true := by simp [nonempty]
  rw [prepare, if_neg not_empty]
  cases opened : codec data with
  | error fault => exact Or.inl ⟨fault, rfl, rfl⟩
  | ok picture =>
    dsimp only
    right
    -- data that is small enough is kept, whether a picture was found in it or not
    by_cases small : (data.size : Int) ≤ limits.maxBytes
    · rw [if_pos small]
      exact Or.inl ⟨small, _, rfl, rfl, rfl, rfl⟩
    · rw [if_neg small]
      have large : limits.maxBytes < data.size := not_le.mp small
      cases picture with
      | none => exact Or.inr (Or.inr ⟨large, (fun _ impossible => nomatch impossible), _, rfl⟩)
      | some picture =>
        dsimp only
        by_cases flat : picture.size.width = 0 ∨ picture.size.height = 0
        · rw [if_pos (by simpa using flat)]
          refine Or.inr (Or.inr ⟨large, fun other same => ?_, _, rfl⟩)
          cases same
          exact flat
        · rw [if_neg (by simpa using flat)]
          obtain ⟨width_ne, height_ne⟩ := not_or.mp flat
          exact Or.inr (Or.inl ⟨large, picture, rfl, width_ne, height_ne, rfl⟩)

/-- An image is made from data by the first encoding of a picture that fits, in a size that the
picture may be given. -/
def Encodes (limits : ImageLimits) (step : ℚ) (data : ByteArray) (picture : Picture)
    (image : Prepared) : Prop :=
  ∃ candidates chosen, picture.Tries limits step candidates ∧
    IsFirst (fun a => a.fits limits.maxBytes = true) candidates chosen ∧
    picture.size.Admits limits.maxDimension chosen.size ∧ image = encoded data picture chosen

/-- What may become of the data of an image. -/
structure FirstFit (codec : Codec) (limits : ImageLimits) (step : ℚ) (data : ByteArray)
    (preparation : Preparation) : Prop where
  /-- No more encodings are made than there are qualities in all passes. -/
  bounded : preparation.attempts.length ≤
    limits.maxResizePasses.toNat * limits.qualities.length
  /-- An image that is given is small enough. It is the data as it was, or the first encoding of it
  that fits. -/
  gives : ∀ image, preparation.outcome = .ok image →
    (image.data.size : Int) ≤ limits.maxBytes ∧ image.bytes = image.data.size ∧
      (image.data = data ∧ image.reencoded = false ∨
        ∃ picture, codec data = .ok (some picture) ∧ Encodes limits step data picture image)
  /-- A picture that is too large is refused exactly when no encoding of it fits. All of them have
  been made then, and the report is on the first of the smallest ones, if there are any. -/
  refuses : ∀ picture, codec data = .ok (some picture) → limits.maxBytes < data.size →
    picture.size.width ≠ 0 → picture.size.height ≠ 0 →
      ∃ candidates, picture.Tries limits step candidates ∧
        ((∃ failure, preparation.outcome = .error failure) ↔
          ∀ a ∈ candidates, ¬ a.fits limits.maxBytes) ∧
        ∀ failure, preparation.outcome = .error failure →
          preparation.attempts = candidates ∧
            (candidates ≠ [] → ∃ best, IsFirst (IsLeast candidates) candidates best ∧
              failure = reported limits data picture best)

/-- The report names the first of the smallest encodings. -/
theorem irreducible_eq_reported (some_made : candidates ≠ [])
    (nonempty : ∀ a ∈ candidates, a.bytes ≠ 0) (first : Size) :
    ∃ best, IsFirst (IsLeast candidates) candidates best ∧
      .error (.execution (.image
        (irreducible limits data.size picture.size first candidates))) =
          reported limits data picture best := by
  obtain ⟨best, found, least⟩ := exists_smallest some_made nonempty
  refine ⟨best, least, ?_⟩
  rw [irreducible, found]
  rfl

theorem firstFit_of_reencodes {preparation : Preparation} (steps : Steps limits step)
    (opened : codec data = .ok (some picture)) (width_pos : 1 ≤ picture.size.width)
    (height_pos : 1 ≤ picture.size.height) (prints : picture.Prints jpeg)
    (nonempty : ∀ size quality, (jpeg size quality).size ≠ 0)
    (tries : picture.Tries limits step candidates)
    (reencodes : Reencodes limits data picture candidates preparation) :
    FirstFit codec limits step data preparation := by
  have bounded := tries.length_le prints
  have only : ∀ other, codec data = .ok (some other) → picture = other := fun other same =>
    Option.some.inj (Except.ok.inj (opened.symm.trans same))
  cases reencodes with
  | @fits sooner later chosen split chosen_fits before =>
    have member : chosen ∈ candidates := by simp [split]
    refine ⟨?_, ?_, fun other same _ _ _ => ?_⟩
    · refine le_trans ?_ bounded
      simp [split]
    · rintro _ ⟨⟩
      exact ⟨of_decide_eq_true chosen_fits, rfl, Or.inr ⟨picture, opened,
        candidates, chosen, tries, ⟨sooner, later, split, chosen_fits, before⟩,
        tries.admits prints steps width_pos height_pos chosen member, rfl⟩⟩
    · obtain rfl := only other same
      refine ⟨candidates, tries, ⟨?_, fun none_fits => ?_⟩, fun failure fails => nomatch fails⟩
      · rintro ⟨failure, ⟨⟩⟩
      · exact absurd chosen_fits (none_fits chosen member)
  | irreducible none_fits =>
    refine ⟨bounded, (fun image given => nomatch given), fun other same _ _ _ => ?_⟩
    obtain rfl := only other same
    refine ⟨candidates, tries, ⟨fun _ => none_fits, fun _ => ⟨_, rfl⟩⟩, ?_⟩
    rintro _ ⟨⟩
    refine ⟨rfl, fun some_made => irreducible_eq_reported some_made ?_ _⟩
    -- every candidate is an encoding that was really made, and none of them is empty
    obtain ⟨sizes, -, rfl⟩ := tries.exists_passes prints
    intro a member
    obtain ⟨trial, -, rfl⟩ := List.mem_map.mp member
    exact nonempty trial.1 trial.2

/-- The data of an image is given back as it is or as its first encoding that fits, and otherwise
the first of its smallest encodings is reported. -/
theorem prepare_first_fit (regular : codec.Regular) (steps : Steps limits step)
    (nonempty : data.isEmpty = false) (contentType : String) :
    FirstFit codec limits step data (prepare .exact codec limits data contentType) := by
  rcases prepare_cases codec limits nonempty contentType with
    ⟨fault, done, fails⟩ | ⟨small, image, done, same, counted, untouched⟩ |
      ⟨large, picture, opened, width_ne, height_ne, done⟩ | ⟨large, flat, issue, done⟩
  · rw [done]
    refine ⟨Nat.zero_le _, (fun image given => nomatch given), fun picture opened => ?_⟩
    cases fails.symm.trans opened
  · rw [done]
    refine ⟨Nat.zero_le _, ?_, fun picture _ large => absurd small (not_le.mpr large)⟩
    rintro _ ⟨⟩
    exact ⟨by rwa [same], by rw [counted, same], Or.inl ⟨same, untouched⟩⟩
  · have width_nonneg := regular.width_nonneg opened
    have height_nonneg := regular.height_nonneg opened
    obtain ⟨jpeg, prints, jpeg_nonempty⟩ := regular.prints opened
    obtain ⟨candidates, tries, reencodes⟩ := reencodes_reencode steps data prints
    rw [done]
    exact firstFit_of_reencodes steps opened (by omega) (by omega) prints jpeg_nonempty tries
      reencodes
  · rw [done]
    refine ⟨Nat.zero_le _, (fun image given => nomatch given), ?_⟩
    intro picture opened _ width_ne height_ne
    exact absurd (flat picture opened) (not_or.mpr ⟨width_ne, height_ne⟩)

namespace Postcard

/-- A codec that opens everything as one small picture. Its encodings take as many bytes as there
are pixels, times the quality, and one byte more. -/
def printer : Codec := fun _ => .ok <| some {
  size := ⟨8, 4⟩
  mime := "image/png"
  pixels := .ok fun size => .ok fun quality => .ok
    ⟨Array.replicate ((size.width * size.height * quality).toNat + 1) 74⟩ }

/-- Limits by which both sides are halved from pass to pass. -/
def halving (maxBytes : Int) : ImageLimits :=
  { maxBytes, maxDimension := 4, minDimension := 1, scaleStep := 0.5, qualities := [3, 2],
    maxResizePasses := 2 }

/-- The data of the picture. -/
def scan : ByteArray := ⟨Array.replicate 11 0⟩

theorem printer_regular : printer.Regular where
  width_nonneg opened := by
    cases opened
    decide
  height_nonneg opened := by
    cases opened
    decide
  prints opened := by
    cases opened
    exact ⟨_, rfl, fun size quality => by simp [ByteArray.size]⟩

theorem halving_steps (maxBytes : Int) : Steps (halving maxBytes) (1 / 2) where
  step_eq := by
    have half : Binary.ofFloat 0.5 = .finite false (2 ^ 52) (-53) := by decide +kernel
    simp only [halving, half, Binary.toRat?]
    norm_num
  step_nonneg := by norm_num
  step_le := by norm_num
  least_pos := le_refl 1

/-- With ten bytes to spend the third encoding is taken, and with four bytes the fourth and last one
is reported. -/
theorem scan_first_fit :
    scan.isEmpty = false ∧
      FirstFit printer (halving 10) (1 / 2) scan (prepare .exact printer (halving 10) scan "") ∧
      (prepare .exact printer (halving 10) scan "").attempts.map Attempt.bytes = [25, 17, 7] ∧
      FirstFit printer (halving 4) (1 / 2) scan (prepare .exact printer (halving 4) scan "") ∧
      (prepare .exact printer (halving 4) scan "").attempts.map Attempt.bytes = [25, 17, 7, 5] :=
  ⟨by decide +kernel,
    prepare_first_fit printer_regular (halving_steps 10) (by decide +kernel) "", by decide +kernel,
    prepare_first_fit printer_regular (halving_steps 4) (by decide +kernel) "", by decide +kernel⟩

end Postcard

end Image

end AgentWorkflow
