import AgentWorkflow.Image.Download
import AgentWorkflow.Proofs.Failure
import Mathlib.Tactic.SplitIfs

/-!
# How images end in faults

An image is fetched from an address, and then prepared. What is wrong with the address, with the
answer or with the data is told as an error of the library, and so is a connection that fails. What
is left are addresses that are not even URLs, clients that fail in other ways, codecs that fail
where an image is opened, read, scaled or encoded, and images that are to be scaled by a step that
is no number.

## Main definitions

* `Scales`: images can be scaled down
* `Picture.Faults`, `CodecFaults`: how a codec fails
* `FetchFaults`, `PreparerFaults`: how fetching an image over HTTP, and preparing it then, ends in a
  fault

## Main results

* `checkAddress_eq_ok_iff`, `checkAddress_eq_fault_iff`: which addresses are fetched, and which are
  faults
* `codecFaults_or_not_scales_of_prepare`: only a codec and the step by which images are scaled can
  be at fault in preparing one
* `fails_preparer_fault_iff`: what fetches and prepares images ends in a fault in just these ways
-/

namespace AgentWorkflow

namespace Image

open Web

variable {σ : Type} {before after : σ} {fault : Fault} {rounding : Decimal.Rounding} {codec : Codec}
  {limits : ImageLimits} {get : String → Act σ Response} {opener : HttpOpener σ} {url : String}

theorem checkAddress_eq_fault_iff :
    checkAddress url = .error (.fault fault) ↔
      fault = .badValue ∧ Text.strip url ≠ "" ∧ Url.ofText? (Text.strip url) = none := by
  rw [checkAddress]
  by_cases blank : Text.strip url = ""
  · simp [blank, failed]
  · simp only [beq_iff_eq, blank, if_false]
    cases Url.ofText? (Text.strip url) with
    | none => simp [@eq_comm _ fault, blank]
    | some parts =>
      dsimp only
      split_ifs <;> simp [failed]

/-- An address that is fetched is given without blanks at its ends, and is that of an HTTP URL. -/
theorem checkAddress_eq_ok_iff {address : String} :
    checkAddress url = .ok address ↔
      address = Text.strip url ∧ Text.strip url ≠ "" ∧
        ∃ parts, Url.ofText? (Text.strip url) = some parts ∧ parts.isHttp = true := by
  rw [checkAddress]
  by_cases blank : Text.strip url = ""
  · simp [blank, failed]
  · simp only [beq_iff_eq, blank, if_false]
    cases Url.ofText? (Text.strip url) with
    | none => simp
    | some parts =>
      dsimp only
      split_ifs with http <;> simp [failed, http, blank, @eq_comm _ address]

/-! ### Downloads -/

/-- The fault of a connection is told as an error, and any other one is not. -/
theorem connectionFailure_eq_fault_iff {cause : Failure} :
    connectionFailure cause = .fault fault ↔
      cause = .fault fault ∧ ∀ text, fault ≠ .collaborator text := by
  cases cause with
  | fault f =>
    cases f with
    | collaborator text =>
      simp only [connectionFailure, reduceCtorEq, Failure.fault.injEq, ne_eq, false_iff, not_and]
      rintro rfl
      simp
    | _ =>
      simp only [connectionFailure, Failure.fault.injEq, iff_self_and]
      rintro rfl
      simp
  | _ => simp [connectionFailure]

theorem fails_fetch_fault_iff {client : HttpClient σ} :
    (fetch limits client url).Fails before (.fault fault) after ↔
      (client.get url "image/*").Fails before (.fault fault) after ∧
        ∀ text, fault ≠ .collaborator text := by
  rw [fetch, Act.fails_bind_iff, Act.fails_describe_iff]
  simp only [connectionFailure_eq_fault_iff]
  constructor
  · rintro (⟨cause, fails, rfl, other⟩ | ⟨response, _, -, rest⟩)
    · exact ⟨fails, other⟩
    · -- an answer that is not taken is an error
      split_ifs at rest <;> simp [refuse] at rest
  · rintro ⟨fails, other⟩
    exact Or.inl ⟨_, fails, rfl, other⟩

/-- How fetching with a client of its own ends in a fault: the client cannot be opened, it cannot be
closed, or getting the image ends in a fault that is none of the connection. -/
def FetchFaults (limits : ImageLimits) (opener : HttpOpener σ) (address : String) (before : σ)
    (fault : Fault) (after : σ) : Prop :=
  (opener limits.downloadTimeoutSeconds true).Fails before (.fault fault) after ∨
    ∃ client opened fetched,
      (opener limits.downloadTimeoutSeconds true).Gives before client opened ∧
      ((fetch limits client address).outcome opened).2 = fetched ∧
      (client.close.Fails fetched (.fault fault) after ∨
        client.close.Gives fetched () after ∧
          (client.get address "image/*").Fails opened (.fault fault) fetched ∧
            ∀ text, fault ≠ .collaborator text)

theorem fails_fetchAlone_fault_iff {address : String} :
    (fetchAlone limits opener address).Fails before (.fault fault) after ↔
      FetchFaults limits opener address before fault after := by
  rw [fetchAlone, FetchFaults, Act.fails_bind_iff]
  refine or_congr_right ?_
  constructor
  · rintro ⟨client, opened, opens, rest⟩
    rcases Act.fails_bind_iff.mp rest with never | ⟨outcome, fetched, ran, closing⟩
    · cases never
    -- the client is closed whatever came of the fetching, and only then is that told
    cases ran
    refine ⟨client, opened, _, opens, rfl, ?_⟩
    rcases Act.fails_bind_iff.mp closing with unclosed | ⟨⟨⟩, closed, closes, told⟩
    · exact Or.inl unclosed
    · obtain ⟨failed, rfl⟩ := Act.fails_ofExcept_iff.mp told
      exact Or.inr ⟨closes, fails_fetch_fault_iff.mp (Prod.ext failed rfl)⟩
  · rintro ⟨client, opened, fetched, opens, rfl, rest⟩
    refine ⟨client, opened, opens, Act.fails_bind_iff.mpr (Or.inr ⟨_, _, rfl, ?_⟩)⟩
    rcases rest with unclosed | ⟨closes, fetching⟩
    · exact Act.fails_bind_iff.mpr (Or.inl unclosed)
    · have failed : (fetch limits client address).Fails opened (.fault fault) _ :=
        fails_fetch_fault_iff.mpr fetching
      exact Act.fails_bind_iff.mpr (Or.inr
        ⟨_, _, closes, Act.fails_ofExcept_iff.mpr ⟨congrArg Prod.fst failed, rfl⟩⟩)

/-! ### Scaling -/

/-- The step by which images are scaled down is a number. -/
def Scales (limits : ImageLimits) : Prop :=
  ∃ negative m q, Decimal.Binary.ofFloat limits.scaleStep = .finite negative m q

theorem not_scales_of_scaledLength {length : Int}
    (fails :
      scaledLength rounding (Decimal.Binary.ofFloat limits.scaleStep) length = .error fault) :
    ¬ Scales limits := by
  rintro ⟨negative, m, q, finite⟩
  rw [finite] at fails
  cases fails

theorem not_scales_of_nextSize {size : Size}
    (fails : nextSize rounding limits size = .error fault) : ¬ Scales limits := by
  rw [nextSize] at fails
  dsimp only at fails
  split_ifs at fails with least
  · cases fails
  rcases bind_eq_error_iff.mp fails with width | ⟨_, -, rest⟩
  · exact not_scales_of_scaledLength width
  rcases bind_eq_error_iff.mp rest with height | ⟨_, -, impossible⟩
  · exact not_scales_of_scaledLength height
  · cases impossible

theorem not_scales_of_passSizes {passes : Nat} {size : Size}
    (fails : (passSizes rounding limits passes size).2 = some fault) : ¬ Scales limits := by
  induction passes generalizing size with
  | zero => cases fails
  | succ passes ih =>
    rw [passSizes] at fails
    cases next : nextSize rounding limits size with
    | error earlier => exact not_scales_of_nextSize next
    | ok following =>
      rw [next] at fails
      cases following with
      | none => cases fails
      | some following => exact ih fails

/-! ### Encoding -/

/-- How a picture that has been opened is at fault: its pixels cannot be read, they cannot be scaled
to a size, or they cannot be encoded then in a quality. -/
inductive Picture.Faults (picture : Picture) (fault : Fault) : Prop
  | unread (fails : picture.pixels = .error fault)
  | unscaled {scale : Size → Except Fault Encoder} {size : Size}
    (read : picture.pixels = .ok scale) (fails : scale size = .error fault)
  | unencoded {scale : Size → Except Fault Encoder} {size : Size} {encode : Encoder} {quality : Int}
    (read : picture.pixels = .ok scale) (scaled : scale size = .ok encode)
    (fails : encode quality = .error fault)

/-- How a codec is at fault with some data: it fails to open them, or the picture is at fault. -/
def CodecFaults (codec : Codec) (data : ByteArray) (fault : Fault) : Prop :=
  codec data = .error fault ∨ ∃ picture, codec data = .ok (some picture) ∧ picture.Faults fault

theorem fault_of_tryQualities {limit : Int} {size : Size} {encode : Encoder} {qualities : List Int}
    (fails : (tryQualities limit size encode qualities).2 = some fault) :
    ∃ quality, encode quality = .error fault := by
  induction qualities with
  | nil => cases fails
  | cons quality qualities ih =>
    rw [tryQualities] at fails
    cases encoded : encode quality with
    | error earlier =>
      rw [encoded] at fails
      cases fails
      exact ⟨quality, encoded⟩
    | ok data =>
      rw [encoded] at fails
      dsimp only at fails
      split_ifs at fails
      exact ih fails

theorem faults_of_tryEach {picture : Picture} {limit : Int} {scale : Size → Except Fault Encoder}
    {qualities : List Int} {sizes : List Size} (read : picture.pixels = .ok scale)
    (fails : (tryEach limit scale qualities sizes).2 = some fault) : picture.Faults fault := by
  induction sizes with
  | nil => cases fails
  | cons size sizes ih =>
    rw [tryEach] at fails
    cases scaled : scale size with
    | error earlier =>
      rw [scaled] at fails
      cases fails
      exact .unscaled read scaled
    | ok encode =>
      rw [scaled] at fails
      dsimp only at fails
      split_ifs at fails
      · obtain ⟨quality, encoded⟩ := fault_of_tryQualities fails
        exact .unencoded read scaled encoded
      · exact ih fails

theorem faults_of_reencode {bytes : Nat} {picture : Picture}
    (fails : (reencode rounding limits bytes picture).outcome = .error (.fault fault)) :
    picture.Faults fault ∨ ¬ Scales limits := by
  rw [reencode] at fails
  cases read : picture.pixels with
  | error earlier =>
    rw [read] at fails
    cases fails
    exact Or.inl (.unread read)
  | ok scale =>
    rw [read] at fails
    dsimp only at fails
    -- an encoding that fits is given; otherwise a fault ended the trials, or an error tells of them
    split at fails
    · cases fails
    · split at fails
      · cases fails
        rename_i found
        rcases Option.or_eq_some_iff.mp found with unencoded | ⟨-, unscaled⟩
        · exact Or.inl (faults_of_tryEach read unencoded)
        · exact Or.inr (not_scales_of_passSizes unscaled)
      · cases fails

/-- An image can be prepared, or it is refused with an error, if the codec is not at fault and there
is a step to scale it by. -/
theorem codecFaults_or_not_scales_of_prepare {data : ByteArray} {contentType : String}
    (fails : (prepare rounding codec limits data contentType).outcome = .error (.fault fault)) :
    CodecFaults codec data fault ∨ ¬ Scales limits := by
  cases opened : codec data with
  | error earlier =>
    simp only [prepare, opened] at fails
    split_ifs at fails
    · cases fails
    · cases fails
      exact Or.inl (Or.inl opened)
  | ok picture =>
    simp only [prepare, opened] at fails
    cases picture with
    | none => split_ifs at fails <;> cases fails
    | some picture =>
      dsimp only at fails
      split_ifs at fails
      · cases fails
      · cases fails
      · exact (faults_of_reencode fails).imp_left fun faults => Or.inr ⟨picture, opened, faults⟩

/-! ### Fetching and preparing -/

/-- How fetching and preparing an image ends in a fault: its address is not even a URL, fetching it
does, the codec is at fault, or the image has to be scaled by a step that is no number. -/
def PreparerFaults (rounding : Decimal.Rounding) (codec : Codec) (limits : ImageLimits)
    (opener : HttpOpener σ) (url : String) (before : σ) (fault : Fault) (after : σ) : Prop :=
  fault = .badValue ∧ before = after ∧ Text.strip url ≠ "" ∧
      Url.ofText? (Text.strip url) = none ∨
    ∃ parts, Text.strip url ≠ "" ∧ Url.ofText? (Text.strip url) = some parts ∧
      parts.isHttp = true ∧
      (FetchFaults limits opener (Text.strip url) before fault after ∨
        ∃ response, (fetchAlone limits opener (Text.strip url)).Gives before response after ∧
          (CodecFaults codec response.body fault ∨ ¬ Scales limits) ∧
          (prepare rounding codec limits response.body response.contentType).outcome =
            .error (.fault fault))

theorem fails_preparer_fault_iff :
    (preparer rounding codec limits opener url).Fails before (.fault fault) after ↔
      PreparerFaults rounding codec limits opener url before fault after := by
  rw [preparer, download, PreparerFaults, Act.fails_bind_iff]
  simp only [Act.fails_bind_iff, Act.gives_bind_iff, Act.fails_ofExcept_iff, Act.gives_ofExcept_iff,
    Act.not_fails_pure, Act.gives_pure_iff, and_false, exists_false, or_false,
    fails_fetchAlone_fault_iff]
  constructor
  · rintro ((⟨refused, rfl⟩ | ⟨address, _, ⟨checked, rfl⟩, fails⟩) |
      ⟨_, _, ⟨address, _, ⟨checked, rfl⟩, response, _, got, rfl, rfl⟩, failed, rfl⟩)
    · obtain ⟨rfl, present, unread⟩ := checkAddress_eq_fault_iff.mp refused
      exact Or.inl ⟨rfl, rfl, present, unread⟩
    · obtain ⟨rfl, present, parts, read, http⟩ := checkAddress_eq_ok_iff.mp checked
      exact Or.inr ⟨parts, present, read, http, Or.inl fails⟩
    · obtain ⟨rfl, present, parts, read, http⟩ := checkAddress_eq_ok_iff.mp checked
      exact Or.inr ⟨parts, present, read, http,
        Or.inr ⟨response, got, codecFaults_or_not_scales_of_prepare failed, failed⟩⟩
  · rintro (⟨rfl, rfl, present, unread⟩ |
      ⟨parts, present, read, http, fails | ⟨response, got, -, failed⟩⟩)
    · exact Or.inl (Or.inl ⟨checkAddress_eq_fault_iff.mpr ⟨rfl, present, unread⟩, rfl⟩)
    · have checked := checkAddress_eq_ok_iff.mpr ⟨rfl, present, parts, read, http⟩
      exact Or.inl (Or.inr ⟨_, before, ⟨checked, rfl⟩, fails⟩)
    · have checked := checkAddress_eq_ok_iff.mpr ⟨rfl, present, parts, read, http⟩
      exact Or.inr ⟨_, after, ⟨_, before, ⟨checked, rfl⟩, response, after, got, rfl, rfl⟩, failed,
        rfl⟩

end Image

end AgentWorkflow
