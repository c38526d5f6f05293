import AgentWorkflow.Decimal.Rounding
import AgentWorkflow.Error
import AgentWorkflow.Image.Prepared
import AgentWorkflow.Settings

/-!
Images cut down to a number of bytes.

An image that is small enough is left alone. Any other one is scaled to the greatest dimension that
is allowed and encoded again in one quality after the other; then it is scaled down by a step and
encoded again, and so on for a limited number of passes. The first encoding that fits is taken.

The sizes of the passes depend on no encoding, so they are listed first, and the encodings are tried
along that list. An image is opened before its pixels are read, so each of the later steps may still
fail: reading the pixels, scaling them and encoding them.
-/

namespace AgentWorkflow.Image

open Decimal

/-- An image in one size, encoded as JPEG in a given quality. -/
abbrev Encoder := (quality : Int) → Except Fault ByteArray

/-- An image that has been opened: its size, its detected type, and its pixels, which are scaled to
a size before they are encoded. -/
structure Picture where
  size : Size
  mime : String
  pixels : Except Fault (Size → Except Fault Encoder)

/-- What opens images. Data that is no image is not opened. -/
abbrev Codec := ByteArray → Except Fault (Option Picture)

/-- One encoding that was tried. -/
structure Attempt where
  size : Size
  quality : Int
  data : ByteArray

/-- The number of bytes of an encoding. -/
def Attempt.bytes (attempt : Attempt) : Nat := attempt.data.size

/-- A size scaled down so that neither side is longer than `limit`; no side becomes empty. A limit
that is not above zero allows everything. -/
def Size.within (rounding : Rounding) (limit : Int) (size : Size) : Size :=
  if limit ≤ 0 || (size.width ≤ limit && size.height ≤ limit) then size
  else
    let scale := rounding ⟨limit.natAbs, (max size.width size.height).natAbs⟩
    ⟨max 1 (scaleWhole rounding scale size.width), max 1 (scaleWhole rounding scale size.height)⟩

/-- A multiple of a length, rounded toward zero. -/
def scaledLength (rounding : Rounding) (step : Binary) (length : Int) : Except Fault Int :=
  match step with
  | .nan => .error .badValue
  | .infinite _ => .error (if length == 0 then .badValue else .overflow)
  | .finite negative m q =>
    let product := scaleWhole rounding (Ratio.scaled m q) length
    .ok (if negative then -product else product)

/-- The size of the next pass. A side does not become shorter than the least length, and there is no
next pass once a side is that short or nothing changes. -/
def nextSize (rounding : Rounding) (limits : ImageLimits) (size : Size) :
    Except Fault (Option Size) := do
  let least := limits.minDimension
  if size.width ≤ least || size.height ≤ least then return none
  let step := Binary.ofFloat limits.scaleStep
  let width ← scaledLength rounding step size.width
  let height ← scaledLength rounding step size.height
  let next : Size := ⟨max width least, max height least⟩
  return if next == size then none else some next

/-- The sizes of the passes from a size on. A fault in computing a size ends the list. -/
def passSizes (rounding : Rounding) (limits : ImageLimits) : Nat → Size → List Size × Option Fault
  | 0, _ => ([], none)
  | passes + 1, size =>
    match nextSize rounding limits size with
    | .error fault => ([size], some fault)
    | .ok none => ([size], none)
    | .ok (some next) =>
      let (sizes, fault) := passSizes rounding limits passes next
      (size :: sizes, fault)

/-- Whether an encoding fits. -/
def Attempt.fits (limit : Int) (attempt : Attempt) : Bool := (attempt.bytes : Int) ≤ limit

/-- Tries one quality after the other in one size, up to the first encoding that fits. A fault ends
the trials. -/
def tryQualities (limit : Int) (size : Size) (encode : Encoder) :
    List Int → List Attempt × Option Fault
  | [] => ([], none)
  | quality :: qualities =>
    match encode quality with
    | .error fault => ([], some fault)
    | .ok data =>
      let attempt : Attempt := ⟨size, quality, data⟩
      if attempt.fits limit then ([attempt], none)
      else
        let (attempts, fault) := tryQualities limit size encode qualities
        (attempt :: attempts, fault)

/-- Tries all qualities in one size after the other, up to the first encoding that fits. A fault
ends the trials. -/
def tryEach (limit : Int) (scale : Size → Except Fault Encoder) (qualities : List Int) :
    List Size → List Attempt × Option Fault
  | [] => ([], none)
  | size :: sizes =>
    match scale size with
    | .error fault => ([], some fault)
    | .ok encode =>
      let (attempts, fault) := tryQualities limit size encode qualities
      if fault.isSome || attempts.any (·.fits limit) then (attempts, fault)
      else
        let (later, fault) := tryEach limit scale qualities sizes
        (attempts ++ later, fault)

/-- The smaller of two encodings, and the earlier of two that are alike. An empty encoding gives way
to any other. -/
def Attempt.better (best attempt : Attempt) : Attempt :=
  if best.bytes == 0 || attempt.bytes < best.bytes then attempt else best

/-- The smallest encoding that was tried. -/
def smallest? : List Attempt → Option Attempt
  | [] => none
  | attempt :: rest => some (rest.foldl Attempt.better attempt)

/-- What became of an image, and the encodings that were tried. -/
structure Preparation where
  attempts : List Attempt
  outcome : Except Failure Prepared

/-- An issue with an image as a failure. -/
def failed {α : Type} (issue : ImageIssue) : Except Failure α :=
  .error (.error (.execution (.image issue)))

/-- The report on an image of which no encoding fits. Without any encoding the size of the first
pass is named. -/
def irreducible (limits : ImageLimits) (bytes : Nat) (source first : Size)
    (attempts : List Attempt) : ImageIssue :=
  match smallest? attempts with
  | some best =>
    .irreducible limits.maxBytes best.bytes best.quality best.size.width best.size.height bytes
      source.width source.height
  | none =>
    .irreducible limits.maxBytes 0 0 first.width first.height bytes source.width source.height

/-- Encodes a picture again until it fits. -/
def reencode (rounding : Rounding) (limits : ImageLimits) (bytes : Nat) (picture : Picture) :
    Preparation :=
  match picture.pixels with
  | .error fault => ⟨[], .error (.fault fault)⟩
  | .ok scale =>
    let source := picture.size
    let first := source.within rounding limits.maxDimension
    let (sizes, unscaled) := passSizes rounding limits limits.maxResizePasses.toNat first
    let (attempts, unencoded) := tryEach limits.maxBytes scale limits.qualities sizes
    let outcome : Except Failure Prepared :=
      match attempts.find? (·.fits limits.maxBytes) with
      | some chosen =>
        .ok {
          data := chosen.data
          mime := "image/jpeg"
          sourceBytes := bytes
          bytes := chosen.bytes
          sourceSize := source
          size := chosen.size
          reencoded := true }
      | none =>
        match unencoded.or unscaled with
        | some fault => .error (.fault fault)
        | none => failed (irreducible limits bytes source first attempts)
    { attempts, outcome }

/-- Prepares the data of an image: data that fits is kept as it is, and anything else has to be an
image that can be encoded again. -/
def prepare (rounding : Rounding) (codec : Codec) (limits : ImageLimits) (data : ByteArray)
    (contentType : String) : Preparation :=
  if data.isEmpty then ⟨[], failed .dataEmpty⟩
  else
    match codec data with
    | .error fault => ⟨[], .error (.fault fault)⟩
    | .ok picture =>
      if (data.size : Int) ≤ limits.maxBytes then
        let size := (picture.map Picture.size).getD ⟨0, 0⟩
        ⟨[], .ok {
          data
          mime := chooseType contentType ((picture.map Picture.mime).getD "")
          sourceBytes := data.size
          bytes := data.size
          sourceSize := size
          size }⟩
      else
        match picture with
        | none => ⟨[], failed (.undecodable limits.maxBytes data.size)⟩
        | some picture =>
          let size := picture.size
          if size.width == 0 || size.height == 0 then
            ⟨[], failed (.invalidDimensions size.width size.height)⟩
          else reencode rounding limits data.size picture

end AgentWorkflow.Image
