import AgentWorkflow.Act
import AgentWorkflow.Config.Node
import AgentWorkflow.Image.Prepared
import AgentWorkflow.State.Schema
import AgentWorkflow.Web.Url

/-!
The turn of the human that a node sends to its model: a prompt with a text, or an image with a
prompt. The mode of a node says which; without a mode the look of the input decides.
-/

namespace AgentWorkflow.Node

variable {σ : Type}

/-- What prepares an image for a model, given its address. -/
abbrev ImagePreparer (σ : Type) := String → Act σ Image.Prepared

/-- The mode in which the input is the address of an image. -/
def imageMode : String := "image_url"

/-- A text as a part of a message. -/
def textPart (s : String) : Value := .object [("type", .str "text"), ("text", .str s)]

/-- An image as a part of a message. -/
def imagePart (url : String) : Value :=
  .object [("type", .str "image_url"), ("image_url", .object [("url", .str url)])]

/-- Whether an input is sent as an image. -/
def sendsImage (config : InputConfig) (input : String) : Bool :=
  let mode := normalizeMode config.mode
  mode == imageMode || (mode == "" && Web.looksLikeImage input)
where
  /-- A mode without blanks at its ends and in lower case. -/
  normalizeMode (mode : String) : String := Text.lower (Text.strip mode)

/-- The prompt of a node: its own, or a default one. -/
def promptOr (config : InputConfig) (default : String) : String :=
  let own := Text.strip config.prompt
  if own == "" then default else own

/-- A text as the only part, unless it is empty. -/
def partUnlessEmpty (s : String) : List Value := if s == "" then [] else [textPart s]

/-- The parts of a turn in which an image is sent. No address sends no image. -/
def imageTurn (prepare : ImagePreparer σ) (input prompt : String) : Act σ (List Value) := do
  let address := Text.strip input
  if address == "" then return partUnlessEmpty prompt
  let image ← (prepare address).describe
    (Failure.errorCausing fun cause => .execution (.imageNotOptimized cause))
  if image.url == "" then .fail (.execution (.image .emptyDataUrl))
  else return imagePart image.url :: partUnlessEmpty prompt

/-- The parts of a turn in which a text is sent. -/
def textTurn (input prompt : String) : List Value :=
  partUnlessEmpty prompt ++ if Text.strip input == "" then [] else [textPart input]

/-- The turn of the human. A turn without any part falls back on the default prompt. -/
def humanTurn (prepare : ImagePreparer σ) (config : InputConfig) (default input : String) :
    Act σ Message := do
  let prompt := promptOr config default
  let parts ←
    if sendsImage config input then imageTurn prepare input prompt
    else pure (textTurn input prompt)
  return {
    role := .human
    content := .list (if parts.isEmpty then [textPart default] else parts) }

/-- The input of a node: the text under its input key. Any other value counts as no text. -/
def inputText (key : Option String) (state : State) : String :=
  match key with
  | none => ""
  | some key => if key == "" then "" else ((state.find? key).bind Value.asText?).getD ""

end AgentWorkflow.Node
