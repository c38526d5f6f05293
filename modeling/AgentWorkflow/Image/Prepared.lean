import AgentWorkflow.Text.Base64
import AgentWorkflow.Text.Blank
import AgentWorkflow.Text.Lower
import AgentWorkflow.Text.Search

/-!
Images that are ready to be sent to a model, and their form inside a message.
-/

namespace AgentWorkflow.Image

open Text

/-- A width and a height in pixels. -/
structure Size where
  width : Int
  height : Int
  deriving DecidableEq, Repr, Inhabited

/-- An image that is ready to be sent, with what became of the one it was made from. -/
structure Prepared where
  data : ByteArray
  mime : String
  sourceBytes : Nat
  /-- The number of bytes that are sent. -/
  bytes : Nat
  sourceSize : Size
  size : Size
  reencoded : Bool := false

/-- A MIME type as it stands in a data URL. -/
def dataUrlMime (mime : String) : String :=
  let trimmed := strip mime
  if trimmed == "" then "application/octet-stream" else trimmed

/-- Bytes as a data URL. No bytes have no URL, which is written as the empty text. -/
def dataUrl (data : ByteArray) (mime : String) : String :=
  if data.isEmpty then ""
  else "data:" ++ dataUrlMime mime ++ ";base64," ++ String.ofList (base64 data.toList)

/-- The image as a data URL. -/
def Prepared.url (image : Prepared) : String := dataUrl image.data image.mime

/-- The type of an image without its parameters, if it is one. -/
def imageType? (contentType : String) : Option String :=
  let type := lower (strip (String.ofList ((splitAll ';' contentType.toList).headD [])))
  if (dropFront? "image/".toList type.toList).isSome then some type else none

/-- The type that was announced, else the type that was detected, else JPEG. -/
def chooseType (announced detected : String) : String :=
  ((imageType? announced).orElse fun _ => imageType? detected).getD "image/jpeg"

end AgentWorkflow.Image
