import AgentWorkflow.Act
import AgentWorkflow.Image.Preparation
import AgentWorkflow.Web.Url

/-!
Images fetched over HTTP.
-/

namespace AgentWorkflow.Image

open Decimal Web

/-- An answer over HTTP. -/
structure Response where
  status : Int
  contentType : String := ""
  body : ByteArray := .empty

/-- A client that fetches over HTTP. A connection that fails is a fault of a collaborator. -/
structure HttpClient (σ : Type) where
  get : (url accept : String) → Act σ Response
  close : Act σ Unit

/-- What opens clients: with a timeout, and following redirects or not. -/
abbrev HttpOpener (σ : Type) := (timeout : Float) → (followsRedirects : Bool) → Act σ (HttpClient σ)

variable {σ : Type}

/-- An issue with an image ends a computation. -/
def refuse {α : Type} (issue : ImageIssue) : Act σ α := .fail (.execution (.image issue))

/-- A failed connection is reported as a failed download. -/
def connectionFailure : Failure → Failure
  | .fault (.collaborator text) => .error (.execution (.image (.downloadFailed text)))
  | failure => failure

/-- Fetches an image with a client. -/
def fetch (limits : ImageLimits) (client : HttpClient σ) (url : String) : Act σ Response := do
  let response ← (client.get url "image/*").describe connectionFailure
  if response.status < 200 || 300 ≤ response.status then refuse (.badStatus response.status)
  else if 0 < response.body.size && limits.maxDownloadBytes < (response.body.size : Int) then
    refuse (.downloadTooLarge limits.maxDownloadBytes)
  else return response

/-- Fetches an image with a client of its own, which is closed in any case. -/
def fetchAlone (limits : ImageLimits) (opener : HttpOpener σ) (url : String) : Act σ Response := do
  let client ← opener limits.downloadTimeoutSeconds true
  let outcome : Except Failure Response ← (fetch limits client url).run
  client.close
  .ofExcept outcome

/-- The address of an image without blanks at its ends. It has to be an HTTP URL. -/
def checkAddress (url : String) : Except Failure String :=
  let trimmed := Text.strip url
  if trimmed == "" then failed .addressEmpty
  else
    match Url.ofText? trimmed with
    | none => .error (.fault .badValue)
    | some parts =>
      if parts.isHttp then .ok trimmed else failed (.unsupportedScheme parts.scheme)

/-- Fetches an image, given how, and prepares it. -/
def download (rounding : Rounding) (codec : Codec) (limits : ImageLimits)
    (get : String → Act σ Response) (url : String) : Act σ Preparation := do
  let address ← Act.ofExcept (checkAddress url)
  let response ← get address
  return prepare rounding codec limits response.body response.contentType

/-- What fetches an image over HTTP, with a client of its own, and prepares it. -/
def preparer (rounding : Rounding) (codec : Codec) (limits : ImageLimits) (opener : HttpOpener σ)
    (url : String) : Act σ Prepared := do
  let preparation ← download rounding codec limits (fetchAlone limits opener) url
  .ofExcept preparation.outcome

end AgentWorkflow.Image
