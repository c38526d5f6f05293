import AgentWorkflow.Image.Download
import AgentWorkflow.Rehearsal.Limits
import AgentWorkflow.Web.Reference

/-!
A rehearsed network: pages that are served over HTTP, with a record of the requests and of the
clients that were opened.
-/

namespace AgentWorkflow.Rehearsal

/-- A page: what is answered to a request, and where a redirect leads. -/
structure Page where
  response : Image.Response
  location : Option String := none

/-- A network. -/
structure Network where
  /-- The pages that are served at an address of their own. -/
  pages : Record (Reply Page) := []
  /-- What is served at every other address. -/
  otherwise : Reply Page
  /-- The requests with the types that they accept. -/
  requests : List (String × String) := []
  /-- The timeouts of the clients that were opened, and whether they follow redirects. -/
  clients : List (Float × Bool) := []

namespace Network

/-- Requests a page. -/
def request (url accept : String) : Act Network Page := do
  modify fun network => { network with requests := network.requests ++ [(url, accept)] }
  let network ← get
  match (network.pages.find? url).getD network.otherwise with
  | .ok page => return page
  | .error failure => throw failure

/-- Where a response sends a client, if it is a redirect. -/
def Page.redirect? (page : Page) : Option String :=
  if [301, 302, 303, 307, 308].contains page.response.status then page.location else none

/-- The address that a redirect leads to. -/
def redirected (url location : String) : String :=
  match Web.Url.ofText? url, Web.Url.ofText? location with
  | some base, some reference => (base.redirect reference).text
  | _, _ => location

/-- Requests a page and follows at most `redirects` redirects. -/
def follow (accept : String) : (redirects : Nat) → (url : String) → Act Network Image.Response
  | 0, url => do
    let page ← request url accept
    match Page.redirect? page with
    | none => return page.response
    | some _ => throw (failing "Exceeded maximum allowed redirects.")
  | redirects + 1, url => do
    let page ← request url accept
    match Page.redirect? page with
    | none => return page.response
    | some location => follow accept redirects (redirected url location)

/-- An address as a client writes it. -/
def written (url : String) : String :=
  ((Web.Url.ofText? url).map fun parts => parts.normal.text).getD url

/-- A client. -/
def client (followsRedirects : Bool) : Image.HttpClient Network :=
  { get := fun url accept =>
      if followsRedirects then follow accept 20 (written url)
      else do return (← request (written url) accept).response
    close := pure () }

/-- Opens clients. -/
def opener : Image.HttpOpener Network := fun timeout followsRedirects => do
  modify fun network => { network with clients := network.clients ++ [(timeout, followsRedirects)] }
  return client followsRedirects

end Network

/-- Many copies of a byte. -/
def copies (byte : UInt8) (count : Nat) : ByteArray :=
  if count ≤ 64 then ⟨(List.replicate count byte).toArray⟩
  else
    let half := copies byte (count / 2)
    if count % 2 == 0 then half ++ half else (half ++ half).push byte
termination_by count

/-- The value of a hexadecimal digit. -/
def hexDigit (c : Char) : Nat :=
  let code := c.toNat
  if 48 ≤ code && code ≤ 57 then code - 48
  else if 97 ≤ code && code ≤ 102 then code - 87
  else if 65 ≤ code && code ≤ 70 then code - 55
  else 0

/-- Bytes in hexadecimal digits. -/
def bytesOfHex : List Char → List UInt8
  | high :: low :: rest => UInt8.ofNat (hexDigit high * 16 + hexDigit low) :: bytesOfHex rest
  | _ => []

/-- Data in hexadecimal digits, or as many letters x as the length says. -/
def dataOf (v : Value) : ByteArray :=
  match textUnder? v "hex" with
  | some hex => ⟨(bytesOfHex hex.toList).toArray⟩
  | none =>
    match fieldOf v "len" with
    | .int n => copies 120 n.toNat
    | _ => .empty

/-- The page that plain data describes. -/
def pageOf (v : Value) : Reply Page :=
  match textUnder? v "connect_error" with
  | some text => .error (failing text)
  | none =>
    .ok {
      response := {
        status := wholeUnder v "status" 200
        contentType := textUnder v "content_type"
        body := dataOf v }
      location := textUnder? v "location" }

/-- The network that plain data describes. -/
def Network.ofValue (v : Value) : Network :=
  { pages := (fieldsUnder v "responses").map fun (url, page) => (url, pageOf page)
    otherwise := pageOf (fieldOf v "response") }

/-- A codec that opens everything as a picture of one size. The length of an encoding is a base and
the product of its sides and its quality, divided by a number. -/
def codecOf (v : Value) : Image.Codec :=
  match v with
  | .object _ =>
    if hasField v "open_error" then fun _ => .ok none
    else
      let size : Image.Size :=
        match itemsUnder v "size" with
        | [.int width, .int height] => ⟨width, height⟩
        | _ => ⟨0, 0⟩
      fun _ => .ok <| some {
        size
        mime := textUnder v "mime"
        pixels := .ok fun size => .ok fun quality => .ok <|
          copies 74 (wholeUnder v "base" 0 +
            (size.width * size.height * quality).fdiv (wholeUnder v "div" 1)).toNat }
  | _ => fun _ => .ok none

end AgentWorkflow.Rehearsal
