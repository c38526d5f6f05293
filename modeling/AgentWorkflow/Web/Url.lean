import AgentWorkflow.Text.Blank
import AgentWorkflow.Text.Lower
import AgentWorkflow.Text.Search
import AgentWorkflow.Web.Address

/-!
The parts of a URL: scheme, authority, path, query and fragment.

Taking a URL apart is lenient; a text without a scheme is a path. Only an authority with unmatched
brackets, with something else than an address inside them, or with a character that looks like a
delimiter, is refused.
-/

namespace AgentWorkflow.Web

open Text

/-- A URL, taken apart. -/
structure Url where
  scheme : String := ""
  authority : String := ""
  path : String := ""
  query : String := ""
  fragment : String := ""
  deriving DecidableEq, Repr

/-- Whether a character is a control character or a space. -/
def isControlOrSpace (c : Char) : Bool := c.toNat ≤ 0x20

/-- Whether a character is dropped wherever it stands in a URL. -/
def isDropped (c : Char) : Bool := c == '\t' || c == '\n' || c == '\r'

/-- Whether a character may stand in a scheme. -/
def isSchemeChar (c : Char) : Bool := c.isAlphanum || c == '+' || c == '-' || c == '.'

/-- Characters whose compatibility form holds a slash, a question mark, a number sign, an at sign or
a colon. -/
def lookalikes : List Nat := [
  0x2047, 0x2048, 0x2049, 0x2100, 0x2101, 0x2105, 0x2106, 0x2a74, 0xfe13, 0xfe16, 0xfe55, 0xfe56,
  0xfe5f, 0xfe6b, 0xff03, 0xff0f, 0xff1a, 0xff1f, 0xff20]

/-- Splits a text at the first occurrence of a character. -/
def cut (mark : Char) (cs : List Char) : List Char × List Char :=
  (splitFirst? [mark] cs).getD (cs, [])

/-- Takes a scheme off the front of a URL. -/
def takeScheme (cs : List Char) : List Char × List Char :=
  match splitFirst? [':'] cs with
  | some (scheme, rest) =>
    if (scheme.head?.any Char.isAlpha) && scheme.all isSchemeChar then
      (scheme.map Char.toLower, rest)
    else ([], cs)
  | none => ([], cs)

/-- Takes an authority off the front of what follows the scheme. -/
def takeAuthority (cs : List Char) : List Char × List Char :=
  match dropFront? ['/', '/'] cs with
  | some rest => rest.span fun c => !(c == '/' || c == '?' || c == '#')
  | none => ([], cs)

/-- What stands between the first pair of brackets of an authority. -/
def bracketed (authority : List Char) : List Char := (cut ']' (cut '[' authority).2).1

/-- Whether an authority is accepted. -/
def isAuthority (authority : List Char) : Bool :=
  let opened := authority.contains '['
  let closed := authority.contains ']'
  opened == closed && (!opened || isBracketed (bracketed authority)) &&
    !authority.any fun c => lookalikes.contains c.toNat

/-- Takes a URL apart, unless its authority is refused. -/
def Url.ofText? (s : String) : Option Url :=
  let cs := (s.toList.dropWhile isControlOrSpace).filter fun c => !isDropped c
  let (scheme, rest) := takeScheme cs
  let (authority, rest) := takeAuthority rest
  let (rest, fragment) := cut '#' rest
  let (path, query) := cut '?' rest
  if isAuthority authority then
    some {
      scheme := String.ofList scheme
      authority := String.ofList authority
      path := String.ofList path
      query := String.ofList query
      fragment := String.ofList fragment }
  else none

/-- Whether a URL is fetched over HTTP. -/
def Url.isHttp (url : Url) : Bool := url.scheme == "http" || url.scheme == "https"

/-- The path without the parameters of its last segment. -/
def dropParameters (path : List Char) : List Char :=
  match splitLast? '/' path with
  | some (front, last) => front ++ '/' :: (cut ';' last).1
  | none => (cut ';' path).1

/-- The extension of the last segment of a path with its point. Points in front of a name do not
begin an extension. -/
def extension (path : List Char) : List Char :=
  let name := ((splitLast? '/' path).map Prod.snd).getD path
  match splitLast? '.' name with
  | some (stem, last) => if stem.all (· == '.') then [] else '.' :: last
  | none => []

/-- The extensions of images. -/
def imageExtensions : List String :=
  [".jpg", ".jpeg", ".png", ".webp", ".gif", ".bmp", ".tiff", ".heic"]

/-- What the query of a signed URL holds. -/
def signatureMark : String := "x-amz-signature="

/-- Whether a URL leads to an image, judging by its extension or by a signature. -/
def Url.isImage (url : Url) : Bool :=
  url.isHttp &&
    (occurs signatureMark.toList (lower url.query).toList ||
      imageExtensions.contains
        (lower (String.ofList (extension (dropParameters url.path.toList)))))

/-- Whether a text is the URL of an image. Blanks at its ends do not matter. -/
def looksLikeImage (s : String) : Bool :=
  match Url.ofText? (strip s) with
  | some url => url.isImage
  | none => false

end AgentWorkflow.Web
