import AgentWorkflow.Text.Digit
import AgentWorkflow.Text.Quoted
import AgentWorkflow.Web.Url

/-!
URLs as they are requested: their normal form, and where a reference leads, seen from another URL.

In the normal form the host is in lower case, the number behind it is left out when the scheme
implies it, the path holds no segment for the same directory or the one above it, and characters
that may not stand in a part are written as percent escapes.
-/

namespace AgentWorkflow.Web

open Text

/-- The number behind the colon of a host that a scheme implies. -/
def impliedNumber? (scheme : String) : Option Nat :=
  [("http", 80), ("https", 443), ("ws", 80), ("wss", 443), ("ftp", 21)].lookup scheme

/-- A host in lower case, without a number behind it that is empty or implied. -/
def normalHost (scheme : String) (host : List Char) : List Char :=
  let lower := host.map Char.toLower
  match splitLast? ':' lower with
  | none => lower
  | some (name, digits) =>
    if !digits.all Char.isDigit then lower
    else
      let number := ofDigits (digits.filterMap asciiDigit?)
      if digits.isEmpty || impliedNumber? scheme == some number then name else lower

/-- An authority with a normal host. What stands in front of the host is kept. -/
def normalAuthority (scheme : String) (authority : List Char) : List Char :=
  match splitLast? '@' authority with
  | some (user, host) => user ++ '@' :: normalHost scheme host
  | none => normalHost scheme authority

/-- Segments of a path without those for the same directory and the one above it. `kept` holds the
segments so far, the last one first; the empty segment in front of the first slash stays. -/
def normalSegments (kept : List (List Char)) : List (List Char) → List (List Char)
  | [] => kept.reverse
  | ['.'] :: rest => normalSegments kept rest
  | ['.', '.'] :: rest => normalSegments (if kept == [[]] then kept else kept.drop 1) rest
  | segment :: rest => normalSegments (segment :: kept) rest

/-- A text out of segments. -/
def ofSegments (segments : List (List Char)) : List Char := List.intercalate ['/'] segments

/-- A path without segments for the same directory and the one above it. -/
def normalPath (path : List Char) : List Char := ofSegments (normalSegments [] (splitAll '/' path))

/-- A character as percent escapes of its bytes. -/
def escaped (c : Char) : List Char :=
  (String.singleton c).toUTF8.toList.flatMap fun byte =>
    '%' :: (hexDigits 2 byte.toNat).map Char.toUpper

/-- Whether a character stands for itself in a part of a URL, given those that do not. -/
def standsForItself (refused : List Char) (c : Char) : Bool :=
  0x20 < c.toNat && c.toNat < 0x7f && !refused.contains c

/-- A part of a URL with escapes for the characters that do not stand for themselves. What is an
escape already is kept. -/
def escape (refused : List Char) (cs : List Char) : List Char :=
  cs.flatMap fun c => if standsForItself refused c then [c] else escaped c

/-- What does not stand for itself in a query. -/
def queryRefused : List Char := ['"', '#', '<', '>']

/-- What does not stand for itself in a path. -/
def pathRefused : List Char := queryRefused ++ ['?', '\x60', '\x7b', '\x7d']

/-- What does not stand for itself in a fragment. -/
def fragmentRefused : List Char := ['"', '<', '>', '\x60']

/-- The normal form of a URL. -/
def Url.normal (url : Url) : Url :=
  let part (change : List Char → List Char) (s : String) : String := String.ofList (change s.toList)
  { scheme := url.scheme
    authority := part (normalAuthority url.scheme) url.authority
    path := part (fun path => escape pathRefused (normalPath path)) url.path
    query := part (escape queryRefused) url.query
    fragment := part (escape fragmentRefused) url.fragment }

/-- A part of a URL behind a mark, and nothing when the part is empty. -/
def marked (mark part : String) : String := if part == "" then "" else mark ++ part

/-- The text of a URL. -/
def Url.text (url : Url) : String :=
  (if url.scheme == "" then "" else url.scheme ++ ":") ++ marked "//" url.authority ++ url.path ++
    marked "?" url.query ++ marked "#" url.fragment

/-- The segments of the directory that a path lies in. -/
def directory (path : String) : List (List Char) :=
  let segments := splitAll '/' path.toList
  if segments.getLast? == some [] then segments else segments.dropLast

/-- Segments without the empty ones between the first and the last. -/
def withoutInnerBlanks : List (List Char) → List (List Char)
  | [] => []
  | first :: rest => first :: (rest.dropLast.filter fun s => !s.isEmpty) ++ rest.getLast?.toList

/-- Segments with those for the same directory and the one above it resolved. `kept` holds the
segments so far, the last one first. Such a segment at the end leads to a directory. -/
def resolvedSegments (kept : List (List Char)) : List (List Char) → List (List Char)
  | [] => kept.reverse
  | [['.']] => ([] :: kept).reverse
  | [['.', '.']] => ([] :: kept.drop 1).reverse
  | ['.'] :: rest => resolvedSegments kept rest
  | ['.', '.'] :: rest => resolvedSegments (kept.drop 1) rest
  | segment :: rest => resolvedSegments (segment :: kept) rest

/-- The path that a reference leads to, seen from another path. -/
def joinPath (base path : String) : String :=
  let reference := splitAll '/' path.toList
  let segments :=
    if path.startsWith "/" then reference else withoutInnerBlanks (directory base ++ reference)
  let joined := ofSegments (resolvedSegments [] segments)
  String.ofList (if joined.head? == some '/' then joined else '/' :: joined)

/-- The URL that a reference leads to, seen from another URL. -/
def Url.join (base reference : Url) : Url :=
  if reference.scheme != "" then reference
  else if reference.authority != "" then { reference with scheme := base.scheme }
  else if reference.path == "" then
    { base with
      query := if reference.query == "" then base.query else reference.query
      fragment := reference.fragment }
  else
    { reference with
      scheme := base.scheme
      authority := base.authority
      path := joinPath base.path reference.path }

/-- The URL that a redirect leads to. A redirect without a fragment keeps the one there was. -/
def Url.redirect (base reference : Url) : Url :=
  let target := (base.join reference).normal
  if target.fragment == "" then { target with fragment := base.fragment } else target

end AgentWorkflow.Web
