/-
# Addresses

A URL is read into its parts and written back in normal form: scheme and host in lower case,
no port that the scheme implies, no dot segments, and every character that may not stand as
it is percent-encoded.  Schemes of the web always have a host and a path with slashes, files
have a path with slashes and may have a host, and other schemes may have a path of any form.
-/

import SupportDesk.Host.Address
import SupportDesk.Host.Name
import SupportDesk.Http.Path

namespace SupportDesk

/-- An absolute URL in normal form. -/
structure Url where
  scheme : String
  /-- The host, which may be empty outside of the web. -/
  host : Option String
  /-- The port, unless it is the one that the scheme implies. -/
  port : Option Nat
  path : String
  query : Option String
  fragment : Option String
deriving DecidableEq, Repr

namespace Url

/-- The schemes of the web with the ports that they imply. -/
def webSchemes : List (String × Nat) :=
  [("http", 80), ("https", 443), ("ws", 80), ("wss", 443), ("ftp", 21)]

/-- The kinds of scheme. -/
inductive Kind
  | web
  | file
  | other
deriving DecidableEq, Repr

/-- The kind of a scheme. -/
def Kind.ofScheme (scheme : String) : Kind :=
  if webSchemes.any fun w => w.1 = scheme then web
  else if scheme = "file" then file
  else other

/-! ## Percent encoding -/

/-- The bytes of a character, each as a percent sign and two digits. -/
def percentEncode (c : Char) : List Char :=
  (String.singleton c).toUTF8.toList.flatMap fun b =>
    '%' :: (Digits.fixed 16 2 b.toNat).map Char.toUpper

/-- Encodes the characters that a set names, and all that are not printable ASCII. -/
def encode (reserved : List Char) (cs : List Char) : List Char :=
  cs.flatMap fun c =>
    if c.toNat < 0x20 || 0x7E < c.toNat || reserved.contains c then percentEncode c else [c]

/-- The characters that are encoded in a fragment. -/
def fragmentSet : List Char := [' ', '"', '<', '>', '`']

/-- The characters that are encoded in a path. -/
def pathSet : List Char := '#' :: '?' :: '{' :: '}' :: fragmentSet

/-- The characters that are encoded in a query. -/
def querySet : Kind → List Char
  | .other => [' ', '"', '#', '<', '>']
  | _ => [' ', '"', '#', '<', '>', '\'']

/-! ## Hosts -/

/-- The normal form of a host in brackets, given without the first of them. -/
def bracketedHost? (cs : List Char) : Option String :=
  if cs.getLast? = some ']' then
    (Host.Address.long? cs.dropLast).map fun pieces => "[" ++ Host.Address.longText pieces ++ "]"
  else none

/-- The normal form of a host of the web.  A name that ends in a number is an address. -/
def webHost? (cs : List Char) : Option String :=
  match cs with
  | '[' :: rest => bracketedHost? rest
  | _ => do
    let name ← Host.Name.ascii? (← Http.decodeSegment? cs).toList
    if name.isEmpty then none
    else if Host.Address.endsInNumber name then
      (Host.Address.short? name).map Host.Address.shortText
    else return String.ofList name

/-- Whether a character may not stand in a host outside of the web. -/
def isForbidden (c : Char) : Bool := "\x00\t\n\r #/:<>?@[\\]^|".toList.contains c

/-- The normal form of a host outside of the web, which is not looked into. -/
def otherHost? (cs : List Char) : Option String :=
  match cs with
  | '[' :: rest => bracketedHost? rest
  | _ => if cs.any isForbidden then none else some (String.ofList (encode [] cs))

/-! ## Paths -/

/-- Whether a segment stands for the place where it is. -/
def isSingleDot (s : List Char) : Bool :=
  s = ['.'] || s.map Char.toLower = "%2e".toList

/-- Whether a segment stands for the place above. -/
def isDoubleDot (s : List Char) : Bool :=
  [['.', '.'], ".%2e".toList, "%2e.".toList, "%2e%2e".toList].contains (s.map Char.toLower)

/-- Whether a segment names a drive: a letter with a colon or a bar after it. -/
def isDrive : List Char → Bool
  | [c, mark] => c.isAlpha && (mark == ':' || mark == '|')
  | _ => false

/-- The last segment of a path, after its last slash. -/
def lastSegment (path : List Char) : List Char := (path.reverse.takeWhile (· != '/')).reverse

/-- A path without its last segment, up to and with its last slash. -/
def withoutLast (path : List Char) : List Char := (path.reverse.dropWhile (· != '/')).reverse

/-- The place above a path.  A drive is not left. -/
def above (path : List Char) : List Char :=
  match path.reverse with
  | '/' :: before =>
    let shorter := before.reverse
    if shorter.contains '/' && !isDrive (lastSegment shorter) then withoutLast shorter else path
  | _ => withoutLast path

/-- A path that ends in a slash. -/
def closed (path : List Char) : List Char :=
  if path.getLast? = some '/' then path else path ++ ['/']

/-- Goes on from a path that ends in a slash by a segment.  In the path of a file a drive at the
start has a colon. -/
def step (kind : Kind) (path segment : List Char) (slash : Bool) : List Char :=
  let segment := encode pathSet segment
  if isDoubleDot segment then if slash then closed (above path) else above path
  else if isSingleDot segment then closed path
  else
    let segment :=
      if kind = .file && path.length = 1 && isDrive segment then segment.take 1 ++ [':']
      else segment
    path ++ segment ++ if slash then ['/'] else []

/-- Goes on from a path by segments with slashes between them. -/
def steps (kind : Kind) (path : List Char) : List (List Char) → List Char
  | [] => path
  | [segment] => step kind path segment false
  | segment :: rest => steps kind (step kind path segment true) rest

/-- The normal form of a path that begins with a slash. -/
def slashedPath (kind : Kind) (cs : List Char) : List Char := steps kind [] (Http.segments cs)

/-! ## Authorities -/

/-- The user, the host and the port of an authority as they are written. -/
structure Authority where
  /-- What stands before the last at sign, if there is one. -/
  user : Option (List Char)
  host : List Char
  /-- What stands after the colon, if there is one. -/
  port : Option (List Char)
deriving Repr

/-- Splits off what follows a mark. -/
def splitAtMark (mark : Char) (cs : List Char) : List Char × Option (List Char) :=
  (cs.takeWhile (· != mark),
    match cs.dropWhile (· != mark) with
    | _ :: rest => some rest
    | [] => none)

/-- Splits a host from what follows the first colon that is not in brackets. -/
def splitHost (inBrackets : Bool) : List Char → List Char × Option (List Char)
  | [] => ([], none)
  | c :: rest =>
    if c = ':' ∧ ¬ inBrackets then ([], some rest)
    else
      let (host, port) := splitHost ((inBrackets || c == '[') && c != ']') rest
      (c :: host, port)

/-- Reads the parts of an authority. -/
def Authority.read (cs : List Char) : Authority :=
  let place := (cs.reverse.takeWhile (· != '@')).reverse
  let (host, port) := splitHost false place
  ⟨if place.length = cs.length then none else some (cs.take (cs.length - place.length - 1)),
    host, port⟩

/-- Whether an authority names a user. -/
def Authority.namesUser (a : Authority) : Bool :=
  match a.user with
  | some user => !user.isEmpty && user != [':']
  | none => false

/-- The port that digits give; none is given or implied by no digits. -/
def port? (scheme : String) (digits : List Char) : Option (Option Nat) :=
  if digits.isEmpty then some none
  else do
    let n ← Digits.readDecimal? digits
    if 65535 < n then none
    else if webSchemes.contains (scheme, n) then some none
    else some (some n)

/-! ## Reading -/

/-- The text without blanks and controls around it, and without tabs and line ends. -/
def cleaned (text : String) : List Char :=
  let isEdge (c : Char) : Bool := c.toNat ≤ 0x20
  let cs := text.toList.dropWhile isEdge
  ((cs.reverse.dropWhile isEdge).reverse).filter fun c => c != '\t' && c != '\n' && c != '\r'

/-- Splits off the scheme, which is given in lower case. -/
def splitScheme? (cs : List Char) : Option (String × List Char) :=
  let name := cs.takeWhile Http.isSchemeChar
  match name, cs.drop name.length with
  | c :: _, ':' :: rest =>
    if c.isAlpha then some (String.ofList (name.map Char.toLower), rest) else none
  | _, _ => none

/-- Reads a URL of the web after its scheme, with slashes for backslashes. -/
def readWeb? (scheme : String) (cs : List Char) (query fragment : Option String) : Option Url := do
  let cs := cs.dropWhile (· == '/')
  let authority := cs.takeWhile (· != '/')
  let parts := Authority.read authority
  let host ← webHost? parts.host
  let port ← port? scheme (parts.port.getD [])
  let path := '/' :: cs.drop (authority.length + 1)
  return ⟨scheme, some host, port, String.ofList (slashedPath .web path), query, fragment⟩

/-- The host of a file, which is empty for the machine itself. -/
def fileHost? (cs : List Char) : Option String :=
  if cs.isEmpty then some ""
  else (webHost? cs).map fun host => if host = "localhost" then "" else host

/-- The address of a file by its host and its path, which has one slash in front.  A path from a
drive has no host. -/
def ofFile (host : String) (path : List Char) (query fragment : Option String) : Url :=
  let path := slashedPath .file path
  let fromDrive := isDrive ((Http.segments (path.drop 1)).headD [])
  ⟨"file", some (if fromDrive then "" else host), none,
    String.ofList ('/' :: path.dropWhile (· == '/')), query, fragment⟩

/-- Reads the address of a file after its scheme, with slashes for backslashes. -/
def readFile? (cs : List Char) (query fragment : Option String) : Option Url :=
  match cs with
  | '/' :: '/' :: rest =>
    let host := rest.takeWhile (· != '/')
    if isDrive host then some (ofFile "" ('/' :: rest) query fragment)
    else (fileHost? host).map fun name =>
      ofFile name ('/' :: rest.drop (host.length + 1)) query fragment
  | '/' :: _ => some (ofFile "" cs query fragment)
  | _ => some (ofFile "" ('/' :: cs) query fragment)

/-- Reads a URL of another scheme after it.  A port may end at a backslash, which then belongs to
the path. -/
def readOther? (scheme : String) (cs : List Char) (query fragment : Option String) : Option Url :=
  match cs with
  | '/' :: '/' :: rest => do
    let authority := rest.takeWhile (· != '/')
    let parts := Authority.read authority
    let digits := (parts.port.getD []).takeWhile Digits.isDecimal
    let path := (parts.port.getD []).drop digits.length ++ rest.drop authority.length
    let host ← otherHost? parts.host
    let port ← port? scheme digits
    let isLast := path.isEmpty && query.isNone && fragment.isNone
    if parts.host.isEmpty && (parts.namesUser || parts.port.isSome) then none
    else if parts.host.isEmpty && parts.user = some [] && !isLast then none
    else
      let path ← match path with
        | [] => some []
        | '/' :: _ => some (slashedPath .other path)
        | '\\' :: _ => some (slashedPath .other ('/' :: path))
        | _ => none
      return ⟨scheme, some host, port, String.ofList path, query, fragment⟩
  | '/' :: _ =>
    some ⟨scheme, none, none, String.ofList (slashedPath .other cs), query, fragment⟩
  | _ => some ⟨scheme, none, none, String.ofList (encode [] cs), query, fragment⟩

/-- Reads an absolute URL. -/
def parse? (text : String) : Option Url := do
  let (scheme, cs) ← splitScheme? (cleaned text)
  let (cs, fragment) := splitAtMark '#' cs
  let (cs, query) := splitAtMark '?' cs
  let kind := Kind.ofScheme scheme
  let fragment := fragment.map fun f => String.ofList (encode fragmentSet f)
  let query := query.map fun q => String.ofList (encode (querySet kind) q)
  let slashed := cs.map fun c => if c = '\\' then '/' else c
  match kind with
  | .web => readWeb? scheme slashed query fragment
  | .file => readFile? slashed query fragment
  | .other => readOther? scheme cs query fragment

/-! ## Writing -/

/-- What a request asks the host for: the path with the query. -/
def target (u : Url) : String :=
  u.path ++
    match u.query with
    | some q => "?" ++ q
    | none => ""

/-- The host and the port, after two slashes.  Without a host, a path that begins with two
slashes has a step to the place itself in front, so as not to be taken for one. -/
def authority (u : Url) : String :=
  match u.host with
  | none => if u.path.startsWith "//" then "/." else ""
  | some host =>
    "//" ++ host ++
      match u.port with
      | some n => ":" ++ toString n
      | none => ""

/-- The written form. -/
def text (u : Url) : String :=
  u.scheme ++ ":" ++ u.authority ++ u.target ++
    match u.fragment with
    | some f => "#" ++ f
    | none => ""

/-- Whether two URLs lead to the same server. -/
def sameServer (u v : Url) : Bool := u.scheme = v.scheme && u.host = v.host && u.port = v.port

end Url

end SupportDesk
