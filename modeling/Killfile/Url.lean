import Killfile.Url.Address
import Killfile.Url.Domain
import Killfile.Url.Percent

/-! URLs: their parts, reading them from text, and writing them. -/

namespace Killfile

inductive UrlError where
  | emptyHost | invalidDomain | invalidPort | invalidIpv4 | invalidIpv6 | invalidHostCharacter
  | relative
deriving DecidableEq, Repr

def UrlError.message : UrlError → String
  | .emptyHost => "empty host"
  | .invalidDomain => "invalid international domain name"
  | .invalidPort => "invalid port number"
  | .invalidIpv4 => "invalid IPv4 address"
  | .invalidIpv6 => "invalid IPv6 address"
  | .invalidHostCharacter => "invalid domain character"
  | .relative => "relative URL without a base"

namespace Url

inductive Host where
  | domain (name : List Char)
  | ipv4 (address : Nat)
  | ipv6 (pieces : List Nat)
deriving DecidableEq, Repr

def Host.render : Host → List Char
  | .domain d => d
  | .ipv4 n => (renderIpv4 n).toList
  | .ipv6 l => '[' :: (renderIpv6 l).toList ++ [']']

def Host.isEmpty : Host → Bool
  | .domain [] => true
  | _ => false

end Url

/-- The parts of a URL, encoded. Empty user names and passwords are not written, and without a host
there is no authority at all. -/
structure Url where
  scheme : List Char
  username : List Char := []
  password : List Char := []
  host : Option Url.Host := none
  port : Option Nat := none
  path : List Char := []
  query : Option (List Char) := none
  fragment : Option (List Char) := none
deriving DecidableEq, Repr

namespace Url

open Text (pieces)

/-- Web schemes and their usual ports. -/
def defaultPort? (scheme : List Char) : Option Nat :=
  match String.ofList scheme with
  | "http" => some 80
  | "ws" => some 80
  | "https" => some 443
  | "wss" => some 443
  | "ftp" => some 21
  | _ => none

/-- What a scheme means for the rest: a file, a web address, or anything else. -/
inductive SchemeKind where
  | file | web | other
deriving DecidableEq, Repr

def schemeKind (scheme : List Char) : SchemeKind :=
  if scheme = "file".toList then .file
  else if (defaultPort? scheme).isSome then .web
  else .other

def SchemeKind.isSpecial : SchemeKind → Bool
  | .other => false
  | _ => true

/-- User name and password with the at sign after them. -/
def renderUserinfo (username password : List Char) : List Char :=
  if username = [] ∧ password = [] then []
  else username ++ (if password = [] then [] else ':' :: password) ++ ['@']

def renderPort : Option Nat → List Char
  | some n => ':' :: (toString n).toList
  | none => []

/-- Slashes, user, host and port. A path that begins with two slashes must not look like them. -/
def renderAuthority (u : Url) : List Char :=
  match u.host with
  | some h => '/' :: '/' :: renderUserinfo u.username u.password ++ h.render ++ renderPort u.port
  | none => if u.path.take 2 = ['/', '/'] then ['/', '.'] else []

def renderQuery : Option (List Char) → List Char
  | some q => '?' :: q
  | none => []

def renderFragment : Option (List Char) → List Char
  | some f => '#' :: f
  | none => []

def render (u : Url) : List Char :=
  u.scheme ++ ':' :: u.renderAuthority ++ u.path ++ renderQuery u.query ++ renderFragment u.fragment

/-- The scheme in lower case and what follows its colon. -/
def readScheme? : List Char → Option (List Char × List Char)
  | [] => none
  | c :: s =>
    if !c.isAlpha then none
    else
      let inScheme := fun d : Char => d.isAlphanum || d == '+' || d == '-' || d == '.'
      match s.dropWhile inScheme with
      | ':' :: r => some ((c :: s.takeWhile inScheme).map Char.toLower, r)
      | _ => none

/-- The end of an authority: a slash, a query or fragment, and for web schemes a backslash. -/
def endsAuthority (special : Bool) (c : Char) : Bool :=
  c == '/' || c == '?' || c == '#' || (special && c == '\\')

/-- Splits an authority at its last at sign. -/
def splitUserinfo (authority : List Char) : Option (List Char × List Char) :=
  match authority.reverse.dropWhile (· != '@') with
  | [] => none
  | _ :: userinfo => some (userinfo.reverse, (authority.reverse.takeWhile (· != '@')).reverse)

/-- User name and password, encoded. The name ends at the first colon. -/
def readUserinfo (userinfo : List Char) : List Char × List Char :=
  (encode inUserinfo (userinfo.takeWhile (· != ':')),
    encode inUserinfo ((userinfo.dropWhile (· != ':')).drop 1))

/-- A host up to the colon of its port. Colons in square brackets belong to the host. -/
def splitHost (inBrackets : Bool) : List Char → List Char × List Char
  | [] => ([], [])
  | c :: s =>
    if c = ':' ∧ !inBrackets then ([], c :: s)
    else
      let inBrackets := if c = '[' then true else if c = ']' then false else inBrackets
      let (host, rest) := splitHost inBrackets s
      (c :: host, rest)

/-- An address in square brackets. -/
def readBracketed (s : List Char) : Except UrlError Host :=
  if s.getLast? = some ']' then
    match ipv6? s.dropLast with
    | some l => .ok (.ipv6 l)
    | none => .error .invalidIpv6
  else .error .invalidIpv6

/-- The host of a web address or file: a domain or an address. -/
def readDomain (s : List Char) : Except UrlError Host :=
  match s with
  | '[' :: r => readBracketed r
  | _ =>
    match domainToAscii? (percentDecode s) with
    | none => .error .invalidDomain
    | some [] => .error .emptyHost
    | some d =>
      if endsInNumber d then
        match ipv4? d with
        | some n => .ok (.ipv4 n)
        | none => .error .invalidIpv4
      else .ok (.domain d)

/-- Characters that the host of any other scheme may not hold. -/
def deniedInHost (c : Char) : Bool := "\x00\t\n\r #/:<>?@[\\]^|".toList.contains c

/-- The host of any other scheme, which may be empty. -/
def readOpaque (s : List Char) : Except UrlError Host :=
  match s with
  | '[' :: r => readBracketed r
  | _ =>
    if s.any deniedInHost then .error .invalidHostCharacter
    else .ok (.domain (encode isControl s))

/-- A port after its colon. No digits, and the usual port of the scheme, count as none. -/
def readPort (scheme digits : List Char) : Except UrlError (Option Nat) :=
  if digits.all Char.isDigit ∧ baseValue 10 digits < 65536 then
    if digits = [] ∨ some (baseValue 10 digits) = defaultPort? scheme then .ok none
    else .ok (some (baseValue 10 digits))
  else .error .invalidPort

/-- A segment of a path that stands for its parent. -/
def isDoubleDot (s : List Char) : Bool :=
  ["..", ".%2e", "%2e.", "%2e%2e"].contains (String.ofList (s.map Char.toLower))

/-- A segment of a path that stands for itself. -/
def isSingleDot (s : List Char) : Bool := [".", "%2e"].contains (String.ofList (s.map Char.toLower))

/-- A letter with a colon or a bar, as drives are named. -/
def isDrive : List Char → Bool
  | [c, d] => c.isAlpha && (d == ':' || d == '|')
  | _ => false

/-- Drops the last segment, given first, unless it is named like a drive. -/
def dropSegment : List (List Char) → List (List Char)
  | [] => []
  | s :: before => if isDrive s then s :: before else before

/-- A drive at the start of a file path is written with a colon. -/
def normalDrive (file : Bool) (before : List (List Char)) (s : List Char) : List Char :=
  if file && before.isEmpty && isDrive s then s.take 1 ++ [':'] else s

/-- Resolves segments against those before them, which come in reverse. A path whose last segment is
a dot segment ends with a slash. -/
def resolveSegments (file : Bool) (before : List (List Char)) :
    List (List Char) → List (List Char)
  | [] => before.reverse
  | s :: rest =>
    if isDoubleDot s then
      let before := dropSegment before
      resolveSegments file (if rest = [] then [] :: before else before) rest
    else if isSingleDot s then resolveSegments file (if rest = [] then [] :: before else before) rest
    else resolveSegments file (normalDrive file before s :: before) rest

def renderSegments (l : List (List Char)) : List Char := l.flatMap ('/' :: ·)

/-- The segments of a path, resolved. One leading slash does not count, and web paths are never
empty. -/
def readSegments (kind : SchemeKind) (s : List Char) : List (List Char) :=
  let s := if kind.isSpecial then s.map fun c => if c = '\\' then '/' else c else s
  if kind = .other ∧ s = [] then []
  else
    let s := if s.head? = some '/' then s.tail else s
    resolveSegments (kind = .file) [] ((pieces '/' s).map (encode inPath))

/-- The path of segments. That of a file begins with one slash alone. -/
def renderPath (kind : SchemeKind) (segments : List (List Char)) : List Char :=
  if kind = .file then '/' :: (renderSegments segments).dropWhile (· == '/')
  else renderSegments segments

/-- Splits off the query and the fragment. -/
def splitQuery (s : List Char) : List Char × Option (List Char) × Option (List Char) :=
  let beforeFragment := s.takeWhile (· != '#')
  let fragment := (s.dropWhile (· != '#')).tail?
  (beforeFragment.takeWhile (· != '?'), (beforeFragment.dropWhile (· != '?')).tail?, fragment)

/-- Adds what follows the authority. The path to a drive drops the host of a file. -/
def withPath (kind : SchemeKind) (u : Url) (s : List Char) : Url :=
  let (path, query, fragment) := splitQuery s
  let segments := readSegments kind path
  { u with
    host := if kind = .file ∧ segments.head?.any isDrive then some (.domain []) else u.host
    path := renderPath kind segments
    query := query.map (encode (if kind.isSpecial then inSpecialQuery else inQuery))
    fragment := fragment.map (encode inFragment) }

/-- Reads an authority and what follows it. -/
def readAuthority (kind : SchemeKind) (scheme s : List Char) : Except UrlError Url := do
  let authority := s.takeWhile (!endsAuthority kind.isSpecial ·)
  let rest := s.dropWhile (!endsAuthority kind.isSpecial ·)
  let (userinfo, hostPort) := (splitUserinfo authority).getD ([], authority)
  let named := (splitUserinfo authority).isSome
  if named ∧ userinfo = [] ∧ hostPort = [] ∧ rest ≠ [] then throw .emptyHost
  let (username, password) := readUserinfo userinfo
  let (hostText, portText) := splitHost false hostPort
  if kind.isSpecial ∧ hostText = [] then throw .emptyHost
  let host ← if kind.isSpecial then readDomain hostText else readOpaque hostText
  if host.isEmpty ∧ portText ≠ [] then throw .emptyHost
  -- a colon that no port follows ends the host of other schemes as well
  let digits := (portText.drop 1).takeWhile (· != '\\')
  let port ← readPort scheme digits
  if host.isEmpty ∧ (username ≠ [] ∨ password ≠ []) then throw .emptyHost
  pure (withPath kind { scheme, username, password, host := some host, port }
    ((portText.drop 1).dropWhile (· != '\\') ++ rest))

/-- Reads what follows the scheme of a file. A drive is no host, and the local host is none. -/
def readFile (scheme s : List Char) : Except UrlError Url := do
  let isSlash := fun c : Char => c == '/' || c == '\\'
  match s with
  | a :: b :: r =>
    if isSlash a && isSlash b then
      let hostText := r.takeWhile (!endsAuthority true ·)
      if hostText = [] ∨ isDrive hostText then
        pure (withPath .file { scheme, host := some (.domain []) } r)
      else
        let host ← readDomain hostText
        let host := if host = .domain "localhost".toList then .domain [] else host
        pure (withPath .file { scheme, host := some host } (r.dropWhile (!endsAuthority true ·)))
    else pure (withPath .file { scheme, host := some (.domain []) } s)
  | _ => pure (withPath .file { scheme, host := some (.domain []) } s)

/-- Reads what follows the scheme of any other URL: an authority, a path with segments, or text. -/
def readOther (scheme s : List Char) : Except UrlError Url :=
  match s with
  | '/' :: '/' :: r => readAuthority .other scheme r
  | '/' :: _ => pure (withPath .other { scheme } s)
  | _ =>
    let (path, query, fragment) := splitQuery s
    pure {
      scheme
      path := encode isControl path
      query := query.map (encode inQuery)
      fragment := fragment.map (encode inFragment) }

/-- The text without control characters and spaces around it, and without tabs and line ends. -/
def clean (s : List Char) : List Char :=
  let isOuter := fun c : Char => c.toNat ≤ 0x20
  ((s.dropWhile isOuter).reverse.dropWhile isOuter).reverse.filter fun c =>
    c != '\t' && c != '\n' && c != '\r'

/-- Reads an absolute URL. -/
def parse (s : List Char) : Except UrlError Url :=
  match readScheme? (clean s) with
  | none => .error .relative
  | some (scheme, r) =>
    match schemeKind scheme with
    | .file => readFile scheme r
    | .web => readAuthority .web scheme (r.dropWhile fun c => c == '/' || c == '\\')
    | .other => readOther scheme r

end Url

end Killfile
