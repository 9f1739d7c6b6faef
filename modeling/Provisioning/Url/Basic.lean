import Provisioning.Url.Host
/-!
# URLs

* `Url` : the parts of a URL, normalised;
* `Url.Kind` : web addresses and files have rules of their own;
* `Url.parse` : reads a URL; what it rejects, it rejects for the leftmost fault;
* `Url.render` : the URL as text.
-/

namespace Provisioning
open Text

structure Url where
  scheme : List Char
  username : List Char
  password : List Char
  host : Option Host
  /-- A port other than the one of the scheme. -/
  port : Option Nat
  path : List Char
  query : Option (List Char)
  fragment : Option (List Char)
  deriving DecidableEq, Repr

namespace Url

inductive Kind
  | web
  | file
  | other
  deriving DecidableEq, Repr

def Kind.ofScheme (scheme : List Char) : Kind :=
  match String.ofList scheme with
  | "http" | "https" | "ws" | "wss" | "ftp" => web
  | "file" => file
  | _ => other

def defaultPort? (scheme : List Char) : Option Nat :=
  match String.ofList scheme with
  | "http" | "ws" => some 80
  | "https" | "wss" => some 443
  | "ftp" => some 21
  | _ => none

/-! ## The text -/

def isControlOrSpace (c : Char) : Bool := c.toNat ≤ 0x20

def isSkipped (c : Char) : Bool := c == '\t' || c == '\n' || c == '\r'

def clean (s : List Char) : List Char :=
  ((s.dropWhile isControlOrSpace).reverse.dropWhile isControlOrSpace).reverse.filter (!isSkipped ·)

def isSchemeChar (c : Char) : Bool := c.isAlphanum || c == '+' || c == '-' || c == '.'

def splitScheme? (s : List Char) : Option (List Char × List Char) :=
  match s.span isSchemeChar with
  | (name, ':' :: r) =>
    if name.head?.any Char.isAlpha then some (name.map Char.toLower, r) else none
  | _ => none

/-- The characters that end an authority; a backslash is a slash except in other schemes. -/
def endsAuthority (kind : Kind) (c : Char) : Bool :=
  c == '/' || c == '?' || c == '#' || (c == '\\' && kind != .other)

def isSlash (kind : Kind) (c : Char) : Bool := c == '/' || (c == '\\' && kind != .other)

/-! ## Authority -/

structure Credentials where
  username : List Char
  password : List Char
  deriving DecidableEq, Repr

namespace Credentials

def none : Credentials := ⟨[], []⟩

def isNone (c : Credentials) : Bool := c.username.isEmpty && c.password.isEmpty

/-- A name and, behind the first colon, a password. -/
def read (s : List Char) : Credentials :=
  let (name, r) := s.span (· != ':')
  ⟨Percent.encode Percent.inUserinfo name, Percent.encode Percent.inUserinfo r.tail⟩

end Credentials

/-- The credentials stand before the last at sign of the authority. -/
def takeCredentials (kind : Kind) (s : List Char) :
    Except UrlError (Credentials × List Char) :=
  let authority := s.takeWhile (!endsAuthority kind ·)
  if authority.contains '@' then
    let behind := (authority.reverse.takeWhile (· != '@')).length
    let info := authority.take (authority.length - behind - 1)
    let r := s.drop (info.length + 1)
    if info.isEmpty && r.head?.any (endsAuthority kind) then .error .emptyHost
    else .ok (.read info, r)
  else .ok (.none, s)

/-- The host runs up to a colon outside brackets or to the end of the authority. -/
def takeHost (kind : Kind) : Bool → List Char → List Char × List Char
  | _, [] => ([], [])
  | inside, c :: r =>
    if (c == ':' && !inside) || endsAuthority kind c then ([], c :: r)
    else
      let (host, rest) := takeHost kind (c == '[' || (inside && c != ']')) r
      (c :: host, rest)

/-- A port ends at a slash of either kind, also in other schemes. -/
def takePort (scheme : List Char) (s : List Char) :
    Except UrlError (Option Nat × List Char) :=
  match s with
  | ':' :: t =>
    let (digits, r) := t.span Char.isDigit
    if Decimal.portLimit ≤ Decimal.value digits then .error .invalidPort
    else if r.head?.all (endsAuthority .web) then
      if digits.isEmpty || defaultPort? scheme = some (Decimal.value digits) then .ok (none, r)
      else .ok (some (Decimal.value digits), r)
    else .error .invalidPort
  | s => .ok (none, s)

/-! ## Path, query and fragment -/

def dots : List (List Char) := [['.'], ['%', '2', 'e'], ['%', '2', 'E']]

def isDot (segment : List Char) : Bool := dots.contains segment

def isDoubleDot (segment : List Char) : Bool :=
  dots.any fun a => dots.any fun b => segment == a ++ b

def inPath (c : Char) : Bool :=
  Percent.inFragment c || c == '#' || c == '?' || c == '\x7b' || c == '\x7d'

/-- Adds the segments to those in front of them, given from the last to the first. -/
def resolve (front : List (List Char)) : List (List Char) → List (List Char)
  | [] => front.reverse
  | [s] =>
    if isDoubleDot s then ([] :: front.tail).reverse
    else if isDot s then ([] :: front).reverse
    else (s :: front).reverse
  | s :: r =>
    if isDoubleDot s then resolve front.tail r
    else if isDot s then resolve front r
    else resolve (s :: front) r

def normalizePath (kind : Kind) (s : List Char) : List Char :=
  let s := (if kind = .other then s else s.map fun c => if c = '\\' then '/' else c)
  if s.isEmpty && kind = .other then []
  else
    let segments := splitOn '/' (if s.head? = some '/' then s.tail else s)
    '/' :: joinWith ['/'] (resolve [] (segments.map (Percent.encode inPath)))

structure Tail where
  path : List Char
  query : Option (List Char)
  fragment : Option (List Char)
  deriving DecidableEq, Repr

def splitTail (s : List Char) : Tail :=
  let (front, fragment) := s.span (· != '#')
  let (path, query) := front.span (· != '?')
  ⟨path, if query.isEmpty then none else some query.tail,
    if fragment.isEmpty then none else some fragment.tail⟩

def Tail.encode (kind : Kind) (t : Tail) (path : List Char → List Char) : Tail :=
  ⟨path t.path,
    t.query.map
      (Percent.encode (if kind = .other then Percent.inQuery else Percent.inSpecialQuery)),
    t.fragment.map (Percent.encode Percent.inFragment)⟩

def ofTail (scheme : List Char) (c : Credentials) (host : Option Host) (port : Option Nat)
    (t : Tail) : Url :=
  ⟨scheme, c.username, c.password, host, port, t.path, t.query, t.fragment⟩

/-! ## Reading -/

/-- What follows two slashes, for any scheme but `file`. -/
def parseAuthority (scheme : List Char) (kind : Kind) (s : List Char) : Except UrlError Url := do
  let (credentials, s) ← takeCredentials kind s
  let (name, s) := takeHost kind false s
  let host ←
    if name.isEmpty then
      if kind = .web || s.head? = some ':' then throw UrlError.emptyHost else pure none
    else if kind = .web then some <$> Host.parse name
    else some <$> Host.parseVerbatim name
  let (port, s) ← takePort scheme s
  if host.isNone && !credentials.isNone then throw UrlError.emptyHost
  return ofTail scheme credentials host port ((splitTail s).encode kind (normalizePath kind))

def isDriveLetter : List Char → Bool
  | [a, b] => a.isAlpha && (b == ':' || b == '|')
  | _ => false

/-- A file has a host only behind two slashes; a drive letter is none, nor is this machine. -/
def parseFile (scheme : List Char) (s : List Char) : Except UrlError Url := do
  let tail (s : List Char) : Tail := (splitTail s).encode .file (normalizePath .file)
  match s with
  | a :: b :: r =>
    if isSlash .file a && isSlash .file b then
      let (name, rest) := r.span (!endsAuthority .file ·)
      if isDriveLetter name then return ofTail scheme .none none none (tail r)
      else if name.isEmpty then return ofTail scheme .none none none (tail rest)
      else
        let host ← Host.parse name
        if host = .domain "localhost".toList then return ofTail scheme .none none none (tail rest)
        else return ofTail scheme .none (some host) none (tail rest)
    else return ofTail scheme .none none none (tail s)
  | _ => return ofTail scheme .none none none (tail s)

def parseOther (scheme : List Char) (s : List Char) : Except UrlError Url :=
  match s with
  | '/' :: '/' :: r => parseAuthority scheme .other r
  | '/' :: _ =>
    .ok (ofTail scheme .none none none ((splitTail s).encode .other (normalizePath .other)))
  | _ =>
    .ok (ofTail scheme .none none none
      ((splitTail s).encode .other (Percent.encode Percent.inControls)))

def parse (text : String) : Except UrlError Url :=
  match splitScheme? (clean text.toList) with
  | none => .error .relativeWithoutBase
  | some (scheme, s) =>
    match Kind.ofScheme scheme with
    | .web => parseAuthority scheme .web (s.dropWhile (isSlash .web))
    | .file => parseFile scheme s
    | .other => parseOther scheme s

/-! ## Writing -/

def renderCredentials (u : Url) : List Char :=
  if u.username.isEmpty && u.password.isEmpty then []
  else u.username ++ (if u.password.isEmpty then [] else ':' :: u.password) ++ ['@']

def renderAuthority (u : Url) : List Char :=
  match u.host with
  | none => if Kind.ofScheme u.scheme = .file then ['/', '/'] else []
  | some h =>
    ['/', '/'] ++ u.renderCredentials ++ h.render
      ++ (u.port.map fun p => ':' :: Decimal.render p).getD []

def render (u : Url) : String :=
  String.ofList
    (u.scheme ++ [':'] ++ u.renderAuthority ++ u.path ++ (u.query.map ('?' :: ·)).getD []
      ++ (u.fragment.map ('#' :: ·)).getD [])

def hostText? (u : Url) : Option String := u.host.map fun h => String.ofList h.render

/-- The port that a connection uses. -/
def effectivePort? (u : Url) : Option Nat := u.port.or (defaultPort? u.scheme)

end Url

end Provisioning
