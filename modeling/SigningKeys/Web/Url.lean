import SigningKeys.Text.Blank
import SigningKeys.Web.Domain
import SigningKeys.Web.Ip
import SigningKeys.Web.Percent

/-!
# Addresses of the web

* `Url`: an address with scheme `http` or `https`, in its parts; `Url.text` writes it;
* `Address.parse`: the address that a text spells. Of an address with another scheme only the scheme
  is kept, but what is wrong with it is found all the same;
* `Url.join`: the address that a reference names, seen from another address.

The text is read from left to right: scheme, user, host, port, path, query, fragment. The first part
that is wrong decides the fault.
-/

namespace SigningKeys.Web

/-- The schemes of the web. -/
inductive Scheme where
  | http
  | https
deriving DecidableEq

namespace Scheme

/-- The name of a scheme. -/
def name : Scheme → String
  | .http => "http"
  | .https => "https"

/-- The port that is meant when none is written. -/
def port : Scheme → Nat
  | .http => 80
  | .https => 443

end Scheme

/-- The host of an address. -/
inductive Host where
  | name (s : String)
  | ipv4 (n : Nat)
  | ipv6 (pieces : List Nat)
deriving DecidableEq

/-- The text of a host. -/
def Host.text : Host → String
  | .name s => s
  | .ipv4 n => Ipv4.text n
  | .ipv6 ps => "[" ++ Ipv6.text ps ++ "]"

/-- An address of the web. User, password, path, query and fragment are percent-encoded; the path is
the list of its segments. -/
structure Url where
  scheme : Scheme
  user : String := ""
  password : Option String := none
  host : Host
  port : Option Nat := none
  path : List String := [""]
  query : Option String := none
  fragment : Option String := none
deriving DecidableEq

namespace Url

/-- The user and the password, as they stand before the host. -/
def userText (u : Url) : String :=
  match u.password with
  | some p => u.user ++ ":" ++ p ++ "@"
  | none => if u.user = "" then "" else u.user ++ "@"

/-- The port, as it stands behind the host. -/
def portText (u : Url) : String :=
  match u.port with
  | some p => ":" ++ toString p
  | none => ""

/-- The path, from its first slash on. -/
def pathText (u : Url) : String := "/" ++ "/".intercalate u.path

/-- The query and the fragment, each behind its mark. -/
def tailText (u : Url) : String :=
  (match u.query with
    | some q => "?" ++ q
    | none => "") ++
  (match u.fragment with
    | some f => "#" ++ f
    | none => "")

/-- **The text of an address.** -/
def text (u : Url) : String :=
  u.scheme.name ++ "://" ++ u.userText ++ u.host.text ++ u.portText ++ u.pathText ++ u.tailText

/-- The address without user and password. -/
def withoutUser (u : Url) : Url := { u with user := "", password := none }

end Url

/-- Why a text is no address. -/
inductive UrlFault where
  | emptyHost
  | badDomain
  | badPort
  | badIpv4
  | badIpv6
  /-- A character that the host of a foreign scheme cannot hold. -/
  | badHostCharacter
  | noScheme
deriving DecidableEq

/-- The complaint about a fault. -/
def UrlFault.message : UrlFault → String
  | .emptyHost => "empty host"
  | .badDomain => "invalid international domain name"
  | .badPort => "invalid port number"
  | .badIpv4 => "invalid IPv4 address"
  | .badIpv6 => "invalid IPv6 address"
  | .badHostCharacter => "invalid domain character"
  | .noScheme => "relative URL without a base"

/-- What a text spells: an address of the web, or one with another scheme. -/
inductive Address where
  | web (u : Url)
  | other (scheme : String)
deriving DecidableEq

/-! ## Characters -/

/-- The characters of a text that count: controls and blanks at the ends do not, nor do tabulators
and line ends anywhere. -/
def significant (s : String) : List Char :=
  (Text.trimWhere (·.toNat ≤ 0x20) s.toList).filter fun c => c != '\t' && c != '\n' && c != '\r'

/-- An ASCII letter in lower case; any other character as it is. -/
def lower (c : Char) : Char := if 'A' ≤ c && c ≤ 'Z' then Char.ofNat (c.toNat + 32) else c

/-- Whether a character is an ASCII letter. -/
def isLetter (c : Char) : Bool := ('A' ≤ c && c ≤ 'Z') || ('a' ≤ c && c ≤ 'z')

/-- Whether a character is an ASCII digit. -/
def isDecimal (c : Char) : Bool := '0' ≤ c && c ≤ '9'

/-- The kinds of scheme. A special scheme takes a backslash for a slash, and has a host. -/
inductive SchemeKind where
  | web (s : Scheme)
  | special (name : String)
  | file
  | foreign (name : String)
deriving DecidableEq

namespace SchemeKind

/-- The kind of a scheme by its name. -/
def ofName (s : String) : SchemeKind :=
  if s = "http" then .web .http
  else if s = "https" then .web .https
  else if s = "ws" || s = "wss" || s = "ftp" then .special s
  else if s = "file" then .file
  else .foreign s

end SchemeKind

/-- Whether a character separates the segments of a path. -/
def isSlash (special : Bool) (c : Char) : Bool := c == '/' || (special && c == '\\')

/-- Whether a character ends the part of an address that names the host. -/
def endsAuthority (special : Bool) (c : Char) : Bool :=
  isSlash special c || c == '?' || c == '#'

/-- The scheme at the front of a text, in lower case, and the text after its colon. -/
def schemeOf? (cs : List Char) : Option (String × List Char) :=
  let front := cs.takeWhile fun c => isLetter c || isDecimal c || c == '+' || c == '-' || c == '.'
  match cs.drop front.length with
  | ':' :: rest =>
    if (front.head?.map isLetter).getD false then some (String.ofList (front.map lower), rest)
    else none
  | _ => none

/-! ## User, host and port -/

/-- The part before the last `@`, if there is one, and the part after it. -/
def splitUser (cs : List Char) : Option (List Char) × List Char :=
  if cs.contains '@' then
    let host := (cs.reverse.takeWhile (· != '@')).reverse
    (some (cs.take (cs.length - host.length - 1)), host)
  else (none, cs)

/-- The user and the password of a text. A password that is empty counts as none. -/
def userParts (cs : List Char) : String × Option String :=
  let user := cs.takeWhile (· != ':')
  let enc (cs : List Char) : String := String.ofList (Percent.encode Percent.userSafe cs)
  match cs.drop user.length with
  | [] | [':'] => (enc user, none)
  | _ :: password => (enc user, some (enc password))

/-- The host at the front of a text, and the text from the colon of the port on. A colon between
brackets belongs to the host. -/
def splitHost (inside : Bool) : List Char → List Char × List Char
  | [] => ([], [])
  | c :: rest =>
    if c = ':' && !inside then ([], c :: rest)
    else
      let inside := if c = '[' then true else if c = ']' then false else inside
      let (host, rest) := splitHost inside rest
      (c :: host, rest)

/-- An address of eight pieces between brackets. -/
def bracketed? (cs : List Char) : Except UrlFault Host :=
  match cs.getLast? with
  | some ']' =>
    match Ipv6.parse (cs.drop 1).dropLast with
    | some ps => .ok (.ipv6 ps)
    | none => .error .badIpv6
  | _ => .error .badIpv6

/-- **The host of a special scheme**: an address of a network, or a domain. -/
def hostOf (cs : List Char) : Except UrlFault Host :=
  if cs.head? = some '[' then bracketed? cs
  else
    let bytes := Percent.decode (Json.encode (String.ofList cs))
    match (Json.decode? bytes).bind fun s => toAscii? (s.toList.map Char.toNat) with
    | none => .error .badDomain
    | some ns =>
      let name := ns.map Char.ofNat
      if name.isEmpty then .error .emptyHost
      else if Ipv4.looksLike name then
        match Ipv4.parse name with
        | some n => .ok (.ipv4 n)
        | none => .error .badIpv4
      else .ok (.name (String.ofList name))

/-- The host of a foreign scheme; nothing but its faults matters. -/
def foreignHost (cs : List Char) : Except UrlFault Unit :=
  if cs.head? = some '[' then (bracketed? cs).map fun _ => ()
  else if cs.any fun c => "\x00\t\n\r #/:<>?@[\\]^|".toList.contains c then
    .error .badHostCharacter
  else .ok ()

/-- The port behind a host: digits after a colon, of at most 16 bits. -/
def portOf : List Char → Except UrlFault (Option Nat)
  | [] => .ok none
  | _ :: ds =>
    let n := ds.foldl (fun n c => n * 10 + (c.toNat - 48)) 0
    if !ds.all isDecimal || 65535 < n then .error .badPort
    else .ok (if ds.isEmpty then none else some n)

/-! ## Path, query and fragment -/

/-- Whether a segment stands for the current level. -/
def isDot (s : String) : Bool :=
  let t := String.ofList (s.toList.map lower)
  t = "." || t = "%2e"

/-- Whether a segment stands for the level above. -/
def isDotDot (s : String) : Bool :=
  let t := String.ofList (s.toList.map lower)
  t = ".." || t = ".%2e" || t = "%2e." || t = "%2e%2e"

/-- Whether a text names a drive: a letter and a colon or a bar. -/
def isDrive : List Char → Bool
  | [l, c] => isLetter l && (c == ':' || c == '|')
  | _ => false

/-- The path one level up. A drive has no level above it. -/
def levelUp (path : List String) : List String :=
  if path.getLast?.any fun s => isDrive s.toList then path else path.dropLast

/-- Segments appended to a path. Segments of dots move within it; at the end they leave an empty
segment. -/
def walk (path : List String) : List String → List String
  | [] => path
  | s :: rest =>
    let last := rest.isEmpty
    if isDotDot s then walk (if last then levelUp path ++ [""] else levelUp path) rest
    else if isDot s then walk (if last then path ++ [""] else path) rest
    else walk (path ++ [s]) rest

/-- The segments of a text, percent-encoded. -/
def segments (cs : List Char) : List String :=
  ((cs.map fun c => if c == '\\' then '/' else c).splitOn '/').map fun seg =>
    String.ofList (Percent.encode Percent.pathSafe seg)

/-- The parts of a text before the query, in the query, and in the fragment. -/
def splitTail (cs : List Char) : List Char × Option (List Char) × Option (List Char) :=
  let front := cs.takeWhile (· != '#')
  let fragment := match cs.drop front.length with
    | [] => none
    | _ :: f => some f
  let path := front.takeWhile (· != '?')
  match front.drop path.length with
  | [] => (path, none, fragment)
  | _ :: q => (path, some q, fragment)

/-- The query of a text. -/
def queryOf (q : Option (List Char)) : Option String :=
  q.map fun cs => String.ofList (Percent.encode Percent.querySafe cs)

/-- The fragment of a text. -/
def fragmentOf (f : Option (List Char)) : Option String :=
  f.map fun cs => String.ofList (Percent.encode Percent.fragmentSafe cs)

/-! ## Requests -/

/-- Whether a character of the name of a host can stand in a request. -/
def fitsHost (c : Char) : Bool :=
  isLetter c || isDecimal c || "!$&'()*+,-.;=_~".toList.contains c

/-- How many bytes an address in a request has at most. -/
def maxRequested : Nat := 65534

/-- **Whether a request can hold an address.** The names of hosts may have characters that requests
do not know. -/
def Url.fitsRequest (u : Url) : Bool :=
  u.text.utf8ByteSize ≤ maxRequested &&
    match u.host with
    | .name s => s.toList.all fitsHost
    | _ => true

/-! ## Addresses -/

/-- The address of the web whose host starts the text. -/
def webFrom (s : Scheme) (cs : List Char) : Except UrlFault Url := do
  let authority := cs.takeWhile (!endsAuthority true ·)
  let (path, query, fragment) := splitTail (cs.drop authority.length)
  let (user, rest) := splitUser authority
  let (hostText, portText) := splitHost false rest
  if hostText.isEmpty then .error .emptyHost
  else
    let host ← hostOf hostText
    let port ← portOf portText
    let (user, password) := userParts (user.getD [])
    return {
      scheme := s, user, password, host
      port := port.filter (· != s.port)
      path := walk [] (segments (path.drop 1))
      query := queryOf query, fragment := fragmentOf fragment }

/-- What is wrong with the host part of an address with a special scheme that is not of the web. -/
def checkSpecial (cs : List Char) : Except UrlFault Unit := do
  let (_, rest) := splitUser (cs.takeWhile (!endsAuthority true ·))
  let (hostText, portText) := splitHost false rest
  if hostText.isEmpty then .error .emptyHost
  else
    let _ ← hostOf hostText
    let _ ← portOf portText
    return ()

/-- What is wrong with the host part of an address with a foreign scheme. -/
def checkForeign (cs : List Char) : Except UrlFault Unit := do
  let authority := cs.takeWhile (!endsAuthority false ·)
  let (user, rest) := splitUser authority
  if user = some [] && rest.isEmpty && authority.length < cs.length then .error .emptyHost
  else
    let (hostText, portText) := splitHost false rest
    foreignHost hostText
    if hostText.isEmpty && !portText.isEmpty then .error .emptyHost
    else
      -- A backslash ends the port, although it does not end the host.
      let _ ← portOf (portText.takeWhile (· != '\\'))
      let named := match user with
        | none | some [] | some [':'] => false
        | some _ => true
      if hostText.isEmpty && named then .error .emptyHost else return ()

/-- What is wrong with the host of a file. -/
def checkFile : List Char → Except UrlFault Unit
  | a :: b :: rest =>
    if isSlash true a && isSlash true b then
      let host := rest.takeWhile (!endsAuthority true ·)
      if host.isEmpty || isDrive host then .ok () else (hostOf host).map fun _ => ()
    else .ok ()
  | _ => .ok ()

/-- The text after the slashes at its front. -/
def afterSlashes (cs : List Char) : List Char := cs.dropWhile (isSlash true)

/-- The address of a scheme and the text after its colon. -/
def Address.ofScheme (name : String) (cs : List Char) : Except UrlFault Address :=
  match SchemeKind.ofName name with
  | .web s => (webFrom s (afterSlashes cs)).map .web
  | .special s => (checkSpecial (afterSlashes cs)).map fun _ => .other s
  | .file => (checkFile cs).map fun _ => .other "file"
  | .foreign s =>
    match cs with
    | '/' :: '/' :: rest => (checkForeign rest).map fun _ => .other s
    | _ => .ok (.other s)

/-- **The address that a text spells.** -/
def Address.parse (s : String) : Except UrlFault Address :=
  match schemeOf? (significant s) with
  | some (name, rest) => Address.ofScheme name rest
  | none => .error .noScheme

/-! ## References -/

namespace Url

/-- The address that a reference without scheme names, seen from `base`. -/
def joinRelative (base : Url) (cs : List Char) : Except UrlFault Url :=
  let (path, query, fragment) := splitTail cs
  let done (path : List String) : Url :=
    { base with path, query := queryOf query, fragment := fragmentOf fragment }
  match path with
  | [] =>
    .ok (if query.isNone then { base with fragment := fragmentOf fragment } else done base.path)
  | c :: rest =>
    if isSlash true c then
      if (rest.head?.map (isSlash true)).getD false then webFrom base.scheme (afterSlashes cs)
      else .ok (done (walk [] (segments rest)))
    else .ok (done (walk base.path.dropLast (segments path)))

/-- **The address that a reference names**, seen from `base`. A reference that repeats the scheme
without two slashes is relative all the same. -/
def join (base : Url) (s : String) : Except UrlFault Address :=
  let cs := significant s
  match schemeOf? cs with
  | none => (joinRelative base cs).map .web
  | some (name, rest) =>
    if name = base.scheme.name && (rest.takeWhile (isSlash true)).length < 2 then
      (joinRelative base rest).map .web
    else Address.ofScheme name rest

end Url

end SigningKeys.Web
