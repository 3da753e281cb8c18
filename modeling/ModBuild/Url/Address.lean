import ModBuild.Text.Decimal
import ModBuild.Url.Host
import ModBuild.Url.Path

/-!
# `ModBuild.Url.Address`: addresses of documents

An address of the web has a scheme, a host and a path, and may have a user, a port, a query and a
fragment. Other addresses are only told apart by their schemes.

* `Address.ofText` reads an address and `Address.text` writes one. What is written is normal: cases,
  dots, default ports and characters that need percent notation are settled.
-/

set_option autoImplicit false

namespace ModBuild.Url

/-- An address of the web. -/
structure WebAddress where
  /-- The scheme in lower case. -/
  scheme : String
  /-- The name of a user. -/
  user : String
  /-- The password of a user. -/
  password : String
  /-- Where the address leads. -/
  host : Host
  /-- The port, if it is not the one of the scheme. -/
  port : Option Nat
  /-- The path, which starts with a slash. -/
  path : String
  /-- What is asked for. -/
  query : Option String
  /-- A place within the document. -/
  fragment : Option String
  deriving DecidableEq

/-- The address of a document. -/
inductive Address where
  | web (address : WebAddress)
  | other (scheme rest : String)
  deriving DecidableEq

/-- The port that addresses of a scheme of the web have if they name none. -/
def defaultPort? : String → Option Nat
  | "http" | "ws" => some 80
  | "https" | "wss" => some 443
  | "ftp" => some 21
  | _ => none

/-- The address as text. -/
def WebAddress.text (a : WebAddress) : String :=
  let login :=
    if a.user = "" && a.password = "" then ""
    else if a.password = "" then a.user ++ "@"
    else a.user ++ ":" ++ a.password ++ "@"
  a.scheme ++ "://" ++ login ++ a.host.text ++ a.port.elim "" (fun n => ":" ++ toString n) ++ a.path
    ++ a.query.elim "" ("?" ++ ·) ++ a.fragment.elim "" ("#" ++ ·)

/-- The address without a user. -/
def WebAddress.withoutUser (a : WebAddress) : WebAddress :=
  { a with user := "", password := "" }

/-- The scheme of an address in lower case. -/
def Address.scheme : Address → String
  | web a => a.scheme
  | other scheme _ => scheme

/-- The address as text. -/
def Address.text : Address → String
  | web a => a.text
  | other scheme rest => scheme ++ ":" ++ rest

/-- A text without control characters and spaces at its ends, and without tabs and line ends. -/
def trimmed (s : List Char) : List Char :=
  let trim (l : List Char) := l.dropWhile (·.toNat ≤ 0x20)
  (trim (trim s).reverse).reverse.filter fun c => c ≠ '\t' && c ≠ '\n' && c ≠ '\r'

/-- A text cut behind its scheme. -/
def schemeCut? (s : List Char) : Option (String × List Char) :=
  let isSchemeChar (c : Char) : Bool := c.isAlphanum || c = '+' || c = '-' || c = '.'
  match s.head?, s.dropWhile isSchemeChar with
  | some c, ':' :: rest =>
    if c.isAlpha then
      some (String.ofList ((s.takeWhile isSchemeChar).map Char.toLower), rest)
    else none
  | _, _ => none

/-- The place up to which a text names a user and a host: before a character of a class. -/
def authorityEnd (slash : Char → Bool) (c : Char) : Bool :=
  slash c || c = '?' || c = '#'

/-- Cuts off the user. The text before the last `@` of the part that names user and host is the
user, `none` if there is no `@`. -/
def userCut (slash : Char → Bool) (s : List Char) :
    Except Fault (Option (List Char) × List Char) :=
  let place := s.takeWhile (!authorityEnd slash ·)
  let host := (place.reverse.takeWhile (· ≠ '@')).reverse
  if host.length = place.length then .ok (none, s)
  else
    let user := place.take (place.length - host.length - 1)
    let rest := s.drop (user.length + 1)
    if user = [] && (rest.head?.any (authorityEnd slash)) then .error .emptyHost
    else .ok (some user, rest)

/-- Cuts off the host, which ends at a colon outside square brackets or where its part ends. -/
def hostCut (slash : Char → Bool) : (inside : Bool) → List Char → List Char × List Char
  | _, [] => ([], [])
  | inside, c :: rest =>
    if authorityEnd slash c || (c = ':' && !inside) then ([], c :: rest)
    else
      let (host, after) := hostCut slash (c = '[' || (inside && c ≠ ']')) rest
      (c :: host, after)

/-- Cuts off the port behind a colon. -/
def portCut (s : List Char) : Except Fault (Option Nat × List Char) :=
  let digits := s.takeWhile Text.isDigit
  let rest := s.dropWhile Text.isDigit
  if rest.head?.any (!authorityEnd isSlash ·) then .error .invalidPort
  else if digits = [] then .ok (none, rest)
  else
    match Text.naturalBelow? 65536 digits with
    | some port => .ok (some port, rest)
    | none => .error .invalidPort

/-- The address of the web of a text behind its scheme, where `standard` is the port of the
scheme. -/
def webAddress (scheme : String) (standard : Nat) (s : List Char) : Except Fault WebAddress := do
  let (login, afterUser) ← userCut isSlash (s.dropWhile isSlash)
  let user := (login.getD []).takeWhile (· ≠ ':')
  let password := ((login.getD []).dropWhile (· ≠ ':')).drop 1
  let (host, afterHost) := hostCut isSlash false afterUser
  if host = [] then throw .emptyHost
  let host ← Host.ofText host
  let (port, afterPort) ←
    match afterHost with
    | ':' :: rest => portCut rest
    | _ => pure (none, afterHost)
  let path := afterPort.takeWhile fun c => c ≠ '?' && c ≠ '#'
  let afterPath := afterPort.dropWhile fun c => c ≠ '?' && c ≠ '#'
  let query :=
    match afterPath with
    | '?' :: rest => some (rest.takeWhile (· ≠ '#'))
    | _ => none
  let fragment :=
    match afterPath.dropWhile (· ≠ '#') with
    | _ :: rest => some rest
    | [] => none
  let written (set : List Char) (s : List Char) : String := String.ofList (percentEncode set s)
  return {
    scheme, host
    user := written userSet user
    password := written userSet password
    port := if port = some standard then none else port
    path := pathOf path
    query := query.map (written querySet)
    fragment := fragment.map (written fragmentSet) }

/-- Checks the host of an address of a file, which may be missing or the letter of a drive. -/
def checkFileHost (s : List Char) : Except Fault Unit :=
  match s with
  | a :: b :: rest =>
    let host := rest.takeWhile (!authorityEnd isSlash ·)
    if isSlash a && isSlash b && host ≠ [] && !isDrive host then (Host.ofText host).map fun _ => ()
    else .ok ()
  | _ => .ok ()

/-- Checks the host of an address of a scheme that is unknown. -/
def checkOtherHost (s : List Char) : Except Fault Unit :=
  match s with
  | '/' :: '/' :: rest => do
    let (login, afterUser) ← userCut (· = '/') rest
    let (host, afterHost) := hostCut (· = '/') false afterUser
    if let some fault := opaqueFault? host then throw fault
    let login := login.getD []
    if host = [] && (afterHost.head? = some ':' || (login ≠ [] && login ≠ [':'])) then
      throw .emptyHost
    match afterHost with
    | ':' :: rest => (portCut rest).map fun _ => ()
    | _ => .ok ()
  | _ => .ok ()

/-- The address that a text gives. -/
def Address.ofText (text : String) : Except Fault Address :=
  match schemeCut? (trimmed text.toList) with
  | none => .error .relative
  | some (scheme, rest) =>
    match defaultPort? scheme with
    | some standard => (webAddress scheme standard rest).map .web
    | none => do
      if scheme = "file" then checkFileHost rest else checkOtherHost rest
      return .other scheme (String.ofList rest)

end ModBuild.Url
