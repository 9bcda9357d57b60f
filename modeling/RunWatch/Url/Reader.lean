import RunWatch.Url.Basic
set_option autoImplicit false

namespace RunWatch.Url

def isBlankOrControl (c : Char) : Bool := c.toNat ≤ 0x20

def strip (cs : List Char) : List Char :=
  ((cs.dropWhile isBlankOrControl).reverse.dropWhile isBlankOrControl).reverse

def isSchemeChar (c : Char) : Bool := c.isAlphanum || c == '+' || c == '-' || c == '.'

def takeScheme? (cs : List Char) : Option (String × List Char) :=
  match cs.dropWhile (· ≠ ':') with
  | _ :: rest =>
    let name := bare (cs.takeWhile (· ≠ ':'))
    if name.head?.any Char.isAlpha && name.all isSchemeChar then
      some (String.ofList (name.map Char.toLower), rest)
    else none
  | _ => none

def endsAuthority (special : Bool) (c : Char) : Bool :=
  isSlash special c || c == '?' || c == '#'

def splitCredentials (authority : List Char) : Option (List Char) × List Char :=
  let host := (authority.reverse.takeWhile (· ≠ '@')).reverse
  if host.length < authority.length then
    (some (authority.take (authority.length - host.length - 1)), host)
  else (none, host)

/-- A name and a password behind the first colon. An empty password is none, and without both there
are no credentials. -/
def readCredentials? (cs : List Char) : Option Credentials :=
  let encode (cs : List Char) := String.ofList (Percent.encode Percent.userinfo cs)
  let name := cs.takeWhile (· ≠ ':')
  let password := (cs.dropWhile (· ≠ ':')).drop 1
  if name.isEmpty ∧ password.isEmpty then none
  else some ⟨encode name, if password.isEmpty then none else some (encode password)⟩

/-- Divides a host from its port, at the first colon outside of brackets. -/
def splitPort (inBrackets : Bool) : List Char → List Char × Option (List Char)
  | [] => ([], none)
  | ':' :: cs =>
    if inBrackets then
      let (host, port) := splitPort true cs
      (':' :: host, port)
    else ([], some cs)
  | c :: cs =>
    let inside := if c = '[' then true else if c = ']' then false else inBrackets
    let (host, port) := splitPort inside cs
    (c :: host, port)

/-- A port of 16 bits; none when it is empty or goes without saying. -/
def readPort? (kind : SchemeKind) (cs : List Char) : Option (Option Nat) :=
  if cs.isEmpty then some none
  else
    match (Text.natOf? cs).filter (· < 65536) with
    | none => none
    | some n => if kind = .special n then some none else some (some n)

structure Authority where
  credentials : Option Credentials := none
  host : Host
  port : Option Nat := none
  deriving DecidableEq, Repr

/-- The authority of an address. Credentials ask for a host, and so does a lone at-sign with
anything behind the authority; a port asks for one as well. -/
def readAuthority? (kind : SchemeKind) (authority : List Char) (isFollowed : Bool) :
    Option Authority := do
  let (userinfo, cs) := splitCredentials authority
  let credentials := userinfo.bind readCredentials?
  let (name, port) := splitPort false cs
  let host ← if kind.isSpecial then Host.read? name else Host.readOpaque? name
  if name.isEmpty ∧
      (credentials.isSome ∨ port.isSome ∨ (userinfo = some [] ∧ isFollowed)) then none
  else
    match port with
    | none => some { credentials, host }
    | some p => (readPort? kind p).map fun port => { credentials, host, port }

def assemble (scheme : String) (authority : Option Authority) (path : Path)
    (query fragment : Option (List Char)) : Url :=
  let set := if (schemeKind scheme).isSpecial then Percent.specialQuery else Percent.query
  { scheme
    credentials := authority.bind (·.credentials)
    host := authority.map (·.host)
    port := authority.bind (·.port)
    path
    query := query.map fun q => String.ofList (Percent.encode set (bare q))
    fragment := fragment.map fun f => String.ofList (Percent.encode Percent.fragment (bare f)) }

def splitAt (mark : Char) (cs : List Char) : List Char × Option (List Char) :=
  match cs.dropWhile (· ≠ mark) with
  | _ :: rest => (cs.takeWhile (· ≠ mark), some rest)
  | [] => (cs, none)

def splitTail (cs : List Char) : List Char × Option (List Char) × Option (List Char) :=
  let (front, fragment) := splitAt '#' cs
  let (path, query) := splitAt '?' front
  (path, query, fragment)

def afterSlashes? (scheme : String) (cs : List Char) : Option Url := do
  let kind := schemeKind scheme
  let ends := endsAuthority kind.isSpecial
  let rest := cs.dropWhile (!ends ·)
  let authority ← readAuthority? kind (cs.takeWhile (!ends ·)) !rest.isEmpty
  let (path, query, fragment) := splitTail rest
  some (assemble scheme (some authority) (Path.readAfter kind.isSpecial path) query fragment)

def fileAt (host : Host) (cs : List Char) : Url :=
  let (path, query, fragment) := splitTail cs
  let (path, isLocal) := FilePath.read path
  assemble "file" (some { host := if isLocal then .name "" else host }) path query fragment

def dropSlash? (cs : List Char) : Option (List Char) :=
  match cs.dropWhile isPassedOver with
  | c :: rest => if isSlash true c then some rest else none
  | [] => none

/-- The host of a file is this one unless another is named behind two slashes; a drive is no
host. -/
def readFile? (cs : List Char) : Option Url :=
  match (dropSlash? cs).bind dropSlash? with
  | none => some (fileAt (.name "") cs)
  | some rest =>
    let name := bare (rest.takeWhile (!endsAuthority true ·))
    if isDrive name then some (fileAt (.name "") rest)
    else do
      let host ← if name.isEmpty then some (.name "") else Host.read? name
      some (fileAt (if host = .name "localhost" then .name "" else host)
        (rest.dropWhile (!endsAuthority true ·)))

def read? (text : String) : Option Url := do
  let (scheme, rest) ← takeScheme? (strip text.toList)
  match schemeKind scheme with
  | .special _ => afterSlashes? scheme ((bare rest).dropWhile (isSlash true))
  | .file => readFile? rest
  | .other =>
    match bare rest with
    | '/' :: '/' :: cs => afterSlashes? scheme cs
    | '/' :: cs =>
      let (path, query, fragment) := splitTail cs
      some (assemble scheme none (Path.read false path) query fragment)
    | cs =>
      let (path, query, fragment) := splitTail cs
      some (assemble scheme none
        (.plain (String.ofList (Percent.encode Percent.control path))) query fragment)

end RunWatch.Url
