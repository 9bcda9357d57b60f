import RunWatch.Url.Host
import RunWatch.Url.Path
set_option autoImplicit false

namespace RunWatch

namespace Url

inductive SchemeKind where
  | special (port : Nat)
  | file
  | other
  deriving DecidableEq, Repr

def schemeKind (scheme : String) : SchemeKind :=
  if scheme = "http" ∨ scheme = "ws" then .special 80
  else if scheme = "https" ∨ scheme = "wss" then .special 443
  else if scheme = "ftp" then .special 21
  else if scheme = "file" then .file
  else .other

def SchemeKind.isSpecial : SchemeKind → Bool
  | .other => false
  | _ => true

structure Credentials where
  username : String
  password : Option String
  deriving DecidableEq, Repr

def Credentials.text (c : Credentials) : String :=
  c.username ++ c.password.elim "" (":" ++ ·) ++ "@"

end Url

structure Url where
  scheme : String
  credentials : Option Url.Credentials
  /-- None when there is no authority; some schemes allow an empty one. -/
  host : Option Url.Host
  /-- Only a port that does not go without saying. -/
  port : Option Nat
  path : Url.Path
  query : Option String
  fragment : Option String
  deriving DecidableEq, Repr

namespace Url

def hasHost (u : Url) : Bool :=
  match u.host with
  | none => false
  | some h => h.text ≠ ""

def authority (u : Url) : String :=
  u.host.elim "" Host.text ++ u.port.elim "" fun p => ":" ++ toString p

/-- A path that begins with two slashes is kept apart from the scheme by a dot. -/
def pathMark (u : Url) : String :=
  match u.host, u.path with
  | none, .segments ("" :: _ :: _) => "/."
  | _, _ => ""

def target (u : Url) : String := u.path.text ++ u.query.elim "" ("?" ++ ·)

def text (u : Url) : String :=
  let place :=
    if u.host.isSome then "//" ++ u.credentials.elim "" Credentials.text ++ u.authority
    else u.pathMark
  u.scheme ++ ":" ++ place ++ u.target ++ u.fragment.elim "" ("#" ++ ·)

def addQuery (u : Url) (key value : String) : Url :=
  let pair := key ++ "=" ++ value
  { u with query := some (match u.query with
      | none | some "" => pair
      | some q => q ++ "&" ++ pair) }

end Url

end RunWatch
