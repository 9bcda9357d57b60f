import RunWatch.Failure
import RunWatch.Settings
import RunWatch.Url.Reader
set_option autoImplicit false

namespace RunWatch

inductive Call where
  | list (limit : UInt64)
  /-- Starts a manual check, under a key that makes the start count once. -/
  | trigger
  deriving DecidableEq, Repr

namespace Failure

/-- There is no place to send to; the address is told if the text is one. -/
def unaddressed (address : Option String) : Failure :=
  .transport ("Request failed: builder error" ++
    address.elim "" fun a => " for url (" ++ a ++ ")")

def unreachable (address : String) : Failure :=
  .transport ("Request connection failed: error sending request for url (" ++ address ++ ")")

def timedOut (address : String) : Failure :=
  .transport ("Request timed out: error sending request for url (" ++ address ++ ")")

def interrupted (address : String) : Failure :=
  .transport ("Request failed: error sending request for url (" ++ address ++ ")")

def cutShort : Failure := .transport "Request failed: error decoding response body"

end Failure

namespace ClientSettings

def base (c : ClientSettings) : String :=
  String.ofList ((c.baseUrl.toList.reverse.dropWhile (· = '/')).reverse)

def endpoint (c : ClientSettings) (path : String) : String := c.base ++ "/api/v1" ++ path

/-- A value that a header can carry: no control characters other than the tab. -/
def isHeaderValue (s : String) : Bool :=
  s.toList.all fun c => c == '\t' || (0x20 ≤ c.toNat && c.toNat ≠ 0x7F)

def check (c : ClientSettings) : Except Fault Unit :=
  if (c.cookie.map isHeaderValue).getD true then .ok ()
  else .error { account := "cookie is not a valid header value"
                causes := ["failed to parse header value"] }

end ClientSettings

namespace Call

def path : Call → String
  | .list _ => "/runs"
  | .trigger => "/runs/manual"

def longestAddress : Nat := 65534

def canBeNamed (u : Url) : Bool :=
  u.text.utf8ByteSize ≤ longestAddress &&
    (u.host.elim "" Url.Host.text).toList.all fun c => !(['"', '`', '\x7b', '\x7d'].contains c)

/-- Takes the credentials out of an address, if there is a text for them: for the name, and for the
password when there is no name. -/
def takeCredentials (u : Url) : Url × Option (String × Option String) :=
  let decode (s : String) := (Url.Percent.decodeText? s.toList).map String.ofList
  match u.credentials.bind fun c => (decode c.username).map fun name => (name, c.password) with
  | none => (u, none)
  | some (name, password) =>
    let password := password.bind decode
    if name = "" ∧ password.isNone then (u, none)
    else ({ u with credentials := none }, some (name, password))

/-- The address of a call, which must name a host and a scheme of the web, and the credentials that
it was given with. -/
def address (call : Call) (c : ClientSettings) :
    Except Failure (Url × Option (String × Option String)) :=
  match Url.read? (c.endpoint call.path) with
  | none => .error (.unaddressed none)
  | some u =>
    if !u.hasHost then .error (.unaddressed (some u.text))
    else
      let (u, credentials) := takeCredentials u
      let u :=
        match call with
        | .list limit => u.addQuery "limit" (toString limit.toNat)
        | .trigger => u
      if (u.scheme = "http" ∨ u.scheme = "https") ∧ canBeNamed u then .ok (u, credentials)
      else .error (.unaddressed (some u.text))

def unreachable (call : Call) (c : ClientSettings) : Failure :=
  match call.address c with
  | .ok (u, _) => .unreachable u.text
  | .error f => f

end Call

end RunWatch
