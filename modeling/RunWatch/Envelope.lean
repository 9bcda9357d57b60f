import RunWatch.Failure
import RunWatch.Json.Reader
import RunWatch.Run
set_option autoImplicit false

namespace RunWatch

structure Response where
  status : Nat
  requestId : Option String
  body : ByteArray

namespace Response

def isSuccess (r : Response) : Bool := 200 ≤ r.status && r.status < 300

/-- The identifier of the request, from a parsed body or from the header. -/
def requestIdOf (parsed : Option Json) (header : Option String) : Option String :=
  (((parsed.bind (Json.member? "meta")).bind (Json.member? "request_id")).bind Json.string?).or
    header

/-- The payload of a body: the value under `data` when there is one, even null. -/
def payload (body : Json) : Json := (body.member? "data").getD body

def decodeParsed {α : Type} (shape : Json.Shape α) (r : Response) (parsed : Option Json) :
    Except Failure α :=
  if r.isSuccess then
    match parsed with
    | none => .error (.transport "Response body is not valid JSON.")
    | some body =>
      match shape (payload body) with
      | .ok a => .ok a
      | .error e => .error (.transport ("Unexpected response shape: " ++ e.message))
  else .error (.ofBody r.status parsed (requestIdOf parsed r.requestId))

def decode {α : Type} (shape : Json.Shape α) (r : Response) : Except Failure α :=
  r.decodeParsed shape (Json.ofBytes? r.body)

def listing (r : Response) : Except Failure Listing := r.decode Listing.shape.read

def started (r : Response) : Except Failure Started := r.decode Started.shape.read

end Response

end RunWatch
