import RunWatch.Client
import RunWatch.Text.Base64
set_option autoImplicit false

namespace RunWatch

namespace Http

structure Message where
  method : String
  url : Url
  headers : List (String × String)
  body : Option String
  deriving DecidableEq, Repr

def lineEnd : String := "\r\n"

def Message.text (m : Message) : String :=
  m.method ++ " " ++ m.url.target ++ " HTTP/1.1" ++ lineEnd ++
    String.join ((("host", m.url.authority) :: m.headers).map fun (name, value) =>
      name ++ ": " ++ value ++ lineEnd) ++
    lineEnd ++ m.body.getD ""

end Http

namespace Call

def authorization (name : String) (password : Option String) : String :=
  "Basic " ++ String.ofList
    (Text.Base64.encode (name ++ ":" ++ password.getD "").toUTF8.data.toList)

/-- The request of a call. A start carries an empty document and the key. -/
def message (call : Call) (c : ClientSettings) (key : String) : Except Failure Http.Message :=
  (call.address c).map fun (url, credentials) =>
    let common := [("accept", "*/*"), ("user-agent", c.userAgent), ("connection", "close")] ++
      (c.cookie.map fun cookie => ("cookie", cookie)).toList ++
      (credentials.map fun (name, password) =>
        ("authorization", authorization name password)).toList
    match call with
    | .list _ => { method := "GET", url, headers := common, body := none }
    | .trigger =>
      let body := "\x7b\x7d"
      { method := "POST", url
        headers := common ++ [("idempotency-key", key), ("content-type", "application/json"),
          ("content-length", toString body.utf8ByteSize)]
        body := some body }

def keyText (bytes : ByteArray) : String :=
  String.ofList (bytes.data.toList.flatMap fun b =>
    [Text.hexDigit (b.toNat / 16), Text.hexDigit (b.toNat % 16)])

end Call

end RunWatch
