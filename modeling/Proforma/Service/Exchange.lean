import Proforma.Failure
import Proforma.Json.Reader
import Proforma.Text.Blank

/-!
# Exchanges

What is sent to the service and what comes back. An answer with any status is a response; only
the lack of an answer, or of a way to ask, is a failure at this level.
-/

namespace Proforma

/-- The kinds of request. -/
inductive Method where
  | get
  | post
  | patch
  | delete
  deriving DecidableEq

/-- The name of a method in a request. -/
def Method.name : Method → String
  | .get => "GET"
  | .post => "POST"
  | .patch => "PATCH"
  | .delete => "DELETE"

/-- A request, relative to the address of the service. -/
structure Outgoing where
  method : Method
  path : String
  query : List (String × String)
  body : Option Json
  deriving DecidableEq

/-- An answer of the service. -/
structure Response where
  status : Nat
  body : List UInt8
  deriving DecidableEq

/-- The blanks of ASCII. -/
def isAsciiBlank (b : UInt8) : Bool :=
  b == 0x20 || b == 0x09 || b == 0x0A || b == 0x0C || b == 0x0D

namespace Response

/-- Whether the status reports success. -/
def isSuccess (r : Response) : Bool :=
  200 ≤ r.status && r.status < 300

/-- The body as text. -/
def text (r : Response) : String :=
  Text.Utf8.decodeLossy r.body

/-- The body as JSON. A blank body reads as null. -/
def json? (r : Response) : Option Json :=
  if r.body.all isAsciiBlank then some .null else Json.ofBytes? r.body

/-- What the body says about a failure, or the status if it says nothing. -/
def failureMessage (r : Response) : String :=
  (Text.nonBlank? r.text).getD ("request failed with status " ++ toString r.status)

/-- The response if its status reports success. -/
def checked (r : Response) : Except Failure Response :=
  if r.isSuccess then .ok r else .error (.http r.status r.failureMessage)

end Response

/-- What comes of a request that was sent. -/
inductive Reply where
  | response (r : Response)
  /-- The service never answered. -/
  | unreachable (message : String)
  /-- The request could not be made or the answer not be understood. -/
  | broken
  deriving DecidableEq

/-- The response, or the failure that there is none. -/
def Reply.response? : Reply → Except Failure Response
  | .response r => .ok r
  | .unreachable message => .error (.network message)
  | .broken => .error .transport

end Proforma
