import Proforma.Address.Basic
import Proforma.Json.Printer
import Proforma.Service.Exchange
import Proforma.Service.Header

/-!
# Requests over HTTP

The request line, headers and body under which a request goes out. The address of the service is
put in front of the path; if the result is no address, or too long for one, nothing can be sent.
-/

namespace Proforma.Http

/-- A request as it goes out. -/
structure HttpRequest where
  line : String
  /-- Names in small letters. -/
  headers : List (String × String)
  body : Option String

/-- The headers of the caller are added to those of the request, which win. -/
def withIdentity (identity own : List (String × String)) : List (String × String) :=
  own ++ identity.filter fun h => !own.any (·.1 = h.1)

/-- The headers that a request has of its own. -/
def ownHeaders (out : Outgoing) : List (String × String) :=
  if out.body.isSome then [("content-type", "application/json")] else []

/-- The address of the service without slashes at its end. -/
def trimSlashes (url : String) : String :=
  String.ofList (url.toList.reverse.dropWhile (· = '/')).reverse

/-- The largest number of characters in the address of a request. -/
def maxAddressLength : Nat := 65534

/-- The address that a request goes to. -/
def address? (baseUrl : String) (out : Outgoing) : Option Address :=
  ((Address.read? (trimSlashes baseUrl ++ out.path)).map (·.addQuery out.query)).filter
    (·.text.length ≤ maxAddressLength)

/-- The request that goes out, unless there is no address for it. -/
def prepare? (baseUrl : String) (identity : List (String × String)) (out : Outgoing) :
    Option HttpRequest :=
  (address? baseUrl out).map fun address =>
    { line := out.method.name ++ " " ++ String.ofList address.target ++ " HTTP/1.1"
      headers := withIdentity identity (ownHeaders out)
      body := out.body.map (·.text) }

/-- Sends a request by way of `connect`, which answers `none` when nothing answers. -/
def send (connect : HttpRequest → Option Response) (baseUrl : String)
    (identity : List (String × String)) (out : Outgoing) : Reply :=
  match prepare? baseUrl identity out with
  | none => .broken
  | some request =>
    match connect request with
    | some response => .response response
    | none => .unreachable "no answer"

end Proforma.Http
