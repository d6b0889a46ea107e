import Proforma.Service.Config
import Proforma.Text.Ascii
import Proforma.Text.Utf8

/-!
# Identity headers

Which names and values an HTTP header may have, and the headers that every request carries.
-/

namespace Proforma

/-- The characters of a token: ASCII letters and digits and some signs. -/
def isTokenChar (c : Char) : Bool :=
  c.isAlphanum || "!#$%&'*+-.^_\x60|~".toList.contains c

/-- A header name is a token of at most 65535 characters. -/
def isHeaderName (name : String) : Bool :=
  let cs := name.toList
  !cs.isEmpty && cs.length ≤ 65535 && cs.all isTokenChar

/-- The bytes that a header value must not have: controls other than the tab. -/
def isHeaderControl (b : UInt8) : Bool :=
  (b < 0x20 && b != 0x09) || b == 0x7F

/-- A header value has any bytes but controls. -/
def isHeaderValue (value : String) : Bool :=
  !(Text.Utf8.encode value).any isHeaderControl

/-- Sets a header of a request; a name in any case replaces the one there is. -/
def setHeader (name value : String) (headers : List (String × String)) : List (String × String) :=
  headers.filter (·.1 ≠ name) ++ [(name, value)]

/-- The headers of the caller, names in small letters. They are checked in the order of the
names, each name before its value. -/
def checkedHeaders : IdentityHeaders → Except Refusal (List (String × String)) :=
  List.foldlM
    (fun headers (name, value) =>
      if !isHeaderName name then .error (.headerName name)
      else if !isHeaderValue value then .error (.headerValue (Text.lower name))
      else .ok (setHeader (Text.lower name) value headers))
    []

/-- The settings of the client, once its headers have been checked. With a transport of the
caller's own the headers are not looked at. -/
def Draft.build (d : Draft) : Except Refusal Config :=
  if d.hasCustomTransport then .ok d.config
  else (checkedHeaders d.config.identity).map fun _ => d.config

end Proforma
