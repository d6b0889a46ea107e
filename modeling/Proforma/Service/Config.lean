import Proforma.Failure
import Proforma.NameMap

/-!
# Client settings

Where the service is, how long a call may take, which headers identify the caller, what the
service offers and when offline data may stand in for it. Settings are made one after another;
the last one of a kind counts.
-/

namespace Proforma

/-! ## Paths -/

/-- Where studies are run. -/
def studyPath : String := "/api/v1/finance/feasibility"

/-- Where scenarios are listed. -/
def scenariosPath : String := "/api/v1/finance/scenarios"

/-- Where exports are fetched. -/
def exportPath : String := "/api/v1/finance/export"

/-- Where one stored scenario is. -/
def scenarioPath (id : Int64) : String :=
  scenariosPath ++ "/" ++ toString id.toInt

/-- Where the loan terms of a stored scenario are. -/
def constructionLoanPath (id : Int64) : String :=
  scenarioPath id ++ "/construction-loan"

/-- Where the sensitivity analysis of a stored scenario is. -/
def sensitivityPath (id : Int64) : String :=
  scenarioPath id ++ "/sensitivity"

/-! ## Settings -/

/-- When reading may be answered with offline data. -/
structure FallbackPolicy where
  /-- Without it every failure reaches the caller. -/
  enabled : Bool
  /-- Whether a timeout counts for a single study. For the list it always does. -/
  onStudyTimeout : Bool
  deriving DecidableEq

namespace FallbackPolicy

/-- Offline data stands in, but not for a timeout of a single study. -/
def default : FallbackPolicy := ⟨true, false⟩

/-- Offline data never stands in. -/
def disabled : FallbackPolicy := ⟨false, false⟩

end FallbackPolicy

/-- Which optional endpoints the service has. -/
structure Endpoints where
  constructionLoan : Bool
  sensitivity : Bool
  exports : Bool
  deriving DecidableEq

/-- A service that lacks nothing. -/
def Endpoints.all : Endpoints := ⟨true, true, true⟩

/-- Whether a group is among the endpoints. -/
def Endpoints.has (e : Endpoints) : EndpointGroup → Bool
  | .constructionLoan => e.constructionLoan
  | .sensitivity => e.sensitivity
  | .exports => e.exports

/-- The header names and values of the caller. -/
abbrev IdentityHeaders := NameMap String

/-- The longest time that can be set: whole seconds in a word of 64 bits, and the last fraction. -/
def longestTime : Nat := 2 ^ 64 * 1000000 - 1

/-- The settings of a client. Time is in microseconds. -/
structure Config where
  baseUrl : String
  /-- How long a call may take, at most `longestTime`. -/
  timeout : Nat
  identity : IdentityHeaders
  fallback : FallbackPolicy
  endpoints : Endpoints
  deriving DecidableEq

/-- The settings when none is made: a local service and two and a half seconds for a call. -/
def Config.default : Config :=
  { baseUrl := "http://localhost:8000"
    timeout := 2500000
    identity := []
    fallback := .default
    endpoints := .all }

/-! ## Making settings -/

/-- One setting. -/
inductive ClientSetting where
  | baseUrl (url : String)
  | timeout (limit : Nat)
  | identityHeader (name value : String)
  | fallback (policy : FallbackPolicy)
  | endpoints (endpoints : Endpoints)
  /-- Both of the last two at once. -/
  | capabilities (policy : FallbackPolicy) (endpoints : Endpoints)
  /-- Another way to reach the service than over HTTP. -/
  | customTransport
  deriving DecidableEq

/-- Settings made so far. -/
structure Draft where
  config : Config
  hasCustomTransport : Bool
  deriving DecidableEq

namespace Draft

/-- No setting made. -/
def empty : Draft := ⟨.default, false⟩

/-- The draft after one more setting. -/
def apply (d : Draft) : ClientSetting → Draft
  | .baseUrl url => { d with config := { d.config with baseUrl := url } }
  | .timeout limit => { d with config := { d.config with timeout := limit } }
  | .identityHeader name value =>
    { d with config := { d.config with identity := d.config.identity.insert name value } }
  | .fallback policy => { d with config := { d.config with fallback := policy } }
  | .endpoints endpoints => { d with config := { d.config with endpoints := endpoints } }
  | .capabilities policy endpoints =>
    { d with config := { d.config with fallback := policy, endpoints := endpoints } }
  | .customTransport => { d with hasCustomTransport := true }

/-- The draft after settings in order. -/
def ofSettings (settings : List ClientSetting) : Draft :=
  settings.foldl apply empty

end Draft

end Proforma
