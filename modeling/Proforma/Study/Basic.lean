import Proforma.Study.ProjectRef
import Proforma.Study.Terms

/-!
# Studies

What a caller asks for: the feasibility study of one proposal for a project, the scenarios of a
project, or a change to a scenario. Amounts, rates and periods are texts that the service
interprets.
-/

namespace Proforma

/-- A cost and the index by which it is escalated. -/
structure CostEscalation where
  amount : String
  basePeriod : String
  seriesName : String
  jurisdiction : String
  provider : Option String
  deriving DecidableEq

/-- The cash flows that are discounted, with the rate. -/
structure CashFlow where
  discountRate : String
  cashFlows : List String
  deriving DecidableEq

/-- The figures from which the cover of debt service is computed. -/
structure DebtCover where
  netOperatingIncomes : List String
  debtServices : List String
  periodLabels : List String
  deriving DecidableEq

/-- Whether there are no figures, labels aside. -/
def DebtCover.isEmpty (d : DebtCover) : Bool :=
  d.netOperatingIncomes.isEmpty && d.debtServices.isEmpty

/-- One source of funds. -/
structure FundingSource where
  name : String
  sourceType : String
  amount : String
  rate : Option String
  trancheOrder : Option Int64
  metadata : Option Json
  deriving DecidableEq

/-- The draws planned for one period. -/
structure PlannedDraw where
  period : String
  equityDraw : String
  debtDraw : String
  deriving DecidableEq

/-- One use of the building. -/
structure AssetShare where
  assetType : String
  allocationPct : String
  niaSqm : Option String
  rentPsmMonth : Option String
  stabilisedVacancyPct : Option String
  opexPctOfRent : Option String
  estimatedRevenue : Option String
  estimatedCapex : Option String
  absorptionMonths : Option String
  riskLevel : Option String
  notes : List String
  deriving DecidableEq

/-- What is to be studied. -/
structure Proposal where
  name : String
  description : Option String
  currency : String
  isPrimary : Option Bool
  costEscalation : CostEscalation
  cashFlow : CashFlow
  dscr : Option DebtCover
  capitalStack : List FundingSource
  drawdownSchedule : List PlannedDraw
  assetMix : List AssetShare
  constructionLoan : Option ConstructionLoan
  sensitivityBands : List SensitivityBand
  deriving DecidableEq

/-- The study of a proposal for a project. -/
structure Study where
  projectId : ProjectRef
  projectName : Option String
  finProjectId : Option Int64
  scenario : Proposal
  deriving DecidableEq

/-- Which scenarios to list. Currency and name shape offline scenarios only and are not sent. -/
structure ListQuery where
  projectId : Option ProjectRef
  finProjectId : Option Int64
  currency : Option String
  scenarioName : Option String
  deriving DecidableEq

/-- The scenarios of one project. -/
def ListQuery.forProject (id : Int64) : ListQuery :=
  ⟨some (.ofInt64 id), none, none, none⟩

/-- A change to a scenario; what is absent stays as it is. -/
structure ScenarioEdit where
  scenarioName : Option String
  description : Option String
  isPrimary : Option Bool
  deriving DecidableEq

end Proforma
