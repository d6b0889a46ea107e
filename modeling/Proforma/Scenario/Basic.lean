import Proforma.Study.ProjectRef
import Proforma.Study.Terms
import Proforma.Text.Ascii

/-!
# Scenarios

The result of a study: the figures of one scenario with their breakdowns. Figures are texts as
the service writes them. A scenario that the service has stored has a positive identifier;
results that are not stored, offline ones among them, do not.
-/

namespace Proforma

/-- One reading of a cost index. -/
structure IndexPoint where
  period : Option String
  value : Option String
  unit : Option String
  source : Option String
  provider : Option String
  currency : Option String
  deriving DecidableEq

/-- The index by which the cost was escalated. -/
structure CostIndex where
  seriesName : Option String
  jurisdiction : Option String
  provider : Option String
  basePeriod : Option String
  latestPeriod : Option String
  scalar : Option String
  baseIndex : Option IndexPoint
  latestIndex : Option IndexPoint
  deriving DecidableEq

/-- A named figure such as a net present value. -/
structure Metric where
  name : String
  value : Option String
  unit : Option String
  metadata : Json
  deriving DecidableEq

/-- Debt service cover in one period. -/
structure CoverEntry where
  period : String
  noi : Option String
  debtService : Option String
  dscr : Option String
  currency : Option String
  deriving DecidableEq

/-- One tranche of the capital stack. -/
structure StackSlice where
  name : String
  sourceType : Option String
  category : String
  amount : String
  share : Option String
  rate : Option String
  trancheOrder : Option Int64
  metadata : Json
  deriving DecidableEq

/-- How the cost is funded. -/
structure CapitalStack where
  currency : Option String
  total : String
  equityTotal : String
  debtTotal : String
  otherTotal : String
  equityRatio : Option String
  debtRatio : Option String
  otherRatio : Option String
  loanToCost : Option String
  weightedAverageDebtRate : Option String
  slices : List StackSlice
  deriving DecidableEq

/-- The draws of one period. -/
structure DrawEntry where
  period : String
  equityDraw : String
  debtDraw : String
  totalDraw : String
  cumulativeEquity : String
  cumulativeDebt : String
  outstandingDebt : String
  deriving DecidableEq

/-- When the funds are drawn, period by period. -/
structure DrawSchedule where
  currency : Option String
  entries : List DrawEntry
  totalEquity : Option String
  totalDebt : Option String
  peakDebtBalance : Option String
  finalDebtBalance : Option String
  deriving DecidableEq

/-- All uses of the building together. -/
structure AssetMix where
  totalProgrammeGfaSqm : Option String
  totalEstimatedRevenue : Option String
  totalEstimatedCapex : Option String
  dominantRiskProfile : Option String
  notes : List String
  deriving DecidableEq

/-- The figures of one use of the building. -/
structure AssetLine where
  assetType : String
  allocationPct : Option String
  niaSqm : Option String
  rentPsmMonth : Option String
  grossRevenue : Option String
  operatingCost : Option String
  noi : Option String
  estimatedCapex : Option String
  paybackYears : Option String
  absorptionMonths : Option String
  riskLevel : Option String
  notes : List String
  deriving DecidableEq

/-- Interest and fees of one facility. -/
structure FacilityInterest where
  name : String
  amount : Option String
  interestRate : Option String
  periodsPerYear : Option Int64
  capitalised : Bool
  totalInterest : Option String
  upfrontFee : Option String
  exitFee : Option String
  deriving DecidableEq

/-- Interest of one period. -/
structure InterestEntry where
  period : String
  openingBalance : Option String
  closingBalance : Option String
  averageBalance : Option String
  interest : Option String
  deriving DecidableEq

/-- Interest and fees of the construction loan. -/
structure LoanInterest where
  currency : Option String
  interestRate : Option String
  periodsPerYear : Option Int64
  capitalised : Bool
  totalInterest : Option String
  upfrontFeeTotal : Option String
  exitFeeTotal : Option String
  facilities : List FacilityInterest
  entries : List InterestEntry
  deriving DecidableEq

/-- One row of a sensitivity analysis. -/
structure SensitivityOutcome where
  parameter : String
  scenario : String
  deltaLabel : Option String
  deltaValue : Option String
  npv : Option String
  irr : Option String
  escalatedCost : Option String
  totalInterest : Option String
  deriving DecidableEq

/-- A sensitivity analysis that runs elsewhere. -/
structure SensitivityJob where
  scenarioId : Option Int64
  taskId : Option String
  status : String
  backend : Option String
  queuedAt : Option String
  deriving DecidableEq

/-- One scenario with all its parts. -/
structure Scenario where
  scenarioId : Int64
  projectId : ProjectKey
  finProjectId : Option ProjectKey
  scenarioName : String
  description : Option String
  currency : String
  escalatedCost : Option String
  costIndex : Option CostIndex
  results : List Metric
  dscrTimeline : List CoverEntry
  capitalStack : Option CapitalStack
  drawdownSchedule : Option DrawSchedule
  assetMixSummary : Option AssetMix
  assetBreakdowns : List AssetLine
  constructionLoan : Option ConstructionLoan
  constructionLoanInterest : Option LoanInterest
  sensitivityResults : List SensitivityOutcome
  sensitivityJobs : List SensitivityJob
  sensitivityBands : List SensitivityBand
  isPrimary : Bool
  isPrivate : Bool
  updatedAt : Option String
  deriving DecidableEq

namespace Scenario

/-- Whether the service has stored the scenario. Only then may it be changed there. -/
def isPersisted (s : Scenario) : Bool :=
  0 < s.scenarioId

/-- The first figure of that name, in any case of ASCII letters. -/
def result? (s : Scenario) (name : String) : Option Metric :=
  s.results.find? (Text.sameIgnoringCase ·.name name)

end Scenario

end Proforma
