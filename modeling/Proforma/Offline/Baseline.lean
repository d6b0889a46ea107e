import Proforma.Scenario.Basic

/-!
# The offline baseline

The fixed scenario from which every offline scenario is made. Its figures agree with each other:
the stack's totals are the sums of its slices, the schedule draws exactly the equity and the debt
of the stack, and the period interest sums to the interest of the loan.
-/

namespace Proforma.Offline

/-- The currency of the baseline. -/
def baselineCurrency : String := "SGD"

/-- Metadata that says only the currency. -/
def currencyMetadata : Json :=
  .ofFields [("currency", .string baselineCurrency)]

/-- A reading of the baseline's cost index. -/
def indexPoint (period value : String) : IndexPoint :=
  { period := period
    value := value
    unit := "index"
    source := "offline"
    provider := "internal"
    currency := baselineCurrency }

/-- A period of the baseline's cover of debt service. -/
def coverEntry (period noi debtService dscr : String) : CoverEntry :=
  { period := period
    noi := noi
    debtService := debtService
    dscr := dscr
    currency := baselineCurrency }

/-- A period in which all funds come from one source. -/
def drawEntry (period equity debt cumulativeEquity cumulativeDebt outstanding : String) :
    DrawEntry :=
  { period := period
    equityDraw := equity
    debtDraw := debt
    totalDraw := if equity = "0.00" then debt else equity
    cumulativeEquity := cumulativeEquity
    cumulativeDebt := cumulativeDebt
    outstandingDebt := outstanding }

def costIndex : CostIndex :=
  { seriesName := "construction_all_in"
    jurisdiction := "SG"
    provider := "internal"
    basePeriod := "2024-Q1"
    latestPeriod := "2025-Q1"
    scalar := "1.0425"
    baseIndex := indexPoint "2024-Q1" "100.00"
    latestIndex := indexPoint "2025-Q1" "104.25" }

def results : List Metric :=
  [{ name := "escalated_cost"
     value := "38950000.00"
     unit := baselineCurrency
     metadata := currencyMetadata },
   { name := "npv"
     value := "2450000.00"
     unit := baselineCurrency
     metadata := .ofFields
       [("currency", .string baselineCurrency), ("discount_rate", .string "0.08")] },
   { name := "irr"
     value := "0.1125"
     unit := "ratio"
     metadata := .object [] }]

def capitalStack : CapitalStack :=
  { currency := baselineCurrency
    total := "38950000.00"
    equityTotal := "13632500.00"
    debtTotal := "25317500.00"
    otherTotal := "0.00"
    equityRatio := "0.3500"
    debtRatio := "0.6500"
    otherRatio := "0.0000"
    loanToCost := "0.6500"
    weightedAverageDebtRate := "0.0450"
    slices :=
      [{ name := "Sponsor Equity"
         sourceType := "equity"
         category := "equity"
         amount := "13632500.00"
         share := "0.3500"
         rate := none
         trancheOrder := some 0
         metadata := currencyMetadata },
       { name := "Senior Construction Loan"
         sourceType := "bank_loan"
         category := "debt"
         amount := "25317500.00"
         share := "0.6500"
         rate := "0.0450"
         trancheOrder := some 1
         metadata := currencyMetadata }] }

def drawSchedule : DrawSchedule :=
  { currency := baselineCurrency
    entries :=
      [drawEntry "M1" "6816250.00" "0.00" "6816250.00" "0.00" "0.00",
       drawEntry "M2" "6816250.00" "0.00" "13632500.00" "0.00" "0.00",
       drawEntry "M3" "0.00" "12658750.00" "13632500.00" "12658750.00" "12658750.00",
       drawEntry "M4" "0.00" "12658750.00" "13632500.00" "25317500.00" "25317500.00"]
    totalEquity := "13632500.00"
    totalDebt := "25317500.00"
    peakDebtBalance := "25317500.00"
    finalDebtBalance := "25317500.00" }

def assetMix : AssetMix :=
  { totalProgrammeGfaSqm := "12000.00"
    totalEstimatedRevenue := "5400000.00"
    totalEstimatedCapex := "38950000.00"
    dominantRiskProfile := "balanced"
    notes := ["Offline estimate; refresh when the service is reachable"] }

def assetLines : List AssetLine :=
  [{ assetType := "residential"
     allocationPct := "0.60"
     niaSqm := "7200.00"
     rentPsmMonth := "45.00"
     grossRevenue := "3888000.00"
     operatingCost := "777600.00"
     noi := "3110400.00"
     estimatedCapex := "23370000.00"
     paybackYears := "7.51"
     absorptionMonths := "18"
     riskLevel := "moderate"
     notes := [] },
   { assetType := "retail"
     allocationPct := "0.40"
     niaSqm := "2800.00"
     rentPsmMonth := "45.00"
     grossRevenue := "1512000.00"
     operatingCost := "362880.00"
     noi := "1149120.00"
     estimatedCapex := "15580000.00"
     paybackYears := "13.56"
     absorptionMonths := "12"
     riskLevel := "balanced"
     notes := [] }]

def loanInterest : LoanInterest :=
  { currency := baselineCurrency
    interestRate := "0.0450"
    periodsPerYear := some 12
    capitalised := true
    totalInterest := "1139287.50"
    upfrontFeeTotal := "0.00"
    exitFeeTotal := "0.00"
    facilities :=
      [{ name := "Senior Construction Loan"
         amount := "25317500.00"
         interestRate := "0.0450"
         periodsPerYear := some 12
         capitalised := true
         totalInterest := "1139287.50"
         upfrontFee := "0.00"
         exitFee := "0.00" }]
    entries :=
      [{ period := "M3"
         openingBalance := "0.00"
         closingBalance := "12658750.00"
         averageBalance := "6329375.00"
         interest := "284821.88" },
       { period := "M4"
         openingBalance := "12658750.00"
         closingBalance := "25317500.00"
         averageBalance := "18988125.00"
         interest := "854465.62" }] }

/-- The baseline scenario. -/
def baseline : Scenario :=
  { scenarioId := 0
    projectId := .number 0
    finProjectId := none
    scenarioName := "Offline Baseline Scenario"
    description := "Generated offline while the finance service was unreachable"
    currency := baselineCurrency
    escalatedCost := "38950000.00"
    costIndex := costIndex
    results := results
    dscrTimeline :=
      [coverEntry "Y1" "2100000.00" "1680000.00" "1.25",
       coverEntry "Y2" "2268000.00" "1680000.00" "1.35",
       coverEntry "Y3" "2352000.00" "1680000.00" "1.40",
       coverEntry "Y4" "2436000.00" "1680000.00" "1.45"]
    capitalStack := capitalStack
    drawdownSchedule := drawSchedule
    assetMixSummary := assetMix
    assetBreakdowns := assetLines
    constructionLoan := none
    constructionLoanInterest := loanInterest
    sensitivityResults := []
    sensitivityJobs := []
    sensitivityBands := []
    isPrimary := false
    isPrivate := false
    updatedAt := "2025-01-01T00:00:00Z" }

end Proforma.Offline
