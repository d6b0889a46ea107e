import Proforma.Json.Field
import Proforma.Scenario.Basic

/-!
# Scenarios in replies

What a reply of the service says about a scenario. The service may leave out any part, and older
ones send parts of other shapes; a part that cannot be used is absent and never spoils the rest.
In lists an item is dropped if it is no object, and where items are known by a name also if the
name is absent.
-/

namespace Proforma

open Json

/-! ## Sections -/

def IndexPoint.ofReply (o : Object) : IndexPoint :=
  { period := o.text? "period"
    value := o.decimal? "value"
    unit := o.text? "unit"
    source := o.text? "source"
    provider := o.text? "provider"
    currency := o.text? "currency" }

def CostIndex.ofReply (o : Object) : CostIndex :=
  { seriesName := o.text? "series_name"
    jurisdiction := o.text? "jurisdiction"
    provider := o.text? "provider"
    basePeriod := o.text? "base_period"
    latestPeriod := o.text? "latest_period"
    scalar := o.decimal? "scalar"
    baseIndex := o.section? "base_index" IndexPoint.ofReply
    latestIndex := o.section? "latest_index" IndexPoint.ofReply }

def Metric.ofReply? (o : Object) : Option Metric :=
  (o.text? "name").map fun name =>
    { name
      value := o.decimal? "value"
      unit := o.text? "unit"
      metadata := o.metadata "metadata" }

def CoverEntry.ofReply (o : Object) : CoverEntry :=
  { period := o.text "period"
    noi := o.decimal? "noi"
    debtService := o.decimal? "debt_service"
    dscr := o.decimal? "dscr"
    currency := o.text? "currency" }

def StackSlice.ofReply (o : Object) : StackSlice :=
  { name := o.text "name"
    sourceType := o.text? "source_type"
    category := o.text "category"
    amount := o.decimal "amount"
    share := o.decimal? "share"
    rate := o.decimal? "rate"
    trancheOrder := o.integer? "tranche_order"
    metadata := o.metadata "metadata" }

def CapitalStack.ofReply (o : Object) : CapitalStack :=
  { currency := o.text? "currency"
    total := o.decimal "total"
    equityTotal := o.decimal "equity_total"
    debtTotal := o.decimal "debt_total"
    otherTotal := o.decimal "other_total"
    equityRatio := o.decimal? "equity_ratio"
    debtRatio := o.decimal? "debt_ratio"
    otherRatio := o.decimal? "other_ratio"
    loanToCost := o.decimal? "loan_to_cost"
    weightedAverageDebtRate := o.decimal? "weighted_average_debt_rate"
    slices := (o.objects "slices").map StackSlice.ofReply }

def DrawEntry.ofReply (o : Object) : DrawEntry :=
  { period := o.text "period"
    equityDraw := o.decimal "equity_draw"
    debtDraw := o.decimal "debt_draw"
    totalDraw := o.decimal "total_draw"
    cumulativeEquity := o.decimal "cumulative_equity"
    cumulativeDebt := o.decimal "cumulative_debt"
    outstandingDebt := o.decimal "outstanding_debt" }

def DrawSchedule.ofReply (o : Object) : DrawSchedule :=
  { currency := o.text? "currency"
    entries := (o.objects "entries").map DrawEntry.ofReply
    totalEquity := o.decimal? "total_equity"
    totalDebt := o.decimal? "total_debt"
    peakDebtBalance := o.decimal? "peak_debt_balance"
    finalDebtBalance := o.decimal? "final_debt_balance" }

def AssetMix.ofReply (o : Object) : AssetMix :=
  { totalProgrammeGfaSqm := o.decimal? "total_programme_gfa_sqm"
    totalEstimatedRevenue := o.decimal? "total_estimated_revenue"
    totalEstimatedCapex := o.decimal? "total_estimated_capex"
    dominantRiskProfile := o.text? "dominant_risk_profile"
    notes := o.texts "notes" }

def AssetLine.ofReply? (o : Object) : Option AssetLine :=
  (o.text? "asset_type").map fun assetType =>
    { assetType
      allocationPct := o.decimal? "allocation_pct"
      niaSqm := o.decimal? "nia_sqm"
      rentPsmMonth := o.decimal? "rent_psm_month"
      grossRevenue := o.decimal? "gross_revenue"
      operatingCost := o.decimal? "operating_cost"
      noi := o.decimal? "noi"
      estimatedCapex := o.decimal? "estimated_capex"
      paybackYears := o.decimal? "payback_years"
      absorptionMonths := o.decimal? "absorption_months"
      riskLevel := o.text? "risk_level"
      notes := o.texts "notes" }

def FacilityInterest.ofReply (o : Object) : FacilityInterest :=
  { name := o.text "name"
    amount := o.decimal? "amount"
    interestRate := o.decimal? "interest_rate"
    periodsPerYear := o.integer? "periods_per_year"
    capitalised := o.flag "capitalised"
    totalInterest := o.decimal? "total_interest"
    upfrontFee := o.decimal? "upfront_fee"
    exitFee := o.decimal? "exit_fee" }

def InterestEntry.ofReply (o : Object) : InterestEntry :=
  { period := o.text "period"
    openingBalance := o.decimal? "opening_balance"
    closingBalance := o.decimal? "closing_balance"
    averageBalance := o.decimal? "average_balance"
    interest := o.decimal? "interest" }

def LoanInterest.ofReply (o : Object) : LoanInterest :=
  { currency := o.text? "currency"
    interestRate := o.decimal? "interest_rate"
    periodsPerYear := o.integer? "periods_per_year"
    capitalised := o.flag "capitalised"
    totalInterest := o.decimal? "total_interest"
    upfrontFeeTotal := o.decimal? "upfront_fee_total"
    exitFeeTotal := o.decimal? "exit_fee_total"
    facilities := (o.objects "facilities").map FacilityInterest.ofReply
    entries := (o.objects "entries").map InterestEntry.ofReply }

/-! ## Sensitivity -/

def SensitivityOutcome.ofReply? (o : Object) : Option SensitivityOutcome :=
  (o.text? "parameter").map fun parameter =>
    { parameter
      scenario := o.text "scenario"
      deltaLabel := o.text? "delta_label"
      deltaValue := o.decimal? "delta_value"
      npv := o.decimal? "npv"
      irr := o.decimal? "irr"
      escalatedCost := o.decimal? "escalated_cost"
      totalInterest := o.decimal? "total_interest" }

def SensitivityJob.ofReply (o : Object) : SensitivityJob :=
  { scenarioId := o.integer? "scenario_id"
    taskId := o.text? "task_id"
    status := (o.text? "status").getD "unknown"
    backend := o.text? "backend"
    queuedAt := o.text? "queued_at" }

def SensitivityBand.ofReply? (o : Object) : Option SensitivityBand :=
  (o.text? "parameter").map fun parameter =>
    { parameter
      low := o.decimal? "low"
      base := o.decimal? "base"
      high := o.decimal? "high"
      notes := o.text? "notes" }

/-! ## The loan -/

def LoanFacility.ofReply (o : Object) : LoanFacility :=
  { name := o.text "name"
    amount := o.decimal? "amount"
    interestRate := o.decimal? "interest_rate"
    periodsPerYear := o.integer? "periods_per_year"
    capitaliseInterest := o.bool? "capitalise_interest"
    upfrontFeePct := o.decimal? "upfront_fee_pct"
    exitFeePct := o.decimal? "exit_fee_pct"
    reserveMonths := o.integer? "reserve_months"
    amortisationMonths := o.integer? "amortisation_months"
    metadata := o.metadata? "metadata" }

def ConstructionLoan.ofReply (o : Object) : ConstructionLoan :=
  { interestRate := o.decimal "interest_rate"
    periodsPerYear := o.integer? "periods_per_year"
    capitaliseInterest := o.flag "capitalise_interest"
    facilities := (o.objects "facilities").map LoanFacility.ofReply }

/-! ## The scenario -/

/-- The scenario of an object. A result that is not stored has no identifier; zero marks it as
such. -/
def Scenario.ofObject (o : Object) : Scenario :=
  { scenarioId := (o.integer? "scenario_id").getD 0
    projectId := ((o.field? "project_id").map ProjectKey.ofJson).getD (.raw .null)
    finProjectId := (o.field? "fin_project_id").map ProjectKey.ofJson
    scenarioName := o.text "scenario_name"
    description := o.text? "description"
    currency := o.text "currency"
    escalatedCost := o.decimal? "escalated_cost"
    costIndex := o.section? "cost_index" CostIndex.ofReply
    results := (o.objects "results").filterMap Metric.ofReply?
    dscrTimeline := (o.objects "dscr_timeline").map CoverEntry.ofReply
    capitalStack := o.section? "capital_stack" CapitalStack.ofReply
    drawdownSchedule := o.section? "drawdown_schedule" DrawSchedule.ofReply
    assetMixSummary := o.section? "asset_mix_summary" AssetMix.ofReply
    assetBreakdowns := (o.objects "asset_breakdowns").filterMap AssetLine.ofReply?
    constructionLoan := o.section? "construction_loan" ConstructionLoan.ofReply
    constructionLoanInterest := o.section? "construction_loan_interest" LoanInterest.ofReply
    sensitivityResults := (o.objects "sensitivity_results").filterMap SensitivityOutcome.ofReply?
    sensitivityJobs := (o.objects "sensitivity_jobs").map SensitivityJob.ofReply
    sensitivityBands := (o.objects "sensitivity_bands").filterMap SensitivityBand.ofReply?
    isPrimary := o.flag "is_primary"
    isPrivate := o.flag "is_private"
    updatedAt := o.text? "updated_at" }

/-- The scenario in a reply. A reply that is no object says nothing. -/
def Scenario.ofReply (j : Json) : Scenario :=
  .ofObject (j.object?.getD [])

/-- The scenarios in a reply that lists them. -/
def Scenario.listOfReply (j : Json) : List Scenario :=
  j.objects.map .ofObject

end Proforma
