import Proforma.Scenario.Basic

/-!
# Scenario records

A scenario as a JSON record in either spelling, with every field written and null for what is
absent, and its strict reading in the spelling with capitals.
-/

namespace Proforma

open Json

/-! ## Writing -/

def IndexPoint.record (spelling : Spelling) (i : IndexPoint) : Json :=
  Json.record spelling
    [("period", ofOption .string i.period),
     ("value", ofOption .string i.value),
     ("unit", ofOption .string i.unit),
     ("source", ofOption .string i.source),
     ("provider", ofOption .string i.provider),
     ("currency", ofOption .string i.currency)]

def CostIndex.record (spelling : Spelling) (c : CostIndex) : Json :=
  Json.record spelling
    [("series_name", ofOption .string c.seriesName),
     ("jurisdiction", ofOption .string c.jurisdiction),
     ("provider", ofOption .string c.provider),
     ("base_period", ofOption .string c.basePeriod),
     ("latest_period", ofOption .string c.latestPeriod),
     ("scalar", ofOption .string c.scalar),
     ("base_index", ofOption (IndexPoint.record spelling) c.baseIndex),
     ("latest_index", ofOption (IndexPoint.record spelling) c.latestIndex)]

def Metric.record (spelling : Spelling) (m : Metric) : Json :=
  Json.record spelling
    [("name", .string m.name),
     ("value", ofOption .string m.value),
     ("unit", ofOption .string m.unit),
     ("metadata", m.metadata)]

def CoverEntry.record (spelling : Spelling) (c : CoverEntry) : Json :=
  Json.record spelling
    [("period", .string c.period),
     ("noi", ofOption .string c.noi),
     ("debt_service", ofOption .string c.debtService),
     ("dscr", ofOption .string c.dscr),
     ("currency", ofOption .string c.currency)]

def StackSlice.record (spelling : Spelling) (s : StackSlice) : Json :=
  Json.record spelling
    [("name", .string s.name),
     ("source_type", ofOption .string s.sourceType),
     ("category", .string s.category),
     ("amount", .string s.amount),
     ("share", ofOption .string s.share),
     ("rate", ofOption .string s.rate),
     ("tranche_order", ofOption ofInt64 s.trancheOrder),
     ("metadata", s.metadata)]

def CapitalStack.record (spelling : Spelling) (c : CapitalStack) : Json :=
  Json.record spelling
    [("currency", ofOption .string c.currency),
     ("total", .string c.total),
     ("equity_total", .string c.equityTotal),
     ("debt_total", .string c.debtTotal),
     ("other_total", .string c.otherTotal),
     ("equity_ratio", ofOption .string c.equityRatio),
     ("debt_ratio", ofOption .string c.debtRatio),
     ("other_ratio", ofOption .string c.otherRatio),
     ("loan_to_cost", ofOption .string c.loanToCost),
     ("weighted_average_debt_rate", ofOption .string c.weightedAverageDebtRate),
     ("slices", .array (c.slices.map (StackSlice.record spelling)))]

def DrawEntry.record (spelling : Spelling) (d : DrawEntry) : Json :=
  Json.record spelling
    [("period", .string d.period),
     ("equity_draw", .string d.equityDraw),
     ("debt_draw", .string d.debtDraw),
     ("total_draw", .string d.totalDraw),
     ("cumulative_equity", .string d.cumulativeEquity),
     ("cumulative_debt", .string d.cumulativeDebt),
     ("outstanding_debt", .string d.outstandingDebt)]

def DrawSchedule.record (spelling : Spelling) (d : DrawSchedule) : Json :=
  Json.record spelling
    [("currency", ofOption .string d.currency),
     ("entries", .array (d.entries.map (DrawEntry.record spelling))),
     ("total_equity", ofOption .string d.totalEquity),
     ("total_debt", ofOption .string d.totalDebt),
     ("peak_debt_balance", ofOption .string d.peakDebtBalance),
     ("final_debt_balance", ofOption .string d.finalDebtBalance)]

def AssetMix.record (spelling : Spelling) (a : AssetMix) : Json :=
  Json.record spelling
    [("total_programme_gfa_sqm", ofOption .string a.totalProgrammeGfaSqm),
     ("total_estimated_revenue", ofOption .string a.totalEstimatedRevenue),
     ("total_estimated_capex", ofOption .string a.totalEstimatedCapex),
     ("dominant_risk_profile", ofOption .string a.dominantRiskProfile),
     ("notes", .array (a.notes.map .string))]

def AssetLine.record (spelling : Spelling) (a : AssetLine) : Json :=
  Json.record spelling
    [("asset_type", .string a.assetType),
     ("allocation_pct", ofOption .string a.allocationPct),
     ("nia_sqm", ofOption .string a.niaSqm),
     ("rent_psm_month", ofOption .string a.rentPsmMonth),
     ("gross_revenue", ofOption .string a.grossRevenue),
     ("operating_cost", ofOption .string a.operatingCost),
     ("noi", ofOption .string a.noi),
     ("estimated_capex", ofOption .string a.estimatedCapex),
     ("payback_years", ofOption .string a.paybackYears),
     ("absorption_months", ofOption .string a.absorptionMonths),
     ("risk_level", ofOption .string a.riskLevel),
     ("notes", .array (a.notes.map .string))]

def FacilityInterest.record (spelling : Spelling) (f : FacilityInterest) : Json :=
  Json.record spelling
    [("name", .string f.name),
     ("amount", ofOption .string f.amount),
     ("interest_rate", ofOption .string f.interestRate),
     ("periods_per_year", ofOption ofInt64 f.periodsPerYear),
     ("capitalised", .bool f.capitalised),
     ("total_interest", ofOption .string f.totalInterest),
     ("upfront_fee", ofOption .string f.upfrontFee),
     ("exit_fee", ofOption .string f.exitFee)]

def InterestEntry.record (spelling : Spelling) (i : InterestEntry) : Json :=
  Json.record spelling
    [("period", .string i.period),
     ("opening_balance", ofOption .string i.openingBalance),
     ("closing_balance", ofOption .string i.closingBalance),
     ("average_balance", ofOption .string i.averageBalance),
     ("interest", ofOption .string i.interest)]

def LoanInterest.record (spelling : Spelling) (l : LoanInterest) : Json :=
  Json.record spelling
    [("currency", ofOption .string l.currency),
     ("interest_rate", ofOption .string l.interestRate),
     ("periods_per_year", ofOption ofInt64 l.periodsPerYear),
     ("capitalised", .bool l.capitalised),
     ("total_interest", ofOption .string l.totalInterest),
     ("upfront_fee_total", ofOption .string l.upfrontFeeTotal),
     ("exit_fee_total", ofOption .string l.exitFeeTotal),
     ("facilities", .array (l.facilities.map (FacilityInterest.record spelling))),
     ("entries", .array (l.entries.map (InterestEntry.record spelling)))]

def SensitivityOutcome.record (spelling : Spelling) (s : SensitivityOutcome) : Json :=
  Json.record spelling
    [("parameter", .string s.parameter),
     ("scenario", .string s.scenario),
     ("delta_label", ofOption .string s.deltaLabel),
     ("delta_value", ofOption .string s.deltaValue),
     ("npv", ofOption .string s.npv),
     ("irr", ofOption .string s.irr),
     ("escalated_cost", ofOption .string s.escalatedCost),
     ("total_interest", ofOption .string s.totalInterest)]

def SensitivityJob.record (spelling : Spelling) (s : SensitivityJob) : Json :=
  Json.record spelling
    [("scenario_id", ofOption ofInt64 s.scenarioId),
     ("task_id", ofOption .string s.taskId),
     ("status", .string s.status),
     ("backend", ofOption .string s.backend),
     ("queued_at", ofOption .string s.queuedAt)]

def Scenario.record (spelling : Spelling) (s : Scenario) : Json :=
  Json.record spelling
    [("scenario_id", ofInt64 s.scenarioId),
     ("project_id", s.projectId.record),
     ("fin_project_id", ofOption ProjectKey.record s.finProjectId),
     ("scenario_name", .string s.scenarioName),
     ("description", ofOption .string s.description),
     ("currency", .string s.currency),
     ("escalated_cost", ofOption .string s.escalatedCost),
     ("cost_index", ofOption (CostIndex.record spelling) s.costIndex),
     ("results", .array (s.results.map (Metric.record spelling))),
     ("dscr_timeline", .array (s.dscrTimeline.map (CoverEntry.record spelling))),
     ("capital_stack", ofOption (CapitalStack.record spelling) s.capitalStack),
     ("drawdown_schedule", ofOption (DrawSchedule.record spelling) s.drawdownSchedule),
     ("asset_mix_summary", ofOption (AssetMix.record spelling) s.assetMixSummary),
     ("asset_breakdowns", .array (s.assetBreakdowns.map (AssetLine.record spelling))),
     ("construction_loan", ofOption (ConstructionLoan.record spelling) s.constructionLoan),
     ("construction_loan_interest",
       ofOption (LoanInterest.record spelling) s.constructionLoanInterest),
     ("sensitivity_results",
       .array (s.sensitivityResults.map (SensitivityOutcome.record spelling))),
     ("sensitivity_jobs", .array (s.sensitivityJobs.map (SensitivityJob.record spelling))),
     ("sensitivity_bands", .array (s.sensitivityBands.map (SensitivityBand.record spelling))),
     ("is_primary", .bool s.isPrimary),
     ("is_private", .bool s.isPrivate),
     ("updated_at", ofOption .string s.updatedAt)]

/-! ## Reading -/

def IndexPoint.read? : Json → Option IndexPoint :=
  RecordReader.run do
    return {
      period := ← .optional "period" readString?
      value := ← .optional "value" readString?
      unit := ← .optional "unit" readString?
      source := ← .optional "source" readString?
      provider := ← .optional "provider" readString?
      currency := ← .optional "currency" readString? }

def CostIndex.read? : Json → Option CostIndex :=
  RecordReader.run do
    return {
      seriesName := ← .optional "series_name" readString?
      jurisdiction := ← .optional "jurisdiction" readString?
      provider := ← .optional "provider" readString?
      basePeriod := ← .optional "base_period" readString?
      latestPeriod := ← .optional "latest_period" readString?
      scalar := ← .optional "scalar" readString?
      baseIndex := ← .optional "base_index" IndexPoint.read?
      latestIndex := ← .optional "latest_index" IndexPoint.read? }

def Metric.read? : Json → Option Metric :=
  RecordReader.run do
    return {
      name := ← .required "name" readString?
      value := ← .optional "value" readString?
      unit := ← .optional "unit" readString?
      metadata := ← .required "metadata" some }

def CoverEntry.read? : Json → Option CoverEntry :=
  RecordReader.run do
    return {
      period := ← .required "period" readString?
      noi := ← .optional "noi" readString?
      debtService := ← .optional "debt_service" readString?
      dscr := ← .optional "dscr" readString?
      currency := ← .optional "currency" readString? }

def StackSlice.read? : Json → Option StackSlice :=
  RecordReader.run do
    return {
      name := ← .required "name" readString?
      sourceType := ← .optional "source_type" readString?
      category := ← .required "category" readString?
      amount := ← .required "amount" readString?
      share := ← .optional "share" readString?
      rate := ← .optional "rate" readString?
      trancheOrder := ← .optional "tranche_order" readInt64?
      metadata := ← .required "metadata" some }

def CapitalStack.read? : Json → Option CapitalStack :=
  RecordReader.run do
    return {
      currency := ← .optional "currency" readString?
      total := ← .required "total" readString?
      equityTotal := ← .required "equity_total" readString?
      debtTotal := ← .required "debt_total" readString?
      otherTotal := ← .required "other_total" readString?
      equityRatio := ← .optional "equity_ratio" readString?
      debtRatio := ← .optional "debt_ratio" readString?
      otherRatio := ← .optional "other_ratio" readString?
      loanToCost := ← .optional "loan_to_cost" readString?
      weightedAverageDebtRate := ← .optional "weighted_average_debt_rate" readString?
      slices := ← .required "slices" (readList? StackSlice.read?) }

def DrawEntry.read? : Json → Option DrawEntry :=
  RecordReader.run do
    return {
      period := ← .required "period" readString?
      equityDraw := ← .required "equity_draw" readString?
      debtDraw := ← .required "debt_draw" readString?
      totalDraw := ← .required "total_draw" readString?
      cumulativeEquity := ← .required "cumulative_equity" readString?
      cumulativeDebt := ← .required "cumulative_debt" readString?
      outstandingDebt := ← .required "outstanding_debt" readString? }

def DrawSchedule.read? : Json → Option DrawSchedule :=
  RecordReader.run do
    return {
      currency := ← .optional "currency" readString?
      entries := ← .required "entries" (readList? DrawEntry.read?)
      totalEquity := ← .optional "total_equity" readString?
      totalDebt := ← .optional "total_debt" readString?
      peakDebtBalance := ← .optional "peak_debt_balance" readString?
      finalDebtBalance := ← .optional "final_debt_balance" readString? }

def AssetMix.read? : Json → Option AssetMix :=
  RecordReader.run do
    return {
      totalProgrammeGfaSqm := ← .optional "total_programme_gfa_sqm" readString?
      totalEstimatedRevenue := ← .optional "total_estimated_revenue" readString?
      totalEstimatedCapex := ← .optional "total_estimated_capex" readString?
      dominantRiskProfile := ← .optional "dominant_risk_profile" readString?
      notes := ← .required "notes" (readList? readString?) }

def AssetLine.read? : Json → Option AssetLine :=
  RecordReader.run do
    return {
      assetType := ← .required "asset_type" readString?
      allocationPct := ← .optional "allocation_pct" readString?
      niaSqm := ← .optional "nia_sqm" readString?
      rentPsmMonth := ← .optional "rent_psm_month" readString?
      grossRevenue := ← .optional "gross_revenue" readString?
      operatingCost := ← .optional "operating_cost" readString?
      noi := ← .optional "noi" readString?
      estimatedCapex := ← .optional "estimated_capex" readString?
      paybackYears := ← .optional "payback_years" readString?
      absorptionMonths := ← .optional "absorption_months" readString?
      riskLevel := ← .optional "risk_level" readString?
      notes := ← .required "notes" (readList? readString?) }

def FacilityInterest.read? : Json → Option FacilityInterest :=
  RecordReader.run do
    return {
      name := ← .required "name" readString?
      amount := ← .optional "amount" readString?
      interestRate := ← .optional "interest_rate" readString?
      periodsPerYear := ← .optional "periods_per_year" readInt64?
      capitalised := ← .required "capitalised" readBool?
      totalInterest := ← .optional "total_interest" readString?
      upfrontFee := ← .optional "upfront_fee" readString?
      exitFee := ← .optional "exit_fee" readString? }

def InterestEntry.read? : Json → Option InterestEntry :=
  RecordReader.run do
    return {
      period := ← .required "period" readString?
      openingBalance := ← .optional "opening_balance" readString?
      closingBalance := ← .optional "closing_balance" readString?
      averageBalance := ← .optional "average_balance" readString?
      interest := ← .optional "interest" readString? }

def LoanInterest.read? : Json → Option LoanInterest :=
  RecordReader.run do
    return {
      currency := ← .optional "currency" readString?
      interestRate := ← .optional "interest_rate" readString?
      periodsPerYear := ← .optional "periods_per_year" readInt64?
      capitalised := ← .required "capitalised" readBool?
      totalInterest := ← .optional "total_interest" readString?
      upfrontFeeTotal := ← .optional "upfront_fee_total" readString?
      exitFeeTotal := ← .optional "exit_fee_total" readString?
      facilities := ← .required "facilities" (readList? FacilityInterest.read?)
      entries := ← .required "entries" (readList? InterestEntry.read?) }

def SensitivityOutcome.read? : Json → Option SensitivityOutcome :=
  RecordReader.run do
    return {
      parameter := ← .required "parameter" readString?
      scenario := ← .required "scenario" readString?
      deltaLabel := ← .optional "delta_label" readString?
      deltaValue := ← .optional "delta_value" readString?
      npv := ← .optional "npv" readString?
      irr := ← .optional "irr" readString?
      escalatedCost := ← .optional "escalated_cost" readString?
      totalInterest := ← .optional "total_interest" readString? }

def SensitivityJob.read? : Json → Option SensitivityJob :=
  RecordReader.run do
    return {
      scenarioId := ← .optional "scenario_id" readInt64?
      taskId := ← .optional "task_id" readString?
      status := ← .required "status" readString?
      backend := ← .optional "backend" readString?
      queuedAt := ← .optional "queued_at" readString? }

def Scenario.read? : Json → Option Scenario :=
  RecordReader.run do
    return {
      scenarioId := ← .required "scenario_id" readInt64?
      projectId := ← .required "project_id" ProjectKey.read?
      finProjectId := ← .optional "fin_project_id" ProjectKey.read?
      scenarioName := ← .required "scenario_name" readString?
      description := ← .optional "description" readString?
      currency := ← .required "currency" readString?
      escalatedCost := ← .optional "escalated_cost" readString?
      costIndex := ← .optional "cost_index" CostIndex.read?
      results := ← .required "results" (readList? Metric.read?)
      dscrTimeline := ← .required "dscr_timeline" (readList? CoverEntry.read?)
      capitalStack := ← .optional "capital_stack" CapitalStack.read?
      drawdownSchedule := ← .optional "drawdown_schedule" DrawSchedule.read?
      assetMixSummary := ← .optional "asset_mix_summary" AssetMix.read?
      assetBreakdowns := ← .required "asset_breakdowns" (readList? AssetLine.read?)
      constructionLoan := ← .optional "construction_loan" ConstructionLoan.read?
      constructionLoanInterest := ← .optional "construction_loan_interest" LoanInterest.read?
      sensitivityResults := ← .required "sensitivity_results" (readList? SensitivityOutcome.read?)
      sensitivityJobs := ← .required "sensitivity_jobs" (readList? SensitivityJob.read?)
      sensitivityBands := ← .required "sensitivity_bands" (readList? SensitivityBand.read?)
      isPrimary := ← .required "is_primary" readBool?
      isPrivate := ← .required "is_private" readBool?
      updatedAt := ← .optional "updated_at" readString? }

end Proforma
