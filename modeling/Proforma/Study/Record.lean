import Proforma.Study.Basic

/-!
# Reading studies

The records in which a caller writes studies, queries and changes.
-/

namespace Proforma

open Json

def CostEscalation.read? : Json → Option CostEscalation :=
  RecordReader.run do
    return {
      amount := ← .required "amount" readString?
      basePeriod := ← .required "base_period" readString?
      seriesName := ← .required "series_name" readString?
      jurisdiction := ← .required "jurisdiction" readString?
      provider := ← .optional "provider" readString? }

def CashFlow.read? : Json → Option CashFlow :=
  RecordReader.run do
    return {
      discountRate := ← .required "discount_rate" readString?
      cashFlows := ← .required "cash_flows" (readList? readString?) }

def DebtCover.read? : Json → Option DebtCover :=
  RecordReader.run do
    return {
      netOperatingIncomes := ← .required "net_operating_incomes" (readList? readString?)
      debtServices := ← .required "debt_services" (readList? readString?)
      periodLabels := ← .listed "period_labels" readString? }

def FundingSource.read? : Json → Option FundingSource :=
  RecordReader.run do
    return {
      name := ← .required "name" readString?
      sourceType := ← .required "source_type" readString?
      amount := ← .required "amount" readString?
      rate := ← .optional "rate" readString?
      trancheOrder := ← .optional "tranche_order" readInt64?
      metadata := ← .optional "metadata" some }

def PlannedDraw.read? : Json → Option PlannedDraw :=
  RecordReader.run do
    return {
      period := ← .required "period" readString?
      equityDraw := ← .required "equity_draw" readString?
      debtDraw := ← .required "debt_draw" readString? }

def AssetShare.read? : Json → Option AssetShare :=
  RecordReader.run do
    return {
      assetType := ← .required "asset_type" readString?
      allocationPct := ← .required "allocation_pct" readString?
      niaSqm := ← .optional "nia_sqm" readString?
      rentPsmMonth := ← .optional "rent_psm_month" readString?
      stabilisedVacancyPct := ← .optional "stabilised_vacancy_pct" readString?
      opexPctOfRent := ← .optional "opex_pct_of_rent" readString?
      estimatedRevenue := ← .optional "estimated_revenue" readString?
      estimatedCapex := ← .optional "estimated_capex" readString?
      absorptionMonths := ← .optional "absorption_months" readString?
      riskLevel := ← .optional "risk_level" readString?
      notes := ← .listed "notes" readString? }

def Proposal.read? : Json → Option Proposal :=
  RecordReader.run do
    return {
      name := ← .required "name" readString?
      description := ← .optional "description" readString?
      currency := ← .required "currency" readString?
      isPrimary := ← .optional "is_primary" readBool?
      costEscalation := ← .required "cost_escalation" CostEscalation.read?
      cashFlow := ← .required "cash_flow" CashFlow.read?
      dscr := ← .optional "dscr" DebtCover.read?
      capitalStack := ← .listed "capital_stack" FundingSource.read?
      drawdownSchedule := ← .listed "drawdown_schedule" PlannedDraw.read?
      assetMix := ← .listed "asset_mix" AssetShare.read?
      constructionLoan := ← .optional "construction_loan" ConstructionLoan.read?
      sensitivityBands := ← .listed "sensitivity_bands" SensitivityBand.read? }

def Study.read? : Json → Option Study :=
  RecordReader.run do
    return {
      projectId := ← .required "project_id" ProjectRef.read?
      projectName := ← .optional "project_name" readString?
      finProjectId := ← .optional "fin_project_id" readInt64?
      scenario := ← .required "scenario" Proposal.read? }

def ListQuery.read? : Json → Option ListQuery :=
  RecordReader.run do
    return {
      projectId := ← .optional "project_id" ProjectRef.read?
      finProjectId := ← .optional "fin_project_id" readInt64?
      currency := ← .optional "currency" readString?
      scenarioName := ← .optional "scenario_name" readString? }

def ScenarioEdit.read? : Json → Option ScenarioEdit :=
  RecordReader.run do
    return {
      scenarioName := ← .optional "scenario_name" readString?
      description := ← .optional "description" readString?
      isPrimary := ← .optional "is_primary" readBool? }

end Proforma
