import Proforma.Study.Basic

/-!
# Request bodies

What is sent to the service. Absent parts are left out, and so are empty lists, because the
service tells an absent list from an empty one.
-/

namespace Proforma

open Json

/-! ## Fields -/

/-- A field that is left out when absent. -/
def optionalField (name : String) (write : α → Json) : Option α → List (String × Json)
  | none => []
  | some a => [(name, write a)]

/-- A field that is left out when the list is empty. -/
def listField (name : String) (write : α → Json) (items : List α) : List (String × Json) :=
  if items.isEmpty then [] else [(name, .array (items.map write))]

/-- A list of texts. -/
def textArray (texts : List String) : Json :=
  .array (texts.map .string)

/-! ## Parts of a study -/

def CostEscalation.body (c : CostEscalation) : Json :=
  ofFields <|
    [("amount", .string c.amount),
     ("base_period", .string c.basePeriod),
     ("series_name", .string c.seriesName),
     ("jurisdiction", .string c.jurisdiction)] ++
    optionalField "provider" .string c.provider

def CashFlow.body (c : CashFlow) : Json :=
  ofFields
    [("discount_rate", .string c.discountRate),
     ("cash_flows", textArray c.cashFlows)]

def DebtCover.body (d : DebtCover) : Json :=
  ofFields <|
    [("net_operating_incomes", textArray d.netOperatingIncomes),
     ("debt_services", textArray d.debtServices)] ++
    listField "period_labels" .string d.periodLabels

def FundingSource.body (s : FundingSource) : Json :=
  ofFields <|
    [("name", .string s.name),
     ("source_type", .string s.sourceType),
     ("amount", .string s.amount)] ++
    optionalField "rate" .string s.rate ++
    optionalField "tranche_order" ofInt64 s.trancheOrder ++
    optionalField "metadata" id s.metadata

def PlannedDraw.body (d : PlannedDraw) : Json :=
  ofFields
    [("period", .string d.period),
     ("equity_draw", .string d.equityDraw),
     ("debt_draw", .string d.debtDraw)]

def AssetShare.body (a : AssetShare) : Json :=
  ofFields <|
    [("asset_type", .string a.assetType),
     ("allocation_pct", .string a.allocationPct)] ++
    optionalField "nia_sqm" .string a.niaSqm ++
    optionalField "rent_psm_month" .string a.rentPsmMonth ++
    optionalField "stabilised_vacancy_pct" .string a.stabilisedVacancyPct ++
    optionalField "opex_pct_of_rent" .string a.opexPctOfRent ++
    optionalField "estimated_revenue" .string a.estimatedRevenue ++
    optionalField "estimated_capex" .string a.estimatedCapex ++
    optionalField "absorption_months" .string a.absorptionMonths ++
    optionalField "risk_level" .string a.riskLevel ++
    listField "notes" .string a.notes

def SensitivityBand.body (b : SensitivityBand) : Json :=
  ofFields <|
    [("parameter", .string b.parameter)] ++
    optionalField "low" .string b.low ++
    optionalField "base" .string b.base ++
    optionalField "high" .string b.high ++
    optionalField "notes" .string b.notes

def LoanFacility.body (f : LoanFacility) : Json :=
  ofFields <|
    [("name", .string f.name)] ++
    optionalField "amount" .string f.amount ++
    optionalField "interest_rate" .string f.interestRate ++
    optionalField "periods_per_year" ofInt64 f.periodsPerYear ++
    optionalField "capitalise_interest" .bool f.capitaliseInterest ++
    optionalField "upfront_fee_pct" .string f.upfrontFeePct ++
    optionalField "exit_fee_pct" .string f.exitFeePct ++
    optionalField "reserve_months" ofInt64 f.reserveMonths ++
    optionalField "amortisation_months" ofInt64 f.amortisationMonths ++
    optionalField "metadata" id f.metadata

def ConstructionLoan.body (l : ConstructionLoan) : Json :=
  ofFields <|
    [("interest_rate", .string l.interestRate),
     ("capitalise_interest", .bool l.capitaliseInterest)] ++
    optionalField "periods_per_year" ofInt64 l.periodsPerYear ++
    listField "facilities" LoanFacility.body l.facilities

/-- Cover figures are sent only if there are any. -/
def Proposal.body (p : Proposal) : Json :=
  ofFields <|
    [("name", .string p.name),
     ("currency", .string p.currency),
     ("cost_escalation", p.costEscalation.body),
     ("cash_flow", p.cashFlow.body)] ++
    optionalField "description" .string p.description ++
    optionalField "is_primary" .bool p.isPrimary ++
    optionalField "dscr" DebtCover.body (p.dscr.filter (!·.isEmpty)) ++
    listField "capital_stack" FundingSource.body p.capitalStack ++
    listField "drawdown_schedule" PlannedDraw.body p.drawdownSchedule ++
    listField "asset_mix" AssetShare.body p.assetMix ++
    optionalField "construction_loan" ConstructionLoan.body p.constructionLoan ++
    listField "sensitivity_bands" SensitivityBand.body p.sensitivityBands

/-! ## Bodies -/

/-- The body that runs a study. It is refused when the project identifier is no finite number;
nothing else is checked here. -/
def Study.body? (s : Study) : Except Refusal Json :=
  s.projectId.number?.map fun id =>
    ofFields <|
      [("project_id", .number id),
       ("scenario", s.scenario.body)] ++
      optionalField "project_name" .string s.projectName ++
      optionalField "fin_project_id" ofInt64 s.finProjectId

/-- The body that replaces the loan terms of a scenario. -/
def ConstructionLoan.updateBody (l : ConstructionLoan) : Json :=
  ofFields [("construction_loan", l.body)]

/-- The body that runs a sensitivity analysis. There has to be a band. -/
def SensitivityBand.rerunBody? (bands : List SensitivityBand) : Except Refusal Json :=
  if bands.isEmpty then .error .noBands
  else .ok (ofFields [("sensitivity_bands", .array (bands.map SensitivityBand.body))])

/-- The body that changes a scenario. There has to be a change. -/
def ScenarioEdit.body? (e : ScenarioEdit) : Except Refusal Json :=
  let fields :=
    optionalField "scenario_name" .string e.scenarioName ++
    optionalField "description" .string e.description ++
    optionalField "is_primary" .bool e.isPrimary
  if fields.isEmpty then .error .nothingToChange else .ok (ofFields fields)

end Proforma
