import Proforma.Amount.Text
import Proforma.Json.Field
import Proforma.Scenario.Basic

/-!
# Changing the amounts

The money of a scenario: the texts that stand for amounts, as opposed to ratios, shares, rates
and index values. A result is money when its metadata names a currency. Rescaling multiplies all
money by a factor and rounds to cents; a text that is no amount stays as it is. Rounding may
leave the period interest off the total interest, so the last period then takes up the rest.
-/

namespace Proforma

open Json

/-! ## Where the money is -/

/-- Whether the value of the result is an amount. -/
def Metric.isMoney (m : Metric) : Bool :=
  match m.metadata with
  | .object fields => NameMap.has fields "currency"
  | _ => false

def Metric.money (m : Metric) : List String :=
  if m.isMoney then m.value.toList else []

def Metric.mapMoney (f : String → String) (m : Metric) : Metric :=
  if m.isMoney then { m with value := m.value.map f } else m

def CoverEntry.money (e : CoverEntry) : List String :=
  e.noi.toList ++ e.debtService.toList

def CoverEntry.mapMoney (f : String → String) (e : CoverEntry) : CoverEntry :=
  { e with noi := e.noi.map f, debtService := e.debtService.map f }

def CapitalStack.money (s : CapitalStack) : List String :=
  [s.total, s.equityTotal, s.debtTotal, s.otherTotal] ++ s.slices.map (·.amount)

def CapitalStack.mapMoney (f : String → String) (s : CapitalStack) : CapitalStack :=
  { s with
    total := f s.total
    equityTotal := f s.equityTotal
    debtTotal := f s.debtTotal
    otherTotal := f s.otherTotal
    slices := s.slices.map fun slice => { slice with amount := f slice.amount } }

def DrawEntry.money (e : DrawEntry) : List String :=
  [e.equityDraw, e.debtDraw, e.totalDraw, e.cumulativeEquity, e.cumulativeDebt,
   e.outstandingDebt]

def DrawEntry.mapMoney (f : String → String) (e : DrawEntry) : DrawEntry :=
  { e with
    equityDraw := f e.equityDraw
    debtDraw := f e.debtDraw
    totalDraw := f e.totalDraw
    cumulativeEquity := f e.cumulativeEquity
    cumulativeDebt := f e.cumulativeDebt
    outstandingDebt := f e.outstandingDebt }

def DrawSchedule.money (s : DrawSchedule) : List String :=
  s.entries.flatMap DrawEntry.money ++ s.totalEquity.toList ++ s.totalDebt.toList ++
    s.peakDebtBalance.toList ++ s.finalDebtBalance.toList

def DrawSchedule.mapMoney (f : String → String) (s : DrawSchedule) : DrawSchedule :=
  { s with
    entries := s.entries.map (·.mapMoney f)
    totalEquity := s.totalEquity.map f
    totalDebt := s.totalDebt.map f
    peakDebtBalance := s.peakDebtBalance.map f
    finalDebtBalance := s.finalDebtBalance.map f }

def AssetMix.money (m : AssetMix) : List String :=
  m.totalEstimatedRevenue.toList ++ m.totalEstimatedCapex.toList

def AssetMix.mapMoney (f : String → String) (m : AssetMix) : AssetMix :=
  { m with
    totalEstimatedRevenue := m.totalEstimatedRevenue.map f
    totalEstimatedCapex := m.totalEstimatedCapex.map f }

def AssetLine.money (a : AssetLine) : List String :=
  a.grossRevenue.toList ++ a.operatingCost.toList ++ a.noi.toList ++ a.estimatedCapex.toList

def AssetLine.mapMoney (f : String → String) (a : AssetLine) : AssetLine :=
  { a with
    grossRevenue := a.grossRevenue.map f
    operatingCost := a.operatingCost.map f
    noi := a.noi.map f
    estimatedCapex := a.estimatedCapex.map f }

def FacilityInterest.money (x : FacilityInterest) : List String :=
  x.amount.toList ++ x.totalInterest.toList ++ x.upfrontFee.toList ++ x.exitFee.toList

def FacilityInterest.mapMoney (f : String → String) (x : FacilityInterest) : FacilityInterest :=
  { x with
    amount := x.amount.map f
    totalInterest := x.totalInterest.map f
    upfrontFee := x.upfrontFee.map f
    exitFee := x.exitFee.map f }

def InterestEntry.money (e : InterestEntry) : List String :=
  e.openingBalance.toList ++ e.closingBalance.toList ++ e.averageBalance.toList ++
    e.interest.toList

def InterestEntry.mapMoney (f : String → String) (e : InterestEntry) : InterestEntry :=
  { e with
    openingBalance := e.openingBalance.map f
    closingBalance := e.closingBalance.map f
    averageBalance := e.averageBalance.map f
    interest := e.interest.map f }

def LoanInterest.money (i : LoanInterest) : List String :=
  i.totalInterest.toList ++ i.upfrontFeeTotal.toList ++ i.exitFeeTotal.toList ++
    i.facilities.flatMap FacilityInterest.money ++ i.entries.flatMap InterestEntry.money

def LoanInterest.mapMoney (f : String → String) (i : LoanInterest) : LoanInterest :=
  { i with
    totalInterest := i.totalInterest.map f
    upfrontFeeTotal := i.upfrontFeeTotal.map f
    exitFeeTotal := i.exitFeeTotal.map f
    facilities := i.facilities.map (·.mapMoney f)
    entries := i.entries.map (·.mapMoney f) }

namespace Scenario

/-- The money of a scenario, as it is written. -/
def money (s : Scenario) : List String :=
  s.escalatedCost.toList ++ s.results.flatMap Metric.money ++
    s.dscrTimeline.flatMap CoverEntry.money ++
    s.capitalStack.toList.flatMap CapitalStack.money ++
    s.drawdownSchedule.toList.flatMap DrawSchedule.money ++
    s.assetMixSummary.toList.flatMap AssetMix.money ++
    s.assetBreakdowns.flatMap AssetLine.money ++
    s.constructionLoanInterest.toList.flatMap LoanInterest.money

/-- The scenario with its money changed. -/
def mapMoney (f : String → String) (s : Scenario) : Scenario :=
  { s with
    escalatedCost := s.escalatedCost.map f
    results := s.results.map (·.mapMoney f)
    dscrTimeline := s.dscrTimeline.map (·.mapMoney f)
    capitalStack := s.capitalStack.map (·.mapMoney f)
    drawdownSchedule := s.drawdownSchedule.map (·.mapMoney f)
    assetMixSummary := s.assetMixSummary.map (·.mapMoney f)
    assetBreakdowns := s.assetBreakdowns.map (·.mapMoney f)
    constructionLoanInterest := s.constructionLoanInterest.map (·.mapMoney f) }

end Scenario

/-! ## Rescaling -/

namespace Amount

/-- The text of the product with a factor in cents, if it is not too large. A text that is no
amount stays. -/
def rescaleText? (factor : Amount) (s : String) : Option String :=
  match read? s with
  | none => some s
  | some amount => (amount.mul? factor).map (·.toCents.text)

/-- The same where it is known that nothing is too large. -/
def rescaleText (factor : Amount) (s : String) : String :=
  (rescaleText? factor s).getD s

end Amount

/-- The sum of the period interest, on top of `sum`. There is none if the interest of a period is
missing or is no amount, and an overflow if an earlier sum is too large. -/
def sumInterest (sum : Amount) : List InterestEntry → Except Overflow (Option Amount)
  | [] => .ok (some sum)
  | e :: rest =>
    match e.interest.bind Amount.read? with
    | none => .ok none
    | some interest =>
      match sum.add? interest with
      | none => .error .addition
      | some sum => sumInterest sum rest

/-- The interest with the last period set to what the others leave of the total, if all of them
and the total are amounts. -/
def LoanInterest.reconcile (i : LoanInterest) : Except Overflow LoanInterest :=
  match i.totalInterest.bind Amount.read?, i.entries.getLast? with
  | some total, some last =>
    match sumInterest .zero i.entries.dropLast with
    | .error e => .error e
    | .ok none => .ok i
    | .ok (some earlier) =>
      match last.interest.bind Amount.read? with
      | none => .ok i
      | some _ =>
        match total.sub? earlier with
        | none => .error .subtraction
        | some rest =>
          let last := { last with interest := some rest.toCents.text }
          .ok { i with entries := i.entries.dropLast ++ [last] }
  | _, _ => .ok i

/-- The scenario with its period interest reconciled. -/
def Scenario.reconcile (s : Scenario) : Except Overflow Scenario :=
  match s.constructionLoanInterest with
  | none => .ok s
  | some interest =>
    interest.reconcile.map fun interest => { s with constructionLoanInterest := some interest }

/-- The scenario with all money multiplied by a factor. -/
def Scenario.rescale (factor : Amount) (s : Scenario) : Except Overflow Scenario :=
  if s.money.all fun text => (factor.rescaleText? text).isSome then
    (s.mapMoney factor.rescaleText).reconcile
  else .error .multiplication

end Proforma
