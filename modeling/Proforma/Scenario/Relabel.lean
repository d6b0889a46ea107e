import Proforma.Json.Field
import Proforma.Scenario.Basic

/-!
# Changing the currency

A scenario says its currency in many places. Relabelling puts a code in all of them and leaves
the figures alone: in the currency fields of every section, in metadata that has a currency, and
as the unit of those results whose unit was the old currency.
-/

namespace Proforma

open Json

/-- Metadata with another currency, if it is an object that has one. -/
def relabelMetadata (code : String) : Json → Json
  | .object fields =>
    if NameMap.has fields "currency" then
      .object (NameMap.insert fields "currency" (.string code))
    else .object fields
  | j => j

def IndexPoint.relabel (code : String) (p : IndexPoint) : IndexPoint :=
  { p with currency := some code }

def CostIndex.relabel (code : String) (i : CostIndex) : CostIndex :=
  { i with
    baseIndex := i.baseIndex.map (·.relabel code)
    latestIndex := i.latestIndex.map (·.relabel code) }

/-- A result whose unit is the old currency gets the new one as its unit. -/
def Metric.relabel (old code : String) (m : Metric) : Metric :=
  { m with
    unit := if m.unit = some old then some code else m.unit
    metadata := relabelMetadata code m.metadata }

def CoverEntry.relabel (code : String) (e : CoverEntry) : CoverEntry :=
  { e with currency := some code }

def StackSlice.relabel (code : String) (s : StackSlice) : StackSlice :=
  { s with metadata := relabelMetadata code s.metadata }

def CapitalStack.relabel (code : String) (s : CapitalStack) : CapitalStack :=
  { s with
    currency := some code
    slices := s.slices.map (·.relabel code) }

def DrawSchedule.relabel (code : String) (s : DrawSchedule) : DrawSchedule :=
  { s with currency := some code }

def LoanInterest.relabel (code : String) (i : LoanInterest) : LoanInterest :=
  { i with currency := some code }

/-- The scenario in another currency. -/
def Scenario.relabel (code : String) (s : Scenario) : Scenario :=
  { s with
    currency := code
    costIndex := s.costIndex.map (·.relabel code)
    results := s.results.map (·.relabel s.currency code)
    dscrTimeline := s.dscrTimeline.map (·.relabel code)
    capitalStack := s.capitalStack.map (·.relabel code)
    drawdownSchedule := s.drawdownSchedule.map (·.relabel code)
    constructionLoanInterest := s.constructionLoanInterest.map (·.relabel code) }

end Proforma
