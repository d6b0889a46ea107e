import Proforma.Offline.Baseline
import Proforma.Scenario.Money
import Proforma.Scenario.Relabel
import Proforma.Study.Basic

/-!
# Offline scenarios

What takes the place of the service's answer when it cannot be reached: the baseline under the
names of the caller, alone for a study and in three sizes for a list. Offline identifiers are
never positive, so an offline scenario is never taken for a stored one.
-/

namespace Proforma.Offline

/-- The identifier of a scenario made at an instant, in milliseconds: the instant with a minus
sign, and never zero. -/
def idAt (now : Int64) : Int64 :=
  Int64.ofInt (-max 1 (min now.toInt.natAbs (2 ^ 63 - 1)))

/-- The name if it is not blank, else the baseline's. -/
def nameOr (name : String) : String :=
  (Text.nonBlank? name).getD baseline.scenarioName

/-- The scenario in a currency, unless the code is blank. -/
def inCurrency (code : Option String) (s : Scenario) : Scenario :=
  match code.bind Text.nonBlank? with
  | some code => s.relabel code
  | none => s

/-- The offline scenario of a study at an instant. -/
def scenarioAt (now : Int64) (study : Study) : Scenario :=
  let proposal := study.scenario
  inCurrency (some proposal.currency)
    { baseline with
      scenarioId := idAt now
      projectId := .ofRef study.projectId
      finProjectId := study.finProjectId.map .number
      scenarioName := nameOr proposal.name
      description := (proposal.description.bind Text.nonBlank?).or baseline.description
      isPrimary := proposal.isPrimary.getD false }

/-! ## The list -/

/-- One scenario of the offline list. -/
structure Variant where
  id : Int64
  name : String
  /-- By how much the money of the baseline is multiplied. -/
  factor : Amount
  npv : String
  irr : String

/-- The baseline as it stands. -/
def baseCase : Variant :=
  ⟨0, "Base Case (offline)", ⟨10, 1, by decide, by decide⟩, "2450000.00", "0.1125"⟩

/-- The baseline with 4.5 per cent more money. -/
def upsideCase : Variant :=
  ⟨-1, "Upside Case (offline)", ⟨1045, 3, by decide, by decide⟩, "2860000.00", "0.1240"⟩

/-- The baseline with 4.5 per cent less money. -/
def downsideCase : Variant :=
  ⟨-2, "Downside Case (offline)", ⟨955, 3, by decide, by decide⟩, "2040000.00", "0.1010"⟩

/-- Gives the first result of that name a value. -/
def setResult (name value : String) : List Metric → List Metric
  | [] => []
  | m :: rest =>
    if m.name = name then { m with value := some value } :: rest
    else m :: setResult name value rest

/-- The scenario of a variant. -/
def variantScenario (query : ListQuery) (v : Variant) : Except Overflow Scenario :=
  let scaled := Scenario.rescale v.factor
    { baseline with
      scenarioId := v.id
      projectId := (query.projectId.map .ofRef).getD baseline.projectId
      finProjectId := query.finProjectId.map .number
      scenarioName :=
        match query.scenarioName.bind Text.nonBlank? with
        | some name => name ++ " - " ++ v.name
        | none => v.name
      isPrimary := v.id = 0 }
  scaled.map fun s =>
    inCurrency query.currency
      { s with results := setResult "irr" v.irr (setResult "npv" v.npv s.results) }

/-- The offline list: a base, an upside and a downside case. -/
def scenarioList (query : ListQuery) : Except Overflow (List Scenario) :=
  [baseCase, upsideCase, downsideCase].mapM (variantScenario query)

end Proforma.Offline
