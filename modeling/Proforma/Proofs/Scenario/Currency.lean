import Proforma.Scenario.Relabel
import Proforma.Scenario.Reply

/-!
# Where relabelling puts the code

Relabelling reaches every currency field of a scenario, the currency that the free data of results
and slices name, and the units that were the old currency (`relabel_names_code`). All else stays
as it was, which is said by striking the currencies out (`withoutCurrencies`). Free data of the
facilities of a loan may name a currency too, and that stays as well: `facilityReply` is a reply
whose facility still names the old currency afterwards.
-/

namespace Proforma

/-! ## Free data -/

/-- The currency that free data names, if it is an object that names one. -/
def Json.currency? : Json → Option Json
  | .object fields => NameMap.get? fields "currency"
  | _ => none

/-- Free data with its currency struck out. -/
def Json.withoutCurrency : Json → Json
  | .object fields => .object (NameMap.erase fields "currency")
  | j => j

theorem NameMap.erase_insert {α : Type} (m : NameMap α) (name : String) (value : α) :
    (m.insert name value).erase name = m.erase name := by
  induction m with
  | nil => simp [insert, erase]
  | cons f rest ih =>
    obtain ⟨n, a⟩ := f
    rw [insert]
    by_cases hn : n = name
    · simp [hn, erase]
    · rw [if_neg hn]
      by_cases hlt : name < n
      · simp [hlt, erase]
      · simp [hlt, erase, hn, ih]

/-- Free data that name no currency are left alone. -/
theorem relabelMetadata_of_none {j : Json} (h : j.currency? = none) (code : String) :
    relabelMetadata code j = j := by
  cases j with
  | object fields =>
    have hnone : NameMap.get? fields "currency" = none := h
    show (if NameMap.has fields "currency" then _ else Json.object fields) = _
    unfold NameMap.has
    rw [hnone, Option.isSome_none, if_neg Bool.false_ne_true]
  | _ => rfl

/-- Free data that name a currency are an object, and get the code in its place. -/
theorem exists_relabelMetadata_of_some {j named : Json} (h : j.currency? = some named) :
    ∃ fields, j = .object fields ∧
      ∀ code, relabelMetadata code j = .object (NameMap.insert fields "currency" (.string code)) := by
  cases j with
  | object fields =>
    have hsome : NameMap.get? fields "currency" = some named := h
    refine ⟨fields, rfl, fun code => ?_⟩
    show (if NameMap.has fields "currency" then Json.object _ else _) = _
    unfold NameMap.has
    rw [hsome, Option.isSome_some, if_pos rfl]
  | _ => cases h

theorem currency?_relabelMetadata (code : String) (j : Json) :
    (relabelMetadata code j).currency? = j.currency?.map fun _ => .string code := by
  cases h : j.currency? with
  | none => rw [relabelMetadata_of_none h, h, Option.map_none]
  | some named =>
    obtain ⟨fields, rfl, hinsert⟩ := exists_relabelMetadata_of_some h
    rw [hinsert, Option.map_some]
    show NameMap.get? (NameMap.insert fields "currency" _) "currency" = _
    rw [NameMap.get?_insert, if_pos rfl]

theorem withoutCurrency_relabelMetadata (code : String) (j : Json) :
    (relabelMetadata code j).withoutCurrency = j.withoutCurrency := by
  cases h : j.currency? with
  | none => rw [relabelMetadata_of_none h]
  | some named =>
    obtain ⟨fields, rfl, hinsert⟩ := exists_relabelMetadata_of_some h
    rw [hinsert]
    exact congrArg Json.object (NameMap.erase_insert fields "currency" _)

/-! ## Where a scenario names currencies -/

namespace Scenario

/-- The currency fields of the scenario and its sections. -/
def currencies (s : Scenario) : List (Option String) :=
  some s.currency ::
    (s.costIndex.toList.flatMap fun index =>
      (index.baseIndex.toList ++ index.latestIndex.toList).map (·.currency)) ++
    s.dscrTimeline.map (·.currency) ++ s.capitalStack.toList.map (·.currency) ++
    s.drawdownSchedule.toList.map (·.currency) ++
    s.constructionLoanInterest.toList.map (·.currency)

/-- The free data of results and slices. -/
def figureData (s : Scenario) : List Json :=
  s.results.map (·.metadata) ++
    s.capitalStack.toList.flatMap fun stack => stack.slices.map (·.metadata)

/-- The free data of the loan's facilities. -/
def facilityData (s : Scenario) : List Json :=
  s.constructionLoan.toList.flatMap fun loan => loan.facilities.filterMap (·.metadata)

/-- All free data. -/
def freeData (s : Scenario) : List Json :=
  s.figureData ++ s.facilityData

end Scenario

/-! ## All else -/

def IndexPoint.withoutCurrency (p : IndexPoint) : IndexPoint :=
  { p with currency := none }

def CostIndex.withoutCurrency (i : CostIndex) : CostIndex :=
  { i with
    baseIndex := i.baseIndex.map (·.withoutCurrency)
    latestIndex := i.latestIndex.map (·.withoutCurrency) }

def Metric.withoutCurrency (m : Metric) : Metric :=
  { m with
    unit := none
    metadata := m.metadata.withoutCurrency }

def CoverEntry.withoutCurrency (e : CoverEntry) : CoverEntry :=
  { e with currency := none }

def StackSlice.withoutCurrency (s : StackSlice) : StackSlice :=
  { s with metadata := s.metadata.withoutCurrency }

def CapitalStack.withoutCurrency (k : CapitalStack) : CapitalStack :=
  { k with
    currency := none
    slices := k.slices.map (·.withoutCurrency) }

def DrawSchedule.withoutCurrency (d : DrawSchedule) : DrawSchedule :=
  { d with currency := none }

def LoanInterest.withoutCurrency (i : LoanInterest) : LoanInterest :=
  { i with currency := none }

/-- The scenario with its currencies and the units of its results struck out, but for what the
loan's facilities say. -/
def Scenario.withoutCurrencies (s : Scenario) : Scenario :=
  { s with
    currency := ""
    costIndex := s.costIndex.map (·.withoutCurrency)
    results := s.results.map (·.withoutCurrency)
    dscrTimeline := s.dscrTimeline.map (·.withoutCurrency)
    capitalStack := s.capitalStack.map (·.withoutCurrency)
    drawdownSchedule := s.drawdownSchedule.map (·.withoutCurrency)
    constructionLoanInterest := s.constructionLoanInterest.map (·.withoutCurrency) }

/-! ## What relabelling does to each -/

namespace Scenario

variable (code : String) (s : Scenario)

/-- Every currency field holds the code. -/
theorem eq_code_of_mem_currencies {currency : Option String}
    (h : currency ∈ (s.relabel code).currencies) : currency = some code := by
  unfold currencies at h
  simp only [List.mem_append, List.mem_cons, List.mem_flatMap, List.mem_map, Option.mem_toList] at h
  rcases h with ((((rfl | ⟨index, hindex, point, hpoint, rfl⟩) | ⟨entry, hentry, rfl⟩) |
    ⟨stack, hstack, rfl⟩) | ⟨schedule, hschedule, rfl⟩) | ⟨interest, hinterest, rfl⟩
  · rfl
  · obtain ⟨old, -, rfl⟩ := Option.map_eq_some_iff.mp hindex
    rcases hpoint with hbase | hlatest
    · obtain ⟨before, -, rfl⟩ := Option.map_eq_some_iff.mp hbase
      rfl
    · obtain ⟨before, -, rfl⟩ := Option.map_eq_some_iff.mp hlatest
      rfl
  · obtain ⟨before, -, rfl⟩ := List.mem_map.mp hentry
    rfl
  · obtain ⟨before, -, rfl⟩ := Option.map_eq_some_iff.mp hstack
    rfl
  · obtain ⟨before, -, rfl⟩ := Option.map_eq_some_iff.mp hschedule
    rfl
  · obtain ⟨before, -, rfl⟩ := Option.map_eq_some_iff.mp hinterest
    rfl

theorem figureData_relabel :
    (s.relabel code).figureData = s.figureData.map (relabelMetadata code) := by
  unfold figureData
  rw [List.map_append, List.map_map]
  show (s.results.map (·.relabel s.currency code)).map (·.metadata) ++
    ((s.capitalStack.map (·.relabel code)).toList.flatMap fun stack =>
      stack.slices.map (·.metadata)) = _
  rw [List.map_map]
  cases s.capitalStack with
  | none => rfl
  | some stack =>
    simp [CapitalStack.relabel, StackSlice.relabel, Metric.relabel, Function.comp_def]

theorem withoutCurrencies_relabel :
    (s.relabel code).withoutCurrencies = s.withoutCurrencies := by
  have hindex : (fun i : CostIndex => (i.relabel code).withoutCurrency) =
      CostIndex.withoutCurrency := by
    funext i
    simp [CostIndex.relabel, CostIndex.withoutCurrency, IndexPoint.relabel,
      IndexPoint.withoutCurrency, Function.comp_def]
  have hmetric : (fun m : Metric => (m.relabel s.currency code).withoutCurrency) =
      Metric.withoutCurrency := by
    funext m
    simp [Metric.relabel, Metric.withoutCurrency, withoutCurrency_relabelMetadata]
  have hstack : (fun k : CapitalStack => (k.relabel code).withoutCurrency) =
      CapitalStack.withoutCurrency := by
    funext k
    simp [CapitalStack.relabel, CapitalStack.withoutCurrency, StackSlice.relabel,
      StackSlice.withoutCurrency, withoutCurrency_relabelMetadata, Function.comp_def]
  unfold withoutCurrencies relabel
  simp only [Option.map_map, List.map_map, Function.comp_def, hindex, hmetric, hstack]
  rfl

/-- The units of results: the old currency becomes the code, and others stay. -/
theorem units_relabel : (s.relabel code).results.map (·.unit) =
    s.results.map fun m => if m.unit = some s.currency then some code else m.unit := by
  show (s.results.map (·.relabel s.currency code)).map (·.unit) = _
  rw [List.map_map]
  rfl

end Scenario

/-- **What relabelling names.** Afterwards every currency field holds the code, and so does the
unit of every result whose unit was the old currency; free data of results and slices that named a
currency name the code, and no other names one. All else is what it was, the facilities' free data
among it; so all free data name the code exactly if those of the facilities already did. -/
theorem relabel_names_code (code : String) (s : Scenario) :
    (∀ currency ∈ (s.relabel code).currencies, currency = some code) ∧
    (s.relabel code).results.map (·.unit) =
      s.results.map (fun m => if m.unit = some s.currency then some code else m.unit) ∧
    (s.relabel code).figureData.map Json.currency? =
      s.figureData.map (fun j => j.currency?.map fun _ => .string code) ∧
    (s.relabel code).withoutCurrencies = s.withoutCurrencies ∧
    ((∀ j ∈ (s.relabel code).freeData, ∀ named ∈ j.currency?, named = .string code) ↔
      ∀ j ∈ s.facilityData, ∀ named ∈ j.currency?, named = .string code) := by
  have hfigures : (s.relabel code).figureData.map Json.currency? =
      s.figureData.map (fun j => j.currency?.map fun _ => .string code) := by
    rw [Scenario.figureData_relabel, List.map_map]
    exact List.map_congr_left fun j _ => currency?_relabelMetadata code j
  have hfacilities : (s.relabel code).facilityData = s.facilityData := rfl
  refine ⟨fun currency h => s.eq_code_of_mem_currencies code h, s.units_relabel code, hfigures,
    s.withoutCurrencies_relabel code, ?_⟩
  unfold Scenario.freeData
  rw [List.forall_mem_append, hfacilities]
  refine and_iff_right fun j hj named hnamed => ?_
  rw [Scenario.figureData_relabel] at hj
  obtain ⟨old, -, rfl⟩ := List.mem_map.mp hj
  rw [currency?_relabelMetadata] at hnamed
  obtain ⟨-, -, rfl⟩ := Option.map_eq_some_iff.mp hnamed
  rfl

/-! ## A facility that keeps its currency -/

/-- A reply about a loan with one facility, whose free data name the currency. -/
def facilityReply : Json :=
  .ofFields
    [("scenario_id", .ofInt64 7),
     ("currency", .string "SGD"),
     ("construction_loan", .ofFields
       [("interest_rate", .string "0.045"),
        ("capitalise_interest", .bool true),
        ("facilities", .array
          [.ofFields
            [("name", .string "Senior"),
             ("metadata", .ofFields [("currency", .string "SGD")])]])])]

/-- In dollars the scenario of that reply still has free data that name the old currency. -/
theorem not_all_relabelled :
    ∃ j ∈ (Scenario.relabel "USD" (.ofReply facilityReply)).freeData,
      j.currency? = some (.string "SGD") := by
  decide +kernel

end Proforma
