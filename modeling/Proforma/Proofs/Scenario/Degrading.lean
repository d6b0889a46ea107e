import Proforma.Proofs.Json.Kinds
import Proforma.Scenario.Reply

/-!
# A part that cannot be used degrades alone

Each part of a scenario is read from one field of the reply, and from what that field has of the
kind it should be (`replyFields`); the reading of a part sees no more of the reply than that
(`ofReply_fit`). So another value under a name changes no part but the one that is read there, and a
value that cannot be used, null among them, is the same as none, however deep it is in the reply.
-/

namespace Proforma

open Json Json.Object Json.Kind

/-! ## One field of an object -/

namespace Json.Object

/-- What is read depends on nothing but the field of that name. -/
def Reads {α : Type} (name : String) (read : Object → α) : Prop :=
  ∀ o o' : Object, o.field? name = o'.field? name → read o = read o'

section Reads

variable {name : String} {α β : Type}

theorem Reads.map {read : Object → α} (h : Reads name read) (f : α → β) :
    Reads name fun o => f (read o) :=
  fun o o' hfield => congrArg f (h o o' hfield)

theorem reads_field? : Reads name (·.field? name) :=
  fun _ _ hfield => hfield

theorem reads_text? : Reads name (·.text? name) :=
  reads_field?.map (· >>= Json.text?)

theorem reads_text : Reads name (·.text name) :=
  reads_text?.map (·.getD "")

theorem reads_decimal? : Reads name (·.decimal? name) :=
  reads_field?.map (· >>= Json.decimal?)

theorem reads_integer? : Reads name (·.integer? name) :=
  reads_field?.map (· >>= Json.integer?)

theorem reads_flag : Reads name (·.flag name) :=
  reads_field?.map fun j => (j >>= Json.bool?).getD false

theorem reads_section? {read : Object → α} : Reads name (·.section? name read) :=
  reads_field?.map fun j => (j >>= Json.object?).map read

theorem reads_objects : Reads name (·.objects name) := by
  intro o o' hfield
  simp only [objects, hfield]

/-- A field that is put in decides alone what is read under its name, and nothing else. -/
theorem Reads.insert {read : Object → α} (h : Reads name read) (o : Object) (key : String)
    (j : Json) :
    read (o.insert key j) = if key = name then read [(key, j)] else read o := by
  split
  · next heq =>
    subst heq
    refine h _ _ ?_
    unfold field?
    rw [NameMap.get?_insert, if_pos rfl, NameMap.get?, if_pos rfl]
  · next hne =>
    refine h _ _ ?_
    unfold field?
    rw [NameMap.get?_insert, if_neg hne]

end Reads

end Json.Object

/-! ## The fields of the parts -/

def IndexPoint.replyFields : List (String × Kind) :=
  [("period", .text), ("value", .decimal), ("unit", .text), ("source", .text), ("provider", .text),
   ("currency", .text)]

theorem IndexPoint.ofReply_fit (o : Object) :
    ofReply ((Kind.record replyFields).fitFields o) = ofReply o := by
  simp only [ofReply, mk.injEq]
  exact ⟨text?_fit rfl, decimal?_fit rfl, text?_fit rfl, text?_fit rfl, text?_fit rfl,
    text?_fit rfl⟩

def CostIndex.replyFields : List (String × Kind) :=
  [("series_name", .text), ("jurisdiction", .text), ("provider", .text), ("base_period", .text),
   ("latest_period", .text), ("scalar", .decimal), ("base_index", .record IndexPoint.replyFields),
   ("latest_index", .record IndexPoint.replyFields)]

theorem CostIndex.ofReply_fit (o : Object) :
    ofReply ((Kind.record replyFields).fitFields o) = ofReply o := by
  simp only [ofReply, mk.injEq]
  exact ⟨text?_fit rfl, text?_fit rfl, text?_fit rfl, text?_fit rfl, text?_fit rfl,
    decimal?_fit rfl, map_section?_fit rfl IndexPoint.ofReply_fit,
    map_section?_fit rfl IndexPoint.ofReply_fit⟩

def Metric.replyFields : List (String × Kind) :=
  [("name", .text), ("value", .decimal), ("unit", .text), ("metadata", .metadata)]

theorem Metric.ofReply?_fit (o : Object) :
    ofReply? ((Kind.record replyFields).fitFields o) = ofReply? o := by
  refine congrArg₂ Option.map (funext fun _ => ?_) (text?_fit rfl)
  simp only [mk.injEq, true_and]
  exact ⟨decimal?_fit rfl, text?_fit rfl, metadata_fit rfl⟩

def CoverEntry.replyFields : List (String × Kind) :=
  [("period", .text), ("noi", .decimal), ("debt_service", .decimal), ("dscr", .decimal),
   ("currency", .text)]

theorem CoverEntry.ofReply_fit (o : Object) :
    ofReply ((Kind.record replyFields).fitFields o) = ofReply o := by
  simp only [ofReply, mk.injEq]
  exact ⟨text_fit rfl, decimal?_fit rfl, decimal?_fit rfl, decimal?_fit rfl, text?_fit rfl⟩

def StackSlice.replyFields : List (String × Kind) :=
  [("name", .text), ("source_type", .text), ("category", .text), ("amount", .decimal),
   ("share", .decimal), ("rate", .decimal), ("tranche_order", .integer), ("metadata", .metadata)]

theorem StackSlice.ofReply_fit (o : Object) :
    ofReply ((Kind.record replyFields).fitFields o) = ofReply o := by
  simp only [ofReply, mk.injEq]
  exact ⟨text_fit rfl, text?_fit rfl, text_fit rfl, decimal_fit rfl, decimal?_fit rfl,
    decimal?_fit rfl, integer?_fit rfl, metadata_fit rfl⟩

def CapitalStack.replyFields : List (String × Kind) :=
  [("currency", .text), ("total", .decimal), ("equity_total", .decimal), ("debt_total", .decimal),
   ("other_total", .decimal), ("equity_ratio", .decimal), ("debt_ratio", .decimal),
   ("other_ratio", .decimal), ("loan_to_cost", .decimal), ("weighted_average_debt_rate", .decimal),
   ("slices", .list (.record StackSlice.replyFields))]

theorem CapitalStack.ofReply_fit (o : Object) :
    ofReply ((Kind.record replyFields).fitFields o) = ofReply o := by
  simp only [ofReply, mk.injEq]
  exact ⟨text?_fit rfl, decimal_fit rfl, decimal_fit rfl, decimal_fit rfl, decimal_fit rfl,
    decimal?_fit rfl, decimal?_fit rfl, decimal?_fit rfl, decimal?_fit rfl, decimal?_fit rfl,
    map_objects_fit rfl StackSlice.ofReply_fit⟩

def DrawEntry.replyFields : List (String × Kind) :=
  [("period", .text), ("equity_draw", .decimal), ("debt_draw", .decimal), ("total_draw", .decimal),
   ("cumulative_equity", .decimal), ("cumulative_debt", .decimal), ("outstanding_debt", .decimal)]

theorem DrawEntry.ofReply_fit (o : Object) :
    ofReply ((Kind.record replyFields).fitFields o) = ofReply o := by
  simp only [ofReply, mk.injEq]
  exact ⟨text_fit rfl, decimal_fit rfl, decimal_fit rfl, decimal_fit rfl, decimal_fit rfl,
    decimal_fit rfl, decimal_fit rfl⟩

def DrawSchedule.replyFields : List (String × Kind) :=
  [("currency", .text), ("entries", .list (.record DrawEntry.replyFields)),
   ("total_equity", .decimal), ("total_debt", .decimal), ("peak_debt_balance", .decimal),
   ("final_debt_balance", .decimal)]

theorem DrawSchedule.ofReply_fit (o : Object) :
    ofReply ((Kind.record replyFields).fitFields o) = ofReply o := by
  simp only [ofReply, mk.injEq]
  exact ⟨text?_fit rfl, map_objects_fit rfl DrawEntry.ofReply_fit, decimal?_fit rfl,
    decimal?_fit rfl, decimal?_fit rfl, decimal?_fit rfl⟩

def AssetMix.replyFields : List (String × Kind) :=
  [("total_programme_gfa_sqm", .decimal), ("total_estimated_revenue", .decimal),
   ("total_estimated_capex", .decimal), ("dominant_risk_profile", .text), ("notes", .list .decimal)]

theorem AssetMix.ofReply_fit (o : Object) :
    ofReply ((Kind.record replyFields).fitFields o) = ofReply o := by
  simp only [ofReply, mk.injEq]
  exact ⟨decimal?_fit rfl, decimal?_fit rfl, decimal?_fit rfl, text?_fit rfl, texts_fit rfl⟩

def AssetLine.replyFields : List (String × Kind) :=
  [("asset_type", .text), ("allocation_pct", .decimal), ("nia_sqm", .decimal),
   ("rent_psm_month", .decimal), ("gross_revenue", .decimal), ("operating_cost", .decimal),
   ("noi", .decimal), ("estimated_capex", .decimal), ("payback_years", .decimal),
   ("absorption_months", .decimal), ("risk_level", .text), ("notes", .list .decimal)]

theorem AssetLine.ofReply?_fit (o : Object) :
    ofReply? ((Kind.record replyFields).fitFields o) = ofReply? o := by
  refine congrArg₂ Option.map (funext fun _ => ?_) (text?_fit rfl)
  simp only [mk.injEq, true_and]
  exact ⟨decimal?_fit rfl, decimal?_fit rfl, decimal?_fit rfl, decimal?_fit rfl, decimal?_fit rfl,
    decimal?_fit rfl, decimal?_fit rfl, decimal?_fit rfl, decimal?_fit rfl, text?_fit rfl,
    texts_fit rfl⟩

def FacilityInterest.replyFields : List (String × Kind) :=
  [("name", .text), ("amount", .decimal), ("interest_rate", .decimal),
   ("periods_per_year", .integer), ("capitalised", .flag), ("total_interest", .decimal),
   ("upfront_fee", .decimal), ("exit_fee", .decimal)]

theorem FacilityInterest.ofReply_fit (o : Object) :
    ofReply ((Kind.record replyFields).fitFields o) = ofReply o := by
  simp only [ofReply, mk.injEq]
  exact ⟨text_fit rfl, decimal?_fit rfl, decimal?_fit rfl, integer?_fit rfl, flag_fit rfl,
    decimal?_fit rfl, decimal?_fit rfl, decimal?_fit rfl⟩

def InterestEntry.replyFields : List (String × Kind) :=
  [("period", .text), ("opening_balance", .decimal), ("closing_balance", .decimal),
   ("average_balance", .decimal), ("interest", .decimal)]

theorem InterestEntry.ofReply_fit (o : Object) :
    ofReply ((Kind.record replyFields).fitFields o) = ofReply o := by
  simp only [ofReply, mk.injEq]
  exact ⟨text_fit rfl, decimal?_fit rfl, decimal?_fit rfl, decimal?_fit rfl, decimal?_fit rfl⟩

def LoanInterest.replyFields : List (String × Kind) :=
  [("currency", .text), ("interest_rate", .decimal), ("periods_per_year", .integer),
   ("capitalised", .flag), ("total_interest", .decimal), ("upfront_fee_total", .decimal),
   ("exit_fee_total", .decimal), ("facilities", .list (.record FacilityInterest.replyFields)),
   ("entries", .list (.record InterestEntry.replyFields))]

theorem LoanInterest.ofReply_fit (o : Object) :
    ofReply ((Kind.record replyFields).fitFields o) = ofReply o := by
  simp only [ofReply, mk.injEq]
  exact ⟨text?_fit rfl, decimal?_fit rfl, integer?_fit rfl, flag_fit rfl, decimal?_fit rfl,
    decimal?_fit rfl, decimal?_fit rfl, map_objects_fit rfl FacilityInterest.ofReply_fit,
    map_objects_fit rfl InterestEntry.ofReply_fit⟩

def SensitivityOutcome.replyFields : List (String × Kind) :=
  [("parameter", .text), ("scenario", .text), ("delta_label", .text), ("delta_value", .decimal),
   ("npv", .decimal), ("irr", .decimal), ("escalated_cost", .decimal), ("total_interest", .decimal)]

theorem SensitivityOutcome.ofReply?_fit (o : Object) :
    ofReply? ((Kind.record replyFields).fitFields o) = ofReply? o := by
  refine congrArg₂ Option.map (funext fun _ => ?_) (text?_fit rfl)
  simp only [mk.injEq, true_and]
  exact ⟨text_fit rfl, text?_fit rfl, decimal?_fit rfl, decimal?_fit rfl, decimal?_fit rfl,
    decimal?_fit rfl, decimal?_fit rfl⟩

def SensitivityJob.replyFields : List (String × Kind) :=
  [("scenario_id", .integer), ("task_id", .text), ("status", .text), ("backend", .text),
   ("queued_at", .text)]

theorem SensitivityJob.ofReply_fit (o : Object) :
    ofReply ((Kind.record replyFields).fitFields o) = ofReply o := by
  simp only [ofReply, mk.injEq]
  exact ⟨integer?_fit rfl, text?_fit rfl, congrArg (Option.getD · "unknown") (text?_fit rfl),
    text?_fit rfl, text?_fit rfl⟩

def SensitivityBand.replyFields : List (String × Kind) :=
  [("parameter", .text), ("low", .decimal), ("base", .decimal), ("high", .decimal),
   ("notes", .text)]

theorem SensitivityBand.ofReply?_fit (o : Object) :
    ofReply? ((Kind.record replyFields).fitFields o) = ofReply? o := by
  refine congrArg₂ Option.map (funext fun _ => ?_) (text?_fit rfl)
  simp only [mk.injEq, true_and]
  exact ⟨decimal?_fit rfl, decimal?_fit rfl, decimal?_fit rfl, text?_fit rfl⟩

def LoanFacility.replyFields : List (String × Kind) :=
  [("name", .text), ("amount", .decimal), ("interest_rate", .decimal),
   ("periods_per_year", .integer), ("capitalise_interest", .flag), ("upfront_fee_pct", .decimal),
   ("exit_fee_pct", .decimal), ("reserve_months", .integer), ("amortisation_months", .integer),
   ("metadata", .metadata)]

theorem LoanFacility.ofReply_fit (o : Object) :
    ofReply ((Kind.record replyFields).fitFields o) = ofReply o := by
  simp only [ofReply, mk.injEq]
  exact ⟨text_fit rfl, decimal?_fit rfl, decimal?_fit rfl, integer?_fit rfl, bool?_fit rfl,
    decimal?_fit rfl, decimal?_fit rfl, integer?_fit rfl, integer?_fit rfl, metadata?_fit rfl⟩

def ConstructionLoan.replyFields : List (String × Kind) :=
  [("interest_rate", .decimal), ("periods_per_year", .integer), ("capitalise_interest", .flag),
   ("facilities", .list (.record LoanFacility.replyFields))]

theorem ConstructionLoan.ofReply_fit (o : Object) :
    ofReply ((Kind.record replyFields).fitFields o) = ofReply o := by
  simp only [ofReply, mk.injEq]
  exact ⟨decimal_fit rfl, integer?_fit rfl, flag_fit rfl,
    map_objects_fit rfl LoanFacility.ofReply_fit⟩

/-! ## The fields of a scenario -/

namespace Scenario

def replyFields : List (String × Kind) :=
  [("scenario_id", .integer), ("project_id", .identifier), ("fin_project_id", .identifier),
   ("scenario_name", .text), ("description", .text), ("currency", .text),
   ("escalated_cost", .decimal), ("cost_index", .record CostIndex.replyFields),
   ("results", .list (.record Metric.replyFields)),
   ("dscr_timeline", .list (.record CoverEntry.replyFields)),
   ("capital_stack", .record CapitalStack.replyFields),
   ("drawdown_schedule", .record DrawSchedule.replyFields),
   ("asset_mix_summary", .record AssetMix.replyFields),
   ("asset_breakdowns", .list (.record AssetLine.replyFields)),
   ("construction_loan", .record ConstructionLoan.replyFields),
   ("construction_loan_interest", .record LoanInterest.replyFields),
   ("sensitivity_results", .list (.record SensitivityOutcome.replyFields)),
   ("sensitivity_jobs", .list (.record SensitivityJob.replyFields)),
   ("sensitivity_bands", .list (.record SensitivityBand.replyFields)), ("is_primary", .flag),
   ("is_private", .flag), ("updated_at", .text)]

/-- The kind of a reply. -/
def replyKind : Kind :=
  .record replyFields

theorem ofObject_fit (o : Object) : ofObject (replyKind.fitFields o) = ofObject o := by
  simp only [ofObject, mk.injEq]
  exact ⟨congrArg (Option.getD · 0) (integer?_fit rfl),
    congrArg (fun j => (j.map ProjectKey.ofJson).getD (.raw .null)) (field?_fit rfl),
    congrArg (Option.map ProjectKey.ofJson) (field?_fit rfl), text_fit rfl, text?_fit rfl,
    text_fit rfl, decimal?_fit rfl, map_section?_fit rfl CostIndex.ofReply_fit,
    filterMap_objects_fit rfl Metric.ofReply?_fit, map_objects_fit rfl CoverEntry.ofReply_fit,
    map_section?_fit rfl CapitalStack.ofReply_fit, map_section?_fit rfl DrawSchedule.ofReply_fit,
    map_section?_fit rfl AssetMix.ofReply_fit, filterMap_objects_fit rfl AssetLine.ofReply?_fit,
    map_section?_fit rfl ConstructionLoan.ofReply_fit,
    map_section?_fit rfl LoanInterest.ofReply_fit,
    filterMap_objects_fit rfl SensitivityOutcome.ofReply?_fit,
    map_objects_fit rfl SensitivityJob.ofReply_fit,
    filterMap_objects_fit rfl SensitivityBand.ofReply?_fit, flag_fit rfl, flag_fit rfl,
    text?_fit rfl⟩

/-- A scenario is read from what is of use of a reply. -/
theorem ofReply_eq (p : Json) :
    ofReply p = ofObject (((replyKind.fit? p).bind Json.object?).getD []) := by
  unfold ofReply
  -- a reply that is no object is of no use, and nothing is read of it either
  rw [replyKind, bind_object?_fit]
  cases p.object? with
  | none => rfl
  | some o => exact (ofObject_fit o).symm

theorem ofReply_congr {p p' : Json} (h : replyKind.fit? p = replyKind.fit? p') :
    ofReply p = ofReply p' := by
  rw [ofReply_eq, ofReply_eq, h]

/-- The scenario with the part that is read under that name as it is in another one. -/
def withPart (s : Scenario) (name : String) (t : Scenario) : Scenario :=
  { scenarioId := if name = "scenario_id" then t.scenarioId else s.scenarioId
    projectId := if name = "project_id" then t.projectId else s.projectId
    finProjectId := if name = "fin_project_id" then t.finProjectId else s.finProjectId
    scenarioName := if name = "scenario_name" then t.scenarioName else s.scenarioName
    description := if name = "description" then t.description else s.description
    currency := if name = "currency" then t.currency else s.currency
    escalatedCost := if name = "escalated_cost" then t.escalatedCost else s.escalatedCost
    costIndex := if name = "cost_index" then t.costIndex else s.costIndex
    results := if name = "results" then t.results else s.results
    dscrTimeline := if name = "dscr_timeline" then t.dscrTimeline else s.dscrTimeline
    capitalStack := if name = "capital_stack" then t.capitalStack else s.capitalStack
    drawdownSchedule :=
      if name = "drawdown_schedule" then t.drawdownSchedule else s.drawdownSchedule
    assetMixSummary := if name = "asset_mix_summary" then t.assetMixSummary else s.assetMixSummary
    assetBreakdowns := if name = "asset_breakdowns" then t.assetBreakdowns else s.assetBreakdowns
    constructionLoan :=
      if name = "construction_loan" then t.constructionLoan else s.constructionLoan
    constructionLoanInterest :=
      if name = "construction_loan_interest" then t.constructionLoanInterest
      else s.constructionLoanInterest
    sensitivityResults :=
      if name = "sensitivity_results" then t.sensitivityResults else s.sensitivityResults
    sensitivityJobs := if name = "sensitivity_jobs" then t.sensitivityJobs else s.sensitivityJobs
    sensitivityBands :=
      if name = "sensitivity_bands" then t.sensitivityBands else s.sensitivityBands
    isPrimary := if name = "is_primary" then t.isPrimary else s.isPrimary
    isPrivate := if name = "is_private" then t.isPrivate else s.isPrivate
    updatedAt := if name = "updated_at" then t.updatedAt else s.updatedAt }

/-- A name under which nothing is read is the name of no part. -/
theorem withPart_of_notMem {name : String} (h : name ∉ replyFields.map (·.1)) (s t : Scenario) :
    s.withPart name t = s := by
  simp only [replyFields, List.map_cons, List.map_nil, List.mem_cons, List.not_mem_nil, or_false,
    not_or] at h
  simp only [withPart, h, if_false]

/-- A field that is put in a reply decides alone on the part of its name, and on no other. -/
theorem ofReply_insert (o : Object) (name : String) (j : Json) :
    ofReply (.object (o.insert name j)) =
      (ofReply (.object o)).withPart name (ofReply (.object [(name, j)])) := by
  show ofObject (o.insert name j) = (ofObject o).withPart name (ofObject [(name, j)])
  simp only [ofObject, withPart, mk.injEq]
  exact ⟨(reads_integer?.map (·.getD 0)).insert ..,
    (reads_field?.map fun j => (j.map ProjectKey.ofJson).getD (.raw .null)).insert ..,
    (reads_field?.map (·.map ProjectKey.ofJson)).insert .., reads_text.insert ..,
    reads_text?.insert .., reads_text.insert .., reads_decimal?.insert ..,
    reads_section?.insert .., (reads_objects.map (·.filterMap Metric.ofReply?)).insert ..,
    (reads_objects.map (·.map CoverEntry.ofReply)).insert .., reads_section?.insert ..,
    reads_section?.insert .., reads_section?.insert ..,
    (reads_objects.map (·.filterMap AssetLine.ofReply?)).insert .., reads_section?.insert ..,
    reads_section?.insert ..,
    (reads_objects.map (·.filterMap SensitivityOutcome.ofReply?)).insert ..,
    (reads_objects.map (·.map SensitivityJob.ofReply)).insert ..,
    (reads_objects.map (·.filterMap SensitivityBand.ofReply?)).insert .., reads_flag.insert ..,
    reads_flag.insert .., reads_text?.insert ..⟩

end Scenario

/-- **A malformed part degrades alone.** Another value under a name of a reply changes at most the
part that is read there, and no part if none is. A field with a value that is of no use as what it
is read as, at any depth outside free data and identifiers of projects, is the same as none; so all
nulls outside them can be left out. -/
theorem malformed_part_degrades_alone :
    (∀ (o : Object) (name : String) (j : Json),
      Scenario.ofReply (.object (o.insert name j)) =
          (Scenario.ofReply (.object o)).withPart name (Scenario.ofReply (.object [(name, j)])) ∧
        (name ∉ Scenario.replyFields.map (·.1) →
          Scenario.ofReply (.object (o.insert name j)) = Scenario.ofReply (.object o))) ∧
      (∀ p p' : Json, Scenario.replyKind.Prunes p p' →
        Scenario.ofReply p = Scenario.ofReply p') ∧
      ∀ p : Json, Scenario.ofReply (Scenario.replyKind.withoutNulls p) = Scenario.ofReply p := by
  refine ⟨?_, ?_, ?_⟩
  · intro o name j
    have hinsert := Scenario.ofReply_insert o name j
    refine ⟨hinsert, fun hunread => ?_⟩
    rw [hinsert, Scenario.withPart_of_notMem hunread]
  · intro p p' hprunes
    exact Scenario.ofReply_congr (fit?_eq_of_prunes hprunes)
  · intro p
    exact Scenario.ofReply_congr (fit?_withoutNulls _ p)

/-- The rate of a slice is an array, or null beside free data that hold a null; and a field is put
in that no part is read from. -/
theorem malformed_part_degrades_alone_of_slice :
    let slice : Object := [("metadata", .object [("note", .null)]), ("name", .string "Equity")]
    let reply (slice : Object) : Object :=
      [("capital_stack", .object [("slices", .array [.object slice])])]
    "legacy" ∉ Scenario.replyFields.map (·.1) ∧
      Scenario.ofReply (.object ((reply slice).insert "legacy" (.bool true))) =
        Scenario.ofReply (.object (reply slice)) ∧
      Scenario.ofReply (.object (reply (slice.insert "rate" (.array [])))) =
        Scenario.ofReply (.object (reply slice)) ∧
      Scenario.replyKind.withoutNulls (.object (reply (slice.insert "rate" .null))) =
        .object (reply slice) ∧
      Scenario.ofReply (.object (reply (slice.insert "rate" .null))) =
        Scenario.ofReply (.object (reply slice)) := by
  intro slice reply
  obtain ⟨hpart, hpruned, hnulls⟩ := malformed_part_degrades_alone
  have hunread : "legacy" ∉ Scenario.replyFields.map (·.1) := by decide
  have hrate : ¬Kind.decimal.Accepts (.array []) := nofun
  have hprunes : Scenario.replyKind.Prunes (.object (reply (slice.insert "rate" (.array []))))
      (.object (reply slice)) :=
    @Prunes.inField _ [] "capital_stack" _ _
      (@Prunes.inField _ [] "slices" _ _
        (@Prunes.inItem _ [] [] _ _ (@Prunes.field _ slice "rate" _ hrate)))
  have hwithout : Scenario.replyKind.withoutNulls (.object (reply (slice.insert "rate" .null))) =
      .object (reply slice) := by
    rfl
  refine ⟨hunread, (hpart _ _ _).2 hunread, hpruned _ _ hprunes, hwithout, ?_⟩
  rw [← hwithout, hnulls]

end Proforma
