import Proforma.Proofs.Offline.Agreement
import Proforma.Scenario.Record

/-!
# The offline scenario of a study

The offline scenario of a study is the baseline under the names of the caller and in the currency
that was asked for. Its record, with the names of the baseline put back, is the baseline's record in
which the code stands for every text that was the baseline's currency (`record_withBaselineNames`);
so no figure, period or list is another one, and no label of the old currency is left. The names are
those that were asked for, and the identifier tells instants apart (`study_scenario_frame`).
-/

namespace Proforma

namespace Json

/-! ## Texts of a value -/

mutual

/-- The texts that a value holds, names of fields aside. -/
def texts : Json → List String
  | .string s => [s]
  | .array items => textsOfItems items
  | .object fields => textsOfFields fields
  | _ => []

def textsOfItems : List Json → List String
  | [] => []
  | j :: rest => j.texts ++ textsOfItems rest

def textsOfFields : List (String × Json) → List String
  | [] => []
  | (_, j) :: rest => j.texts ++ textsOfFields rest

end

section Replacing

variable (old new : String)

mutual

/-- The value with another text wherever it holds the old one. -/
@[simp] def replaceText : Json → Json
  | .string s => .string (if s = old then new else s)
  | .array items => .array (replaceItems items)
  | .object fields => .object (replaceFields fields)
  | j => j

def replaceItems : List Json → List Json
  | [] => []
  | j :: rest => replaceText j :: replaceItems rest

def replaceFields : List (String × Json) → List (String × Json)
  | [] => []
  | (name, j) :: rest => (name, replaceText j) :: replaceFields rest

end

mutual

/-- Where a text was replaced it is left only if it was replaced by itself. -/
theorem eq_of_mem_texts_replaceText :
    ∀ j : Json, old ∈ (j.replaceText old new).texts → new = old
  | .string s, h => by
    rw [replaceText, texts, List.mem_singleton] at h
    split at h
    · exact h.symm
    · next hs => exact absurd h.symm hs
  | .array items, h => eq_of_mem_texts_replaceItems items h
  | .object fields, h => eq_of_mem_texts_replaceFields fields h
  | .null, h => nomatch h
  | .bool _, h => nomatch h
  | .number _, h => nomatch h

theorem eq_of_mem_texts_replaceItems :
    ∀ items : List Json, old ∈ textsOfItems (replaceItems old new items) → new = old
  | j :: rest, h => by
    rw [replaceItems, textsOfItems, List.mem_append] at h
    rcases h with hj | hrest
    · exact eq_of_mem_texts_replaceText j hj
    · exact eq_of_mem_texts_replaceItems rest hrest

theorem eq_of_mem_texts_replaceFields :
    ∀ fields : List (String × Json), old ∈ textsOfFields (replaceFields old new fields) → new = old
  | (_, j) :: rest, h => by
    rw [replaceFields, textsOfFields, List.mem_append] at h
    rcases h with hj | hrest
    · exact eq_of_mem_texts_replaceText j hj
    · exact eq_of_mem_texts_replaceFields rest hrest

end

@[simp] theorem replaceItems_eq_map (items : List Json) :
    replaceItems old new items = items.map (replaceText old new) := by
  induction items with
  | nil => rfl
  | cons j rest ih => rw [replaceItems, ih, List.map_cons]

theorem replaceText_array (items : List Json) :
    (array items).replaceText old new = .array (items.map (replaceText old new)) := by
  rw [replaceText, replaceItems_eq_map]

theorem replaceFields_insert (m : Object) (name : String) (j : Json) :
    replaceFields old new (NameMap.insert m name j) =
      NameMap.insert (replaceFields old new m) name (j.replaceText old new) := by
  induction m with
  | nil => simp [NameMap.insert, replaceFields]
  | cons field rest ih =>
    obtain ⟨n, k⟩ := field
    simp only [NameMap.insert, replaceFields]
    split
    · rfl
    · split
      · rfl
      · rw [replaceFields, ih]

theorem replaceFields_foldl_insert (fields : List (String × Json)) (m : Object) :
    replaceFields old new (fields.foldl (fun m v => NameMap.insert m v.1 v.2) m) =
      (fields.map fun f => (f.1, f.2.replaceText old new)).foldl
        (fun m v => NameMap.insert m v.1 v.2) (replaceFields old new m) := by
  induction fields generalizing m with
  | nil => rfl
  | cons field rest ih =>
    rw [List.foldl_cons, ih, replaceFields_insert, List.map_cons, List.foldl_cons]

/-- In a record the text is replaced in every part. -/
@[simp] theorem replaceText_record (spelling : Spelling) (fields : List (String × Json)) :
    (Json.record spelling fields).replaceText old new =
      Json.record spelling (fields.map fun f => (f.1, f.2.replaceText old new)) := by
  unfold record ofFields NameMap.ofList
  rw [replaceText, replaceFields_foldl_insert, replaceFields, List.map_map, List.map_map]
  rfl

end Replacing

end Json

namespace Offline

open Json

/-! ## The baseline in another currency -/

section Baseline

variable (spelling : Spelling) (code : String)

theorem record_costIndex : (costIndex.relabel code).record spelling =
    (costIndex.record spelling).replaceText baselineCurrency code := by
  simp [CostIndex.record, IndexPoint.record, costIndex, indexPoint, CostIndex.relabel,
    IndexPoint.relabel, ofOption, baselineCurrency]

theorem relabelMetadata_currencyMetadata :
    relabelMetadata code currencyMetadata =
      currencyMetadata.replaceText baselineCurrency code := rfl

theorem record_results :
    (results.map (·.relabel baselineCurrency code)).map (Metric.record spelling) =
      (results.map (Metric.record spelling)).map (replaceText baselineCurrency code) := by
  -- the free data of the present value also name a discount rate, which stays
  have hrated : relabelMetadata code
      (.ofFields [("currency", .string baselineCurrency), ("discount_rate", .string "0.08")]) =
      replaceText baselineCurrency code
        (.ofFields [("currency", .string baselineCurrency), ("discount_rate", .string "0.08")]) :=
    rfl
  have hnone : relabelMetadata code (.object []) =
      replaceText baselineCurrency code (.object []) := rfl
  simp only [results, List.map_cons, List.map_nil, Metric.relabel, hrated, hnone,
    relabelMetadata_currencyMetadata]
  simp [Metric.record, ofOption, baselineCurrency]

theorem record_dscrTimeline :
    (baseline.dscrTimeline.map (·.relabel code)).map (CoverEntry.record spelling) =
      (baseline.dscrTimeline.map (CoverEntry.record spelling)).map
        (replaceText baselineCurrency code) := by
  simp [baseline, coverEntry, CoverEntry.relabel, CoverEntry.record, ofOption, baselineCurrency]

theorem record_capitalStack : (capitalStack.relabel code).record spelling =
    (capitalStack.record spelling).replaceText baselineCurrency code := by
  simp only [capitalStack, CapitalStack.relabel, List.map_cons, List.map_nil, StackSlice.relabel,
    relabelMetadata_currencyMetadata]
  simp [CapitalStack.record, StackSlice.record, ofOption, ofInt64, baselineCurrency]

theorem record_drawSchedule : (drawSchedule.relabel code).record spelling =
    (drawSchedule.record spelling).replaceText baselineCurrency code := by
  simp [DrawSchedule.record, DrawEntry.record, drawSchedule, drawEntry, DrawSchedule.relabel,
    ofOption, baselineCurrency]

theorem record_assetMix : assetMix.record spelling =
    (assetMix.record spelling).replaceText baselineCurrency code := by
  simp [AssetMix.record, assetMix, ofOption, baselineCurrency]

theorem record_assetLines : assetLines.map (AssetLine.record spelling) =
    (assetLines.map (AssetLine.record spelling)).map (replaceText baselineCurrency code) := by
  simp [AssetLine.record, assetLines, ofOption, baselineCurrency]

theorem record_loanInterest : (loanInterest.relabel code).record spelling =
    (loanInterest.record spelling).replaceText baselineCurrency code := by
  simp [LoanInterest.record, FacilityInterest.record, InterestEntry.record, loanInterest,
    LoanInterest.relabel, ofOption, ofInt64, baselineCurrency]

/-- The record of the baseline in another currency: its own, with the code in every place where it
says its currency. -/
theorem record_relabel_baseline : (baseline.relabel code).record spelling =
    (baseline.record spelling).replaceText baselineCurrency code := by
  have hresults := record_results spelling code
  have hcover := record_dscrTimeline spelling code
  have hlines := record_assetLines spelling code
  unfold Scenario.record
  rw [replaceText_record]
  refine congrArg (Json.record spelling) ?_
  simp only [List.map_cons, List.map_nil, replaceText_array, List.cons.injEq, Prod.mk.injEq,
    true_and, and_true]
  exact ⟨rfl, rfl, rfl, rfl, rfl, rfl, rfl, record_costIndex spelling code,
    congrArg Json.array hresults, congrArg Json.array hcover, record_capitalStack spelling code,
    record_drawSchedule spelling code, record_assetMix spelling code, congrArg Json.array hlines,
    rfl, record_loanInterest spelling code, rfl, rfl, rfl, rfl, rfl, rfl⟩

/-- In its own currency the baseline is itself. -/
theorem relabel_baseline_self : baseline.relabel baselineCurrency = baseline := by
  decide +kernel

end Baseline

/-! ## The scenario of a study -/

theorem nonBlank?_eq (s : String) :
    Text.nonBlank? s = if Text.trim s = "" then none else some (Text.trim s) := by
  unfold Text.nonBlank?
  simp only [String.isEmpty_iff]

/-- The scenario under the identifiers and names of the baseline. -/
def withBaselineNames (s : Scenario) : Scenario :=
  { s with
    scenarioId := baseline.scenarioId
    projectId := baseline.projectId
    finProjectId := baseline.finProjectId
    scenarioName := baseline.scenarioName
    description := baseline.description
    isPrimary := baseline.isPrimary }

/-- Figures do not depend on the names. -/
theorem agrees_of_withBaselineNames {s : Scenario}
    (h : ∃ k d i, (withBaselineNames s).Agrees k d i) : ∃ k d i, s.Agrees k d i := by
  obtain ⟨k, d, i, h⟩ := h
  exact ⟨k, d, i, h.of_sections rfl rfl rfl rfl rfl⟩

/-- Nor do labels. -/
theorem labelled_of_withBaselineNames {code : String} {s : Scenario}
    (h : Labelled code (withBaselineNames s)) : Labelled code s :=
  ⟨h.fields, h.readings, h.cover, h.results, h.slices⟩

/-- The currency and the names of a scenario are apart. -/
theorem inCurrency_withBaselineNames (code : Option String) (s : Scenario) :
    withBaselineNames (inCurrency code s) = inCurrency code (withBaselineNames s) := by
  unfold inCurrency
  cases code.bind Text.nonBlank? <;> rfl

section Study

variable (now : Int64) (study : Study)

/-- The currency that was asked for, or the baseline's. -/
def askedCurrency : String :=
  if Text.trim study.scenario.currency = "" then baselineCurrency
  else Text.trim study.scenario.currency

theorem getD_nonBlank?_currency :
    ((some study.scenario.currency).bind Text.nonBlank?).getD baselineCurrency =
      askedCurrency study := by
  unfold askedCurrency
  rw [Option.bind_some, nonBlank?_eq]
  split <;> rfl

theorem scenarioAt_withBaselineNames :
    withBaselineNames (scenarioAt now study) = baseline.relabel (askedCurrency study) := by
  have hsame : withBaselineNames (scenarioAt now study) =
      inCurrency (some study.scenario.currency) baseline := by
    unfold scenarioAt
    rw [inCurrency_withBaselineNames]
    rfl
  rw [hsame, ← getD_nonBlank?_currency]
  unfold inCurrency
  cases (some study.scenario.currency).bind Text.nonBlank? with
  | none => exact relabel_baseline_self.symm
  | some code => rfl

/-- But for the names and the currency, all is as in the baseline. -/
theorem withoutCurrencies_withBaselineNames :
    (withBaselineNames (scenarioAt now study)).withoutCurrencies = baseline.withoutCurrencies := by
  rw [scenarioAt_withBaselineNames, Scenario.withoutCurrencies_relabel]

/-- But for the names, the record is the baseline's in the currency that was asked for. -/
theorem record_withBaselineNames (spelling : Spelling) :
    (withBaselineNames (scenarioAt now study)).record spelling =
      (baseline.record spelling).replaceText baselineCurrency (askedCurrency study) := by
  rw [scenarioAt_withBaselineNames, record_relabel_baseline]

theorem scenarioAt_scenarioName :
    (scenarioAt now study).scenarioName =
      if Text.trim study.scenario.name = "" then baseline.scenarioName
      else Text.trim study.scenario.name := by
  unfold scenarioAt
  rw [read_inCurrency (·.scenarioName) fun _ _ => rfl]
  simp only [nameOr, nonBlank?_eq]
  split <;> rfl

theorem scenarioAt_description :
    (scenarioAt now study).description =
      match study.scenario.description with
      | some d => if Text.trim d = "" then baseline.description else some (Text.trim d)
      | none => baseline.description := by
  unfold scenarioAt
  rw [read_inCurrency (·.description) fun _ _ => rfl]
  cases study.scenario.description with
  | none => simp only [Option.bind_none, Option.none_or]
  | some d =>
    by_cases hblank : Text.trim d = ""
    · simp only [Option.bind_some, nonBlank?_eq, if_pos hblank, Option.none_or]
    · simp only [Option.bind_some, nonBlank?_eq, if_neg hblank, Option.some_or]

theorem scenarioAt_agrees : ∃ k d i, (scenarioAt now study).Agrees k d i := by
  refine agrees_of_withBaselineNames ?_
  rw [scenarioAt_withBaselineNames]
  exact ⟨_, _, _, baseline_agrees.relabel (askedCurrency study)⟩

theorem scenarioAt_labelled : Labelled (askedCurrency study) (scenarioAt now study) := by
  refine labelled_of_withBaselineNames ?_
  rw [scenarioAt_withBaselineNames]
  exact Labelled.baseline.relabel (askedCurrency study)

/-- Instants after the epoch have different identifiers. -/
theorem idAt_injective {now other : Int64} (hnow : 0 < now) (hother : 0 < other)
    (h : idAt now = idAt other) : now = other := by
  have hids := congrArg Int64.toInt h
  rw [toInt_idAt, toInt_idAt] at hids
  rw [Int64.lt_iff_toInt_lt, Int64.toInt_zero] at hnow hother
  have hnowSmall := now.toInt_lt
  have hotherSmall := other.toInt_lt
  rw [← Int64.toInt_inj]
  omega

/-- **The offline scenario of a study is the baseline but for what was asked for.** Its identifier
is negative and tells instants after the epoch apart; name and description are those of the study
without the blanks around them, and the baseline's where they are blank. Apart from names and
currency it is the baseline, and its record says the currency of the study where the baseline's says
its own; so all figures agree, every currency is that of the study, and no text says the baseline's
unless it was asked for. -/
theorem study_scenario_frame :
    (-(2 ^ 63 - 1) ≤ (scenarioAt now study).scenarioId.toInt ∧
      (scenarioAt now study).scenarioId.toInt ≤ -1) ∧
    (∀ (other : Int64) (another : Study), 0 < now → 0 < other → now ≠ other →
      (scenarioAt now study).scenarioId ≠ (scenarioAt other another).scenarioId) ∧
    ((scenarioAt now study).scenarioName =
      if Text.trim study.scenario.name = "" then baseline.scenarioName
      else Text.trim study.scenario.name) ∧
    ((scenarioAt now study).description =
      match study.scenario.description with
      | some d => if Text.trim d = "" then baseline.description else some (Text.trim d)
      | none => baseline.description) ∧
    (withBaselineNames (scenarioAt now study)).withoutCurrencies = baseline.withoutCurrencies ∧
    (∀ spelling, (withBaselineNames (scenarioAt now study)).record spelling =
      (baseline.record spelling).replaceText baselineCurrency (askedCurrency study)) ∧
    (∃ k d i, (scenarioAt now study).Agrees k d i) ∧
    Labelled (askedCurrency study) (scenarioAt now study) ∧
    (askedCurrency study ≠ baselineCurrency → ∀ spelling,
      baselineCurrency ∉ ((withBaselineNames (scenarioAt now study)).record spelling).texts) := by
  have hid := scenarioAt_scenarioId now study
  refine ⟨?_, ?_, scenarioAt_scenarioName now study, scenarioAt_description now study,
    withoutCurrencies_withBaselineNames now study, record_withBaselineNames now study,
    scenarioAt_agrees now study, scenarioAt_labelled now study, ?_⟩
  · rw [hid, toInt_idAt]
    omega
  · intro other another hnow hother hne hsame
    rw [hid, scenarioAt_scenarioId] at hsame
    exact hne (idAt_injective hnow hother hsame)
  · intro hasked spelling hmem
    rw [record_withBaselineNames] at hmem
    exact hasked (eq_of_mem_texts_replaceText _ _ _ hmem)

/-- A study in a currency that is named like another unit of the baseline, at the first instant and
at the last. -/
theorem study_scenario_frame_of_ratio :
    let study : Study := ⟨.text "n/a", none, some 3, ⟨"\u3000", some " for review\n", "\tratio ",
      none, ⟨"1", "2024-Q1", "s", "SG", none⟩, ⟨"0.08", []⟩, none, [], [], [], none, []⟩⟩
    let first := scenarioAt 1 study
    first.scenarioId ≠ (scenarioAt Int64.maxValue study).scenarioId ∧
      first.scenarioName = baseline.scenarioName ∧ first.description = some "for review" ∧
      Labelled "ratio" first ∧
      baselineCurrency ∉ ((withBaselineNames first).record .camel).texts := by
  intro study first
  have hcurrency : askedCurrency study = "ratio" := by decide
  obtain ⟨-, hids, hname, hdescription, -, -, -, hlabelled, hgone⟩ := study_scenario_frame 1 study
  rw [hcurrency] at hlabelled hgone
  have hblank : Text.trim study.scenario.name = "" := by decide
  refine ⟨hids _ study (by decide) (by decide) (by decide), hname.trans (if_pos hblank), ?_,
    hlabelled, hgone (by decide) .camel⟩
  rw [hdescription]
  decide

end Study

end Offline

end Proforma
