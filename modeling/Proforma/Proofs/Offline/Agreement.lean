import Proforma.Proofs.Offline.List
import Proforma.Proofs.Scenario.Agreement

/-!
# The offline list agrees with itself

The figures of the baseline agree, and no product of its stack and schedule with one of the three
factors has a fraction of a cent. So every scenario of the offline list agrees with itself, for
any query, and it is in one currency throughout (`list_agrees`).
-/

namespace Proforma

open Amount

/-! ## Labels -/

/-- What a result says besides its value: its name, its unit, and the currency that its free data
name. -/
def Metric.label (m : Metric) : String × Option String × Option Json :=
  (m.name, m.unit, m.metadata.currency?)

/-- The label in another currency. -/
def relabelled (old code : String) (label : String × Option String × Option Json) :
    String × Option String × Option Json :=
  (label.1, if label.2.1 = some old then some code else label.2.1,
    label.2.2.map fun _ => .string code)

theorem Metric.label_relabel (old code : String) (m : Metric) :
    (m.relabel old code).label = relabelled old code m.label := by
  unfold label relabelled
  rw [← currency?_relabelMetadata]
  rfl

theorem Metric.label_mapMoney (f : String → String) (m : Metric) :
    (m.mapMoney f).label = m.label := by
  simp [label]

/-- Reconciling leaves the currency of the interest alone. -/
theorem LoanInterest.currency_of_reconcile {i j : LoanInterest} (h : i.reconcile = .ok j) :
    j.currency = i.currency := by
  rcases cases_of_reconcile h with rfl | ⟨_, _, _, _, _, -, -, -, -, -, rfl⟩ <;> rfl

/-- Rescaling leaves all currency fields alone. -/
theorem Scenario.currencies_of_rescale {factor : Amount} {s s' : Scenario}
    (h : s.rescale factor = .ok s') : s'.currencies = s.currencies := by
  obtain ⟨interest, rfl, hinterest⟩ := exists_of_rescale h
  have hcurrency : interest.toList.map (·.currency) =
      s.constructionLoanInterest.toList.map (·.currency) := by
    generalize s.constructionLoanInterest = before at hinterest ⊢
    cases hinterest with
    | none => rfl
    | some hj =>
      -- the amounts of this interest are rescaled, its currency is not
      have hsame := LoanInterest.currency_of_reconcile hj
      exact congrArg List.singleton hsame
  unfold currencies
  rw [hcurrency]
  simp [mapMoney, CoverEntry.mapMoney, CapitalStack.mapMoney, DrawSchedule.mapMoney,
    Option.toList_map, Function.comp_def]

namespace Offline

/-! ## One code -/

/-- All currencies of an offline scenario are one code. It is in every currency field: of the
scenario, of both readings of the cost index, of the periods of cover, of stack, schedule and
interest. The results that are money have it as their unit and in their free data, and the slices
have it in theirs; the rate of return stays a ratio. -/
structure Labelled (code : String) (s : Scenario) : Prop where
  fields : ∀ currency ∈ s.currencies, currency = some code
  readings : ∃ index ∈ s.costIndex, index.baseIndex ≠ none ∧ index.latestIndex ≠ none
  cover : s.dscrTimeline ≠ []
  results : s.results.map Metric.label =
    [("escalated_cost", some code, some (.string code)),
     ("npv", some code, some (.string code)),
     ("irr", some "ratio", none)]
  slices : ∀ k ∈ s.capitalStack, ∀ slice ∈ k.slices,
    slice.metadata.currency? = some (.string code)

namespace Labelled

variable {code : String} {s : Scenario}

theorem baseline : Labelled baselineCurrency Offline.baseline := by
  constructor <;> decide

/-- A rescaling changes no label. -/
theorem rescale {factor : Amount} {s' : Scenario} (h : Labelled code s)
    (hs' : s.rescale factor = .ok s') : Labelled code s' := by
  have hfields := Scenario.currencies_of_rescale hs'
  obtain ⟨interest, rfl, -⟩ := Scenario.exists_of_rescale hs'
  constructor
  · rw [hfields]
    exact h.fields
  · exact h.readings
  · exact List.map_eq_nil_iff.not.mpr h.cover
  · show (s.results.map (·.mapMoney factor.rescaleText)).map Metric.label = _
    rw [List.map_map, ← h.results]
    exact List.map_congr_left fun m _ => Metric.label_mapMoney _ m
  · intro k' hk' slice' hslice'
    obtain ⟨k, hk, rfl⟩ := Option.map_eq_some_iff.mp hk'
    obtain ⟨slice, hslice, rfl⟩ := List.mem_map.mp hslice'
    exact h.slices k hk slice hslice

/-- In another currency all labels are its code. -/
theorem relabel (new : String) (h : Labelled baselineCurrency s) :
    Labelled new (s.relabel new) := by
  have hold : s.currency = baselineCurrency := Option.some.inj (h.fields _ List.mem_cons_self)
  constructor
  · exact fun currency hmem => s.eq_code_of_mem_currencies new hmem
  · obtain ⟨index, hindex, hbase, hlatest⟩ := h.readings
    refine ⟨index.relabel new, congrArg (Option.map (CostIndex.relabel new)) hindex, ?_, ?_⟩
    · exact Option.map_eq_none_iff.not.mpr hbase
    · exact Option.map_eq_none_iff.not.mpr hlatest
  · exact List.map_eq_nil_iff.not.mpr h.cover
  · show (s.results.map (·.relabel s.currency new)).map Metric.label = _
    rw [List.map_map, hold]
    have hlabels : (s.results.map Metric.label).map (relabelled baselineCurrency new) = _ :=
      congrArg _ h.results
    rw [List.map_map] at hlabels
    -- a ratio is no code of the baseline, so the unit of the rate of return stays
    refine Eq.trans ?_ hlabels
    exact List.map_congr_left fun m _ => Metric.label_relabel _ new m
  · intro k' hk' slice' hslice'
    obtain ⟨k, hk, rfl⟩ := Option.map_eq_some_iff.mp hk'
    obtain ⟨slice, hslice, rfl⟩ := List.mem_map.mp hslice'
    show (relabelMetadata new slice.metadata).currency? = _
    rw [currency?_relabelMetadata, h.slices k hk slice hslice, Option.map_some]

end Labelled

/-! ## The results of a variant -/

theorem label_setResult (name value : String) (results : List Metric) :
    (setResult name value results).map Metric.label = results.map Metric.label := by
  induction results with
  | nil => rfl
  | cons m rest ih =>
    unfold setResult
    split
    · rfl
    · rw [List.map_cons, ih, List.map_cons]

/-- Giving one result a value leaves those of other names alone. -/
theorem find?_setResult {name other : String} (h : Text.sameIgnoringCase name other = false)
    (value : String) (results : List Metric) :
    (setResult name value results).find? (Text.sameIgnoringCase ·.name other) =
      results.find? (Text.sameIgnoringCase ·.name other) := by
  induction results with
  | nil => rfl
  | cons m rest ih =>
    unfold setResult
    split
    · next hname =>
      rw [List.find?_cons_of_neg, List.find?_cons_of_neg] <;> simp [hname, h]
    · rw [List.find?_cons, List.find?_cons, ih]

/-! ## The members of the list -/

/-- The figures of the baseline agree. -/
theorem baseline_agrees : baseline.Agrees capitalStack drawSchedule loanInterest where
  stack := rfl
  schedule := rfl
  interest := rfl
  places := by decide +kernel
  addsUp := by decide +kernel
  draws := by decide +kernel
  tallies := by decide +kernel
  sums := ⟨ofCents 113928750, [ofCents 28482188, ofCents 85446562], by decide +kernel⟩
  cost := rfl
  result := ⟨_, rfl, rfl, rfl⟩

/-- No product of its stack and schedule with one of the factors has a fraction of a cent. -/
theorem baseline_wholeCents : ∀ v ∈ [baseCase, upsideCase, downsideCase],
    ∀ text ∈ capitalStack.money ++ drawSchedule.money, WholeCents v.factor text := by
  decide +kernel

section Members

variable (query : ListQuery) {v : Variant} {scaled : Scenario}

theorem inCurrency_agrees {code : Option String} {s : Scenario} (h : ∃ k d i, s.Agrees k d i) :
    ∃ k d i, (inCurrency code s).Agrees k d i := by
  obtain ⟨k, d, i, h⟩ := h
  unfold inCurrency
  split
  · exact ⟨_, _, _, h.relabel _⟩
  · exact ⟨k, d, i, h⟩

theorem inCurrency_labelled {code : Option String} {s : Scenario}
    (h : Labelled baselineCurrency s) :
    Labelled ((code.bind Text.nonBlank?).getD baselineCurrency) (inCurrency code s) := by
  unfold inCurrency
  cases code.bind Text.nonBlank? with
  | none => exact h
  | some new => exact h.relabel new

theorem listed_isPrimary : (listed query v scaled).isPrimary = decide (v.id = 0) := by
  unfold listed
  exact read_inCurrency (·.isPrimary) (fun _ _ => rfl) _ _

variable (hv : v ∈ [baseCase, upsideCase, downsideCase])
  (h : Scenario.rescale v.factor baseline = .ok scaled)

include hv h in
theorem listed_agrees : ∃ k d i, (listed query v scaled).Agrees k d i := by
  obtain ⟨j, hscaled⟩ := baseline_agrees.rescale (fits_baseline v hv) (baseline_wholeCents v hv) h
  refine inCurrency_agrees ⟨_, _, _, hscaled.of_sections rfl rfl rfl rfl ?_⟩
  -- neither of the two results that get a value is the cost
  refine (find?_setResult ?_ v.irr _).trans (find?_setResult ?_ v.npv _) <;> decide

include h in
theorem listed_labelled :
    Labelled ((query.currency.bind Text.nonBlank?).getD baselineCurrency)
      (listed query v scaled) := by
  have hscaled := Labelled.baseline.rescale h
  refine inCurrency_labelled ⟨hscaled.fields, hscaled.readings, hscaled.cover, ?_, hscaled.slices⟩
  show (setResult "irr" v.irr (setResult "npv" v.npv scaled.results)).map Metric.label = _
  rw [label_setResult, label_setResult]
  exact hscaled.results

end Members

/-- **The offline list agrees with itself.** Whatever is asked for, there are three scenarios with
the identifiers 0, -1 and -2, the first of them primary. In each of them all figures agree, and
all currencies are the code that was asked for without the blanks around it, or the baseline's if
none was. -/
theorem list_agrees (query : ListQuery) :
    ∃ list, scenarioList query = .ok list ∧
      (list.map fun s => (s.scenarioId, s.isPrimary)) = [(0, true), (-1, false), (-2, false)] ∧
      ∀ s ∈ list, (∃ k d i, s.Agrees k d i) ∧
        Labelled ((query.currency.bind Text.nonBlank?).getD baselineCurrency) s := by
  obtain ⟨base, hbase⟩ := exists_rescale_baseline baseCase (by simp)
  obtain ⟨upside, hupside⟩ := exists_rescale_baseline upsideCase (by simp)
  obtain ⟨downside, hdownside⟩ := exists_rescale_baseline downsideCase (by simp)
  refine ⟨_, scenarioList_eq query hbase hupside hdownside, ?_, ?_⟩
  · simp only [List.map_cons, List.map_nil, listed_scenarioId, listed_isPrimary]
    rfl
  · intro s hs
    simp only [List.mem_cons, List.not_mem_nil, or_false] at hs
    rcases hs with rfl | rfl | rfl
    · exact ⟨listed_agrees query (by simp) hbase, listed_labelled query hbase⟩
    · exact ⟨listed_agrees query (by simp) hupside, listed_labelled query hupside⟩
    · exact ⟨listed_agrees query (by simp) hdownside, listed_labelled query hdownside⟩

end Offline

end Proforma
