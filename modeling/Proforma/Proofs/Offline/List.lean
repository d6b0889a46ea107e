import Proforma.Offline.Synthesis

/-!
# Offline scenarios are always there

Rescaling does not depend on the names and identifiers of a scenario, and rescaling the baseline
by the factors of the three variants overflows nowhere. So the offline list exists for every query
(`exists_scenarioList`). No offline scenario has a positive identifier
(`scenarioId_le_zero_of_offline`).
-/

namespace Proforma

/-! ## Names and money -/

/-- The scenario under another identity: what tells it apart, its figures being the same. -/
def Scenario.withIdentity (id : Int64) (project : ProjectKey) (finProject : Option ProjectKey)
    (name : String) (primary : Bool) (s : Scenario) : Scenario :=
  { s with
    scenarioId := id
    projectId := project
    finProjectId := finProject
    scenarioName := name
    isPrimary := primary }

section Identity

variable (id : Int64) (project : ProjectKey) (finProject : Option ProjectKey) (name : String)
  (primary : Bool)

/-- Reconciling looks at the interest only. -/
theorem Scenario.reconcile_withIdentity (s : Scenario) :
    (s.withIdentity id project finProject name primary).reconcile =
      s.reconcile.map (withIdentity id project finProject name primary) := by
  have hsame : (s.withIdentity id project finProject name primary).constructionLoanInterest =
      s.constructionLoanInterest := rfl
  unfold reconcile
  rw [hsame]
  cases s.constructionLoanInterest with
  | none => rfl
  | some interest =>
    simp only
    cases interest.reconcile with
    | error e => rfl
    | ok reconciled => rfl

/-- Rescaling looks at the money only. -/
theorem Scenario.rescale_withIdentity (factor : Amount) (s : Scenario) :
    Scenario.rescale factor (s.withIdentity id project finProject name primary) =
      (Scenario.rescale factor s).map (withIdentity id project finProject name primary) := by
  have hmoney : (s.withIdentity id project finProject name primary).money = s.money := rfl
  have hmap : (s.withIdentity id project finProject name primary).mapMoney factor.rescaleText =
      (s.mapMoney factor.rescaleText).withIdentity id project finProject name primary := rfl
  unfold rescale
  rw [hmoney, hmap, reconcile_withIdentity]
  split <;> rfl

end Identity

namespace Offline

/-! ## The list -/

/-- The scenario that a query shows of a variant, made from the rescaled baseline. -/
def listed (query : ListQuery) (v : Variant) (scaled : Scenario) : Scenario :=
  let s := scaled.withIdentity v.id ((query.projectId.map .ofRef).getD baseline.projectId)
    (query.finProjectId.map .number)
    (match query.scenarioName.bind Text.nonBlank? with
      | some name => name ++ " - " ++ v.name
      | none => v.name)
    (v.id = 0)
  inCurrency query.currency
    { s with results := setResult "irr" v.irr (setResult "npv" v.npv s.results) }

/-- What is made of a variant is made of the rescaled baseline. -/
theorem variantScenario_eq_map (query : ListQuery) (v : Variant) :
    variantScenario query v = (Scenario.rescale v.factor baseline).map (listed query v) := by
  have hbase : variantScenario query v =
      (Scenario.rescale v.factor
        (baseline.withIdentity v.id ((query.projectId.map .ofRef).getD baseline.projectId)
          (query.finProjectId.map .number)
          (match query.scenarioName.bind Text.nonBlank? with
            | some name => name ++ " - " ++ v.name
            | none => v.name)
          (v.id = 0))).map fun s =>
            inCurrency query.currency
              { s with results := setResult "irr" v.irr (setResult "npv" v.npv s.results) } := rfl
  rw [hbase, Scenario.rescale_withIdentity]
  cases Scenario.rescale v.factor baseline with
  | error e => rfl
  | ok scaled => rfl

/-- No amount of the baseline is too large for one of the three factors. -/
theorem exists_rescale_baseline (v : Variant) (h : v ∈ [baseCase, upsideCase, downsideCase]) :
    ∃ scaled, Scenario.rescale v.factor baseline = .ok scaled := by
  have hall : ∀ u ∈ [baseCase, upsideCase, downsideCase],
      (Scenario.rescale u.factor baseline).toOption.isSome = true := by
    decide +kernel
  -- `decide` saw that the scenarios are there; they are too large to be shown
  have hsome := hall v h
  cases hs : Scenario.rescale v.factor baseline with
  | error e => rw [hs] at hsome; cases hsome
  | ok scaled => exact ⟨scaled, rfl⟩

/-- The list shows what is made of the rescaled baselines. -/
theorem scenarioList_eq (query : ListQuery) {base upside downside : Scenario}
    (hbase : Scenario.rescale baseCase.factor baseline = .ok base)
    (hupside : Scenario.rescale upsideCase.factor baseline = .ok upside)
    (hdownside : Scenario.rescale downsideCase.factor baseline = .ok downside) :
    scenarioList query =
      .ok [listed query baseCase base, listed query upsideCase upside,
        listed query downsideCase downside] := by
  simp only [scenarioList, List.mapM_cons, List.mapM_nil, variantScenario_eq_map, hbase, hupside,
    hdownside]
  rfl

/-- **The offline list is always there**, and it shows the three variants in order. -/
theorem exists_scenarioList (query : ListQuery) :
    ∃ base upside downside,
      scenarioList query =
        .ok [listed query baseCase base, listed query upsideCase upside,
          listed query downsideCase downside] := by
  obtain ⟨base, hbase⟩ := exists_rescale_baseline baseCase (by simp)
  obtain ⟨upside, hupside⟩ := exists_rescale_baseline upsideCase (by simp)
  obtain ⟨downside, hdownside⟩ := exists_rescale_baseline downsideCase (by simp)
  exact ⟨base, upside, downside, scenarioList_eq query hbase hupside hdownside⟩

/-! ## Identifiers -/

/-- A change of the currency leaves alone what no relabelling touches. -/
theorem read_inCurrency {α : Type} (read : Scenario → α)
    (h : ∀ (s : Scenario) (code : String), read (s.relabel code) = read s) (code : Option String)
    (s : Scenario) : read (inCurrency code s) = read s := by
  unfold inCurrency
  split
  · exact h s _
  · rfl

theorem listed_scenarioId (query : ListQuery) (v : Variant) (scaled : Scenario) :
    (listed query v scaled).scenarioId = v.id := by
  unfold listed
  exact read_inCurrency (·.scenarioId) (fun _ _ => rfl) _ _

theorem scenarioAt_scenarioId (now : Int64) (study : Study) :
    (scenarioAt now study).scenarioId = idAt now := by
  unfold scenarioAt
  exact read_inCurrency (·.scenarioId) (fun _ _ => rfl) _ _

/-- The currency and the identifier of a scenario are apart. -/
theorem inCurrency_withId (code : Option String) (s : Scenario) (id : Int64) :
    { inCurrency code s with scenarioId := id } = inCurrency code { s with scenarioId := id } := by
  unfold inCurrency
  cases code.bind Text.nonBlank? <;> rfl

/-- The scenario of a study shows the clock in its identifier only. -/
theorem scenarioAt_withoutClock (now other : Int64) (study : Study) :
    { scenarioAt now study with scenarioId := 0 } =
      { scenarioAt other study with scenarioId := 0 } := by
  unfold scenarioAt
  rw [inCurrency_withId, inCurrency_withId]

/-- The identifier of an instant, also of the least one, whose magnitude does not fit. -/
theorem toInt_idAt (now : Int64) :
    (idAt now).toInt = -(max 1 (min now.toInt.natAbs (2 ^ 63 - 1)) : Nat) := by
  unfold idAt
  rw [Int64.toInt_ofInt_of_le] <;> omega

/-- The scenarios that are made offline: of a study at some instant, or as a member of a list. -/
inductive IsOffline : Scenario → Prop where
  | study (now : Int64) (study : Study) : IsOffline (scenarioAt now study)
  | listed {query : ListQuery} {list : List Scenario} {s : Scenario} :
      scenarioList query = .ok list → s ∈ list → IsOffline s

/-- **No offline scenario is taken for a stored one.** -/
theorem scenarioId_le_zero_of_offline {s : Scenario} (h : IsOffline s) : s.scenarioId ≤ 0 := by
  cases h with
  | study now study =>
    rw [scenarioAt_scenarioId, Int64.le_iff_toInt_le, toInt_idAt, Int64.toInt_zero]
    omega
  | @listed query list _ hlist hs =>
    obtain ⟨base, upside, downside, hok⟩ := exists_scenarioList query
    rw [hok] at hlist
    cases hlist
    simp only [List.mem_cons, List.not_mem_nil, or_false] at hs
    rcases hs with rfl | rfl | rfl <;> rw [listed_scenarioId] <;> decide

end Offline

end Proforma
