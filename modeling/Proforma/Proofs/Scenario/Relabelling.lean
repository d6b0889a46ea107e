import Proforma.Offline.Baseline
import Proforma.Proofs.Scenario.Currency

/-!
# Relabelling twice

A second relabelling puts its code in every place where the first put its own, so the first leaves
no trace there. Units are the exception: a result's unit is changed only where it is the currency
of the scenario, and after the first relabelling that is the first code. A result that is measured
in the first code, though it was not in the currency, is then taken for one that is
(`Metric.relabel_relabel_iff`). If there is no such result, or the first relabelling changed
nothing of the currency, only the last relabelling counts (`relabel_twice`).
-/

namespace Proforma

variable (first second : String)

/-! ## Where only the last code counts -/

/-- Free data that named a currency name the last code, whatever they named before. -/
@[simp] theorem relabelMetadata_relabelMetadata (j : Json) :
    relabelMetadata second (relabelMetadata first j) = relabelMetadata second j := by
  cases h : j.currency? with
  | none => rw [relabelMetadata_of_none h first]
  | some named =>
    have hfirst : (relabelMetadata first j).currency? = some (.string first) := by
      rw [currency?_relabelMetadata, h, Option.map_some]
    obtain ⟨fields, rfl, hinsert⟩ := exists_relabelMetadata_of_some h
    obtain ⟨inserted, hsame, hagain⟩ := exists_relabelMetadata_of_some hfirst
    rw [hinsert first, Json.object.injEq] at hsame
    rw [hagain second, ← hsame, NameMap.insert_insert, hinsert second]

theorem CostIndex.relabel_relabel (i : CostIndex) :
    (i.relabel first).relabel second = i.relabel second := by
  simp [relabel, IndexPoint.relabel, Function.comp_def]

theorem CapitalStack.relabel_relabel (k : CapitalStack) :
    (k.relabel first).relabel second = k.relabel second := by
  simp [relabel, StackSlice.relabel, Function.comp_def]

/-! ## Units -/

/-- **Where the first code leaves a trace**: in a result that was measured in it, unless it was the
currency then or is the second code. -/
theorem Metric.relabel_relabel_iff (old : String) (m : Metric) :
    (m.relabel old first).relabel first second = m.relabel old second ↔
      first = second ∨ first = old ∨ m.unit ≠ some first := by
  simp only [relabel, relabelMetadata_relabelMetadata, mk.injEq, true_and, and_true]
  by_cases hold : m.unit = some old
  · -- the unit was the currency, so either relabelling changes it
    simp only [hold, if_true]
    refine iff_of_true trivial ?_
    by_cases hfirst : first = old
    · exact .inr (.inl hfirst)
    · exact .inr (.inr fun h => hfirst (Option.some.inj h).symm)
  · simp only [if_neg hold]
    by_cases hunit : m.unit = some first
    · -- the second relabelling takes the unit for the currency
      have hfirst : first ≠ old := by
        rintro rfl
        exact hold hunit
      simp only [hunit, if_true, Option.some.injEq, ne_eq, not_true_eq_false, or_false, hfirst]
      exact eq_comm
    · simp [hunit]

/-! ## The whole scenario -/

/-- Two relabellings leave what the second alone leaves, but for the results. -/
theorem Scenario.relabel_relabel (s : Scenario) :
    (s.relabel first).relabel second =
      { s.relabel second with
        results := s.results.map fun m => (m.relabel s.currency first).relabel first second } := by
  unfold relabel
  simp only [Option.map_map, List.map_map, Function.comp_def, CostIndex.relabel_relabel,
    CapitalStack.relabel_relabel]
  rfl

/-- **Relabelling twice is relabelling once**, exactly if the first relabelling is the second, or
is to the currency that the scenario has, or no result was measured in its code. So a relabelling
is not changed by repeating it, and of two codes the last counts if the first is no unit. -/
theorem relabel_twice (s : Scenario) :
    (∀ first second, (s.relabel first).relabel second = s.relabel second ↔
      first = second ∨ first = s.currency ∨ ∀ m ∈ s.results, m.unit ≠ some first) ∧
    (∀ code, (s.relabel code).relabel code = s.relabel code) ∧
    ∀ first, (∀ m ∈ s.results, m.unit ≠ some first) →
      ∀ second, (s.relabel first).relabel second = s.relabel second := by
  have htwice (first second : String) : (s.relabel first).relabel second = s.relabel second ↔
      first = second ∨ first = s.currency ∨ ∀ m ∈ s.results, m.unit ≠ some first := by
    have hresults : (s.relabel first).relabel second = s.relabel second ↔
        (s.results.map fun m => (m.relabel s.currency first).relabel first second) =
          s.results.map (·.relabel s.currency second) := by
      rw [Scenario.relabel_relabel]
      constructor
      · exact congrArg Scenario.results
      · intro h
        rw [h]
        rfl
    rw [hresults, List.map_inj_left]
    simp only [Metric.relabel_relabel_iff]
    -- neither of the first two conditions depends on the result
    by_cases hsame : first = second
    · simp [hsame]
    · by_cases hcurrency : first = s.currency
      · simp [hcurrency]
      · simp [hsame, hcurrency]
  exact ⟨htwice, fun code => (htwice code code).mpr (.inl rfl),
    fun first hfirst second => (htwice first second).mpr (.inr (.inr hfirst))⟩

/-- The baseline has a rate of return, which is measured as a ratio and in no currency. Relabelled
to a currency of that name and then to dollars, it is measured in dollars; relabelled to euros and
then to dollars, it is not. -/
theorem relabel_twice_of_ratio :
    (Offline.baseline.relabel "ratio").relabel "USD" ≠ Offline.baseline.relabel "USD" ∧
    (∀ m ∈ Offline.baseline.results, m.unit ≠ some "EUR") ∧
    (Offline.baseline.relabel "EUR").relabel "USD" = Offline.baseline.relabel "USD" := by
  obtain ⟨htwice, -, hlast⟩ := relabel_twice Offline.baseline
  have heuro : ∀ m ∈ Offline.baseline.results, m.unit ≠ some "EUR" := by decide
  refine ⟨fun h => ?_, heuro, hlast "EUR" heuro "USD"⟩
  rcases (htwice "ratio" "USD").mp h with hsame | hcurrency | hunits
  · revert hsame
    decide
  · revert hcurrency
    decide
  · revert hunits
    decide

end Proforma
