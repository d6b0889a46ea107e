import Proforma.Proofs.Scenario.Agreement

/-!
# Rescaling and relabelling are independent

Rescaling changes amounts and looks at which results name a currency; relabelling changes the
currencies that are named and looks at no amount. A result that names a currency still names one
after relabelling (`Metric.isMoney_relabel`), so the money is the same before and after
(`Scenario.money_relabel`), and in every part either change can be made first. Reconciling the
interest looks at amounts only. So the two orders give the same scenario, and where an amount
becomes too large both report it (`rescale_relabel`).
-/

namespace Proforma

variable (f : String → String) (old code : String)

/-! ## Relabelling leaves the money alone -/

theorem Metric.money_relabel (m : Metric) : (m.relabel old code).money = m.money := by
  unfold money
  rw [isMoney_relabel]
  rfl

/-- The money of a scenario is the same in every currency. -/
theorem Scenario.money_relabel (s : Scenario) : (s.relabel code).money = s.money := by
  have hresults : (s.results.map (·.relabel s.currency code)).flatMap Metric.money =
      s.results.flatMap Metric.money := by
    rw [List.flatMap_map]
    simp only [Metric.money_relabel]
  have hstack : (s.capitalStack.map (·.relabel code)).toList.flatMap CapitalStack.money =
      s.capitalStack.toList.flatMap CapitalStack.money := by
    rw [Option.toList_map, List.flatMap_map]
    simp only [CapitalStack.money_relabel]
  have hcover : (s.dscrTimeline.map (·.relabel code)).flatMap CoverEntry.money =
      s.dscrTimeline.flatMap CoverEntry.money := List.flatMap_map ..
  have hschedule : (s.drawdownSchedule.map (·.relabel code)).toList.flatMap DrawSchedule.money =
      s.drawdownSchedule.toList.flatMap DrawSchedule.money := by
    rw [Option.toList_map]
    exact List.flatMap_map ..
  have hinterest :
      (s.constructionLoanInterest.map (·.relabel code)).toList.flatMap LoanInterest.money =
        s.constructionLoanInterest.toList.flatMap LoanInterest.money := by
    rw [Option.toList_map]
    exact List.flatMap_map ..
  unfold money relabel
  simp only [hresults, hcover, hstack, hschedule, hinterest]

/-! ## Either change can be made first -/

theorem Metric.mapMoney_relabel (m : Metric) :
    (m.relabel old code).mapMoney f = (m.mapMoney f).relabel old code := by
  unfold mapMoney
  rw [isMoney_relabel]
  split <;> rfl

theorem CapitalStack.mapMoney_relabel (k : CapitalStack) :
    (k.relabel code).mapMoney f = (k.mapMoney f).relabel code := by
  simp [mapMoney, relabel, StackSlice.relabel, Function.comp_def]

/-- The money of a scenario can be changed before or after its currency. -/
theorem Scenario.mapMoney_relabel (s : Scenario) :
    (s.relabel code).mapMoney f = (s.mapMoney f).relabel code := by
  unfold mapMoney relabel
  simp only [Option.map_map, List.map_map, Function.comp_def, Metric.mapMoney_relabel,
    CapitalStack.mapMoney_relabel]
  rfl

/-! ## Reconciling -/

/-- Reconciling does not look at the currency of the interest, and leaves it alone. -/
theorem LoanInterest.reconcile_relabel (i : LoanInterest) :
    (i.relabel code).reconcile = i.reconcile.map (·.relabel code) := by
  have htotal : (i.relabel code).totalInterest = i.totalInterest := rfl
  have hentries : (i.relabel code).entries = i.entries := rfl
  unfold reconcile
  rw [htotal, hentries]
  split
  · next total last _ _ =>
    cases sumInterest .zero i.entries.dropLast with
    | error overflow => rfl
    | ok earlier? =>
      cases earlier? with
      | none => rfl
      | some earlier =>
        cases last.interest.bind Amount.read? with
        | none => rfl
        | some _ =>
          simp only
          cases total.sub? earlier <;> rfl
  · rfl

theorem Scenario.reconcile_relabel (s : Scenario) :
    (s.relabel code).reconcile = s.reconcile.map (·.relabel code) := by
  have hinterest : (s.relabel code).constructionLoanInterest =
      s.constructionLoanInterest.map (·.relabel code) := rfl
  unfold reconcile
  rw [hinterest]
  cases s.constructionLoanInterest with
  | none => rfl
  | some i =>
    simp only [Option.map_some, LoanInterest.reconcile_relabel]
    cases i.reconcile <;> rfl

/-- **Rescaling and relabelling are independent.** Whichever is done first, for every scenario,
code and factor the outcome is the same: the same scenario, or the same overflow. -/
theorem rescale_relabel (factor : Amount) (code : String) (s : Scenario) :
    (s.relabel code).rescale factor = (s.rescale factor).map (·.relabel code) := by
  unfold Scenario.rescale
  rw [Scenario.money_relabel, Scenario.mapMoney_relabel, Scenario.reconcile_relabel]
  split <;> rfl

end Proforma
