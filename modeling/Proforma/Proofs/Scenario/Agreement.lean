import Proforma.Proofs.Scenario.Balance
import Proforma.Proofs.Scenario.Currency
import Proforma.Proofs.Scenario.Slots

/-!
# Figures that agree

The sections of a scenario repeat each other's figures: the schedule draws what the stack holds,
its columns are kept by adding up, the periods' interest sums to the total, and the cost is the
total of the stack. That agreement does not depend on the currency (`Agrees.relabel`), and a
rescaling in which no product has a fraction of a cent keeps it (`Agrees.rescale`); the interest
may have such fractions, since it is reconciled.
-/

namespace Proforma

open Amount

/-! ## Agreement -/

/-- The schedule is kept by adding up: the total of an entry is the sum of its draws, the
cumulative columns are the running sums of the draws, and the debt that is outstanding in the end
is the peak, the final balance and all debt. -/
structure DrawSchedule.Tallies (d : DrawSchedule) : Prop where
  totals : ∀ e ∈ d.entries, figure e.totalDraw = figure e.equityDraw + figure e.debtDraw
  cumulativeEquity : (d.entries.map fun e => figure e.cumulativeEquity) =
    (d.entries.map fun e => figure e.equityDraw).partialSums.tail
  cumulativeDebt : (d.entries.map fun e => figure e.cumulativeDebt) =
    (d.entries.map fun e => figure e.debtDraw).partialSums.tail
  outstanding : (d.entries.getLast?.map fun e => figure e.outstandingDebt) = d.totalDebt.map figure
  peak : d.peakDebtBalance.map figure = d.totalDebt.map figure
  balance : d.finalDebtBalance.map figure = d.totalDebt.map figure

instance (d : DrawSchedule) : Decidable d.Tallies :=
  decidable_of_iff (_ ∧ _ ∧ _ ∧ _ ∧ _ ∧ _)
    ⟨fun ⟨htotals, hequity, hdebt, houtstanding, hpeak, hbalance⟩ =>
      ⟨htotals, hequity, hdebt, houtstanding, hpeak, hbalance⟩,
      fun h => ⟨h.totals, h.cumulativeEquity, h.cumulativeDebt, h.outstanding, h.peak, h.balance⟩⟩

/-- There are periods, the interest of all of them is given, and it sums to the total. -/
def LoanInterest.Sums (i : LoanInterest) : Prop :=
  ∃ (total : Amount) (amounts : List Amount), i.total? = some total ∧ amounts ≠ [] ∧
    i.entries.map InterestEntry.amount? = amounts.map some ∧
    (amounts.map value).sum = total.value

/-- The figures of stack, schedule and interest agree, and the cost and the result of that name
are the total of the stack. -/
structure Scenario.Agrees (s : Scenario) (k : CapitalStack) (d : DrawSchedule) (i : LoanInterest) :
    Prop where
  stack : s.capitalStack = some k
  schedule : s.drawdownSchedule = some d
  interest : s.constructionLoanInterest = some i
  places : ∀ text ∈ k.money ++ d.money, TwoPlaces text
  addsUp : k.AddsUp
  draws : d.Draws k
  tallies : d.Tallies
  sums : i.Sums
  cost : s.escalatedCost = some k.total
  result : ∃ m, s.result? "escalated_cost" = some m ∧ m.isMoney ∧ m.value = s.escalatedCost

/-! ## Under a rescaling -/

theorem scanl_map_mul (l : List ℚ) (start c : ℚ) :
    (l.map (· * c)).scanl (· + ·) (start * c) = (l.scanl (· + ·) start).map (· * c) := by
  induction l generalizing start with
  | nil => rfl
  | cons a rest ih =>
    simp only [List.map_cons, List.scanl_cons, ← add_mul, ih]

/-- Running sums are multiplied together with what they sum. -/
theorem partialSums_map_mul (l : List ℚ) (c : ℚ) :
    (l.map (· * c)).partialSums = l.partialSums.map (· * c) := by
  have hscan := scanl_map_mul l 0 c
  rwa [zero_mul] at hscan

section Exact

variable {factor : Amount} {d : DrawSchedule}
  (hexact : ∀ text ∈ d.money, figure (factor.rescaleText text) = figure text * factor.value)

include hexact

/-- A column that holds running sums of another holds them after an exact rescaling. -/
theorem column_of_exact {cumulative draw : DrawEntry → String}
    (hcumulative : ∀ e ∈ d.entries, cumulative e ∈ d.money)
    (hdraw : ∀ e ∈ d.entries, draw e ∈ d.money)
    (h : (d.entries.map fun e => figure (cumulative e)) =
      (d.entries.map fun e => figure (draw e)).partialSums.tail) :
    (d.entries.map fun e => figure (factor.rescaleText (cumulative e))) =
      (d.entries.map fun e => figure (factor.rescaleText (draw e))).partialSums.tail := by
  rw [map_figure_of_exact cumulative fun e he => hexact _ (hcumulative e he),
    map_figure_of_exact draw fun e he => hexact _ (hdraw e he), h, partialSums_map_mul,
    List.map_tail]

theorem DrawSchedule.tallies_of_exact (h : d.Tallies) :
    (d.mapMoney factor.rescaleText).Tallies := by
  have hentry (e : DrawEntry) (he : e ∈ d.entries) (text : String) (htext : text ∈ e.money) :=
    hexact text (entry_mem_money he htext)
  have hdebt : (d.totalDebt.map factor.rescaleText).map figure =
      (d.totalDebt.map figure).map (· * factor.value) :=
    option_figure_of_exact fun text htext => hexact text (total_mem_money (by simp) htext)
  -- every equation is linear in the figures, so the factor comes out of both sides
  constructor
  · intro e' he'
    obtain ⟨e, he, rfl⟩ := List.mem_map.mp he'
    show figure (factor.rescaleText e.totalDraw) =
      figure (factor.rescaleText e.equityDraw) + figure (factor.rescaleText e.debtDraw)
    rw [hentry e he _ (by simp [DrawEntry.money]), hentry e he _ (by simp [DrawEntry.money]),
      hentry e he _ (by simp [DrawEntry.money]), h.totals e he, add_mul]
  · have hcolumn := column_of_exact hexact
      (fun e he => entry_mem_money he (by simp [DrawEntry.money]))
      (fun e he => (draws_mem_money he).1) h.cumulativeEquity
    simpa [mapMoney, DrawEntry.mapMoney, Function.comp_def] using hcolumn
  · have hcolumn := column_of_exact hexact
      (fun e he => entry_mem_money he (by simp [DrawEntry.money]))
      (fun e he => (draws_mem_money he).2) h.cumulativeDebt
    simpa [mapMoney, DrawEntry.mapMoney, Function.comp_def] using hcolumn
  · show (((d.entries.map (·.mapMoney factor.rescaleText)).getLast?.map
      fun e => figure e.outstandingDebt) = (d.totalDebt.map factor.rescaleText).map figure)
    rw [hdebt, ← h.outstanding, List.getLast?_map, Option.map_map, Option.map_map]
    refine Option.map_congr fun e he => ?_
    have houtstanding := hentry e (List.mem_of_getLast? he) e.outstandingDebt
      (by simp [DrawEntry.money])
    simpa only [Function.comp_apply, DrawEntry.mapMoney] using houtstanding
  · refine Eq.trans ?_ hdebt.symm
    rw [← h.peak]
    exact option_figure_of_exact fun text htext => hexact text (total_mem_money (by simp) htext)
  · refine Eq.trans ?_ hdebt.symm
    rw [← h.balance]
    exact option_figure_of_exact fun text htext => hexact text (total_mem_money (by simp) htext)

end Exact

theorem twoPlaces_rescaleText {factor : Amount} {text : String} (h : TwoPlaces text)
    (hfits : ∀ a ∈ Amount.read? text, InRange (productCents a factor)) :
    TwoPlaces (factor.rescaleText text) := by
  obtain ⟨a, hread, -⟩ := h
  have hscaled := read?_rescaleText hfits
  rw [hread, Option.map_some] at hscaled
  exact ⟨_, hscaled, ofCents_scale (inRange_scaledCents (hfits a hread))⟩

namespace Scenario

variable {s s' : Scenario} {k : CapitalStack} {d : DrawSchedule} {i : LoanInterest}
  {factor : Amount}

/-- What is changed in every result but its name is changed in the one that is looked up. -/
theorem find?_map_of_name {g : Metric → Metric} (hname : ∀ m, (g m).name = m.name)
    (results : List Metric) (name : String) :
    (results.map g).find? (Text.sameIgnoringCase ·.name name) =
      (results.find? (Text.sameIgnoringCase ·.name name)).map g := by
  rw [List.find?_map]
  congr 2
  funext m
  rw [Function.comp_apply, hname]

/-- After rescaling, the interest sums to the total whatever was rounded. -/
theorem sums_of_rescale (hi : s.constructionLoanInterest = some i) (hsums : i.Sums)
    (hfits : s.Fits factor) (hs' : s.rescale factor = .ok s') :
    ∃ j, s'.constructionLoanInterest = some j ∧ j.Sums := by
  obtain ⟨total, amounts, htotal, hne, hamounts, -⟩ := hsums
  rw [← List.dropLast_concat_getLast hne] at hamounts
  obtain ⟨j, rest, hrescale, htotal', hamounts', hsum⟩ :=
    exists_settled hi htotal hamounts hfits
  rw [hs', Except.ok.injEq] at hrescale
  exact ⟨j, by rw [hrescale], _, _, htotal', by simp, hamounts', hsum⟩

/-- A rescaling in which no product of stack and schedule has a fraction of a cent keeps the
agreement. -/
theorem Agrees.rescale (h : s.Agrees k d i) (hfits : s.Fits factor)
    (hwhole : ∀ text ∈ k.money ++ d.money, WholeCents factor text)
    (hs' : s.rescale factor = .ok s') :
    ∃ j, s'.Agrees (k.mapMoney factor.rescaleText) (d.mapMoney factor.rescaleText) j := by
  -- the interest may be rounded, but it is reconciled; stack and schedule are not rounded at all
  obtain ⟨j, hj, hsums⟩ := sums_of_rescale h.interest h.sums hfits hs'
  obtain ⟨interest, rfl, -⟩ := exists_of_rescale hs'
  have hproducts (text : String) (htext : text ∈ k.money ++ d.money) :
      ∀ a ∈ Amount.read? text, InRange (productCents a factor) :=
    hfits.products text ((List.mem_append.mp htext).elim (mem_money_of_stack h.stack)
      (mem_money_of_schedule h.schedule))
  have hexact (text : String) (htext : text ∈ k.money ++ d.money) :
      figure (factor.rescaleText text) = figure text * factor.value :=
    figure_rescaleText_of_whole (hproducts text htext) (hwhole text htext)
  obtain ⟨hstack, hschedule⟩ := List.forall_mem_append.mp hexact
  refine ⟨j, ?_, ?_, hj, ?_, CapitalStack.addsUp_of_exact hstack h.addsUp,
    DrawSchedule.draws_of_exact hexact h.draws, DrawSchedule.tallies_of_exact hschedule h.tallies,
    hsums, ?_, ?_⟩
  · simp [mapMoney, h.stack]
  · simp [mapMoney, h.schedule]
  · rw [CapitalStack.money_mapMoney, DrawSchedule.money_mapMoney, ← List.map_append]
    intro text' htext'
    obtain ⟨text, htext, rfl⟩ := List.mem_map.mp htext'
    exact twoPlaces_rescaleText (h.places text htext) (hproducts text htext)
  · simp [mapMoney, h.cost, CapitalStack.mapMoney]
  · -- the result is money, so its value is rescaled as the cost is
    obtain ⟨m, hm, hmoney, hvalue⟩ := h.result
    refine ⟨m.mapMoney factor.rescaleText, ?_, ?_, ?_⟩
    · show (s.results.map (·.mapMoney factor.rescaleText)).find? _ = _
      rw [find?_map_of_name (Metric.mapMoney_name _)]
      exact congrArg (Option.map _) hm
    · rw [Metric.isMoney_mapMoney]
      exact hmoney
    · rw [Metric.mapMoney_value _ _ hmoney, hvalue]
      rfl

end Scenario

/-! ## In another currency -/

/-- A result is money if its free data name a currency. -/
theorem Metric.isMoney_eq (m : Metric) : m.isMoney = m.metadata.currency?.isSome := by
  unfold isMoney Json.currency?
  cases m.metadata with
  | object fields => rfl
  | _ => rfl

/-- Free data that name a currency still name one in another currency. -/
@[simp] theorem Metric.isMoney_relabel (old code : String) (m : Metric) :
    (m.relabel old code).isMoney = m.isMoney := by
  rw [isMoney_eq, isMoney_eq]
  show (relabelMetadata code m.metadata).currency?.isSome = _
  rw [currency?_relabelMetadata, Option.isSome_map]

theorem CapitalStack.addsUp_relabel {k : CapitalStack} (code : String) (h : k.AddsUp) :
    (k.relabel code).AddsUp :=
  ⟨h.kinds, by simpa [relabel, StackSlice.relabel, Function.comp_def] using h.slices⟩

theorem CapitalStack.money_relabel (code : String) (k : CapitalStack) :
    (k.relabel code).money = k.money := by
  simp [money, relabel, StackSlice.relabel, Function.comp_def]

namespace Scenario

variable {s t : Scenario} {k : CapitalStack} {d : DrawSchedule} {i : LoanInterest}

/-- The figures do not depend on the currency. -/
theorem Agrees.relabel (code : String) (h : s.Agrees k d i) :
    (s.relabel code).Agrees (k.relabel code) (d.relabel code) (i.relabel code) where
  stack := congrArg (Option.map (CapitalStack.relabel code)) h.stack
  schedule := congrArg (Option.map (DrawSchedule.relabel code)) h.schedule
  interest := congrArg (Option.map (LoanInterest.relabel code)) h.interest
  places := by
    rw [CapitalStack.money_relabel]
    exact h.places
  addsUp := CapitalStack.addsUp_relabel code h.addsUp
  draws := ⟨h.draws.equity, h.draws.debt, h.draws.stackEquity, h.draws.stackDebt⟩
  tallies := ⟨h.tallies.totals, h.tallies.cumulativeEquity, h.tallies.cumulativeDebt,
    h.tallies.outstanding, h.tallies.peak, h.tallies.balance⟩
  sums := h.sums
  cost := h.cost
  result := by
    obtain ⟨m, hm, hmoney, hvalue⟩ := h.result
    refine ⟨m.relabel s.currency code, ?_, ?_, hvalue⟩
    · show (s.results.map (·.relabel s.currency code)).find? _ = _
      have hname (m : Metric) : (m.relabel s.currency code).name = m.name := rfl
      rw [find?_map_of_name hname]
      exact congrArg (Option.map _) hm
    · rw [Metric.isMoney_relabel]
      exact hmoney

/-- Nor do they depend on anything but the sections and the result that repeats the cost. -/
theorem Agrees.of_sections (h : s.Agrees k d i) (hk : t.capitalStack = s.capitalStack)
    (hd : t.drawdownSchedule = s.drawdownSchedule)
    (hi : t.constructionLoanInterest = s.constructionLoanInterest)
    (hcost : t.escalatedCost = s.escalatedCost)
    (hresult : t.result? "escalated_cost" = s.result? "escalated_cost") : t.Agrees k d i where
  stack := hk.trans h.stack
  schedule := hd.trans h.schedule
  interest := hi.trans h.interest
  places := h.places
  addsUp := h.addsUp
  draws := h.draws
  tallies := h.tallies
  sums := h.sums
  cost := hcost.trans h.cost
  result := by
    rw [hresult, hcost]
    exact h.result

end Scenario

end Proforma
