import Mathlib.Algebra.BigOperators.Ring.List
import Proforma.Proofs.Scenario.Rescaling

/-!
# Sums after rescaling

The parts of a capital stack add up to its total, and a schedule draws the equity and the debt of
its stack. Rescaling rounds every part and every total on its own, so afterwards a sum may be off
its total: `oddStack`, halved, loses a cent. What holds is that a sum is off by no more than the
rounding of its parts and its total (`abs_sum_sub_total_le`), that nothing is off where no product
has a fraction of a cent (`addsUp_of_exact`, `draws_of_exact`), and that equal totals stay equal
(`rescale_keeps_sums`).
-/

namespace Proforma

open Amount

/-! ## Sums that hold -/

/-- The parts of the stack add up, by kind and slice by slice. -/
structure CapitalStack.AddsUp (k : CapitalStack) : Prop where
  kinds : figure k.equityTotal + figure k.debtTotal + figure k.otherTotal = figure k.total
  slices : (k.slices.map fun slice => figure slice.amount).sum = figure k.total

/-- The draws add up to the schedule's totals, which are the equity and the debt of the stack. -/
structure DrawSchedule.Draws (d : DrawSchedule) (k : CapitalStack) : Prop where
  equity : d.totalEquity.map figure = some (d.entries.map fun e => figure e.equityDraw).sum
  debt : d.totalDebt.map figure = some (d.entries.map fun e => figure e.debtDraw).sum
  stackEquity : d.totalEquity.map figure = some (figure k.equityTotal)
  stackDebt : d.totalDebt.map figure = some (figure k.debtTotal)

instance (k : CapitalStack) : Decidable k.AddsUp :=
  decidable_of_iff (_ ∧ _)
    ⟨fun ⟨hkinds, hslices⟩ => ⟨hkinds, hslices⟩, fun h => ⟨h.kinds, h.slices⟩⟩

instance (d : DrawSchedule) (k : CapitalStack) : Decidable (d.Draws k) :=
  decidable_of_iff (_ ∧ _ ∧ _ ∧ _)
    ⟨fun ⟨hequity, hdebt, hstackEquity, hstackDebt⟩ => ⟨hequity, hdebt, hstackEquity, hstackDebt⟩,
      fun h => ⟨h.equity, h.debt, h.stackEquity, h.stackDebt⟩⟩

/-- The parts of the stack add up but for their rounding and that of the total. -/
structure CapitalStack.NearlyAddsUp (k : CapitalStack) : Prop where
  kinds : |figure k.equityTotal + figure k.debtTotal + figure k.otherTotal - figure k.total| ≤
    4 * centsError
  slices : |(k.slices.map fun slice => figure slice.amount).sum - figure k.total| ≤
    (k.slices.length + 1) * centsError

/-- The draws add up but for rounding to the schedule's totals, which are exactly the equity and
the debt of the stack. -/
structure DrawSchedule.NearlyDraws (d : DrawSchedule) (k : CapitalStack) : Prop where
  equity : |(d.entries.map fun e => figure e.equityDraw).sum - figure k.equityTotal| ≤
    (d.entries.length + 1) * centsError
  debt : |(d.entries.map fun e => figure e.debtDraw).sum - figure k.debtTotal| ≤
    (d.entries.length + 1) * centsError
  stackEquity : d.totalEquity.map figure = some (figure k.equityTotal)
  stackDebt : d.totalDebt.map figure = some (figure k.debtTotal)

/-- The text of an amount with two decimals. -/
def TwoPlaces (text : String) : Prop :=
  ∃ a, read? text = some a ∧ a.scale = 2

instance (text : String) : Decidable (TwoPlaces text) :=
  decidable_of_iff ((read? text).map (·.scale) = some 2) Option.map_eq_some_iff

/-- Whether the product of the text's figure with the factor is a whole number of cents. -/
def WholeCents (factor : Amount) (text : String) : Prop :=
  ∃ m : Int, figure text * factor.value = m / 100

theorem wholeCents_iff (factor : Amount) (text : String) :
    (figure text * factor.value * 100).den = 1 ↔ WholeCents factor text := by
  rw [Rat.den_eq_one_iff]
  constructor
  · intro h
    exact ⟨_, (eq_div_iff (by norm_num)).mpr h.symm⟩
  · rintro ⟨m, hm⟩
    rw [hm, div_mul_cancel₀ _ (by norm_num), Rat.num_intCast]

instance (factor : Amount) (text : String) : Decidable (WholeCents factor text) :=
  decidable_of_iff _ (wholeCents_iff factor text)

/-! ## One figure -/

section Figures

variable {factor : Amount} {text : String}

/-- The figure of an amount that is rescaled is that of its product in cents. -/
theorem figure_rescaleText_of_amount {a : Amount} (hread : read? text = some a)
    (hfits : InRange (productCents a factor)) :
    ∃ p, a.mul? factor = some p ∧ figure (factor.rescaleText text) = p.cents / 100 := by
  obtain ⟨p, hp, -⟩ := exists_mul? hfits
  have hscaled : read? (factor.rescaleText text) = some (ofCents p.cents) := by
    rw [read?_rescaleText fun b hb => Option.some.inj (hread.symm.trans hb) ▸ hfits, hread,
      Option.map_some, scaledCents_of_mul? hp]
  exact ⟨p, hp, by rw [figure_of_amount hscaled, value_ofCents (hfits.cents hp)]⟩

/-- A figure that is rescaled is close to its product with the factor. -/
theorem abs_figure_rescaleText_sub_le
    (h : ∀ a ∈ Amount.read? text, InRange (productCents a factor)) :
    |figure (factor.rescaleText text) - figure text * factor.value| ≤ centsError := by
  cases hread : read? text with
  | none =>
    -- a text that is no amount stays, and its figure is zero
    rw [rescaleText_of_none hread, figure_of_none hread, zero_mul, sub_zero, abs_zero]
    unfold centsError
    norm_num
  | some a =>
    obtain ⟨p, hp, hfigure⟩ := figure_rescaleText_of_amount hread (h a hread)
    rw [hfigure, figure_of_amount hread]
    exact abs_cents_sub_product_le (h a hread) hp

/-- One whose product is a whole number of cents is exact. -/
theorem figure_rescaleText_of_whole
    (h : ∀ a ∈ Amount.read? text, InRange (productCents a factor))
    (hwhole : WholeCents factor text) :
    figure (factor.rescaleText text) = figure text * factor.value := by
  cases hread : read? text with
  | none => rw [rescaleText_of_none hread, figure_of_none hread, zero_mul]
  | some a =>
    obtain ⟨m, hm⟩ := hwhole
    obtain ⟨p, hp, hfigure⟩ := figure_rescaleText_of_amount hread (h a hread)
    rw [figure_of_amount hread] at hm ⊢
    rw [hfigure, cents_eq_of_product_eq (h a hread) hp hm, hm]

/-- Equal figures of two decimals are equal after rescaling. -/
theorem figure_rescaleText_congr {other : String} (htext : TwoPlaces text)
    (hother : TwoPlaces other) (h : figure text = figure other)
    (hfits : ∀ a ∈ Amount.read? text, InRange (productCents a factor)) :
    figure (factor.rescaleText text) = figure (factor.rescaleText other) := by
  obtain ⟨a, hread, hscale⟩ := htext
  obtain ⟨b, hreadOther, hscaleOther⟩ := hother
  obtain rfl : a = b := by
    rw [figure_of_amount hread, figure_of_amount hreadOther] at h
    unfold value at h
    rw [hscale, hscaleOther, decimal_two, decimal_two, div_left_inj' (by norm_num),
      Int.cast_inj] at h
    rw [eq_ofCents hscale, eq_ofCents hscaleOther, h]
  have hscaled : read? (factor.rescaleText text) = read? (factor.rescaleText other) := by
    rw [read?_rescaleText hfits, read?_rescaleText (hreadOther.trans hread.symm ▸ hfits), hread,
      hreadOther]
  unfold figure
  rw [hscaled]

/-! ## Sums -/

/-- The errors of the parts add up. -/
theorem abs_sum_sub_sum_le {α : Type} {parts : List α} {given exact : α → ℚ} {error : ℚ}
    (h : ∀ x ∈ parts, |given x - exact x| ≤ error) :
    |(parts.map given).sum - (parts.map exact).sum| ≤ parts.length * error := by
  induction parts with
  | nil => simp
  | cons x rest ih =>
    have hfirst := h x List.mem_cons_self
    have hrest := ih fun y hy => h y (List.mem_cons_of_mem x hy)
    simp only [List.map_cons, List.sum_cons, List.length_cons]
    calc |given x + (rest.map given).sum - (exact x + (rest.map exact).sum)|
        = |(given x - exact x) + ((rest.map given).sum - (rest.map exact).sum)| := by
          congr 1
          ring
      _ ≤ _ := abs_add_le _ _
      _ ≤ ((rest.length + 1 : Nat) : ℚ) * error := by
          push_cast
          linarith

variable {α : Type} {parts : List α} {total : String} (part : α → String)
  (hparts : ∀ x ∈ parts, ∀ a ∈ Amount.read? (part x), InRange (productCents a factor))
  (htotal : ∀ a ∈ Amount.read? total, InRange (productCents a factor))

include hparts

/-- A sum of rescaled figures is close to the product of their sum. -/
theorem abs_sum_rescaleText_sub_le :
    |(parts.map fun x => figure (factor.rescaleText (part x))).sum -
      (parts.map fun x => figure (part x)).sum * factor.value| ≤ parts.length * centsError := by
  rw [← List.sum_map_mul_right]
  exact abs_sum_sub_sum_le fun x hx => abs_figure_rescaleText_sub_le (hparts x hx)

include htotal

/-- A sum that equals its total is off by no more than what rounding does to the parts and the
total. -/
theorem abs_sum_sub_total_le (hsum : (parts.map fun x => figure (part x)).sum = figure total) :
    |(parts.map fun x => figure (factor.rescaleText (part x))).sum -
      figure (factor.rescaleText total)| ≤ (parts.length + 1) * centsError := by
  have hsums := abs_sum_rescaleText_sub_le part hparts
  have hrounded := abs_figure_rescaleText_sub_le htotal
  rw [hsum] at hsums
  rw [abs_sub_comm] at hrounded
  have htriangle := abs_sub_le (parts.map fun x => figure (factor.rescaleText (part x))).sum
    (figure total * factor.value) (figure (factor.rescaleText total))
  linarith

end Figures

/-! ## Exact figures -/

section Exact

variable {factor : Amount} {α : Type} {parts : List α} (part : α → String)

/-- Figures that are multiplied exactly are multiplied together. -/
theorem map_figure_of_exact
    (h : ∀ x ∈ parts, figure (factor.rescaleText (part x)) = figure (part x) * factor.value) :
    (parts.map fun x => figure (factor.rescaleText (part x))) =
      (parts.map fun x => figure (part x)).map (· * factor.value) := by
  rw [List.map_map]
  exact List.map_congr_left h

theorem sum_figure_of_exact
    (h : ∀ x ∈ parts, figure (factor.rescaleText (part x)) = figure (part x) * factor.value) :
    (parts.map fun x => figure (factor.rescaleText (part x))).sum =
      (parts.map fun x => figure (part x)).sum * factor.value := by
  rw [List.map_congr_left h, List.sum_map_mul_right]

theorem option_figure_of_exact {text? : Option String}
    (h : ∀ text ∈ text?, figure (factor.rescaleText text) = figure text * factor.value) :
    (text?.map factor.rescaleText).map figure = (text?.map figure).map (· * factor.value) := by
  cases text? with
  | none => rfl
  | some text => exact congrArg some (h text rfl)

end Exact

/-! ## Stack and schedule -/

section Parts

variable {k : CapitalStack} {d : DrawSchedule}

theorem CapitalStack.amount_mem_money {slice : StackSlice} (h : slice ∈ k.slices) :
    slice.amount ∈ k.money :=
  List.mem_append_right _ (List.mem_map_of_mem h)

theorem CapitalStack.kind_mem_money {text : String}
    (h : text ∈ [k.equityTotal, k.debtTotal, k.otherTotal]) : text ∈ k.money := by
  unfold money
  simp only [List.mem_cons, List.not_mem_nil, or_false] at h
  rcases h with rfl | rfl | rfl <;> simp

theorem CapitalStack.total_mem_money : k.total ∈ k.money := by
  simp [money]

theorem DrawSchedule.entry_mem_money {e : DrawEntry} {text : String} (he : e ∈ d.entries)
    (h : text ∈ e.money) : text ∈ d.money := by
  unfold money
  simp only [List.mem_append]
  exact .inl (.inl (.inl (.inl (List.mem_flatMap.mpr ⟨e, he, h⟩))))

theorem DrawSchedule.draws_mem_money {e : DrawEntry} (h : e ∈ d.entries) :
    e.equityDraw ∈ d.money ∧ e.debtDraw ∈ d.money :=
  ⟨entry_mem_money h (by simp [DrawEntry.money]), entry_mem_money h (by simp [DrawEntry.money])⟩

theorem DrawSchedule.total_mem_money {total? : Option String} {text : String}
    (h : total? ∈ [d.totalEquity, d.totalDebt, d.peakDebtBalance, d.finalDebtBalance])
    (htext : text ∈ total?) : text ∈ d.money := by
  unfold money
  simp only [List.mem_cons, List.not_mem_nil, or_false] at h
  rcases h with rfl | rfl | rfl | rfl <;> simp [Option.mem_def.mp htext]

variable {factor : Amount}

theorem CapitalStack.addsUp_of_exact
    (hexact : ∀ text ∈ k.money, figure (factor.rescaleText text) = figure text * factor.value)
    (h : k.AddsUp) : (k.mapMoney factor.rescaleText).AddsUp := by
  have htotal := hexact _ k.total_mem_money
  constructor
  · show figure (factor.rescaleText k.equityTotal) + figure (factor.rescaleText k.debtTotal) +
      figure (factor.rescaleText k.otherTotal) = figure (factor.rescaleText k.total)
    rw [htotal, ← h.kinds, hexact _ (k.kind_mem_money (by simp)),
      hexact _ (k.kind_mem_money (by simp)), hexact _ (k.kind_mem_money (by simp))]
    ring
  · have hslices := sum_figure_of_exact StackSlice.amount
      fun slice hslice => hexact _ (amount_mem_money hslice)
    rw [h.slices, ← htotal] at hslices
    simpa [mapMoney, Function.comp_def] using hslices

theorem DrawSchedule.draws_of_exact
    (hexact : ∀ text ∈ k.money ++ d.money,
      figure (factor.rescaleText text) = figure text * factor.value)
    (h : d.Draws k) : (d.mapMoney factor.rescaleText).Draws (k.mapMoney factor.rescaleText) := by
  obtain ⟨hstack, hschedule⟩ := List.forall_mem_append.mp hexact
  have hequity : (d.totalEquity.map factor.rescaleText).map figure =
      (d.totalEquity.map figure).map (· * factor.value) :=
    option_figure_of_exact fun text htext => hschedule text (total_mem_money (by simp) htext)
  have hdebt : (d.totalDebt.map factor.rescaleText).map figure =
      (d.totalDebt.map figure).map (· * factor.value) :=
    option_figure_of_exact fun text htext => hschedule text (total_mem_money (by simp) htext)
  refine ⟨hequity.trans ?_, hdebt.trans ?_, hequity.trans ?_, hdebt.trans ?_⟩
  · have hdraws := sum_figure_of_exact DrawEntry.equityDraw
      fun e he => hschedule _ (draws_mem_money he).1
    rw [h.equity, Option.map_some, ← hdraws]
    simp [mapMoney, DrawEntry.mapMoney, Function.comp_def]
  · have hdraws := sum_figure_of_exact DrawEntry.debtDraw
      fun e he => hschedule _ (draws_mem_money he).2
    rw [h.debt, Option.map_some, ← hdraws]
    simp [mapMoney, DrawEntry.mapMoney, Function.comp_def]
  · rw [h.stackEquity, Option.map_some, ← hstack _ (k.kind_mem_money (by simp))]
    simp [CapitalStack.mapMoney]
  · rw [h.stackDebt, Option.map_some, ← hstack _ (k.kind_mem_money (by simp))]
    simp [CapitalStack.mapMoney]

variable
  (hstackFits : ∀ text ∈ k.money, ∀ a ∈ Amount.read? text, InRange (productCents a factor))
  (hscheduleFits : ∀ text ∈ d.money, ∀ a ∈ Amount.read? text, InRange (productCents a factor))

include hstackFits

theorem CapitalStack.nearlyAddsUp_mapMoney (h : k.AddsUp) :
    (k.mapMoney factor.rescaleText).NearlyAddsUp := by
  have htotal := hstackFits _ k.total_mem_money
  constructor
  · have hsum : ([k.equityTotal, k.debtTotal, k.otherTotal].map figure).sum = figure k.total := by
      simpa [add_assoc] using h.kinds
    have hkinds : |([k.equityTotal, k.debtTotal, k.otherTotal].map
          fun text => figure (factor.rescaleText text)).sum - figure (factor.rescaleText k.total)| ≤
        (3 + 1) * centsError :=
      abs_sum_sub_total_le id (fun text htext => hstackFits text (kind_mem_money htext)) htotal hsum
    norm_num [add_assoc] at hkinds
    simpa [mapMoney, add_assoc] using hkinds
  · have hslices : |(k.slices.map fun slice => figure (factor.rescaleText slice.amount)).sum -
          figure (factor.rescaleText k.total)| ≤ (k.slices.length + 1) * centsError :=
      abs_sum_sub_total_le StackSlice.amount
        (fun slice hslice => hstackFits _ (amount_mem_money hslice)) htotal h.slices
    simpa [mapMoney, Function.comp_def] using hslices

/-- A total that both the schedule and the stack give stays the same in both. -/
theorem total_mapMoney {total? : Option String} {other : String}
    (hplaces : ∀ text ∈ total?, TwoPlaces text) (hother : TwoPlaces other)
    (hmem : other ∈ k.money) (h : total?.map figure = some (figure other)) :
    (total?.map factor.rescaleText).map figure = some (figure (factor.rescaleText other)) := by
  obtain ⟨total, rfl, htotal⟩ := Option.map_eq_some_iff.mp h
  rw [Option.map_some, Option.map_some, Option.some.injEq]
  exact (figure_rescaleText_congr hother (hplaces total rfl) htotal.symm
    (hstackFits other hmem)).symm

include hscheduleFits

theorem DrawSchedule.nearlyDraws_mapMoney (h : d.Draws k)
    (hplaces : ∀ text ∈ k.money ++ d.money, TwoPlaces text) :
    (d.mapMoney factor.rescaleText).NearlyDraws (k.mapMoney factor.rescaleText) := by
  have hequityMem : k.equityTotal ∈ k.money := k.kind_mem_money (by simp)
  have hdebtMem : k.debtTotal ∈ k.money := k.kind_mem_money (by simp)
  have hequity : (d.entries.map fun e => figure e.equityDraw).sum = figure k.equityTotal :=
    Option.some.inj (h.equity.symm.trans h.stackEquity)
  have hdebt : (d.entries.map fun e => figure e.debtDraw).sum = figure k.debtTotal :=
    Option.some.inj (h.debt.symm.trans h.stackDebt)
  refine ⟨?_, ?_, ?_, ?_⟩
  · have hdraws : |(d.entries.map fun e => figure (factor.rescaleText e.equityDraw)).sum -
          figure (factor.rescaleText k.equityTotal)| ≤ (d.entries.length + 1) * centsError :=
      abs_sum_sub_total_le DrawEntry.equityDraw
        (fun e he => hscheduleFits _ (draws_mem_money he).1) (hstackFits _ hequityMem) hequity
    simpa [mapMoney, CapitalStack.mapMoney, DrawEntry.mapMoney, Function.comp_def] using hdraws
  · have hdraws : |(d.entries.map fun e => figure (factor.rescaleText e.debtDraw)).sum -
          figure (factor.rescaleText k.debtTotal)| ≤ (d.entries.length + 1) * centsError :=
      abs_sum_sub_total_le DrawEntry.debtDraw
        (fun e he => hscheduleFits _ (draws_mem_money he).2) (hstackFits _ hdebtMem) hdebt
    simpa [mapMoney, CapitalStack.mapMoney, DrawEntry.mapMoney, Function.comp_def] using hdraws
  · exact total_mapMoney hstackFits
      (fun text htext => hplaces text (List.mem_append_right _ (total_mem_money (by simp) htext)))
      (hplaces _ (List.mem_append_left _ hequityMem)) hequityMem h.stackEquity
  · exact total_mapMoney hstackFits
      (fun text htext => hplaces text (List.mem_append_right _ (total_mem_money (by simp) htext)))
      (hplaces _ (List.mem_append_left _ hdebtMem)) hdebtMem h.stackDebt

end Parts

/-- **What rescaling leaves of the sums.** If the parts of the stack add up and the schedule draws
its equity and debt, then after rescaling the totals of schedule and stack are still the same, and
every sum is off its total by the rounding of its parts and the total at the most; none is off if
no product has a fraction of a cent. -/
theorem rescale_keeps_sums (factor : Amount) (s : Scenario) (k : CapitalStack) (d : DrawSchedule)
    (hk : s.capitalStack = some k) (hd : s.drawdownSchedule = some d)
    (hplaces : ∀ text ∈ k.money ++ d.money, TwoPlaces text) (hstack : k.AddsUp)
    (hdraws : d.Draws k) (hfits : s.Fits factor) :
    ∃ (s' : Scenario) (k' : CapitalStack) (d' : DrawSchedule), s.rescale factor = .ok s' ∧
      s'.capitalStack = some k' ∧ s'.drawdownSchedule = some d' ∧
      k'.NearlyAddsUp ∧ d'.NearlyDraws k' ∧
      ((∀ text ∈ k.money ++ d.money, WholeCents factor text) → k'.AddsUp ∧ d'.Draws k') := by
  have hstackFits (text : String) (htext : text ∈ k.money) :=
    hfits.products text (Scenario.mem_money_of_stack hk htext)
  have hscheduleFits (text : String) (htext : text ∈ d.money) :=
    hfits.products text (Scenario.mem_money_of_schedule hd htext)
  obtain ⟨s', hs'⟩ := Scenario.exists_rescale hfits
  obtain ⟨interest, rfl, -⟩ := Scenario.exists_of_rescale hs'
  refine ⟨_, k.mapMoney factor.rescaleText, d.mapMoney factor.rescaleText, hs', ?_, ?_,
    CapitalStack.nearlyAddsUp_mapMoney hstackFits hstack,
    DrawSchedule.nearlyDraws_mapMoney hstackFits hscheduleFits hdraws hplaces, fun hwhole => ?_⟩
  · simp [Scenario.mapMoney, hk]
  · simp [Scenario.mapMoney, hd]
  · have hexact : ∀ text ∈ k.money ++ d.money,
        figure (factor.rescaleText text) = figure text * factor.value := by
      intro text htext
      refine figure_rescaleText_of_whole ?_ (hwhole text htext)
      exact (List.mem_append.mp htext).elim (hstackFits text) (hscheduleFits text)
    exact ⟨CapitalStack.addsUp_of_exact (List.forall_mem_append.mp hexact).1 hstack,
      DrawSchedule.draws_of_exact hexact hdraws⟩

/-- The baseline in the upside case, where no product has a fraction of a cent. -/
theorem rescale_keeps_sums_of_upside :
    (∀ text ∈ Offline.capitalStack.money ++ Offline.drawSchedule.money,
      TwoPlaces text ∧ WholeCents Offline.upsideCase.factor text) ∧
    Offline.capitalStack.AddsUp ∧ Offline.drawSchedule.Draws Offline.capitalStack ∧
    Offline.baseline.Fits Offline.upsideCase.factor ∧
    ∃ (s' : Scenario) (k' : CapitalStack) (d' : DrawSchedule),
      Offline.baseline.rescale Offline.upsideCase.factor = .ok s' ∧
      s'.capitalStack = some k' ∧ s'.drawdownSchedule = some d' ∧ k'.AddsUp ∧ d'.Draws k' := by
  have htexts : ∀ text ∈ Offline.capitalStack.money ++ Offline.drawSchedule.money,
      TwoPlaces text ∧ WholeCents Offline.upsideCase.factor text := by
    decide +kernel
  have hstack : Offline.capitalStack.AddsUp := by decide +kernel
  have hdraws : Offline.drawSchedule.Draws Offline.capitalStack := by decide +kernel
  have hfits := Offline.fits_baseline Offline.upsideCase (by simp)
  obtain ⟨s', k', d', hs', hk', hd', -, -, hexact⟩ :=
    rescale_keeps_sums Offline.upsideCase.factor Offline.baseline Offline.capitalStack
      Offline.drawSchedule rfl rfl (fun text htext => (htexts text htext).1) hstack hdraws hfits
  obtain ⟨hstack', hdraws'⟩ := hexact fun text htext => (htexts text htext).2
  exact ⟨htexts, hstack, hdraws, hfits, s', k', d', hs', hk', hd', hstack', hdraws'⟩

/-! ## A cent that gets lost -/

/-- A half. -/
def half : Amount := ofCents 50

/-- Two equal parts of an odd number of cents. -/
def oddStack : CapitalStack :=
  { Offline.capitalStack with
    total := "20.02"
    equityTotal := "10.01"
    debtTotal := "10.01"
    slices := Offline.capitalStack.slices.map fun slice => { slice with amount := "10.01" } }

/-- The draws of these parts, each in one period. -/
def oddSchedule : DrawSchedule :=
  { Offline.drawSchedule with
    entries :=
      [Offline.drawEntry "M1" "10.01" "0.00" "10.01" "0.00" "0.00",
       Offline.drawEntry "M2" "0.00" "10.01" "10.01" "10.01" "10.01"]
    totalEquity := some "10.01"
    totalDebt := some "10.01"
    peakDebtBalance := some "10.01"
    finalDebtBalance := some "10.01" }

/-- The baseline with them. -/
def oddScenario : Scenario :=
  { Offline.baseline with
    capitalStack := some oddStack
    drawdownSchedule := some oddSchedule }

theorem fits_half : oddScenario.Fits half :=
  ⟨by decide +kernel, by decide +kernel⟩

/-- Halved, both parts are rounded to 5.00, and their total to 10.01. -/
theorem not_addsUp_of_half :
    (∀ text ∈ oddStack.money ++ oddSchedule.money, TwoPlaces text) ∧ oddStack.AddsUp ∧
    oddSchedule.Draws oddStack ∧ 0 ≤ half.value ∧ oddScenario.Fits half ∧
    ∃ (s' : Scenario) (k' : CapitalStack), oddScenario.rescale half = .ok s' ∧
      s'.capitalStack = some k' ∧ ¬ k'.AddsUp := by
  refine ⟨by decide +kernel, by decide +kernel, by decide +kernel, by decide +kernel, fits_half, ?_⟩
  obtain ⟨s', hs'⟩ := Scenario.exists_rescale fits_half
  obtain ⟨interest, rfl, -⟩ := Scenario.exists_of_rescale hs'
  exact ⟨_, oddStack.mapMoney half.rescaleText, hs', rfl, by decide +kernel⟩

end Proforma
