import Proforma.Proofs.Amount.Order
import Proforma.Proofs.Scenario.Agreement
import Proforma.Proofs.Scenario.NormalForm

/-!
# Charges under a rescaling

A product of what is not negative is not negative, and neither is its rounding, so rescaling makes
no credit of any amount that it scales on its own. The interest of the last period is not scaled
but left over: it is the total less the other periods, each of them rounded, and it takes up all
of their errors (`abs_rest_sub_le`). With two periods or fewer it is still a charge, because the
larger of two amounts stays the larger one. With three it need not be: `smallInterest`, halved,
ends with a credit of a cent. What holds of any number of periods is that the last is off its
exact product by no more than the rounding of the total and the other periods
(`rescale_keeps_charges`).
-/

namespace Proforma

open Amount

/-! ## Charges -/

/-- An amount that is written in cents and is not negative. -/
structure Charge (text : String) : Prop where
  places : TwoPlaces text
  nonneg : 0 ≤ figure text

instance (text : String) : Decidable (Charge text) :=
  decidable_of_iff (_ ∧ _) ⟨fun ⟨hplaces, hnonneg⟩ => ⟨hplaces, hnonneg⟩,
    fun h => ⟨h.places, h.nonneg⟩⟩

namespace Amount

theorem value_toCents_nonneg {a : Amount} (h : 0 ≤ a.value) : 0 ≤ a.toCents.value := by
  rw [value_nonneg_iff] at h ⊢
  obtain ⟨hcoefficient, -, -⟩ := fit?_spec (by decide) (fit?_toCents a).1
  rw [hcoefficient]
  exact rescaled_nonneg h _ _

variable {factor : Amount} {text : String}

/-- What is not negative does not become negative, whether or not it fits in cents. -/
theorem figure_rescaleText_nonneg (hfactor : 0 ≤ factor.value) (h : 0 ≤ figure text) :
    0 ≤ figure (factor.rescaleText text) := by
  unfold rescaleText rescaleText?
  cases hread : read? text with
  | none => exact h
  | some a =>
    have hvalue : 0 ≤ a.value := by rwa [figure_of_amount hread] at h
    simp only
    cases hp : a.mul? factor with
    | none => exact h
    | some p =>
      rw [Option.map_some, Option.getD_some, figure_of_amount (read?_text _)]
      exact value_toCents_nonneg (value_nonneg_of_mul? hfactor hvalue hp)

/-- The larger of two charges stays the larger one. -/
theorem figure_rescaleText_mono {other : String} (hfactor : 0 ≤ factor.value) (htext : Charge text)
    (hother : TwoPlaces other) (h : figure text ≤ figure other)
    (hfits : ∀ a ∈ read? text, InRange (productCents a factor))
    (hfitsOther : ∀ a ∈ read? other, InRange (productCents a factor)) :
    figure (factor.rescaleText text) ≤ figure (factor.rescaleText other) := by
  obtain ⟨⟨a, hread, hscale⟩, hnonneg⟩ := htext
  obtain ⟨b, hreadOther, hscaleOther⟩ := hother
  obtain ⟨p, hp, hfigure⟩ := figure_rescaleText_of_amount hread (hfits a hread)
  obtain ⟨q, hq, hfigureOther⟩ := figure_rescaleText_of_amount hreadOther (hfitsOther b hreadOther)
  rw [figure_of_amount hread] at hnonneg h
  rw [figure_of_amount hreadOther] at h
  have hcents := cents_le_cents
    (value_le_of_mul? hfactor hnonneg h (hscale.trans hscaleOther.symm) hp hq)
  rw [hfigure, hfigureOther]
  exact div_le_div_of_nonneg_right (by exact_mod_cast hcents) (by norm_num)

end Amount

/-- What is read after rescaling is the figure of the text. -/
theorem value_scaledCents {factor a : Amount} {text : String} (hread : read? text = some a)
    (hfits : ∀ a ∈ read? text, InRange (productCents a factor)) :
    (ofCents (factor.scaledCents a)).value = figure (factor.rescaleText text) := by
  have hscaled := read?_rescaleText hfits
  rw [hread, Option.map_some] at hscaled
  exact (figure_of_amount hscaled).symm

theorem Charge.rescaleText {factor : Amount} {text : String} (h : Charge text)
    (hfactor : 0 ≤ factor.value) (hfits : ∀ a ∈ read? text, InRange (productCents a factor)) :
    Charge (factor.rescaleText text) :=
  ⟨twoPlaces_rescaleText h.places hfits, figure_rescaleText_nonneg hfactor h.nonneg⟩

/-! ## What is left over -/

section Rest

variable {scaled : Amount → Amount} {total last rest : Amount} {front : List Amount} {c error : ℚ}
  (hsum : ((front ++ [last]).map value).sum = total.value)
  (hsettled : ((front.map scaled ++ [rest]).map value).sum = (scaled total).value)

include hsum hsettled

/-- The rest takes up the errors of the total and of all others. -/
theorem abs_rest_sub_le
    (herror : ∀ a ∈ total :: front, |(scaled a).value - a.value * c| ≤ error) :
    |rest.value - last.value * c| ≤ (front.length + 1) * error := by
  obtain ⟨htotal, hfront⟩ := List.forall_mem_cons.mp herror
  have hothers := abs_sum_sub_sum_le hfront
  rw [List.sum_map_mul_right] at hothers
  simp only [List.map_append, List.sum_append, List.map_singleton, List.sum_singleton,
    List.map_map] at hsum hsettled
  have hrest : rest.value - last.value * c =
      ((scaled total).value - total.value * c) -
        ((front.map fun a => (scaled a).value).sum - (front.map value).sum * c) := by
    rw [← hsum, ← hsettled]
    simp only [Function.comp_def]
    ring
  calc |rest.value - last.value * c|
      ≤ |(scaled total).value - total.value * c| +
          |(front.map fun a => (scaled a).value).sum - (front.map value).sum * c| := by
        rw [hrest]
        exact abs_sub _ _
    _ ≤ error + front.length * error := add_le_add htotal hothers
    _ = (front.length + 1) * error := by ring

/-- Beside one other at the most, the rest is not negative as long as the order is kept. -/
theorem rest_nonneg_of_few (hfew : front.length ≤ 1) (hlast : 0 ≤ last.value)
    (hzero : 0 ≤ (scaled total).value)
    (hmono : ∀ a ∈ front, a.value ≤ total.value → (scaled a).value ≤ (scaled total).value) :
    0 ≤ rest.value := by
  match front with
  | [] =>
    rw [List.map_nil, List.nil_append, List.map_singleton, List.sum_singleton] at hsettled
    rwa [hsettled]
  | [a] =>
    simp only [List.map_cons, List.map_nil, List.cons_append, List.nil_append, List.sum_cons,
      List.sum_nil, add_zero] at hsum hsettled
    have horder := hmono a List.mem_cons_self (by linarith)
    linarith

end Rest

/-! ## The texts of the interest -/

namespace LoanInterest

/-- The texts that reconciling reads: the total and the interest of the periods. -/
def interestTexts (i : LoanInterest) : List String :=
  i.totalInterest.toList ++ i.entries.flatMap (·.interest.toList)

/-- The interest of the periods sums to the total, if there are periods and all of it is given. -/
def SumsIfGiven (i : LoanInterest) : Prop :=
  ∀ (total : Amount) (amounts : List Amount), i.total? = some total → amounts ≠ [] →
    i.entries.map InterestEntry.amount? = amounts.map some →
    (amounts.map value).sum = total.value

/-- There is nothing to reconcile: an amount is missing, or there is no period at all. -/
def Incomplete (i : LoanInterest) : Prop :=
  i.total? = none ∨ i.entries = [] ∨ none ∈ i.entries.map InterestEntry.amount?

variable {i : LoanInterest}

theorem SumsIfGiven.of_sums (h : i.Sums) : i.SumsIfGiven := by
  obtain ⟨total, amounts, htotal, -, hamounts, hsum⟩ := h
  intro other others hother _ hothers
  obtain rfl : total = other := Option.some.inj (htotal.symm.trans hother)
  obtain rfl : amounts = others :=
    List.map_injective_iff.mpr (Option.some_injective _) (hamounts.symm.trans hothers)
  exact hsum

theorem interestTexts_subset : i.interestTexts ⊆ i.money := by
  intro text htext
  rcases List.mem_append.mp htext with htotal | hentry
  · exact mem_money_of_total (Option.mem_toList.mp htotal)
  · obtain ⟨e, he, hinterest⟩ := List.mem_flatMap.mp hentry
    exact mem_money_of_entry he (Option.mem_toList.mp hinterest)

theorem exists_text_of_total {total : Amount} (h : i.total? = some total) :
    ∃ text ∈ i.interestTexts, Amount.read? text = some total := by
  obtain ⟨text, htext, hread⟩ := Option.bind_eq_some_iff.mp h
  exact ⟨text, List.mem_append_left _ (Option.mem_toList.mpr htext), hread⟩

theorem exists_text_of_amount {amounts : List Amount} {a : Amount}
    (h : i.entries.map InterestEntry.amount? = amounts.map some) (ha : a ∈ amounts) :
    ∃ text ∈ i.interestTexts, Amount.read? text = some a := by
  have hmem : some a ∈ i.entries.map InterestEntry.amount? := by
    rw [h]
    exact List.mem_map_of_mem ha
  obtain ⟨e, he, hamount⟩ := List.mem_map.mp hmem
  obtain ⟨text, htext, hread⟩ := Option.bind_eq_some_iff.mp hamount
  exact ⟨text, List.mem_append_right _
    (List.mem_flatMap.mpr ⟨e, he, Option.mem_toList.mpr htext⟩), hread⟩

/-- The interest of the last period is the last amount. -/
theorem lastInterest_of_amounts {front : List Amount} {last : Amount}
    (h : i.entries.map InterestEntry.amount? = (front ++ [last]).map some) :
    ∃ text, i.lastInterest? = some text ∧ Amount.read? text = some last := by
  have hlast := congrArg List.getLast? h
  rw [List.getLast?_map, List.map_append, List.map_singleton, List.getLast?_concat] at hlast
  obtain ⟨e, he, hamount⟩ := Option.map_eq_some_iff.mp hlast
  obtain ⟨text, htext, hread⟩ := Option.bind_eq_some_iff.mp hamount
  refine ⟨text, ?_, hread⟩
  rw [lastInterest?, he, Option.bind_some, htext]

/-- If there is something to reconcile, there are a total and amounts with a last one. -/
theorem incomplete_or_amounts (i : LoanInterest) :
    i.Incomplete ∨ ∃ total front last, i.total? = some total ∧
      i.entries.map InterestEntry.amount? = (front ++ [last]).map some := by
  by_cases hincomplete : i.Incomplete
  · exact .inl hincomplete
  · unfold Incomplete at hincomplete
    rw [not_or, not_or] at hincomplete
    obtain ⟨htotal, hne, hall⟩ := hincomplete
    obtain ⟨total, htotal⟩ := Option.ne_none_iff_exists'.mp htotal
    have hamounts := map_some_headAmounts hall
    have hamountsNe : headAmounts i.entries ≠ [] := by
      intro hnil
      rw [hnil] at hamounts
      exact hne (List.map_eq_nil_iff.mp hamounts)
    exact .inr ⟨total, (headAmounts i.entries).dropLast, (headAmounts i.entries).getLast hamountsNe,
      htotal, by rw [List.dropLast_concat_getLast, ← hamounts]⟩

/-- What is incomplete is rescaled and not reconciled. -/
theorem Incomplete.eq_of_reconcile {factor : Amount} {j : LoanInterest} (h : i.Incomplete)
    (hj : (i.mapMoney factor.rescaleText).reconcile = .ok j) :
    j = i.mapMoney factor.rescaleText := by
  rcases h with htotal | hnil | hentry
  · exact eq_of_reconcile_of_missing (missing_mapMoney factor (.inl htotal)) hj
  · rcases cases_of_reconcile hj with hsame | ⟨-, -, -, earlier, last, -, hentries, -⟩
    · exact hsame
    · simp [mapMoney, hnil] at hentries
  · exact eq_of_reconcile_of_missing (missing_mapMoney factor (.inr hentry)) hj

theorem lastInterest_mem_texts {text : String} (h : i.lastInterest? = some text) :
    text ∈ i.interestTexts := by
  obtain ⟨e, he, hinterest⟩ := Option.bind_eq_some_iff.mp h
  exact List.mem_append_right _
    (List.mem_flatMap.mpr ⟨e, List.mem_of_getLast? he, Option.mem_toList.mpr hinterest⟩)

end LoanInterest

/-! ## The last period after a rescaling -/

namespace Scenario

variable {factor : Amount} {s s' : Scenario} {i : LoanInterest}

/-- Where there is nothing to reconcile, the last period is scaled on its own. -/
theorem lastInterest_of_incomplete (hi : s.constructionLoanInterest = some i)
    (h : i.Incomplete) (hs' : s.rescale factor = .ok s') :
    s'.lastInterest? = i.lastInterest?.map factor.rescaleText := by
  obtain ⟨interest, rfl, hinterest⟩ := exists_of_rescale hs'
  rw [hi] at hinterest
  cases hinterest with
  | some hj =>
    rw [h.eq_of_reconcile hj]
    exact LoanInterest.lastInterest_mapMoney _ i

/-- Otherwise the last period has the rest. -/
theorem lastInterest_of_rescale {total last : Amount} {front : List Amount}
    (hi : s.constructionLoanInterest = some i) (htotal : i.total? = some total)
    (hamounts : i.entries.map InterestEntry.amount? = (front ++ [last]).map some)
    (hfits : s.Fits factor) (hs' : s.rescale factor = .ok s') :
    ∃ text' rest, s'.lastInterest? = some text' ∧ Amount.read? text' = some rest ∧
      (((front.map fun a => ofCents (factor.scaledCents a)) ++ [rest]).map value).sum =
        (ofCents (factor.scaledCents total)).value := by
  obtain ⟨j, rest, hrescale, -, hamounts', hsettled⟩ := exists_settled hi htotal hamounts hfits
  obtain ⟨text', htext', hread'⟩ := LoanInterest.lastInterest_of_amounts hamounts'
  rw [hs', Except.ok.injEq] at hrescale
  exact ⟨text', rest, by rw [hrescale]; exact htext', hread', hsettled⟩

/-- The interest of a rescaled scenario was interest before. -/
theorem exists_interest_of_rescale {j : LoanInterest} (hs' : s.rescale factor = .ok s')
    (hj : s'.constructionLoanInterest = some j) :
    ∃ i, s.constructionLoanInterest = some i ∧
      (i.mapMoney factor.rescaleText).reconcile = .ok j := by
  obtain ⟨interest, rfl, hinterest⟩ := exists_of_rescale hs'
  obtain rfl : interest = some j := hj
  cases hi : s.constructionLoanInterest with
  | none =>
    rw [hi] at hinterest
    cases hinterest
  | some i =>
    rw [hi] at hinterest
    cases hinterest with
    | some hreconcile => exact ⟨i, rfl, hreconcile⟩

theorem inCents_of_rescale (hfits : s.Fits factor) (hs' : s.rescale factor = .ok s') :
    ∀ j ∈ s'.constructionLoanInterest, j.InCents := by
  intro j hj
  obtain ⟨i, hi, hreconcile⟩ := exists_interest_of_rescale hs' hj
  have hproducts (text : String) (htext : text ∈ i.money) :=
    hfits.products text (mem_money_of_interest hi htext)
  exact LoanInterest.InCents.reconcile (inCents_of_products hproducts) (hfits.sums i hi) hreconcile

/-- The interest of the last period has two places whether or not it was reconciled. -/
theorem twoPlaces_lastInterest (hplaces : ∀ text ∈ s.money, TwoPlaces text)
    (hfits : s.Fits factor) (hs' : s.rescale factor = .ok s') :
    ∀ text' ∈ s'.lastInterest?, TwoPlaces text' := by
  intro text' htext'
  rcases (lastInterest_of_reconcile (reconcile_of_rescale hs')).2 with rfl | ⟨rest, hset⟩
  · rw [lastInterest_mapMoney] at htext'
    obtain ⟨text, htext, rfl⟩ := Option.map_eq_some_iff.mp htext'
    have hmem := mem_money_iff.mpr (.inr htext)
    exact twoPlaces_rescaleText (hplaces text hmem) (hfits.products text hmem)
  · obtain ⟨j, hj, hlast⟩ := Option.bind_eq_some_iff.mp hset
    obtain ⟨e, he, hinterest⟩ := Option.bind_eq_some_iff.mp hlast
    have hamount : e.amount? = some rest.toCents := by
      rw [InterestEntry.amount?, hinterest, Option.bind_some, read?_text]
    have htwo := (inCents_of_rescale hfits hs' j hj).entries e (List.mem_of_getLast? he) _ hamount
    rw [hset, Option.mem_some_iff] at htext'
    exact htext' ▸ ⟨rest.toCents, read?_text _, htwo⟩

/-! ## Near the exact product, and not negative -/

/-- Where nothing is left over, the interest of the last period is not negative. -/
theorem lastInterest_nonneg_of_incomplete (hi : s.constructionLoanInterest = some i)
    (h : i.Incomplete) (hfactor : 0 ≤ factor.value)
    (hcharges : ∀ text ∈ i.interestTexts, Charge text) (hs' : s.rescale factor = .ok s') :
    ∀ text' ∈ s'.lastInterest?, 0 ≤ figure text' := by
  intro text' htext'
  rw [lastInterest_of_incomplete hi h hs'] at htext'
  obtain ⟨text, htext, rfl⟩ := Option.map_eq_some_iff.mp htext'
  exact figure_rescaleText_nonneg hfactor
    (hcharges text (LoanInterest.lastInterest_mem_texts htext)).nonneg

section Last

variable (hi : s.constructionLoanInterest = some i) (hsums : i.SumsIfGiven)
  (hfits : s.Fits factor) (hs' : s.rescale factor = .ok s')

include hi hsums hfits hs'

/-- The interest of the last period is off its exact product by no more than what is lost in the
total and in all periods. -/
theorem lastInterest_rel_of_error (error : ℚ)
    (herror : ∀ text ∈ i.interestTexts,
      |figure (factor.rescaleText text) - figure text * factor.value| ≤ error) :
    Option.Rel (fun text text' =>
        |figure text' - figure text * factor.value| ≤ i.entries.length * error)
      s.lastInterest? s'.lastInterest? := by
  have hlast : s.lastInterest? = i.lastInterest? := by
    unfold lastInterest?
    rw [hi, Option.bind_some]
  rcases i.incomplete_or_amounts with hincomplete | ⟨total, front, last, htotal, hamounts⟩
  · -- the last period is scaled on its own
    rw [lastInterest_of_incomplete hi hincomplete hs', hlast]
    cases htext : i.lastInterest? with
    | none => exact .none
    | some text =>
      have hclose := herror text (LoanInterest.lastInterest_mem_texts htext)
      have hlength : 1 ≤ i.entries.length := by
        obtain ⟨e, he, -⟩ := Option.bind_eq_some_iff.mp htext
        exact List.length_pos_of_mem (List.mem_of_getLast? he)
      refine .some (hclose.trans ?_)
      exact le_mul_of_one_le_left ((abs_nonneg _).trans hclose) (by exact_mod_cast hlength)
  · obtain ⟨text, htext, hread⟩ := LoanInterest.lastInterest_of_amounts hamounts
    obtain ⟨text', rest, htext', hread', hsettled⟩ :=
      lastInterest_of_rescale hi htotal hamounts hfits hs'
    have hscaled (a : Amount) (ha : a ∈ total :: front) :
        |(ofCents (factor.scaledCents a)).value - a.value * factor.value| ≤ error := by
      obtain ⟨text, htext, hread⟩ : ∃ text ∈ i.interestTexts, Amount.read? text = some a := by
        rcases List.mem_cons.mp ha with rfl | hfront
        · exact LoanInterest.exists_text_of_total htotal
        · exact LoanInterest.exists_text_of_amount hamounts (List.mem_append_left _ hfront)
      have hclose := herror text htext
      have hproduct := hfits.products text
        (mem_money_of_interest hi (LoanInterest.interestTexts_subset htext))
      rwa [value_scaledCents hread hproduct, ← figure_of_amount hread]
    have hlength : i.entries.length = front.length + 1 := by
      simpa using congrArg List.length hamounts
    rw [hlast, htext, htext', hlength]
    refine .some ?_
    rw [figure_of_amount hread, figure_of_amount hread']
    push_cast
    exact abs_rest_sub_le (hsums total _ htotal (by simp) hamounts) hsettled hscaled

/-- With two periods or fewer the interest of the last one is not negative. -/
theorem lastInterest_nonneg_of_few (hfactor : 0 ≤ factor.value)
    (hcharges : ∀ text ∈ i.interestTexts, Charge text) (hfew : i.entries.length ≤ 2) :
    ∀ text' ∈ s'.lastInterest?, 0 ≤ figure text' := by
  intro text' htext'
  rcases i.incomplete_or_amounts with hincomplete | ⟨total, front, last, htotal, hamounts⟩
  · exact lastInterest_nonneg_of_incomplete hi hincomplete hfactor hcharges hs' text' htext'
  · obtain ⟨text, rest, htext, hread, hsettled⟩ :=
      lastInterest_of_rescale hi htotal hamounts hfits hs'
    obtain rfl : text = text' := Option.some.inj (htext.symm.trans htext')
    obtain ⟨totalText, htotalText, hreadTotal⟩ := LoanInterest.exists_text_of_total htotal
    have hproduct (text : String) (htext : text ∈ i.interestTexts) :=
      hfits.products text (mem_money_of_interest hi (LoanInterest.interestTexts_subset htext))
    have hlast : 0 ≤ last.value := by
      obtain ⟨lastText, hlastText, hreadLast⟩ :=
        LoanInterest.exists_text_of_amount hamounts (List.mem_append_right _ List.mem_cons_self)
      rw [← figure_of_amount hreadLast]
      exact (hcharges lastText hlastText).nonneg
    have hlength : front.length ≤ 1 := by
      have hlengths := congrArg List.length hamounts
      simp only [List.length_map, List.length_append, List.length_singleton] at hlengths
      omega
    have hcharge := hcharges totalText htotalText
    rw [figure_of_amount hread]
    refine rest_nonneg_of_few (hsums total _ htotal (by simp) hamounts) hsettled hlength hlast ?_ ?_
    · rw [value_scaledCents hreadTotal (hproduct totalText htotalText)]
      exact figure_rescaleText_nonneg hfactor hcharge.nonneg
    · intro a ha hle
      obtain ⟨text, htext, hread⟩ :=
        LoanInterest.exists_text_of_amount hamounts (List.mem_append_left _ ha)
      rw [← figure_of_amount hread, ← figure_of_amount hreadTotal] at hle
      rw [value_scaledCents hread (hproduct text htext),
        value_scaledCents hreadTotal (hproduct totalText htotalText)]
      exact figure_rescaleText_mono hfactor (hcharges text htext) hcharge.places hle
        (hproduct text htext) (hproduct totalText htotalText)

/-- Where no interest has a fraction of a cent, that of the last period is exact. -/
theorem lastInterest_nonneg_of_whole (hfactor : 0 ≤ factor.value)
    (hcharges : ∀ text ∈ i.interestTexts, Charge text)
    (hwhole : ∀ text ∈ i.interestTexts, WholeCents factor text) :
    ∀ text' ∈ s'.lastInterest?, 0 ≤ figure text' := by
  intro text' htext'
  have hexact := lastInterest_rel_of_error hi hsums hfits hs' 0 fun text htext => by
    have hproduct := hfits.products text
      (mem_money_of_interest hi (LoanInterest.interestTexts_subset htext))
    rw [figure_rescaleText_of_whole hproduct (hwhole text htext), sub_self, abs_zero]
  rw [htext', mul_zero] at hexact
  generalize hlast : s.lastInterest? = last? at hexact
  cases hexact with
  | @some text _ hclose =>
    rw [lastInterest?, hi, Option.bind_some] at hlast
    have hnonneg := (hcharges text (LoanInterest.lastInterest_mem_texts hlast)).nonneg
    rw [sub_eq_zero.mp (abs_nonpos_iff.mp hclose)]
    exact mul_nonneg hnonneg hfactor

end Last

end Scenario

/-- **Charges stay charges, but for the last period's interest**: with a factor that is not
negative, every amount that is scaled on its own is an amount in cents afterwards and not
negative. The interest of the last period is in cents too, and it is off its exact product by no
more than the rounding of all interest; it is not negative if there are two periods or fewer, if
an amount is missing so that nothing is left over, or if no interest has a fraction of a cent. -/
theorem rescale_keeps_charges (factor : Amount) (s : Scenario) (hfactor : 0 ≤ factor.value)
    (hcharges : ∀ text ∈ s.money, Charge text)
    (hsums : ∀ i ∈ s.constructionLoanInterest, i.SumsIfGiven) (hfits : s.Fits factor) :
    ∃ s', s.rescale factor = .ok s' ∧
      s'.withoutLastInterest = s.withoutLastInterest.mapMoney factor.rescaleText ∧
      (∀ text ∈ s'.withoutLastInterest.money, Charge text) ∧
      (∀ text ∈ s'.lastInterest?, TwoPlaces text) ∧
      (∀ i ∈ s.constructionLoanInterest, Option.Rel (fun text text' =>
          |figure text' - figure text * factor.value| ≤ i.entries.length * centsError)
        s.lastInterest? s'.lastInterest?) ∧
      ((∀ i ∈ s.constructionLoanInterest, i.entries.length ≤ 2 ∨ i.Incomplete ∨
          ∀ text ∈ i.interestTexts, WholeCents factor text) →
        ∀ text ∈ s'.money, Charge text) := by
  obtain ⟨s', hs'⟩ := Scenario.exists_rescale hfits
  have hframe : s'.withoutLastInterest = s.withoutLastInterest.mapMoney factor.rescaleText := by
    rw [(Scenario.lastInterest_of_reconcile (Scenario.reconcile_of_rescale hs')).1,
      Scenario.withoutLastInterest_mapMoney]
  have hother : ∀ text ∈ s'.withoutLastInterest.money, Charge text := by
    rw [hframe, Scenario.money_mapMoney]
    intro text' htext'
    obtain ⟨text, htext, rfl⟩ := List.mem_map.mp htext'
    have hmem := Scenario.mem_money_iff.mpr (.inl htext)
    exact (hcharges text hmem).rescaleText hfactor (hfits.products text hmem)
  have hplaces := Scenario.twoPlaces_lastInterest (fun text htext => (hcharges text htext).places)
    hfits hs'
  have hmoney {i : LoanInterest} (hi : s.constructionLoanInterest = some i) {text : String}
      (htext : text ∈ i.interestTexts) : text ∈ s.money :=
    Scenario.mem_money_of_interest hi (LoanInterest.interestTexts_subset htext)
  refine ⟨s', hs', hframe, hother, hplaces, ?_, ?_⟩
  · intro i hi
    exact Scenario.lastInterest_rel_of_error hi (hsums i hi) hfits hs' centsError fun text htext =>
      abs_figure_rescaleText_sub_le (hfits.products text (hmoney hi htext))
  · intro hcases text' htext'
    rcases Scenario.mem_money_iff.mp htext' with hin | hlast
    · exact hother text' hin
    · -- there is a last period, so there is interest
      obtain ⟨j, hj, -⟩ := Option.bind_eq_some_iff.mp hlast
      obtain ⟨i, hi, -⟩ := Scenario.exists_interest_of_rescale hs' hj
      have hinterest (text : String) (htext : text ∈ i.interestTexts) : Charge text :=
        hcharges text (hmoney hi htext)
      refine ⟨hplaces text' hlast, ?_⟩
      rcases hcases i hi with hfew | hincomplete | hwhole
      · exact Scenario.lastInterest_nonneg_of_few hi (hsums i hi) hfits hs' hfactor hinterest hfew
          text' hlast
      · exact Scenario.lastInterest_nonneg_of_incomplete hi hincomplete hfactor hinterest hs' text'
          hlast
      · exact Scenario.lastInterest_nonneg_of_whole hi (hsums i hi) hfits hs' hfactor hinterest
          hwhole text' hlast

/-- The baseline is all charges, with two periods of interest. In the upside case it stays so:
its last period gets 892916.58, a cent more than its own rounding. -/
theorem rescale_keeps_charges_of_upside :
    0 ≤ Offline.upsideCase.factor.value ∧ (∀ text ∈ Offline.baseline.money, Charge text) ∧
    Offline.loanInterest.SumsIfGiven ∧ Offline.baseline.Fits Offline.upsideCase.factor ∧
    ∃ s', Offline.baseline.rescale Offline.upsideCase.factor = .ok s' ∧
      s'.lastInterest? = some "892916.58" ∧ ∀ text ∈ s'.money, Charge text := by
  have hfactor : 0 ≤ Offline.upsideCase.factor.value := by decide +kernel
  have hcharges : ∀ text ∈ Offline.baseline.money, Charge text := by decide +kernel
  have hsums : Offline.loanInterest.SumsIfGiven :=
    .of_sums ⟨ofCents 113928750, [ofCents 28482188, ofCents 85446562], by decide +kernel⟩
  have hfits := Offline.fits_baseline Offline.upsideCase (by simp)
  obtain ⟨s', hs', -, -, -, -, hall⟩ :=
    rescale_keeps_charges Offline.upsideCase.factor Offline.baseline hfactor hcharges
      (fun i hi => Option.some.inj hi ▸ hsums) hfits
  have hlast : (Offline.baseline.rescale Offline.upsideCase.factor).map (·.lastInterest?) =
      .ok (some "892916.58") := by
    decide +kernel
  rw [hs', Except.map] at hlast
  exact ⟨hfactor, hcharges, hsums, hfits, s', hs', Except.ok.inj hlast,
    hall fun i hi => Option.some.inj hi ▸ .inl (by decide)⟩

/-! ## A credit of a cent -/

/-- Three periods with six cents of interest. -/
def smallInterest : LoanInterest :=
  { Offline.loanInterest with
    totalInterest := "0.06"
    facilities := []
    entries := [("M1", "0.03"), ("M2", "0.03"), ("M3", "0.00")].map fun (period, interest) =>
      { period := period
        openingBalance := none
        closingBalance := none
        averageBalance := none
        interest := interest } }

/-- A scenario with them alone. -/
def smallScenario : Scenario :=
  { Offline.baseline with
    escalatedCost := none
    results := []
    dscrTimeline := []
    capitalStack := none
    drawdownSchedule := none
    assetMixSummary := none
    assetBreakdowns := []
    constructionLoanInterest := some smallInterest }

theorem fits_small : smallScenario.Fits half :=
  ⟨by decide +kernel, by decide +kernel⟩

/-- Halved, the total is 0.03 and the first two periods are 0.02 each, which leaves the third
with a credit. -/
theorem not_all_charges_of_half :
    (∀ text ∈ smallScenario.money, Charge text) ∧ smallInterest.Sums ∧ 0 ≤ half.value ∧
    smallScenario.Fits half ∧
    ∃ s', smallScenario.rescale half = .ok s' ∧ s'.lastInterest? = some "-0.01" ∧
      ¬ ∀ text ∈ s'.money, 0 ≤ figure text := by
  have hsums : smallInterest.Sums :=
    ⟨ofCents 6, [ofCents 3, ofCents 3, ofCents 0], by decide +kernel⟩
  refine ⟨by decide +kernel, hsums, by decide +kernel, fits_small, ?_⟩
  obtain ⟨s', hs'⟩ := Scenario.exists_rescale fits_small
  have hlast : (smallScenario.rescale half).map (·.lastInterest?) = .ok (some "-0.01") := by
    decide +kernel
  rw [hs', Except.map] at hlast
  have hset := Except.ok.inj hlast
  refine ⟨s', hs', hset, fun hall => ?_⟩
  have hnonneg := hall "-0.01" (Scenario.mem_money_iff.mpr (.inr hset))
  revert hnonneg
  decide +kernel

end Proforma
