import Proforma.Proofs.Scenario.Remainder

/-!
# Balances keep their order

An exact product with a factor that is not negative keeps the order of amounts, credits among them,
and so does rounding it once to cents (`AtMost.rescaleText`). What is scaled on its own therefore
stays in order, however the amounts are written. For a drawdown schedule that means that after
rescaling the peak still bounds every balance, the final balance is still the last one, and the
cumulative columns still never decrease (`rescale_keeps_order`).
-/

namespace Proforma

open Amount

/-! ## The order of texts -/

/-- Both texts are amounts, and the first is not above the second. -/
def AtMost (text other : String) : Prop :=
  ∃ a b, read? text = some a ∧ read? other = some b ∧ a.value ≤ b.value

theorem atMost_iff (text other : String) :
    AtMost text other ↔ ∃ a ∈ read? text, ∃ b ∈ read? other, a.value ≤ b.value :=
  ⟨fun ⟨a, b, ha, hb, hab⟩ => ⟨a, ha, b, hb, hab⟩, fun ⟨a, ha, b, hb, hab⟩ => ⟨a, b, ha, hb, hab⟩⟩

instance (text other : String) : Decidable (AtMost text other) :=
  decidable_of_iff _ (atMost_iff text other).symm

namespace Amount

/-- In cents an amount has the value of its cents, whether they fit or not. -/
theorem value_toCents (a : Amount) : a.toCents.value = a.cents / 100 := by
  rcases Nat.le_total a.scale 2 with hfew | hmany
  · rw [value_toCents_of_le hfew, value_eq_cents hfew]
  · obtain ⟨hfit, hplaces⟩ := fit?_toCents a
    obtain ⟨hcoefficient, htwo, -⟩ := fit?_spec (by decide) hfit
    rw [value, hcoefficient, show a.toCents.scale = 2 by omega, decimal_two]
    rfl

theorem value_toCents_mono {a b : Amount} (h : a.value ≤ b.value) :
    a.toCents.value ≤ b.toCents.value := by
  rw [value_toCents, value_toCents]
  exact div_le_div_of_nonneg_right (by exact_mod_cast cents_le_cents h) (by norm_num)

/-- An exact product comes out as its rounding to cents. -/
theorem exists_product_of_representable {factor a : Amount}
    (h : Representable (a.value * factor.value)) :
    ∃ p : Amount, p.value = a.value * factor.value ∧ factor.times? a = some p.toCents := by
  obtain ⟨p, hp, hvalue⟩ := exists_mul?_of_representable h
  refine ⟨p, hvalue, ?_⟩
  unfold times?
  rw [hp, Option.map_some]

end Amount

section Order

variable {factor : Amount} {text other : String}

/-- **Rescaling keeps the order** of amounts whose exact products are amounts. -/
theorem AtMost.rescaleText (h : AtMost text other) (hfactor : 0 ≤ factor.value)
    (htext : ∀ a ∈ read? text, Representable (a.value * factor.value))
    (hother : ∀ b ∈ read? other, Representable (b.value * factor.value)) :
    AtMost (factor.rescaleText text) (factor.rescaleText other) := by
  obtain ⟨a, b, ha, hb, hab⟩ := h
  obtain ⟨p, hp, htimes⟩ := exists_product_of_representable (htext a ha)
  obtain ⟨q, hq, htimesOther⟩ := exists_product_of_representable (hother b hb)
  have hproducts : p.value ≤ q.value := by
    rw [hp, hq]
    exact mul_le_mul_of_nonneg_right hab hfactor
  exact ⟨p.toCents, q.toCents, read?_rescaleText_of_times? ha htimes,
    read?_rescaleText_of_times? hb htimesOther, value_toCents_mono hproducts⟩

end Order

/-! ## The order in a schedule -/

namespace DrawSchedule

/-- The peak balance bounds every outstanding debt. -/
def PeakBounds (d : DrawSchedule) : Prop :=
  ∀ e ∈ d.entries, ∃ peak ∈ d.peakDebtBalance, AtMost e.outstandingDebt peak

/-- The final balance is as large as the last outstanding debt. -/
def FinalIsLast (d : DrawSchedule) : Prop :=
  ∀ e ∈ d.entries.getLast?, ∃ final ∈ d.finalDebtBalance,
    AtMost e.outstandingDebt final ∧ AtMost final e.outstandingDebt

/-- The cumulative columns never decrease. -/
def Accumulates (d : DrawSchedule) : Prop :=
  d.entries.Pairwise fun e later =>
    AtMost e.cumulativeEquity later.cumulativeEquity ∧
      AtMost e.cumulativeDebt later.cumulativeDebt

instance (d : DrawSchedule) : Decidable d.PeakBounds :=
  inferInstanceAs (Decidable (∀ _ ∈ _, ∃ _ ∈ _, _))

instance (d : DrawSchedule) : Decidable d.FinalIsLast :=
  inferInstanceAs (Decidable (∀ _ ∈ _, ∃ _ ∈ _, _ ∧ _))

instance (d : DrawSchedule) : Decidable d.Accumulates :=
  inferInstanceAs (Decidable (List.Pairwise _ _))

variable {d : DrawSchedule} {f : String → String}
  (h : ∀ text ∈ d.money, ∀ other ∈ d.money, AtMost text other → AtMost (f text) (f other))

include h

/-- A change that keeps the order of the money keeps the bound. -/
theorem PeakBounds.mapMoney (hpeak : d.PeakBounds) : (d.mapMoney f).PeakBounds := by
  intro e' he'
  obtain ⟨e, he, rfl⟩ := List.mem_map.mp he'
  obtain ⟨peak, hset, hle⟩ := hpeak e he
  refine ⟨f peak, Option.mem_map_of_mem f hset, ?_⟩
  exact h _ (entry_mem_money he (by simp [DrawEntry.money])) _ (total_mem_money (by simp) hset) hle

theorem FinalIsLast.mapMoney (hfinal : d.FinalIsLast) : (d.mapMoney f).FinalIsLast := by
  intro e' he'
  have hlast : (d.entries.map (·.mapMoney f)).getLast? = some e' := he'
  rw [List.getLast?_map] at hlast
  obtain ⟨e, he, rfl⟩ := Option.map_eq_some_iff.mp hlast
  obtain ⟨final, hset, hle, hge⟩ := hfinal e he
  have hdebt : e.outstandingDebt ∈ d.money :=
    entry_mem_money (List.mem_of_getLast? he) (by simp [DrawEntry.money])
  have hbalance : final ∈ d.money := total_mem_money (by simp) hset
  exact ⟨f final, Option.mem_map_of_mem f hset, h _ hdebt _ hbalance hle,
    h _ hbalance _ hdebt hge⟩

theorem Accumulates.mapMoney (hcolumns : d.Accumulates) : (d.mapMoney f).Accumulates := by
  have hmem {e : DrawEntry} (he : e ∈ d.entries) :
      e.cumulativeEquity ∈ d.money ∧ e.cumulativeDebt ∈ d.money :=
    ⟨entry_mem_money he (by simp [DrawEntry.money]), entry_mem_money he (by simp [DrawEntry.money])⟩
  show (d.entries.map (·.mapMoney f)).Pairwise _
  rw [List.pairwise_map]
  refine List.Pairwise.imp_of_mem (fun {e later} he hlater hle => ?_) hcolumns
  exact ⟨h _ (hmem he).1 _ (hmem hlater).1 hle.1, h _ (hmem he).2 _ (hmem hlater).2 hle.2⟩

end DrawSchedule

/-! ## Reconciling where sums are exact -/

/-- A sum whose running sums are amounts does not overflow, and is exact if it is there. -/
theorem exists_sumInterest_of_exact (sum : Amount) (entries : List InterestEntry)
    (h : ∀ x ∈ ((headAmounts entries).map value).scanl (· + ·) sum.value, Representable x) :
    ∃ result, sumInterest sum entries = .ok result ∧
      ∀ total ∈ result, total.value = sum.value + ((headAmounts entries).map value).sum := by
  -- over the entries, with the sum so far: its value is the first of the running sums
  induction entries generalizing sum with
  | nil =>
    refine ⟨some sum, rfl, fun total htotal => ?_⟩
    obtain rfl : sum = total := Option.mem_some_iff.mp htotal
    simp [headAmounts]
  | cons e rest ih =>
    unfold headAmounts at h ⊢
    rw [sumInterest, ← InterestEntry.amount?]
    cases hamount : e.amount? with
    | none =>
      refine ⟨none, rfl, fun total hmem => ?_⟩
      cases hmem
    | some a =>
      rw [hamount] at h
      simp only [List.map_cons, List.scanl_cons] at h
      obtain ⟨-, hnext⟩ := List.forall_mem_cons.mp h
      obtain ⟨next, hadd, -, hvalue⟩ :=
        exists_add?_of_representable (hnext _ (List.mem_of_head? List.head?_scanl))
      rw [← hvalue] at hnext
      obtain ⟨result, hresult, htotal⟩ := ih next hnext
      refine ⟨result, by simp only [hadd]; exact hresult, fun total hmem => ?_⟩
      simp only [List.map_cons, List.sum_cons]
      rw [htotal total hmem, hvalue, add_assoc]

/-- Reconciling does not overflow where all that it computes are amounts. -/
theorem LoanInterest.SumsExact.exists_reconcile {i : LoanInterest} (h : i.SumsExact) :
    ∃ j, i.reconcile = .ok j := by
  have hzero : Amount.zero.value = 0 := by simp [value, decimal, Amount.zero]
  obtain ⟨result, hresult, hvalue⟩ :=
    exists_sumInterest_of_exact .zero i.entries.dropLast (hzero ▸ h.earlier)
  unfold reconcile
  split
  · next total last htotal hlast =>
    rw [hresult]
    cases result with
    | none => exact ⟨i, rfl⟩
    | some earlier =>
      simp only
      split
      · exact ⟨i, rfl⟩
      · have hearlier := hvalue earlier rfl
        rw [hzero, zero_add] at hearlier
        obtain ⟨rest, hsub, -⟩ :=
          exists_sub?_of_representable (hearlier ▸ h.rest total htotal)
        rw [hsub]
        exact ⟨_, rfl⟩
  · exact ⟨i, rfl⟩

/-! ## The whole scenario -/

namespace Scenario

variable {factor : Amount} {s s' : Scenario}

/-- Where all exact products are amounts, no product is too large. -/
theorem rescale_of_representable
    (h : ∀ text ∈ s.money, ∀ a ∈ Amount.read? text, Representable (a.value * factor.value)) :
    s.rescale factor = (s.mapMoney factor.rescaleText).reconcile := by
  unfold rescale
  rw [if_pos]
  rw [List.all_eq_true]
  intro text htext
  cases hread : Amount.read? text with
  | none => simp [rescaleText?, hread]
  | some a =>
    obtain ⟨p, hp, -⟩ := exists_mul?_of_representable (h text htext a hread)
    simp [rescaleText?, hread, hp]

theorem exists_reconcile_of_exact (h : ∀ i ∈ s.constructionLoanInterest, i.SumsExact) :
    ∃ s', s.reconcile = .ok s' := by
  cases hi : s.constructionLoanInterest with
  | none =>
    unfold reconcile
    rw [hi]
    exact ⟨s, rfl⟩
  | some i =>
    obtain ⟨j, hj⟩ := (h i hi).exists_reconcile
    exact ⟨_, reconcile_of_interest hi hj⟩

/-- Where no interest can be reconciled, all money is scaled on its own. -/
theorem eq_mapMoney_of_incomplete (hs' : s.rescale factor = .ok s')
    (h : ∀ i ∈ s.constructionLoanInterest, i.Incomplete) : s' = s.mapMoney factor.rescaleText := by
  obtain ⟨interest, rfl, hinterest⟩ := exists_of_rescale hs'
  have hsame : interest = (s.mapMoney factor.rescaleText).constructionLoanInterest := by
    show interest = s.constructionLoanInterest.map (·.mapMoney factor.rescaleText)
    cases hi : s.constructionLoanInterest with
    | none =>
      rw [hi] at hinterest
      cases hinterest
      rfl
    | some i =>
      rw [hi] at hinterest
      cases hinterest with
      | some hj => rw [(h i hi).eq_of_reconcile hj, Option.map_some]
  rw [hsame]

end Scenario

/-- **Rescaling keeps the order of balances.** With a factor that is not negative, if every exact
product is an amount, no product is too large: if anything is, it is a sum of the interest. Of the
money of the scenario any two amounts keep their order when they are rescaled, and that is what
happens to each of them in its place, the interest of the last period aside if it is reconciled. So
a drawdown schedule keeps each of these: that its peak bounds every outstanding debt, that its final
balance is the last of them, and that its cumulative columns never decrease. -/
theorem rescale_keeps_order (factor : Amount) (s : Scenario) (hfactor : 0 ≤ factor.value)
    (hexact : ∀ text ∈ s.money, ∀ a ∈ read? text, Representable (a.value * factor.value)) :
    s.rescale factor = (s.mapMoney factor.rescaleText).reconcile ∧
    ((∀ i ∈ (s.mapMoney factor.rescaleText).constructionLoanInterest, i.SumsExact) →
      ∃ s', s.rescale factor = .ok s') ∧
    (∀ text ∈ s.money, ∀ other ∈ s.money, AtMost text other →
      AtMost (factor.rescaleText text) (factor.rescaleText other)) ∧
    ∀ s', s.rescale factor = .ok s' →
      s'.withoutLastInterest = s.withoutLastInterest.mapMoney factor.rescaleText ∧
      ((∀ i ∈ s.constructionLoanInterest, i.Incomplete) → s' = s.mapMoney factor.rescaleText) ∧
      ∀ d ∈ s.drawdownSchedule, ∃ d' ∈ s'.drawdownSchedule,
        (d.PeakBounds → d'.PeakBounds) ∧ (d.FinalIsLast → d'.FinalIsLast) ∧
        (d.Accumulates → d'.Accumulates) := by
  have hrescale := Scenario.rescale_of_representable hexact
  have horder : ∀ text ∈ s.money, ∀ other ∈ s.money, AtMost text other →
      AtMost (factor.rescaleText text) (factor.rescaleText other) :=
    fun text htext other hother hle =>
      hle.rescaleText hfactor (hexact text htext) (hexact other hother)
  refine ⟨hrescale, fun hsums => ?_, horder, fun s' hs' => ⟨?_, ?_, fun d hd => ?_⟩⟩
  · rw [hrescale]
    exact Scenario.exists_reconcile_of_exact hsums
  · rw [(Scenario.lastInterest_of_reconcile (Scenario.reconcile_of_rescale hs')).1,
      Scenario.withoutLastInterest_mapMoney]
  · exact Scenario.eq_mapMoney_of_incomplete hs'
  · obtain ⟨interest, rfl, -⟩ := Scenario.exists_of_rescale hs'
    have hschedule : ∀ text ∈ d.money, ∀ other ∈ d.money, AtMost text other →
        AtMost (factor.rescaleText text) (factor.rescaleText other) :=
      fun text htext other hother => horder text (Scenario.mem_money_of_schedule hd htext) other
        (Scenario.mem_money_of_schedule hd hother)
    exact ⟨d.mapMoney factor.rescaleText, Option.mem_map_of_mem _ hd, .mapMoney hschedule,
      .mapMoney hschedule, .mapMoney hschedule⟩

/-- The schedule of the baseline has its peak at the end, and keeps it there in the upside case. -/
theorem rescale_keeps_order_of_upside :
    0 ≤ Offline.upsideCase.factor.value ∧
    (∀ text ∈ Offline.baseline.money, ∀ a ∈ read? text,
      Representable (a.value * Offline.upsideCase.factor.value)) ∧
    Offline.drawSchedule.PeakBounds ∧ Offline.drawSchedule.FinalIsLast ∧
    Offline.drawSchedule.Accumulates ∧
    ∃ s' d', Offline.baseline.rescale Offline.upsideCase.factor = .ok s' ∧
      s'.drawdownSchedule = some d' ∧ d'.PeakBounds ∧ d'.FinalIsLast ∧ d'.Accumulates := by
  have hfactor : 0 ≤ Offline.upsideCase.factor.value := by decide +kernel
  have hfew : ∀ text ∈ Offline.baseline.money, ∀ a ∈ read? text,
      InRange (a.coefficient * Offline.upsideCase.factor.coefficient) ∧
        a.scale + Offline.upsideCase.factor.scale ≤ maxScale := by
    decide +kernel
  have hexact : ∀ text ∈ Offline.baseline.money, ∀ a ∈ read? text,
      Representable (a.value * Offline.upsideCase.factor.value) :=
    fun text htext a ha => representable_mul (hfew text htext a ha).1 (hfew text htext a ha).2
  have hpeak : Offline.drawSchedule.PeakBounds := by decide +kernel
  have hfinal : Offline.drawSchedule.FinalIsLast := by decide +kernel
  have hcolumns : Offline.drawSchedule.Accumulates := by decide +kernel
  obtain ⟨s', hs'⟩ := Scenario.exists_rescale (Offline.fits_baseline Offline.upsideCase (by simp))
  obtain ⟨-, -, -, hkept⟩ :=
    rescale_keeps_order Offline.upsideCase.factor Offline.baseline hfactor hexact
  obtain ⟨-, -, hschedule⟩ := hkept s' hs'
  obtain ⟨d', hd', hpeak', hfinal', hcolumns'⟩ := hschedule Offline.drawSchedule rfl
  exact ⟨hfactor, hexact, hpeak, hfinal, hcolumns, s', d', hs', hd', hpeak' hpeak, hfinal' hfinal,
    hcolumns' hcolumns⟩

end Proforma
