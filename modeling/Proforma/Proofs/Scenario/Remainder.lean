import Proforma.Proofs.Amount.Exact
import Proforma.Proofs.Scenario.Signs

/-!
# The last period takes up rounding only

Where the exact products and sums are amounts, rescaling rounds every product once, to cents, and
reconciling computes without any error. So what the last period takes up is the rounding of the
total and of the other periods: it is off its own rounded product by half a cent for each of them
and for itself (`abs_rest_sub_own_le`), while every other amount is off its product by half a cent
at the most (`rescale_absorbs_rounding`). The bound is attained: `pennyInterest`, halved, leaves
its last period with two cents where its own product is rounded to none.
-/

namespace Proforma

open Amount

/-! ## One amount -/

namespace Amount

variable {factor a r : Amount} {text : String}

/-- An exact product in cents is off by half a cent at the most. -/
theorem exists_times?_of_representable (h : Representable (a.value * factor.value)) :
    ∃ r, factor.times? a = some r ∧ r.scale ≤ 2 ∧
      |r.value - a.value * factor.value| ≤ halfCent := by
  obtain ⟨p, hp, hvalue⟩ := exists_mul?_of_representable h
  refine ⟨p.toCents, ?_, scale_toCents_le p, ?_⟩
  · unfold times?
    rw [hp, Option.map_some]
  · rw [← hvalue]
    exact abs_toCents_sub_le p

/-- What is read after rescaling is the amount times the factor. -/
theorem read?_rescaleText_of_times? (ha : read? text = some a) (hr : factor.times? a = some r) :
    read? (factor.rescaleText text) = some r := by
  unfold times? at hr
  obtain ⟨p, hp, rfl⟩ := Option.map_eq_some_iff.mp hr
  have hscaled : factor.rescaleText? text = some p.toCents.text := by
    unfold rescaleText?
    rw [ha]
    show (a.mul? factor).map (·.toCents.text) = _
    rw [hp, Option.map_some]
  unfold rescaleText
  rw [hscaled, Option.getD_some, read?_text]

theorem bind_read?_rescaleText {text? : Option String} (ha : text?.bind read? = some a)
    (hr : factor.times? a = some r) : (text?.map factor.rescaleText).bind read? = some r := by
  obtain ⟨text, rfl, hread⟩ := Option.bind_eq_some_iff.mp ha
  rw [Option.map_some, Option.bind_some]
  exact read?_rescaleText_of_times? hread hr

/-- Every amount of a list of texts stays one, and is off its product by half a cent. -/
theorem forall₂_rescaleText {texts : List String}
    (h : ∀ text ∈ texts, ∀ a ∈ read? text, Representable (a.value * factor.value)) :
    List.Forall₂ (fun text text' => ∀ a ∈ read? text, ∃ b, read? text' = some b ∧
      |b.value - a.value * factor.value| ≤ halfCent) texts (texts.map factor.rescaleText) := by
  rw [List.forall₂_map_right_iff, List.forall₂_same]
  intro text htext a ha
  obtain ⟨r, hr, -, herror⟩ := exists_times?_of_representable (h text htext a ha)
  exact ⟨r, read?_rescaleText_of_times? ha hr, herror⟩

end Amount

/-- The interest of the periods after rescaling. -/
theorem map_amount?_of_times? {factor : Amount} {scaled : Amount → Amount}
    {entries : List InterestEntry} {amounts : List Amount}
    (h : entries.map InterestEntry.amount? = amounts.map some)
    (hscaled : ∀ a ∈ amounts, factor.times? a = some (scaled a)) :
    (entries.map (·.mapMoney factor.rescaleText)).map InterestEntry.amount? =
      (amounts.map scaled).map some := by
  induction entries generalizing amounts with
  | nil =>
    rw [List.map_nil, eq_comm, List.map_eq_nil_iff] at h
    rw [h]
    rfl
  | cons e rest ih =>
    cases amounts with
    | nil => simp at h
    | cons a more =>
      rw [List.map_cons, List.map_cons, List.cons.injEq] at h
      obtain ⟨hhead, hmore⟩ := List.forall_mem_cons.mp hscaled
      have hinterest : (e.mapMoney factor.rescaleText).amount? = some (scaled a) :=
        bind_read?_rescaleText h.1 hhead
      simp only [List.map_cons, hinterest, ih h.2 hmore]

/-! ## Reconciling without error -/

/-- What reconciling computes from the interest are amounts: every running sum of the periods but
the last, and what they leave of the total. -/
structure LoanInterest.SumsExact (i : LoanInterest) : Prop where
  earlier : ∀ x ∈ ((headAmounts i.entries.dropLast).map value).partialSums, Representable x
  rest : ∀ total ∈ i.total?,
    Representable (total.value - ((headAmounts i.entries.dropLast).map value).sum)

/-- A sum is exact while the running sums are amounts. -/
theorem exists_sumInterest_of_representable (sum : Amount) {entries : List InterestEntry}
    {amounts : List Amount} (hamounts : entries.map InterestEntry.amount? = amounts.map some)
    (hsum : sum.scale ≤ 2) (hscale : ∀ a ∈ amounts, a.scale ≤ 2)
    (hexact : ∀ x ∈ (amounts.map value).scanl (· + ·) sum.value, Representable x) :
    ∃ total, sumInterest sum entries = .ok (some total) ∧ total.scale ≤ 2 ∧
      total.value = sum.value + (amounts.map value).sum := by
  induction entries generalizing sum amounts with
  | nil =>
    rw [List.map_nil, eq_comm, List.map_eq_nil_iff] at hamounts
    subst hamounts
    exact ⟨sum, rfl, hsum, by simp⟩
  | cons e rest ih =>
    cases amounts with
    | nil => simp at hamounts
    | cons a more =>
      rw [List.map_cons, List.map_cons, List.cons.injEq] at hamounts
      obtain ⟨ha, hmore⟩ := hamounts
      obtain ⟨hscaleHead, hscaleMore⟩ := List.forall_mem_cons.mp hscale
      rw [List.map_cons, List.scanl_cons] at hexact
      obtain ⟨-, hnext⟩ := List.forall_mem_cons.mp hexact
      obtain ⟨next, hadd, hplaces, hvalue⟩ :=
        exists_add?_of_representable (hnext _ (List.mem_of_head? List.head?_scanl))
      rw [← hvalue] at hnext
      obtain ⟨total, htotal, htwo, hsumValue⟩ := ih next hmore (by omega) hscaleMore hnext
      refine ⟨total, ?_, htwo, ?_⟩
      · rw [sumInterest, ← InterestEntry.amount?, ha]
        simp only [hadd]
        exact htotal
      · rw [hsumValue, hvalue, List.map_cons, List.sum_cons, add_assoc]

/-- The last period gets exactly what the others leave of the total. -/
theorem LoanInterest.exists_reconcile_of_representable {i : LoanInterest} {total last : Amount}
    {front : List Amount} (htotal : i.total? = some total)
    (hamounts : i.entries.map InterestEntry.amount? = (front ++ [last]).map some)
    (htwo : ∀ a ∈ total :: front, a.scale ≤ 2) (hexact : i.SumsExact) :
    ∃ (j : LoanInterest) (rest : Amount), i.reconcile = .ok j ∧ j.withoutLast = i.withoutLast ∧
      j.lastInterest? = some rest.text ∧
      ((front ++ [rest]).map value).sum = total.value := by
  obtain ⟨earlier, e, hentries, hfront, hlast⟩ : ∃ earlier e, i.entries = earlier ++ [e] ∧
      earlier.map InterestEntry.amount? = front.map some ∧ e.amount? = some last := by
    rw [List.map_append, List.map_eq_append_iff] at hamounts
    obtain ⟨earlier, final, hentries, hfront, hfinal⟩ := hamounts
    obtain ⟨e, rfl, hlast⟩ := List.map_eq_singleton_iff.mp hfinal
    exact ⟨earlier, e, hentries, hfront, hlast⟩
  obtain ⟨hearlier, hrest⟩ := hexact
  rw [hentries, List.dropLast_concat, headAmounts_of_amounts hfront] at hearlier hrest
  have hzero : Amount.zero.value = 0 := by simp [value, decimal, Amount.zero]
  unfold List.partialSums at hearlier
  rw [← hzero] at hearlier
  obtain ⟨htotalScale, hfrontScale⟩ := List.forall_mem_cons.mp htwo
  obtain ⟨sum, hsum, hsumScale, hsumValue⟩ :=
    exists_sumInterest_of_representable .zero hfront (Nat.zero_le 2) hfrontScale hearlier
  rw [hzero, zero_add] at hsumValue
  obtain ⟨rest, hsub, hplaces, hvalue⟩ :=
    exists_sub?_of_representable (hsumValue ▸ hrest total htotal)
  refine ⟨_, rest.toCents, reconcile_of_parts htotal hentries (hlast ▸ Option.some_ne_none _) hsum
    hsub, ?_, ?_, ?_⟩
  · simp [withoutLast, hentries]
  · simp [lastInterest?]
  · rw [List.map_append, List.sum_append, List.map_singleton, List.sum_singleton,
      value_toCents_of_le (by omega), hvalue, hsumValue, add_sub_cancel]

/-! ## The whole section -/

/-- The exact products and sums that rescaling the interest computes are amounts. -/
structure LoanInterest.ScalesExactly (factor : Amount) (i : LoanInterest) : Prop where
  products : ∀ text ∈ i.money, ∀ a ∈ Amount.read? text, Representable (a.value * factor.value)
  sums : (i.mapMoney factor.rescaleText).SumsExact

/-- What is left over is off the rounded product of the last amount by half a cent for each amount
that was rounded. -/
theorem abs_rest_sub_own_le {scaled : Amount → Amount} {total last rest : Amount}
    {front : List Amount} {c : ℚ} (hsum : ((front ++ [last]).map value).sum = total.value)
    (hsettled : ((front.map scaled ++ [rest]).map value).sum = (scaled total).value)
    (herror : ∀ a ∈ total :: last :: front, |(scaled a).value - a.value * c| ≤ halfCent) :
    |rest.value - (scaled last).value| ≤ (front.length + 2) * halfCent := by
  obtain ⟨htotal, hparts⟩ := List.forall_mem_cons.mp herror
  obtain ⟨hlast, hfront⟩ := List.forall_mem_cons.mp hparts
  have hrest := abs_rest_sub_le hsum hsettled (List.forall_mem_cons.mpr ⟨htotal, hfront⟩)
  rw [abs_sub_comm] at hlast
  calc |rest.value - (scaled last).value|
      ≤ |rest.value - last.value * c| + |last.value * c - (scaled last).value| := abs_sub_le _ _ _
    _ ≤ (front.length + 1) * halfCent + halfCent := add_le_add hrest hlast
    _ = (front.length + 2) * halfCent := by ring

namespace LoanInterest

variable {factor : Amount} {i : LoanInterest}

/-- Every amount that reconciling reads has an exact product. -/
theorem ScalesExactly.exists_times? {total : Amount} {amounts : List Amount}
    (hexact : i.ScalesExactly factor) (htotal : i.total? = some total)
    (hamounts : i.entries.map InterestEntry.amount? = amounts.map some) :
    ∀ a ∈ total :: amounts, ∃ r, factor.times? a = some r ∧ r.scale ≤ 2 ∧
      |r.value - a.value * factor.value| ≤ halfCent := by
  intro a ha
  obtain ⟨text, htext, hread⟩ : ∃ text ∈ i.interestTexts, Amount.read? text = some a := by
    rcases List.mem_cons.mp ha with rfl | hin
    · exact exists_text_of_total htotal
    · exact exists_text_of_amount hamounts hin
  apply exists_times?_of_representable
  exact hexact.products text (interestTexts_subset htext) a hread

/-- **Reconciling takes up rounding only**: the last period is off its own rounded product by half
a cent for every period and for the total, and all else is scaled on its own. -/
theorem ScalesExactly.exists_reconcile (hsums : i.Sums) (hexact : i.ScalesExactly factor) :
    ∃ (j : LoanInterest) (text : String) (own rest : Amount),
      (i.mapMoney factor.rescaleText).reconcile = .ok j ∧
      j.withoutLast = i.withoutLast.mapMoney factor.rescaleText ∧
      i.lastInterest? = some text ∧ Amount.read? (factor.rescaleText text) = some own ∧
      j.lastInterest? = some rest.text ∧
      |rest.value - own.value| ≤ (i.entries.length + 1) * halfCent := by
  obtain ⟨total, amounts, htotal, hne, hamounts, hsum⟩ := hsums
  obtain ⟨front, last, rfl⟩ : ∃ front last, amounts = front ++ [last] :=
    ⟨_, _, (List.dropLast_concat_getLast hne).symm⟩
  have htimes := hexact.exists_times? htotal hamounts
  choose! scaled hscaled using htimes
  have hmem : ∀ a ∈ total :: last :: front, a ∈ total :: (front ++ [last]) := by
    intro a ha
    simp only [List.mem_cons, List.mem_append, List.not_mem_nil, or_false] at ha ⊢
    exact ha.imp_right Or.symm
  -- the total and the periods as reconciling reads them
  have htotal' : (i.mapMoney factor.rescaleText).total? = some (scaled total) :=
    bind_read?_rescaleText htotal (hscaled total List.mem_cons_self).1
  have hamounts' : (i.mapMoney factor.rescaleText).entries.map InterestEntry.amount? =
      (front.map scaled ++ [scaled last]).map some := by
    rw [← List.map_singleton, ← List.map_append]
    exact map_amount?_of_times? hamounts fun a ha => (hscaled a (List.mem_cons_of_mem _ ha)).1
  have htwo : ∀ a ∈ scaled total :: front.map scaled, a.scale ≤ 2 := by
    rw [← List.map_cons, List.forall_mem_map]
    intro a ha
    exact (hscaled a (List.cons_subset_cons _ (List.subset_append_left _ _) ha)).2.1
  obtain ⟨j, rest, hj, hother, hlast, hsettled⟩ :=
    exists_reconcile_of_representable htotal' hamounts' htwo hexact.sums
  obtain ⟨text, htext, hread⟩ := lastInterest_of_amounts hamounts
  refine ⟨j, text, scaled last, rest, hj, ?_, htext, ?_, hlast, ?_⟩
  · rw [hother, withoutLast_mapMoney]
  · exact read?_rescaleText_of_times? hread (hscaled last (by simp)).1
  · have hbound := abs_rest_sub_own_le hsum hsettled fun a ha => (hscaled a (hmem a ha)).2.2
    have hlength : i.entries.length = front.length + 1 := by
      simpa using congrArg List.length hamounts
    rw [hlength]
    push_cast
    linarith

end LoanInterest

/-- **Reconciling absorbs rounding only.** If the interest of all periods is given and sums to the
total, and the exact products and sums of the interest are amounts, rescaling does not overflow
there. The last period is then off its own product in cents by half a cent for every period and one
for the total, and every other amount of the interest is off its exact product by half a cent at
the most. Of the rest of the scenario nothing is asked but that no product is too large. -/
theorem rescale_absorbs_rounding (factor : Amount) (s : Scenario) (i : LoanInterest)
    (hi : s.constructionLoanInterest = some i) (hsums : i.Sums) (hexact : i.ScalesExactly factor)
    (hother : ∀ text ∈ s.money, (factor.rescaleText? text).isSome) :
    ∃ (j : LoanInterest) (text text' : String) (own rest : Amount),
      s.rescale factor =
        .ok { s.mapMoney factor.rescaleText with constructionLoanInterest := some j } ∧
      (i.lastInterest? = some text ∧ read? (factor.rescaleText text) = some own ∧
        j.lastInterest? = some text' ∧ read? text' = some rest ∧
        |rest.value - own.value| ≤ (i.entries.length + 1) * halfCent) ∧
      j.withoutLast = i.withoutLast.mapMoney factor.rescaleText ∧
      List.Forall₂ (fun text text' => ∀ a ∈ read? text, ∃ b, read? text' = some b ∧
          |b.value - a.value * factor.value| ≤ halfCent)
        i.withoutLast.money j.withoutLast.money := by
  obtain ⟨j, text, own, rest, hj, hframe, htext, hown, hlast, hbound⟩ :=
    hexact.exists_reconcile hsums
  refine ⟨j, text, rest.text, own, rest, ?_, ⟨htext, hown, hlast, read?_text rest, hbound⟩,
    hframe, ?_⟩
  · have hmapped := Scenario.interest_mapMoney factor.rescaleText hi
    unfold Scenario.rescale
    rw [if_pos (List.all_eq_true.mpr hother)]
    exact Scenario.reconcile_of_interest hmapped hj
  · rw [hframe, LoanInterest.money_mapMoney]
    exact forall₂_rescaleText fun text htext =>
      hexact.products text (LoanInterest.mem_money_iff.mpr (.inl htext))

/-! ## The bound is attained -/

/-- Three periods with a cent of interest each. -/
def pennyInterest : LoanInterest :=
  { smallInterest with
    totalInterest := "0.03"
    entries := smallInterest.entries.map fun e => { e with interest := some "0.01" } }

/-- A scenario with them alone. -/
def pennyScenario : Scenario :=
  { smallScenario with constructionLoanInterest := some pennyInterest }

/-- What is computed with few digits is an amount. -/
theorem representable_mul {a b : Amount} (hcoefficient : InRange (a.coefficient * b.coefficient))
    (hscale : a.scale + b.scale ≤ maxScale) : Representable (a.value * b.value) :=
  ⟨⟨a.coefficient * b.coefficient, a.scale + b.scale, hcoefficient, hscale⟩, decimal_mul a b⟩

theorem scalesExactly_penny : pennyInterest.ScalesExactly half := by
  have hproducts : ∀ text ∈ pennyInterest.money, ∀ a ∈ read? text,
      InRange (a.coefficient * half.coefficient) ∧ a.scale + half.scale ≤ maxScale := by
    decide +kernel
  refine ⟨fun text htext a ha => ?_, ?_, ?_⟩
  · obtain ⟨hcoefficient, hscale⟩ := hproducts text htext a ha
    exact representable_mul hcoefficient hscale
  · have hzero : ∀ x ∈ ((headAmounts (pennyInterest.mapMoney half.rescaleText).entries.dropLast).map
        value).partialSums, x = (ofCents 0).value := by
      decide +kernel
    exact fun x hx => ⟨ofCents 0, (hzero x hx).symm⟩
  · have hrest : ∀ total ∈ (pennyInterest.mapMoney half.rescaleText).total?, total.value -
        ((headAmounts (pennyInterest.mapMoney half.rescaleText).entries.dropLast).map value).sum =
          (ofCents 2).value := by
      decide +kernel
    exact fun total htotal => ⟨ofCents 2, (hrest total htotal).symm⟩

/-- Halved, the total is two cents and every period is rounded to none, so the last one is off by
half a cent for each of them and for the total. -/
theorem rescale_absorbs_rounding_of_half :
    pennyInterest.Sums ∧ pennyInterest.ScalesExactly half ∧
    ∃ j : LoanInterest, pennyScenario.rescale half =
        .ok { pennyScenario.mapMoney half.rescaleText with constructionLoanInterest := some j } ∧
      j.lastInterest? = some "0.02" ∧
      figure "0.02" - figure (half.rescaleText "0.01") =
        (pennyInterest.entries.length + 1) * halfCent := by
  have hsums : pennyInterest.Sums :=
    ⟨ofCents 3, [ofCents 1, ofCents 1, ofCents 1], by decide +kernel⟩
  obtain ⟨j, -, -, -, -, hrescale, -⟩ :=
    rescale_absorbs_rounding half pennyScenario pennyInterest rfl hsums scalesExactly_penny
      (by decide +kernel)
  have hlast : (pennyScenario.rescale half).map (·.lastInterest?) = .ok (some "0.02") := by
    decide +kernel
  rw [hrescale, Except.map] at hlast
  exact ⟨hsums, scalesExactly_penny, j, hrescale, Except.ok.inj hlast, by decide +kernel⟩

end Proforma
