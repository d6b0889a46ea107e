import Proforma.Offline.Synthesis
import Proforma.Proofs.Scenario.Interest

/-!
# Rescaling in cents

Rescaling works on texts: it reads an amount, multiplies, rounds and writes, and to reconcile the
interest it reads what it has just written. In terms of cents that is arithmetic on integers
(`read?_rescaleText`), as long as nothing is too large (`Fits`); then rescaling does not overflow
(`exists_rescale`). The last period takes up what rounding has put between the interest of the
periods and their total (`interest_sums_to_total`).
-/

namespace Proforma

/-! ## One text -/

namespace Amount

/-- An amount times a factor, rounded to cents. -/
def times? (factor a : Amount) : Option Amount :=
  (a.mul? factor).map toCents

/-- The same as a number of cents. -/
def scaledCents (factor a : Amount) : Int :=
  ((a.mul? factor).map cents).getD 0

variable {factor a : Amount} {text : String}

theorem scaledCents_of_mul? {p : Amount} (hp : a.mul? factor = some p) :
    factor.scaledCents a = p.cents := by
  unfold scaledCents
  rw [hp]
  rfl

theorem inRange_scaledCents (h : InRange (productCents a factor)) :
    InRange (factor.scaledCents a) := by
  obtain ⟨p, hp, -⟩ := exists_mul? h
  rw [scaledCents_of_mul? hp]
  exact h.cents hp

theorem times?_of_inRange (h : InRange (productCents a factor)) :
    factor.times? a = some (ofCents (factor.scaledCents a)) := by
  obtain ⟨p, hp, -⟩ := exists_mul? h
  unfold times?
  rw [scaledCents_of_mul? hp, hp, Option.map_some, toCents_eq_ofCents (h.cents hp)]

/-- Where the exact product is an amount, its rounding to cents is what comes out. -/
theorem times?_of_exact (hcoefficient : InRange (a.coefficient * factor.coefficient))
    (hscale : a.scale + factor.scale ≤ maxScale) (h : InRange (productCents a factor)) :
    factor.times? a = some (ofCents (productCents a factor)) := by
  have hp : a.mul? factor =
      some ⟨a.coefficient * factor.coefficient, a.scale + factor.scale, hcoefficient, hscale⟩ := by
    unfold mul?
    simp only
    rw [Nat.min_eq_left hscale, fit?_of_inRange hscale (by rwa [rescaled_self]), rescaled_self]
    exact make?_of_inRange hcoefficient hscale
  rw [times?_of_inRange h, scaledCents_of_mul? hp]
  rfl

/-- A text that is no amount stays. -/
theorem rescaleText_of_none (h : read? text = none) : factor.rescaleText text = text := by
  unfold rescaleText rescaleText?
  rw [h]
  rfl

theorem rescaleText?_of_amount (hread : read? text = some a)
    (h : InRange (productCents a factor)) :
    factor.rescaleText? text = some (ofCents (factor.scaledCents a)).text := by
  obtain ⟨p, hp, -⟩ := exists_mul? h
  unfold rescaleText?
  rw [hread]
  show (a.mul? factor).map (·.toCents.text) = _
  rw [scaledCents_of_mul? hp, hp, Option.map_some, toCents_eq_ofCents (h.cents hp)]

theorem isSome_rescaleText? (h : ∀ a ∈ read? text, InRange (productCents a factor)) :
    (factor.rescaleText? text).isSome = true := by
  cases hread : read? text with
  | none =>
    unfold rescaleText?
    rw [hread]
    rfl
  | some a =>
    rw [rescaleText?_of_amount hread (h a hread)]
    rfl

/-- What is read after rescaling is the scaled amount in cents. -/
theorem read?_rescaleText (h : ∀ a ∈ read? text, InRange (productCents a factor)) :
    read? (factor.rescaleText text) =
      (read? text).map fun a => ofCents (factor.scaledCents a) := by
  cases hread : read? text with
  | none => rw [rescaleText_of_none hread, hread, Option.map_none]
  | some a =>
    unfold rescaleText
    rw [rescaleText?_of_amount hread (h a hread), Option.getD_some, read?_text, Option.map_some]

end Amount

open Amount

/-! ## When nothing is too large -/

/-- Nothing that rescaling computes is too large at two decimals: neither an amount times the
factor nor what is computed from the interest after that. -/
structure Scenario.Fits (factor : Amount) (s : Scenario) : Prop where
  products : ∀ text ∈ s.money, ∀ a ∈ Amount.read? text, InRange (productCents a factor)
  sums : ∀ i ∈ s.constructionLoanInterest, (i.mapMoney factor.rescaleText).SumsFit

/-! ## Where the money of a part is -/

section Money

variable {s : Scenario} {text : String}

theorem Scenario.mem_money_of_stack {k : CapitalStack} (hk : s.capitalStack = some k)
    (h : text ∈ k.money) : text ∈ s.money := by
  unfold money
  simp only [List.mem_append, hk, Option.toList_some, List.flatMap_singleton, h, or_true, true_or]

theorem Scenario.mem_money_of_schedule {d : DrawSchedule} (hd : s.drawdownSchedule = some d)
    (h : text ∈ d.money) : text ∈ s.money := by
  unfold money
  simp only [List.mem_append, hd, Option.toList_some, List.flatMap_singleton, h, or_true, true_or]

theorem Scenario.mem_money_of_interest {i : LoanInterest}
    (hi : s.constructionLoanInterest = some i) (h : text ∈ i.money) : text ∈ s.money := by
  unfold money
  simp only [List.mem_append, hi, Option.toList_some, List.flatMap_singleton, h, or_true]

theorem LoanInterest.mem_money_of_total {i : LoanInterest} (h : i.totalInterest = some text) :
    text ∈ i.money := by
  simp [money, h]

theorem LoanInterest.mem_money_of_entry {i : LoanInterest} {e : InterestEntry} (he : e ∈ i.entries)
    (h : e.interest = some text) : text ∈ i.money := by
  have hentry : text ∈ e.money := by simp [InterestEntry.money, h]
  unfold money
  exact List.mem_append_right _ (List.mem_flatMap.mpr ⟨e, he, hentry⟩)

end Money

/-- What is missing is missing after rescaling. -/
theorem missing_mapMoney (factor : Amount) {i : LoanInterest}
    (h : i.total? = none ∨ none ∈ i.entries.map InterestEntry.amount?) :
    (i.mapMoney factor.rescaleText).total? = none ∨
      none ∈ (i.mapMoney factor.rescaleText).entries.map InterestEntry.amount? := by
  have hkept (text? : Option String) (hnone : text?.bind read? = none) :
      (text?.map factor.rescaleText).bind read? = none := by
    cases text? with
    | none => rfl
    | some text =>
      rw [Option.bind_some] at hnone
      rw [Option.map_some, Option.bind_some, rescaleText_of_none hnone, hnone]
  rcases h with htotal | hentry
  · exact .inl (hkept i.totalInterest htotal)
  · obtain ⟨e, he, hnone⟩ := List.mem_map.mp hentry
    refine .inr (List.mem_map.mpr ⟨e.mapMoney factor.rescaleText, ?_, hkept e.interest hnone⟩)
    exact List.mem_map_of_mem he

section Products

variable {factor : Amount} {i : LoanInterest}
  (hproducts : ∀ text ∈ i.money, ∀ a ∈ Amount.read? text, InRange (productCents a factor))

include hproducts

/-- The total after rescaling. -/
theorem total?_mapMoney : (i.mapMoney factor.rescaleText).total? =
    i.total?.map fun a => ofCents (factor.scaledCents a) := by
  have hmapped : (i.mapMoney factor.rescaleText).total? =
      (i.totalInterest.map factor.rescaleText).bind read? := rfl
  rw [hmapped, LoanInterest.total?]
  cases htotal : i.totalInterest with
  | none => rfl
  | some text =>
    rw [Option.map_some, Option.bind_some, Option.bind_some]
    exact read?_rescaleText (hproducts text (LoanInterest.mem_money_of_total htotal))

/-- The interest of a period after rescaling. -/
theorem amount?_mapMoney {e : InterestEntry} (he : e ∈ i.entries) :
    (e.mapMoney factor.rescaleText).amount? =
      e.amount?.map fun a => ofCents (factor.scaledCents a) := by
  have hmapped : (e.mapMoney factor.rescaleText).amount? =
      (e.interest.map factor.rescaleText).bind read? := rfl
  rw [hmapped, InterestEntry.amount?]
  cases hinterest : e.interest with
  | none => rfl
  | some text =>
    rw [Option.map_some, Option.bind_some, Option.bind_some]
    exact read?_rescaleText (hproducts text (LoanInterest.mem_money_of_entry he hinterest))

theorem map_amount?_mapMoney : (i.mapMoney factor.rescaleText).entries.map InterestEntry.amount? =
    (i.entries.map InterestEntry.amount?).map
      (Option.map fun a => ofCents (factor.scaledCents a)) := by
  show (i.entries.map fun e => e.mapMoney factor.rescaleText).map InterestEntry.amount? = _
  rw [List.map_map, List.map_map]
  exact List.map_congr_left fun e he => amount?_mapMoney hproducts he

theorem inRange_of_amount? {e : InterestEntry} {a : Amount} (he : e ∈ i.entries)
    (ha : e.amount? = some a) : InRange (productCents a factor) := by
  obtain ⟨text, htext, hread⟩ := Option.bind_eq_some_iff.mp ha
  exact hproducts text (LoanInterest.mem_money_of_entry he htext) a hread

theorem inRange_of_total? {a : Amount} (ha : i.total? = some a) :
    InRange (productCents a factor) := by
  obtain ⟨text, htext, hread⟩ := Option.bind_eq_some_iff.mp ha
  exact hproducts text (LoanInterest.mem_money_of_total htext) a hread

end Products

/-! ## The whole scenario -/

namespace Scenario

variable {factor : Amount} {s s' : Scenario}

/-- The interest is changed with the rest. -/
theorem interest_mapMoney (f : String → String) {i : LoanInterest}
    (h : s.constructionLoanInterest = some i) :
    (s.mapMoney f).constructionLoanInterest = some (i.mapMoney f) :=
  congrArg (Option.map (LoanInterest.mapMoney f)) h

theorem interest_mapMoney_of_none (f : String → String) (h : s.constructionLoanInterest = none) :
    (s.mapMoney f).constructionLoanInterest = none :=
  congrArg (Option.map (LoanInterest.mapMoney f)) h

/-- Reconciling a scenario is reconciling its interest. -/
theorem exists_of_reconcile {i : LoanInterest} (hi : s.constructionLoanInterest = some i)
    (h : s.reconcile = .ok s') :
    ∃ j, i.reconcile = .ok j ∧ s' = { s with constructionLoanInterest := some j } := by
  unfold reconcile at h
  rw [hi] at h
  simp only at h
  cases hj : i.reconcile with
  | error e =>
    rw [hj] at h
    cases h
  | ok j =>
    rw [hj] at h
    cases h
    exact ⟨j, rfl, rfl⟩

theorem reconcile_of_interest {i j : LoanInterest} (hi : s.constructionLoanInterest = some i)
    (hj : i.reconcile = .ok j) :
    s.reconcile = .ok { s with constructionLoanInterest := some j } := by
  unfold reconcile
  rw [hi]
  simp only [hj]
  rfl

/-- What is rescaled is each amount on its own, and then the interest is reconciled. -/
theorem reconcile_of_rescale (h : s.rescale factor = .ok s') :
    (s.mapMoney factor.rescaleText).reconcile = .ok s' := by
  unfold rescale at h
  split at h
  · exact h
  · cases h

/-- What a rescaled scenario looks like: the interest is reconciled if there is any, and all else
is each amount on its own. -/
theorem exists_of_rescale (h : s.rescale factor = .ok s') :
    ∃ interest, s' = { s.mapMoney factor.rescaleText with constructionLoanInterest := interest } ∧
      Option.Rel (fun i j => (i.mapMoney factor.rescaleText).reconcile = .ok j)
        s.constructionLoanInterest interest := by
  have hreconcile := reconcile_of_rescale h
  cases hi : s.constructionLoanInterest with
  | none =>
    have hnone := interest_mapMoney_of_none factor.rescaleText hi
    unfold reconcile at hreconcile
    rw [hnone] at hreconcile
    cases hreconcile
    exact ⟨none, by rw [← hnone], .none⟩
  | some i =>
    have hsome := interest_mapMoney factor.rescaleText hi
    obtain ⟨j, hj, rfl⟩ := exists_of_reconcile hsome hreconcile
    exact ⟨some j, rfl, .some hj⟩

theorem rescale_of_products
    (h : ∀ text ∈ s.money, ∀ a ∈ Amount.read? text, InRange (productCents a factor)) :
    s.rescale factor = (s.mapMoney factor.rescaleText).reconcile := by
  unfold rescale
  rw [if_pos]
  rw [List.all_eq_true]
  exact fun text htext => isSome_rescaleText? (h text htext)

theorem inCents_of_products {i : LoanInterest}
    (h : ∀ text ∈ i.money, ∀ a ∈ Amount.read? text, InRange (productCents a factor)) :
    (i.mapMoney factor.rescaleText).InCents := by
  constructor
  · intro a ha
    rw [total?_mapMoney h] at ha
    obtain ⟨b, hb, rfl⟩ := Option.map_eq_some_iff.mp ha
    exact ofCents_scale (inRange_scaledCents (inRange_of_total? h hb))
  · intro e he a ha
    obtain ⟨d, hd, rfl⟩ := List.mem_map.mp he
    rw [amount?_mapMoney h hd] at ha
    obtain ⟨b, hb, rfl⟩ := Option.map_eq_some_iff.mp ha
    exact ofCents_scale (inRange_scaledCents (inRange_of_amount? h hd hb))

/-- Rescaling does not overflow if everything fits. -/
theorem exists_rescale (h : s.Fits factor) : ∃ s', s.rescale factor = .ok s' := by
  rw [rescale_of_products h.products]
  cases hi : s.constructionLoanInterest with
  | none =>
    have hnone := interest_mapMoney_of_none factor.rescaleText hi
    unfold reconcile
    rw [hnone]
    exact ⟨_, rfl⟩
  | some i =>
    have hsome := interest_mapMoney factor.rescaleText hi
    have hcents := inCents_of_products fun text htext =>
      h.products text (mem_money_of_interest hi htext)
    obtain ⟨j, hj⟩ := LoanInterest.exists_reconcile hcents (h.sums i hi)
    exact ⟨_, reconcile_of_interest hsome hj⟩

/-- Rescaling scales the total and all periods but the last each on its own, and settles the rest
with the last. -/
theorem exists_settled {i : LoanInterest} {total last : Amount} {front : List Amount}
    (hi : s.constructionLoanInterest = some i) (htotal : i.total? = some total)
    (hamounts : i.entries.map InterestEntry.amount? = (front ++ [last]).map some)
    (hfits : s.Fits factor) :
    ∃ j rest, s.rescale factor =
        .ok { s.mapMoney factor.rescaleText with constructionLoanInterest := some j } ∧
      j.total? = some (ofCents (factor.scaledCents total)) ∧
      j.entries.map InterestEntry.amount? =
        ((front.map fun a => ofCents (factor.scaledCents a)) ++ [rest]).map some ∧
      (((front.map fun a => ofCents (factor.scaledCents a)) ++ [rest]).map value).sum =
        (ofCents (factor.scaledCents total)).value := by
  have hproducts (text : String) (htext : text ∈ i.money) :=
    hfits.products text (mem_money_of_interest hi htext)
  have hmapped := interest_mapMoney factor.rescaleText hi
  -- the amounts after rescaling each of them on its own
  have hscaled := map_amount?_mapMoney hproducts
  have hscaledTotal := total?_mapMoney hproducts
  rw [hamounts, List.map_append, List.map_append, List.map_map] at hscaled
  rw [htotal, Option.map_some] at hscaledTotal
  obtain ⟨j, rest, hj, htotal', hamounts', hsum⟩ := LoanInterest.exists_settled
    (front.map fun a => ofCents (factor.scaledCents a))
    (a := ofCents (factor.scaledCents last)) (inCents_of_products hproducts)
    (hfits.sums i hi) hscaledTotal (by rw [hscaled]; simp [Function.comp_def])
  refine ⟨j, rest, ?_, htotal', hamounts', hsum⟩
  rw [rescale_of_products hfits.products]
  exact reconcile_of_interest hmapped hj

end Scenario

/-- **The interest of the periods sums to the total**, exactly and whether or not it did before,
if all of it is given and nothing is too large: the total and all periods but the last are scaled
and rounded each on its own, the exact product to the nearest cent with a half going to the even
one wherever it is an amount, and the last period takes up the rest. If an amount is missing, the
last period is scaled on its own as well. -/
theorem interest_sums_to_total (factor : Amount) (s : Scenario) (i : LoanInterest)
    (hi : s.constructionLoanInterest = some i) (hentries : i.entries ≠ []) :
    (∀ (total : Amount) (amounts : List Amount), i.total? = some total →
      i.entries.map InterestEntry.amount? = amounts.map some → s.Fits factor →
      ∃ (s' : Scenario) (i' : LoanInterest) (total' : Amount) (amounts' : List Amount),
        s.rescale factor = .ok s' ∧
        s'.constructionLoanInterest = some i' ∧ i'.total? = some total' ∧
        i'.entries.map InterestEntry.amount? = amounts'.map some ∧
        amounts'.length = amounts.length ∧
        (amounts'.map value).sum = total'.value ∧
        factor.times? total = some total' ∧
        amounts.dropLast.map factor.times? = amounts'.dropLast.map some ∧
        ∀ a ∈ total :: amounts.dropLast, InRange (a.coefficient * factor.coefficient) →
          a.scale + factor.scale ≤ maxScale →
          factor.times? a = some (ofCents (productCents a factor))) ∧
    (i.total? = none ∨ none ∈ i.entries.map InterestEntry.amount? →
      (s.Fits factor → ∃ s', s.rescale factor = .ok s') ∧
      ∀ s', s.rescale factor = .ok s' → s' = s.mapMoney factor.rescaleText) := by
  have hmapped := Scenario.interest_mapMoney factor.rescaleText hi
  constructor
  · intro total amounts htotal hamounts hfits
    have hproducts (text : String) (htext : text ∈ i.money) :=
      hfits.products text (Scenario.mem_money_of_interest hi htext)
    obtain ⟨front, last, rfl⟩ : ∃ front last, amounts = front ++ [last] := by
      have hne : amounts ≠ [] := by
        rintro rfl
        exact hentries (List.map_eq_nil_iff.mp hamounts)
      exact ⟨_, _, (List.dropLast_concat_getLast hne).symm⟩
    obtain ⟨i', rest, hrescale, htotal', hamounts', hsum⟩ :=
      Scenario.exists_settled hi htotal hamounts hfits
    have hfront (a : Amount) (ha : a ∈ front) : InRange (productCents a factor) := by
      have hmem : some a ∈ i.entries.map InterestEntry.amount? := by
        rw [hamounts]
        exact List.mem_map_of_mem (List.mem_append_left _ ha)
      obtain ⟨e, he, hamount⟩ := List.mem_map.mp hmem
      exact inRange_of_amount? hproducts he hamount
    have hall (a : Amount) (ha : a ∈ total :: front) : InRange (productCents a factor) := by
      rcases List.mem_cons.mp ha with rfl | hin
      · exact inRange_of_total? hproducts htotal
      · exact hfront a hin
    refine ⟨_, i', _, _, hrescale, rfl, htotal', hamounts', by simp, hsum,
      times?_of_inRange (inRange_of_total? hproducts htotal), ?_, ?_⟩
    · rw [List.dropLast_concat, List.dropLast_concat, List.map_map]
      exact List.map_congr_left fun a ha => times?_of_inRange (hfront a ha)
    · rw [List.dropLast_concat]
      exact fun a ha hcoefficient hscale => times?_of_exact hcoefficient hscale (hall a ha)
  · intro hmissing
    refine ⟨Scenario.exists_rescale, fun s' hs' => ?_⟩
    have hreconcile := Scenario.reconcile_of_rescale hs'
    obtain ⟨j, hj, rfl⟩ := Scenario.exists_of_reconcile hmapped hreconcile
    rw [LoanInterest.eq_of_reconcile_of_missing (missing_mapMoney factor hmissing) hj, ← hmapped]

/-- The baseline with its total interest missing. -/
def Offline.withoutTotal : Scenario :=
  { baseline with
    constructionLoanInterest := some { loanInterest with totalInterest := none } }

/-- Nothing of the baseline is too large in any of the cases. -/
theorem Offline.fits_baseline : ∀ v ∈ [baseCase, upsideCase, downsideCase],
    baseline.Fits v.factor := by
  have hproducts : ∀ v ∈ [baseCase, upsideCase, downsideCase], ∀ text ∈ baseline.money,
      ∀ a ∈ Amount.read? text, InRange (productCents a v.factor) := by
    decide +kernel
  have hsums : ∀ v ∈ [baseCase, upsideCase, downsideCase],
      ∀ i ∈ baseline.constructionLoanInterest, (i.mapMoney v.factor.rescaleText).SumsFit := by
    decide +kernel
  exact fun v hv => ⟨hproducts v hv, hsums v hv⟩

/-- The baseline in the upside case: the total grows to 1190555.44, the first period to 297638.86,
and the last takes up a cent more than its own rounding. Without its total nothing is taken up. -/
theorem interest_sums_to_total_of_upside :
    Offline.baseline.Fits Offline.upsideCase.factor ∧
    (∃ (s' : Scenario) (i' : LoanInterest) (total' : Amount) (amounts' : List Amount),
      Offline.baseline.rescale Offline.upsideCase.factor = .ok s' ∧
      s'.constructionLoanInterest = some i' ∧ i'.total? = some total' ∧
      i'.entries.map InterestEntry.amount? = amounts'.map some ∧
      (amounts'.map value).sum = total'.value) ∧
    ∀ s', Offline.withoutTotal.rescale Offline.upsideCase.factor = .ok s' →
      s' = Offline.withoutTotal.mapMoney Offline.upsideCase.factor.rescaleText := by
  have hfits := Offline.fits_baseline Offline.upsideCase (by simp)
  obtain ⟨s', i', total', amounts', hs', hi', htotal', hamounts', -, hsum, -⟩ :=
    (interest_sums_to_total Offline.upsideCase.factor Offline.baseline Offline.loanInterest rfl
      (by decide)).1 (ofCents 113928750) [ofCents 28482188, ofCents 85446562] (by decide +kernel)
      (by decide +kernel) hfits
  have hmissing := (interest_sums_to_total Offline.upsideCase.factor Offline.withoutTotal
    { Offline.loanInterest with totalInterest := none } rfl (by decide)).2 (.inl rfl)
  exact ⟨hfits, ⟨s', i', total', amounts', hs', hi', htotal', hamounts', hsum⟩, hmissing.2⟩

end Proforma
