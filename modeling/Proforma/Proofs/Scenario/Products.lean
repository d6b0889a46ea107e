import Proforma.Offline.Synthesis
import Proforma.Proofs.Amount.NearestCent
import Proforma.Proofs.Amount.Opposite
import Proforma.Proofs.Scenario.Rescaling
import Proforma.Proofs.Scenario.Slots

/-!
# What is written for a product

Rescaling writes for an amount the nearest cent of its exact product with the factor
(`rescaleText?_of_representable`), for the opposite amount the opposite text, and for a text that is
no amount the text itself. So a scenario in which no money is an amount stays as it is
(`rescale_of_no_amounts`). `product_to_nearest_cent` says all of this.
-/

namespace Proforma

open Amount

/-! ## One text -/

namespace Amount

variable {factor a : Amount} {text : String} {n : Int}

/-- An exact product is written as its nearest cent. -/
theorem rescaleText?_of_representable (hread : read? text = some a)
    (h : Representable (a.value * factor.value))
    (hn : IsNearestCents n (a.value * factor.value)) (hfits : InRange n) :
    factor.rescaleText? text = some (centsText n) := by
  obtain ⟨p, hp, hvalue⟩ := exists_mul?_of_representable h
  have hcents : p.cents = n := by
    rw [← hvalue] at hn
    exact hn.eq (isNearestCents_rescaled p.coefficient p.scale)
  unfold rescaleText?
  rw [hread]
  show (a.mul? factor).map (·.toCents.text) = _
  rw [hp, Option.map_some, toCents_eq_ofCents (hcents ▸ hfits), text_ofCents (hcents ▸ hfits),
    hcents]

/-- The opposite amount is written as the opposite text. -/
theorem rescaleText?_of_neg {opposite : String} (hread : read? opposite = some a.neg)
    (h : Representable (a.value * factor.value))
    (hn : IsNearestCents n (a.value * factor.value)) (hfits : InRange n) :
    factor.rescaleText? opposite = some (centsText (-n)) := by
  have hproduct : a.neg.value * factor.value = -(a.value * factor.value) := by
    rw [value_neg, neg_mul]
  refine rescaleText?_of_representable hread ?_ ?_ ?_
  · obtain ⟨p, hp⟩ := h
    exact ⟨p.neg, by rw [value_neg, hp, hproduct]⟩
  · rw [hproduct]
    exact hn.neg
  · unfold InRange
    rwa [Int.natAbs_neg]

theorem rescaleText?_of_none (factor : Amount) (h : read? text = none) :
    factor.rescaleText? text = some text := by
  unfold rescaleText?
  rw [h]

end Amount

/-! ## A scenario without amounts -/

theorem LoanInterest.reconcile_of_no_total {i : LoanInterest} (h : i.total? = none) :
    i.reconcile = .ok i := by
  unfold reconcile
  rw [show i.totalInterest.bind Amount.read? = none from h]

/-- A scenario in which no money is an amount stays as it is. -/
theorem Scenario.rescale_of_no_amounts {s : Scenario} (factor : Amount)
    (h : ∀ text ∈ s.money, Amount.read? text = none) : s.rescale factor = .ok s := by
  have hall : s.money.all (fun text => (factor.rescaleText? text).isSome) = true := by
    rw [List.all_eq_true]
    intro text htext
    rw [rescaleText?_of_none factor (h text htext)]
    rfl
  unfold rescale
  rw [if_pos hall, mapMoney_eq_self fun text htext => rescaleText_of_none (h text htext)]
  cases hi : s.constructionLoanInterest with
  | none =>
    unfold reconcile
    rw [hi]
  | some i =>
    have htotal : i.total? = none := by
      unfold LoanInterest.total?
      cases htext : i.totalInterest with
      | none => rfl
      | some text => exact h text (mem_money_of_interest hi (LoanInterest.mem_money_of_total htext))
    rw [reconcile_of_interest hi (LoanInterest.reconcile_of_no_total htotal), ← hi]

/-- **An amount times a factor is written to the nearest cent.** Whatever the text of an amount and
the factor, if there is an amount of their exact product, then exactly one number of cents is
nearest to it, of two that are equally near the even one, and if that is not too large it is what
is written, with two decimals. A text of the opposite amount, such as the text with a sign in front,
is then written as the opposite text, and zero is written without a sign. A text that is no amount
stays as it is, and so does a scenario in which no money is an amount. -/
theorem product_to_nearest_cent (factor : Amount) (text : String) :
    (∀ a, read? text = some a → Representable (a.value * factor.value) →
      ∃ n, IsNearestCents n (a.value * factor.value) ∧
        (∀ m, IsNearestCents m (a.value * factor.value) → m = n) ∧
        (InRange n →
          factor.rescaleText? text = some (centsText n) ∧
          (∀ opposite, read? opposite = some a.neg →
            factor.rescaleText? opposite = some (centsText (-n))) ∧
          (IsUnsigned text → factor.rescaleText? ("-" ++ text) = some (centsText (-n))))) ∧
      (∀ n, 0 < n → centsText (-n) = "-" ++ centsText n) ∧ centsText 0 = "0.00" ∧
      (read? text = none → factor.rescaleText? text = some text) ∧
      ∀ s : Scenario, (∀ money ∈ s.money, read? money = none) → s.rescale factor = .ok s := by
  refine ⟨fun a hread h => ?_, fun n => centsText_neg, rfl, rescaleText?_of_none factor,
    fun s => Scenario.rescale_of_no_amounts factor⟩
  obtain ⟨p, hp⟩ := h
  have hnearest : IsNearestCents p.cents (a.value * factor.value) :=
    hp ▸ isNearestCents_rescaled p.coefficient p.scale
  refine ⟨p.cents, hnearest, fun m hm => hnearest.eq hm, fun hfits => ⟨?_, ?_, ?_⟩⟩
  · exact rescaleText?_of_representable hread ⟨p, hp⟩ hnearest hfits
  · exact fun opposite hopposite => rescaleText?_of_neg hopposite ⟨p, hp⟩ hnearest hfits
  · intro hunsigned
    have hopposite : read? ("-" ++ text) = some a.neg := by
      rw [read?_minus hunsigned, hread, Option.map_some]
    exact rescaleText?_of_neg hopposite ⟨p, hp⟩ hnearest hfits

/-- Three in the downside case is 2.865, half way between two cents, and goes to the even one. -/
theorem product_to_nearest_cent_of_tie :
    Offline.downsideCase.factor.rescaleText? "3" = some "2.86" ∧
      Offline.downsideCase.factor.rescaleText? "-3" = some "-2.86" := by
  have hread : read? "3" = some ⟨3, 0, by decide, by decide⟩ := by decide +kernel
  have hproduct : (⟨3, 0, by decide, by decide⟩ : Amount).value *
      Offline.downsideCase.factor.value = 2865 / 1000 := by
    decide +kernel
  have hexact : Representable (2865 / 1000) := ⟨⟨2865, 3, by decide, by decide⟩, by decide +kernel⟩
  have hcents : IsNearestCents 286 (2865 / 1000) := by
    rw [isNearestCents_iff]
    unfold halfCent
    norm_num
  obtain ⟨n, hn, hall, hwritten⟩ :=
    (product_to_nearest_cent Offline.downsideCase.factor "3").1 _ hread (hproduct ▸ hexact)
  obtain rfl : 286 = n := hall 286 (hproduct ▸ hcents)
  obtain ⟨htext, -, hopposite⟩ := hwritten (by decide)
  exact ⟨htext, hopposite (by decide)⟩

end Proforma
