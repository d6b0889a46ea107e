import Proforma.Proofs.Scenario.Agreement
import Proforma.Proofs.Scenario.NormalForm

/-!
# Which results are denominated in the currency

Relabelling and rescaling each have a test of their own for the results that are money. To
relabelling a result is denominated in the currency if that is its unit, or if its free data name
a currency (`Metric.IsDenominated`). Rescaling looks at the free data alone. So the two agree on
every result but those that have the currency as their unit and name none in their free data:
these get another currency and keep their figure (`rescale_denominated`). Replies do have such
results, and `unitReply` is one.
-/

namespace Proforma

open Amount

namespace Metric

/-! ## The two tests -/

/-- Whether relabelling takes a result for one in the currency: by its unit or by its free data. -/
def IsDenominated (currency : String) (m : Metric) : Prop :=
  m.unit = some currency ∨ m.metadata.currency?.isSome

/-- The figure after rescaling, if all figures with a property are to be rescaled and no other:
an amount is multiplied and rounded to cents. -/
def RescaledIf (property : Prop) (factor : Amount) (m m' : Metric) : Prop :=
  (property → ∀ text ∈ m.value, ∀ a ∈ Amount.read? text,
    ∃ product, a.mul? factor = some product ∧ m'.value = some product.toCents.text) ∧
  (¬property → m'.value = m.value)

variable {currency : String} {factor : Amount} {m : Metric}

/-- What rescaling takes for money is denominated in the currency. -/
theorem isDenominated_of_isMoney (h : m.isMoney) : m.IsDenominated currency := by
  rw [isMoney_eq] at h
  exact .inr h

theorem isDenominated_iff_unit_of_not_isMoney (h : ¬m.isMoney) :
    m.IsDenominated currency ↔ m.unit = some currency := by
  rw [isMoney_eq] at h
  exact or_iff_left h

/-- A result that is not denominated is left alone. -/
theorem relabel_of_not_isDenominated (h : ¬m.IsDenominated currency) (code : String) :
    m.relabel currency code = m := by
  obtain ⟨hunit, hdata⟩ := not_or.mp h
  unfold relabel
  rw [if_neg hunit, relabelMetadata_of_none (Option.not_isSome_iff_eq_none.mp hdata)]

/-- **What is denominated** is what relabelling changes, with some code. -/
theorem exists_relabel_ne_iff :
    (∃ code, m.relabel currency code ≠ m) ↔ m.IsDenominated currency := by
  constructor
  · rintro ⟨code, hne⟩
    by_contra hnot
    exact hne (relabel_of_not_isDenominated hnot code)
  · intro h
    by_contra hnone
    -- a mark that two codes leave alone would be both codes
    have hsame : ∀ code, m.relabel currency code = m := not_exists_not.mp hnone
    rcases h with hunit | hdata
    · have hcode (code : String) : some code = m.unit := by
        have h := congrArg Metric.unit (hsame code)
        rwa [relabel, if_pos hunit] at h
      have heq := (hcode "EUR").trans (hcode "USD").symm
      exact absurd heq (by decide)
    · obtain ⟨named, hnamed⟩ := Option.isSome_iff_exists.mp hdata
      have hcode (code : String) : some (Json.string code) = m.metadata.currency? := by
        have h := congrArg (Json.currency? ∘ Metric.metadata) (hsame code)
        rw [Function.comp_apply, Function.comp_apply, relabel, currency?_relabelMetadata,
          hnamed] at h
        rw [hnamed]
        exact h
      have heq := (hcode "EUR").trans (hcode "USD").symm
      exact absurd heq (by decide)

/-! ## What rescaling does to a result -/

/-- Rescaling changes nothing of a result but its figure. -/
theorem mapMoney_eq (f : String → String) (m : Metric) :
    m.mapMoney f = { m with value := (m.mapMoney f).value } := by
  unfold mapMoney
  split <;> rfl

theorem mapMoney_value_of_not (f : String → String) (h : ¬m.isMoney) :
    (m.mapMoney f).value = m.value := by
  unfold mapMoney
  rw [if_neg h]

/-- The figures that name a currency in their free data are rescaled. -/
theorem rescaledIf_isMoney
    (h : ∀ text ∈ m.money, factor.rescaleText? text = some (factor.rescaleText text)) :
    m.RescaledIf m.isMoney factor (m.mapMoney factor.rescaleText) := by
  refine ⟨fun hmoney text htext a ha => ?_, mapMoney_value_of_not _⟩
  have hlisted : text ∈ m.money := by
    unfold money
    rw [if_pos hmoney]
    exact Option.mem_toList.mpr htext
  have hscaled := h text hlisted
  unfold rescaleText? at hscaled
  rw [ha] at hscaled
  obtain ⟨product, hproduct, hprinted⟩ := Option.map_eq_some_iff.mp hscaled
  refine ⟨product, hproduct, ?_⟩
  rw [mapMoney_value _ _ hmoney, htext, Option.map_some, hprinted]

/-- All denominated figures are rescaled exactly if those that have the currency as their unit
name one in their free data too, or would not have changed. -/
theorem rescaledIf_isDenominated_iff
    (h : ∀ text ∈ m.money, factor.rescaleText? text = some (factor.rescaleText text)) :
    m.RescaledIf (m.IsDenominated currency) factor (m.mapMoney factor.rescaleText) ↔
      (m.unit = some currency → m.isMoney ∨
        ∀ text ∈ m.value, (Amount.read? text).isSome →
          factor.rescaleText? text = some text) := by
  by_cases hmoney : m.isMoney = true
  · obtain ⟨hscaled, -⟩ := rescaledIf_isMoney h
    refine iff_of_true ⟨fun _ => hscaled hmoney, fun hnot => ?_⟩ fun _ => .inl hmoney
    exact absurd (isDenominated_of_isMoney hmoney) hnot
  · unfold RescaledIf
    rw [isDenominated_iff_unit_of_not_isMoney hmoney, mapMoney_value_of_not _ hmoney]
    simp only [imp_true_iff, and_true, or_iff_right hmoney]
    -- the figure is what it was, so it has to be its own rescaling
    refine imp_congr_right fun _ => forall₂_congr fun text htext => ?_
    rw [htext]
    unfold rescaleText?
    cases Amount.read? text with
    | none => simp
    | some a => simp [eq_comm]

end Metric

/-! ## The whole scenario -/

/-- **Rescaling agrees with relabelling on which results are money**, but for units. A result that
some code would relabel is one in the currency by its unit or its free data. Rescaling multiplies
and rounds the figures of those that name a currency in their free data, and changes nothing else.
So it rescales all figures in the currency and no others exactly where a result with the currency
as its unit names one in its free data too, or has a figure that the factor would not change. -/
theorem rescale_denominated (factor : Amount) (s s' : Scenario) (h : s.rescale factor = .ok s') :
    (∀ m ∈ s.results, (∃ code, m.relabel s.currency code ≠ m) ↔ m.IsDenominated s.currency) ∧
    List.Forall₂ (fun m m' =>
        m' = { m with value := m'.value } ∧ m.RescaledIf m.isMoney factor m' ∧
        (m.RescaledIf (m.IsDenominated s.currency) factor m' ↔
          (m.unit = some s.currency → m.isMoney ∨
            ∀ text ∈ m.value, (read? text).isSome → factor.rescaleText? text = some text)))
      s.results s'.results := by
  refine ⟨fun m _ => Metric.exists_relabel_ne_iff, ?_⟩
  have hresults : s'.results = s.results.map (·.mapMoney factor.rescaleText) := by
    have hframe := (Scenario.lastInterest_of_reconcile (Scenario.reconcile_of_rescale h)).1
    exact congrArg Scenario.results hframe
  rw [hresults, List.forall₂_map_right_iff, List.forall₂_same]
  intro m hm
  have hscaled (text : String) (htext : text ∈ m.money) :
      factor.rescaleText? text = some (factor.rescaleText text) := by
    refine Scenario.rescaleText?_of_rescale h ?_
    unfold Scenario.money
    simp only [List.mem_append, List.mem_flatMap]
    exact .inl (.inl (.inl (.inl (.inl (.inl (.inr ⟨m, hm, htext⟩))))))
  exact ⟨Metric.mapMoney_eq _ m, Metric.rescaledIf_isMoney hscaled,
    Metric.rescaledIf_isDenominated_iff hscaled⟩

/-- All results of the baseline that are measured in its currency name it in their free data, so in
the upside case all of them are rescaled, and the rate of return is not. -/
theorem rescale_denominated_of_upside :
    ∃ s', Offline.baseline.rescale Offline.upsideCase.factor = .ok s' ∧
      List.Forall₂ (fun m m' =>
          m.RescaledIf (m.IsDenominated Offline.baselineCurrency) Offline.upsideCase.factor m')
        Offline.baseline.results s'.results := by
  obtain ⟨s', hs'⟩ := Scenario.exists_rescale (Offline.fits_baseline Offline.upsideCase (by simp))
  obtain ⟨-, hresults⟩ := rescale_denominated _ _ s' hs'
  have hmarks : ∀ m ∈ Offline.baseline.results,
      m.unit = some Offline.baselineCurrency → m.isMoney := by decide
  refine ⟨s', hs', ((List.forall₂_and_left _ _).mpr ⟨hmarks, hresults⟩).imp ?_⟩
  rintro m m' ⟨hmark, -, -, hagree⟩
  exact hagree.mpr fun hunit => .inl (hmark hunit)

/-! ## A result that is relabelled and not rescaled -/

/-- A reply with a present value in the currency, whose free data say only the discount rate. -/
def unitReply : Json :=
  .ofFields
    [("scenario_id", .ofInt64 7),
     ("currency", .string "SGD"),
     ("results", .array
       [.ofFields
         [("name", .string "npv"),
          ("value", .string "154.23"),
          ("unit", .string "SGD"),
          ("metadata", .ofFields [("discount_rate", .string "0.08")])]])]

/-- Doubled, the scenario of that reply keeps its present value, which is denominated in its
currency. -/
theorem not_all_denominated_of_double :
    (Scenario.ofReply unitReply).currency = "SGD" ∧
    ∃ s', (Scenario.ofReply unitReply).rescale (ofCents 200) = .ok s' ∧
      ¬List.Forall₂ (fun m m' => m.RescaledIf (m.IsDenominated "SGD") (ofCents 200) m')
        (Scenario.ofReply unitReply).results s'.results := by
  refine ⟨by decide +kernel, .ofReply unitReply, by decide +kernel, fun h => ?_⟩
  have hresults : (Scenario.ofReply unitReply).results =
      [{ name := "npv"
         value := "154.23"
         unit := "SGD"
         metadata := .ofFields [("discount_rate", .string "0.08")] }] := by
    decide +kernel
  rw [hresults, List.forall₂_cons] at h
  obtain ⟨⟨hscaled, -⟩, -⟩ := h
  obtain ⟨product, hproduct, hvalue⟩ :=
    hscaled (.inl rfl) "154.23" rfl (ofCents 15423) (by decide +kernel)
  have hdouble : ((ofCents 15423).mul? (ofCents 200)).map (·.toCents.text) = some "308.46" := by
    decide +kernel
  rw [hproduct, Option.map_some, ← hvalue] at hdouble
  exact absurd hdouble (by decide)

end Proforma
