import Proforma.Proofs.Amount.Normal
import Proforma.Proofs.Scenario.Rescaling
import Proforma.Proofs.Scenario.Slots

/-!
# Rescaled scenarios are in normal form

What rescaling writes is an amount in cents, or with as many decimals as fit, and any text that is
no amount stays (`NormalText`). Times one such a text is what it was. The interest of the last
period is written in the same form, and as it is made of texts that stay as they are, reconciling
makes it again (`Scenario.reconcile_reconcile`). So rescaling by one changes nothing more
(`rescale_one_of_rescaled`), whatever the texts were at first and whatever was too large for cents.
-/

namespace Proforma

open Amount

/-! ## Texts -/

/-- A text as rescaling writes it: that of an amount in cents, or one that is no amount. -/
def NormalText (text : String) : Prop :=
  ∀ a ∈ read? text, a.toCents.text = text

theorem normalText_text_toCents (a : Amount) : NormalText a.toCents.text := by
  intro b hb
  rw [read?_text, Option.mem_some_iff] at hb
  rw [← hb, toCents_toCents]

section Texts

variable {factor one : Amount} {text scaled : String}

/-- What rescaling makes of a text is in normal form. -/
theorem normalText_of_rescaleText? (h : factor.rescaleText? text = some scaled) :
    NormalText scaled := by
  unfold rescaleText? at h
  cases hread : read? text with
  | none =>
    rw [hread] at h
    cases h
    intro a ha
    rw [hread] at ha
    cases ha
  | some a =>
    rw [hread] at h
    obtain ⟨p, -, rfl⟩ := Option.map_eq_some_iff.mp h
    exact normalText_text_toCents p

/-- A text in normal form is not changed by the factor one. -/
theorem rescaleText?_of_one (hone : one.value = 1) (h : NormalText text) :
    one.rescaleText? text = some text := by
  unfold rescaleText?
  cases hread : read? text with
  | none => rfl
  | some a =>
    have hproduct := congrArg (Option.map Amount.text) (map_toCents_mul?_of_one hone a)
    rw [Option.map_map, Option.map_some, h a hread] at hproduct
    exact hproduct

theorem rescaleText_of_one (hone : one.value = 1) (h : NormalText text) :
    one.rescaleText text = text := by
  unfold rescaleText
  rw [rescaleText?_of_one hone h]
  rfl

end Texts

/-! ## Reconciling -/

/-- Reconciling once more sets the interest of the last period to what it is. -/
theorem LoanInterest.reconcile_reconcile {i j : LoanInterest} (h : i.reconcile = .ok j) :
    j.reconcile = .ok j := by
  rcases cases_of_reconcile h with
    rfl | ⟨total, sum, rest, earlier, last, htotal, -, -, hsum, hrest, hj⟩
  · exact h
  · -- neither the total nor the other periods have changed, and the last is still an amount
    have htotal' : j.total? = some total := by rw [hj]; exact htotal
    have hentries : j.entries = earlier ++ [{ last with interest := some rest.toCents.text }] := by
      rw [hj]
    have hlast :
        ({ last with interest := some rest.toCents.text } : InterestEntry).amount? ≠ none := by
      rw [InterestEntry.amount?, Option.bind_some, read?_text]
      exact Option.some_ne_none _
    rw [reconcile_of_parts htotal' hentries hlast hsum hrest, hj]

namespace Scenario

variable {factor : Amount} {s s' : Scenario}

theorem reconcile_reconcile (h : s.reconcile = .ok s') : s'.reconcile = .ok s' := by
  cases hi : s.constructionLoanInterest with
  | none =>
    have hsame : s' = s := by
      unfold reconcile at h
      rw [hi] at h
      cases h
      rfl
    rwa [hsame] at h ⊢
  | some i =>
    obtain ⟨j, hj, rfl⟩ := exists_of_reconcile hi h
    exact reconcile_of_interest rfl (LoanInterest.reconcile_reconcile hj)

/-- Reconciling leaves all but the interest of the last period alone, and that is written as an
amount in cents if it is set. -/
theorem lastInterest_of_reconcile (h : s.reconcile = .ok s') :
    s'.withoutLastInterest = s.withoutLastInterest ∧
      (s' = s ∨ ∃ rest : Amount, s'.lastInterest? = some rest.toCents.text) := by
  cases hi : s.constructionLoanInterest with
  | none =>
    unfold reconcile at h
    rw [hi] at h
    cases h
    exact ⟨rfl, .inl rfl⟩
  | some i =>
    obtain ⟨j, hj, hs'⟩ := exists_of_reconcile hi h
    rcases LoanInterest.cases_of_reconcile hj with
      hsame | ⟨total, sum, rest, earlier, last, -, hentries, -, -, -, rfl⟩
    · rw [hsame, ← hi] at hs'
      rw [hs']
      exact ⟨rfl, .inl rfl⟩
    · have hother : s'.withoutLastInterest = s.withoutLastInterest := by
        simp [hs', withoutLastInterest, hi, LoanInterest.withoutLast, hentries]
      have hset : s'.lastInterest? = some rest.toCents.text := by
        simp [hs', lastInterest?, LoanInterest.lastInterest?]
      exact ⟨hother, .inr ⟨rest, hset⟩⟩

/-- Rescaling makes something of every text. -/
theorem rescaleText?_of_rescale (h : s.rescale factor = .ok s') {text : String}
    (htext : text ∈ s.money) : factor.rescaleText? text = some (factor.rescaleText text) := by
  have hall : s.money.all (fun text => (factor.rescaleText? text).isSome) = true := by
    unfold rescale at h
    by_contra hnot
    rw [if_neg hnot] at h
    cases h
  obtain ⟨scaled, hscaled⟩ := Option.isSome_iff_exists.mp (List.all_eq_true.mp hall text htext)
  unfold rescaleText
  rw [hscaled]
  rfl

/-- All money of a rescaled scenario is in normal form, the reconciled interest with it. -/
theorem normalText_of_rescale (h : s.rescale factor = .ok s') :
    ∀ text ∈ s'.money, NormalText text := by
  have hscaled : ∀ text ∈ (s.mapMoney factor.rescaleText).money, NormalText text := by
    rw [money_mapMoney]
    intro text' htext'
    obtain ⟨text, htext, rfl⟩ := List.mem_map.mp htext'
    exact normalText_of_rescaleText? (rescaleText?_of_rescale h htext)
  obtain ⟨hrest, hlast⟩ := lastInterest_of_reconcile (reconcile_of_rescale h)
  intro text htext
  rcases mem_money_iff.mp htext with hother | hinterest
  · exact hscaled text (mem_money_iff.mpr (.inl (hrest ▸ hother)))
  · rcases hlast with rfl | ⟨rest, hset⟩
    · exact hscaled text htext
    · rw [hset, Option.mem_some_iff] at hinterest
      exact hinterest ▸ normalText_text_toCents rest

/-- A scenario whose money is in normal form and whose interest is reconciled is not changed by
the factor one. -/
theorem rescale_of_one {one : Amount} (hone : one.value = 1)
    (hnormal : ∀ text ∈ s.money, NormalText text) (hreconciled : s.reconcile = .ok s) :
    s.rescale one = .ok s := by
  unfold rescale
  rw [if_pos, mapMoney_eq_self fun text htext => rescaleText_of_one hone (hnormal text htext)]
  · exact hreconciled
  · rw [List.all_eq_true]
    intro text htext
    rw [rescaleText?_of_one hone (hnormal text htext)]
    rfl

end Scenario

/-- **A rescaled scenario is in normal form**: rescaling it by one, however many decimals that one
is written with, overflows nowhere and gives the same scenario, down to the text of every amount
and the interest that was reconciled. Nothing is asked of the texts of the first scenario nor of
the factor but that rescaling did not overflow. -/
theorem rescale_one_of_rescaled (factor : Amount) (s s' : Scenario)
    (h : s.rescale factor = .ok s') (one : Amount) (hone : one.value = 1) :
    s'.rescale one = .ok s' :=
  Scenario.rescale_of_one hone (Scenario.normalText_of_rescale h)
    (Scenario.reconcile_reconcile (Scenario.reconcile_of_rescale h))

/-- Interest in rough texts: a total that has room for one decimal only, periods with signs,
underscores, exponents and more decimals than two, and a fee that is no amount. -/
def roughInterest : LoanInterest :=
  { Offline.loanInterest with
    totalInterest := "7922816251426433759354395033.5"
    upfrontFeeTotal := "n/a"
    entries :=
      [{ period := "M1"
         openingBalance := "-5."
         closingBalance := " +.5 "
         averageBalance := none
         interest := "1_0.125e-1" },
       { period := "M2"
         openingBalance := "1e-28"
         closingBalance := "-0.004"
         averageBalance := none
         interest := "1e3" }] }

/-- The baseline with that interest, and with a cost that has no room for decimals. -/
def roughScenario : Scenario :=
  { Offline.baseline with
    escalatedCost := "79228162514264337593543950335"
    constructionLoanInterest := roughInterest }

/-- In the downside case the last period takes up the rest of the total, which has room for one
decimal only: 7566289520112244240183447257.0 less 0.97, rounded. Times one it stays. -/
theorem rescale_one_of_rescaled_of_rough :
    ∃ s', roughScenario.rescale Offline.downsideCase.factor = .ok s' ∧
      s'.escalatedCost = some "75662895201122442401834472570" ∧
      s'.lastInterest? = some "7566289520112244240183447256.0" ∧
      (ofCents 100).value = 1 ∧ s'.rescale (ofCents 100) = .ok s' := by
  have hone : (ofCents 100).value = 1 := by decide +kernel
  have hfigures :
      (roughScenario.rescale Offline.downsideCase.factor).toOption.map
          (fun s' => (s'.escalatedCost, s'.lastInterest?)) =
        some (some "75662895201122442401834472570", some "7566289520112244240183447256.0") := by
    decide +kernel
  cases h : roughScenario.rescale Offline.downsideCase.factor with
  | error overflow =>
    rw [h] at hfigures
    cases hfigures
  | ok s' =>
    rw [h] at hfigures
    obtain ⟨hcost, hlast⟩ := Prod.mk.inj (Option.some.inj hfigures)
    exact ⟨s', rfl, hcost, hlast, hone, rescale_one_of_rescaled _ _ s' h _ hone⟩

end Proforma
