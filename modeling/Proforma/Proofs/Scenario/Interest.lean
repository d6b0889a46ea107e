import Proforma.Proofs.Amount.Text
import Proforma.Proofs.Amount.Value
import Proforma.Scenario.Money

/-!
# Reconciling the interest

Reconciling reads the interest of the periods and the total, and gives the last period what the
others leave of the total. On amounts of whole cents it is exact as long as the running sums fit
(`exists_sumInterest`): afterwards the periods sum to the total and all but the last are what they
were (`exists_settled`). Where an amount is missing, nothing changes
(`eq_of_reconcile_of_missing`).
-/

namespace Proforma

open Amount

/-! ## The amounts of the interest -/

/-- The interest of a period, if there is one and it is an amount. -/
def InterestEntry.amount? (e : InterestEntry) : Option Amount :=
  e.interest.bind Amount.read?

/-- The total interest, if there is one and it is an amount. -/
def LoanInterest.total? (i : LoanInterest) : Option Amount :=
  i.totalInterest.bind Amount.read?

/-- The interest of the periods in front of the first whose interest is no amount. -/
def headAmounts : List InterestEntry → List Amount
  | [] => []
  | e :: rest =>
    match e.amount? with
    | none => []
    | some a => a :: headAmounts rest

theorem headAmounts_of_amounts {entries : List InterestEntry} {amounts : List Amount}
    (h : entries.map InterestEntry.amount? = amounts.map some) : headAmounts entries = amounts := by
  induction entries generalizing amounts with
  | nil =>
    rw [List.map_nil, eq_comm, List.map_eq_nil_iff] at h
    exact h.symm
  | cons e rest ih =>
    cases amounts with
    | nil => simp at h
    | cons a more =>
      rw [List.map_cons, List.map_cons, List.cons.injEq] at h
      unfold headAmounts
      rw [h.1]
      exact congrArg (a :: ·) (ih h.2)

/-- If no amount is missing, these are all. -/
theorem map_some_headAmounts {entries : List InterestEntry}
    (h : none ∉ entries.map InterestEntry.amount?) :
    entries.map InterestEntry.amount? = (headAmounts entries).map some := by
  induction entries with
  | nil => rfl
  | cons e rest ih =>
    rw [List.map_cons, List.mem_cons, not_or] at h
    obtain ⟨a, ha⟩ := Option.ne_none_iff_exists'.mp (Ne.symm h.1)
    unfold headAmounts
    rw [ha, List.map_cons, List.map_cons, ha, ih h.2]

/-! ## Reconciling in cents -/

/-- A sum is there only if the interest of every period is an amount. -/
theorem amount?_of_sumInterest {sum total : Amount} {entries : List InterestEntry}
    (h : sumInterest sum entries = .ok (some total)) :
    none ∉ entries.map InterestEntry.amount? := by
  induction entries generalizing sum with
  | nil => exact List.not_mem_nil
  | cons e rest ih =>
    rw [sumInterest] at h
    rw [List.map_cons, List.mem_cons, not_or]
    show none ≠ e.interest.bind Amount.read? ∧ _
    cases hamount : e.interest.bind Amount.read? with
    | none =>
      rw [hamount] at h
      cases h
    | some a =>
      rw [hamount] at h
      simp only at h
      cases hadd : sum.add? a with
      | none =>
        rw [hadd] at h
        cases h
      | some next =>
        rw [hadd] at h
        exact ⟨nofun, ih h⟩

/-- Interest that is written in cents. -/
structure LoanInterest.InCents (i : LoanInterest) : Prop where
  total : ∀ a ∈ i.total?, a.scale = 2
  entries : ∀ e ∈ i.entries, ∀ a ∈ e.amount?, a.scale = 2

/-- What reconciling computes from the interest fits at two decimals: every running sum of the
periods but the last, up to the first that has no amount, and what they leave of the total. -/
structure LoanInterest.SumsFit (i : LoanInterest) : Prop where
  earlier : i.total? ≠ none →
    ∀ n ∈ ((headAmounts i.entries.dropLast).map cents).partialSums, InRange n
  rest : ∀ total ∈ i.total?, none ∉ i.entries.map InterestEntry.amount? →
    InRange (total.cents - ((headAmounts i.entries.dropLast).map cents).sum)

instance (i : LoanInterest) : Decidable i.SumsFit :=
  decidable_of_iff (_ ∧ _)
    ⟨fun ⟨hearlier, hrest⟩ => ⟨hearlier, hrest⟩, fun h => ⟨h.earlier, h.rest⟩⟩

/-- The sum of cents is exact while the running sums fit. -/
theorem exists_sumInterest (sum : Amount) {entries : List InterestEntry} (hsum : sum.scale ≤ 2)
    (hentries : ∀ e ∈ entries, ∀ a ∈ e.amount?, a.scale = 2)
    (hfits : ∀ n ∈ ((headAmounts entries).map cents).scanl (· + ·) sum.cents, InRange n) :
    ∃ result, sumInterest sum entries = .ok result ∧
      (none ∉ entries.map InterestEntry.amount? → ∃ total, result = some total ∧
        total.scale ≤ 2 ∧ total.cents = sum.cents + ((headAmounts entries).map cents).sum) := by
  induction entries generalizing sum with
  | nil => exact ⟨some sum, rfl, fun _ => ⟨sum, rfl, hsum, by simp [headAmounts]⟩⟩
  | cons e rest ih =>
    unfold headAmounts at hfits ⊢
    rw [sumInterest, ← InterestEntry.amount?]
    cases hamount : e.amount? with
    | none => exact ⟨none, rfl, fun h => absurd (by simp [hamount]) h⟩
    | some a =>
      have hscale : a.scale = 2 := hentries e List.mem_cons_self a hamount
      rw [hamount] at hfits
      simp only [List.map_cons, List.scanl_cons] at hfits
      have hnext : InRange (sum.cents + a.cents) :=
        hfits _ (List.mem_cons_of_mem _ (List.mem_of_head? List.head?_scanl))
      have hadd : sum.add? a = some (ofCents (sum.cents + a.cents)) :=
        add?_of_whole (by omega) hnext
      obtain ⟨result, hresult, htotal⟩ := ih (ofCents (sum.cents + a.cents))
        (ofCents_scale hnext).le (fun d hd => hentries d (List.mem_cons_of_mem e hd))
        (fun n hn => hfits n (List.mem_cons_of_mem _ (by rwa [cents_ofCents hnext] at hn)))
      refine ⟨result, by simp only [hadd]; exact hresult, fun hall => ?_⟩
      rw [List.map_cons, List.mem_cons, not_or] at hall
      obtain ⟨total, rfl, hwhole, hvalue⟩ := htotal hall.2
      rw [cents_ofCents hnext] at hvalue
      exact ⟨total, rfl, hwhole, by rw [hvalue, List.map_cons, List.sum_cons, Int.add_assoc]⟩

/-- Amounts in cents add up to their cents. -/
theorem sum_value_of_cents {amounts : List Amount} (h : ∀ a ∈ amounts, a.scale = 2) :
    (amounts.map value).sum = ((amounts.map cents).sum : Int) / 100 := by
  induction amounts with
  | nil => simp
  | cons a rest ih =>
    have ha : a.scale ≤ 2 := (h a List.mem_cons_self).le
    rw [List.map_cons, List.sum_cons, List.map_cons, List.sum_cons, value_eq_cents ha,
      ih fun b hb => h b (List.mem_cons_of_mem a hb)]
    push_cast
    ring

namespace LoanInterest

variable {i : LoanInterest} {earlier : List InterestEntry} {last : InterestEntry}

/-- What reconciling sets: the interest of the last period, to what the others leave of the
total. -/
theorem reconcile_of_parts {total sum rest : Amount} (htotal : i.total? = some total)
    (hi : i.entries = earlier ++ [last]) (hlast : last.amount? ≠ none)
    (hsum : sumInterest .zero earlier = .ok (some sum)) (hrest : total.sub? sum = some rest) :
    i.reconcile = .ok
      { i with entries := earlier ++ [{ last with interest := some rest.toCents.text }] } := by
  have hdrop : i.entries.dropLast = earlier := by rw [hi, List.dropLast_concat]
  have hgetLast : i.entries.getLast? = some last := by rw [hi, List.getLast?_concat]
  obtain ⟨a, hamount⟩ := Option.ne_none_iff_exists'.mp hlast
  unfold reconcile
  rw [show i.totalInterest.bind Amount.read? = some total from htotal, hgetLast, hdrop]
  simp only [hsum]
  rw [show last.interest.bind Amount.read? = some a from hamount]
  simp only [hrest]

/-- **What reconciling does**: nothing, or it sets the interest of the last period from that of
the others and the total. -/
theorem cases_of_reconcile {j : LoanInterest} (h : i.reconcile = .ok j) :
    j = i ∨ ∃ total sum rest earlier last, i.total? = some total ∧
      i.entries = earlier ++ [last] ∧ last.amount? ≠ none ∧
      sumInterest .zero earlier = .ok (some sum) ∧ total.sub? sum = some rest ∧
      j = { i with entries := earlier ++ [{ last with interest := some rest.toCents.text }] } := by
  unfold reconcile at h
  split at h
  · next total last htotal hlast =>
    obtain ⟨earlier, hi⟩ := List.getLast?_eq_some_iff.mp hlast
    rw [hi, List.dropLast_concat] at h
    split at h
    · cases h
    · cases h
      exact .inl rfl
    · next sum hsum =>
      split at h
      · cases h
        exact .inl rfl
      · next a hamount =>
        split at h
        · cases h
        · next rest hrest =>
          cases h
          refine .inr ⟨total, sum, rest, earlier, last, htotal, hi, ?_, hsum, hrest, rfl⟩
          rw [InterestEntry.amount?, hamount]
          exact Option.some_ne_none a
  · cases h
    exact .inl rfl

/-- If every amount is there, the last period gets what the others leave of the total. -/
theorem reconcile_of_amounts {total : Amount} (hcents : i.InCents) (hfits : i.SumsFit)
    (hi : i.entries = earlier ++ [last]) (htotal : i.total? = some total)
    (hall : none ∉ i.entries.map InterestEntry.amount?) :
    i.reconcile = .ok
      { i with
        entries := earlier ++ [
          { last with
            interest :=
              some (ofCents (total.cents - ((headAmounts earlier).map cents).sum)).text }] } := by
  have hdrop : i.entries.dropLast = earlier := by rw [hi, List.dropLast_concat]
  have hsums := hfits.earlier (by rw [htotal]; nofun)
  have hrest := hfits.rest total htotal hall
  rw [hdrop] at hsums hrest
  rw [hi, List.map_append, List.mem_append, not_or, List.map_singleton, List.mem_singleton] at hall
  obtain ⟨hearlier, hlast⟩ := hall
  obtain ⟨result, hsum, hwhole⟩ := exists_sumInterest .zero (Nat.zero_le 2)
    (fun e he => hcents.entries e (hi ▸ List.mem_append_left _ he)) hsums
  obtain ⟨sum, rfl, hscale, hvalue⟩ := hwhole hearlier
  rw [cents_zero, Int.zero_add] at hvalue
  have hsub : total.sub? sum =
      some (ofCents (total.cents - ((headAmounts earlier).map cents).sum)) := by
    have htwo := hcents.total total htotal
    rw [← hvalue] at hrest ⊢
    exact sub?_of_whole (by omega) hrest
  rw [reconcile_of_parts htotal hi (Ne.symm hlast) hsum hsub,
    toCents_eq_ofCents (by rwa [cents_ofCents hrest]), cents_ofCents hrest]

/-- After reconciling, the amounts of the periods sum to the total, and all but the last are what
they were. -/
theorem exists_settled {total a : Amount} (front : List Amount) (hcents : i.InCents)
    (hfits : i.SumsFit) (htotal : i.total? = some total)
    (hamounts : i.entries.map InterestEntry.amount? = (front ++ [a]).map some) :
    ∃ j rest, i.reconcile = .ok j ∧ j.total? = some total ∧
      j.entries.map InterestEntry.amount? = (front ++ [rest]).map some ∧
      ((front ++ [rest]).map value).sum = total.value := by
  have hne : i.entries ≠ [] := by
    rintro hnil
    rw [hnil] at hamounts
    simp at hamounts
  obtain ⟨earlier, last, hi⟩ : ∃ earlier last, i.entries = earlier ++ [last] :=
    ⟨_, _, (List.dropLast_concat_getLast hne).symm⟩
  have hall : none ∉ i.entries.map InterestEntry.amount? := by
    rw [hamounts]
    simp
  have hfront : earlier.map InterestEntry.amount? = front.map some := by
    rw [hi, List.map_append, List.map_append] at hamounts
    exact (List.append_inj' hamounts rfl).1
  have hhead : headAmounts earlier = front := headAmounts_of_amounts hfront
  have hrest := hfits.rest total htotal hall
  rw [hi, List.dropLast_concat, hhead] at hrest
  have hok := reconcile_of_amounts hcents hfits hi htotal hall
  rw [hhead] at hok
  refine ⟨_, ofCents (total.cents - (front.map cents).sum), hok, htotal, ?_, ?_⟩
  · rw [List.map_append, hfront, List.map_append, List.map_singleton, List.map_singleton]
    show _ ++ [(some (ofCents _).text).bind Amount.read?] = _
    rw [Option.bind_some, read?_text]
  · have htwo : ∀ b ∈ front, b.scale = 2 := by
      intro b hb
      have hmem : some b ∈ earlier.map InterestEntry.amount? := by
        rw [hfront]
        exact List.mem_map_of_mem hb
      obtain ⟨e, he, hamount⟩ := List.mem_map.mp hmem
      exact hcents.entries e (hi ▸ List.mem_append_left _ he) b hamount
    rw [List.map_append, List.sum_append, sum_value_of_cents htwo, List.map_singleton,
      List.sum_singleton, value_ofCents hrest, value_eq_cents (hcents.total total htotal).le]
    push_cast
    ring

/-- If an amount is missing, nothing is reconciled. -/
theorem eq_of_reconcile_of_missing {j : LoanInterest}
    (hmissing : i.total? = none ∨ none ∈ i.entries.map InterestEntry.amount?)
    (h : i.reconcile = .ok j) : j = i := by
  rcases cases_of_reconcile h with
    hsame | ⟨total, sum, rest, earlier, last, htotal, hi, hlast, hsum, -⟩
  · exact hsame
  · -- here every amount is there
    rcases hmissing with hnone | hmem
    · rw [htotal] at hnone
      cases hnone
    · rw [hi, List.map_append, List.mem_append, List.map_singleton, List.mem_singleton] at hmem
      rcases hmem with hin | hnone
      · exact absurd hin (amount?_of_sumInterest hsum)
      · exact absurd hnone.symm hlast

/-- Interest in cents is in cents after reconciling. -/
theorem InCents.reconcile {j : LoanInterest} (hcents : i.InCents) (hfits : i.SumsFit)
    (h : i.reconcile = .ok j) : j.InCents := by
  by_cases hmissing : i.total? = none ∨ none ∈ i.entries.map InterestEntry.amount?
  · rwa [eq_of_reconcile_of_missing hmissing h]
  · rcases cases_of_reconcile h with
      rfl | ⟨total, -, -, earlier, last, htotal, hi, -, -, -, -⟩
    · exact hcents
    · have hall := (not_or.mp hmissing).2
      have hrest := hfits.rest total htotal hall
      rw [hi, List.dropLast_concat] at hrest
      rw [reconcile_of_amounts hcents hfits hi htotal hall, Except.ok.injEq] at h
      subst h
      refine ⟨hcents.total, fun e he a ha => ?_⟩
      rcases List.mem_append.mp he with hearlier | hlast
      · exact hcents.entries e (hi ▸ List.mem_append_left _ hearlier) a ha
      · rw [List.mem_singleton] at hlast
        rw [hlast, InterestEntry.amount?, Option.bind_some, read?_text, Option.mem_some_iff] at ha
        exact ha ▸ ofCents_scale hrest

/-- Reconciling does not overflow if everything fits. -/
theorem exists_reconcile (hcents : i.InCents) (hfits : i.SumsFit) : ∃ j, i.reconcile = .ok j := by
  unfold reconcile
  cases htotal : i.totalInterest.bind Amount.read? with
  | none => exact ⟨i, rfl⟩
  | some total =>
    cases hlast : i.entries.getLast? with
    | none => exact ⟨i, rfl⟩
    | some last =>
      obtain ⟨front, hfront⟩ := List.getLast?_eq_some_iff.mp hlast
      by_cases hall : none ∈ i.entries.map InterestEntry.amount?
      · obtain ⟨result, hsum, -⟩ := exists_sumInterest .zero (Nat.zero_le 2)
          (fun e he => hcents.entries e (List.dropLast_subset _ he))
          (hfits.earlier (by rw [total?, htotal]; nofun))
        simp only [hsum]
        cases result with
        | none => exact ⟨i, rfl⟩
        | some earlier =>
          -- only the last amount can be missing
          have hearlier := amount?_of_sumInterest hsum
          rw [hfront, List.dropLast_concat] at hearlier
          rw [hfront, List.map_append, List.mem_append] at hall
          have hnone : last.amount? = none := by
            rcases hall with hin | hin
            · exact absurd hin hearlier
            · rw [List.map_singleton, List.mem_singleton] at hin
              exact hin.symm
          simp only [show last.interest.bind Amount.read? = none from hnone]
          exact ⟨i, rfl⟩
      · have hok := reconcile_of_amounts hcents hfits hfront htotal hall
        unfold reconcile at hok
        rw [htotal, hlast] at hok
        exact ⟨_, hok⟩

end LoanInterest

end Proforma
