import Proforma.Scenario.Money

/-!
# The slots of the money

`money` lists the texts of a part that stand for amounts, and `mapMoney` changes them. In every
part the two go together: what is listed after a change is the change of what was listed
(`money_mapMoney`), and a change that leaves every listed text alone leaves the part alone
(`mapMoney_eq_self`).
-/

namespace Proforma

variable {f : String → String}

/-! ## Lists and options of parts -/

section Parts

variable {α : Type} {money : α → List String} {change : α → α}

/-- What a list of parts holds is changed part by part. -/
theorem flatMap_map_of_part (h : ∀ x, money (change x) = (money x).map f) (l : List α) :
    (l.map change).flatMap money = (l.flatMap money).map f := by
  rw [List.flatMap_map, List.map_flatMap]
  simp only [h]

/-- A list of parts that are each left alone is left alone. -/
theorem map_eq_self_of_part (h : ∀ x, (∀ text ∈ money x, f text = text) → change x = x)
    {l : List α} (hl : ∀ text ∈ l.flatMap money, f text = text) : l.map change = l := by
  refine (List.map_congr_left fun x hx => h x fun text htext => ?_).trans (List.map_id l)
  exact hl text (List.mem_flatMap.mpr ⟨x, hx, htext⟩)

/-- So is a section that may be missing. -/
theorem section_eq_self_of_part (h : ∀ x, (∀ text ∈ money x, f text = text) → change x = x)
    {o : Option α} (ho : ∀ text ∈ o.toList.flatMap money, f text = text) : o.map change = o := by
  cases o with
  | none => rfl
  | some x => exact congrArg some (h x (by simpa using ho))

/-- And a text that may be missing. -/
theorem text_eq_self {text? : Option String} (h : ∀ text ∈ text?.toList, f text = text) :
    text?.map f = text? := by
  cases text? with
  | none => rfl
  | some text => exact congrArg some (h text (by simp))

end Parts

/-! ## Results -/

namespace Metric

variable (f) (m : Metric)

@[simp] theorem mapMoney_name : (m.mapMoney f).name = m.name := by
  unfold mapMoney
  split <;> rfl

@[simp] theorem mapMoney_unit : (m.mapMoney f).unit = m.unit := by
  unfold mapMoney
  split <;> rfl

@[simp] theorem mapMoney_metadata : (m.mapMoney f).metadata = m.metadata := by
  unfold mapMoney
  split <;> rfl

@[simp] theorem isMoney_mapMoney : (m.mapMoney f).isMoney = m.isMoney := by
  unfold isMoney
  rw [mapMoney_metadata]

theorem mapMoney_value (h : m.isMoney) : (m.mapMoney f).value = m.value.map f := by
  unfold mapMoney
  rw [if_pos h]

theorem money_mapMoney : (m.mapMoney f).money = m.money.map f := by
  unfold money
  rw [isMoney_mapMoney]
  by_cases h : m.isMoney = true
  · rw [if_pos h, if_pos h, mapMoney_value f m h, Option.toList_map]
  · rw [if_neg h, if_neg h]
    rfl

variable {f m}

theorem mapMoney_eq_self (h : ∀ text ∈ m.money, f text = text) : m.mapMoney f = m := by
  unfold money at h
  unfold mapMoney
  by_cases hmoney : m.isMoney = true
  · rw [if_pos hmoney] at h ⊢
    rw [text_eq_self h]
  · rw [if_neg hmoney]

end Metric

/-! ## What is listed after a change -/

section Listed

variable (f)

theorem CoverEntry.money_mapMoney (e : CoverEntry) : (e.mapMoney f).money = e.money.map f := by
  simp [money, mapMoney, Option.toList_map]

theorem CapitalStack.money_mapMoney (k : CapitalStack) :
    (k.mapMoney f).money = k.money.map f := by
  simp [money, mapMoney]

theorem DrawEntry.money_mapMoney (e : DrawEntry) : (e.mapMoney f).money = e.money.map f := rfl

theorem DrawSchedule.money_mapMoney (d : DrawSchedule) :
    (d.mapMoney f).money = d.money.map f := by
  simp only [money, mapMoney, List.map_append, flatMap_map_of_part (DrawEntry.money_mapMoney f),
    Option.toList_map]

theorem AssetMix.money_mapMoney (m : AssetMix) : (m.mapMoney f).money = m.money.map f := by
  simp [money, mapMoney, Option.toList_map]

theorem AssetLine.money_mapMoney (a : AssetLine) : (a.mapMoney f).money = a.money.map f := by
  simp [money, mapMoney, Option.toList_map]

theorem FacilityInterest.money_mapMoney (x : FacilityInterest) :
    (x.mapMoney f).money = x.money.map f := by
  simp [money, mapMoney, Option.toList_map]

theorem InterestEntry.money_mapMoney (e : InterestEntry) :
    (e.mapMoney f).money = e.money.map f := by
  simp [money, mapMoney, Option.toList_map]

theorem LoanInterest.money_mapMoney (i : LoanInterest) :
    (i.mapMoney f).money = i.money.map f := by
  simp only [money, mapMoney, List.map_append, Option.toList_map,
    flatMap_map_of_part (FacilityInterest.money_mapMoney f),
    flatMap_map_of_part (InterestEntry.money_mapMoney f)]

/-- **What a scenario lists after a change** is the change of what it listed. -/
theorem Scenario.money_mapMoney (s : Scenario) : (s.mapMoney f).money = s.money.map f := by
  simp only [money, mapMoney, List.map_append, Option.toList_map,
    flatMap_map_of_part (Metric.money_mapMoney f),
    flatMap_map_of_part (CoverEntry.money_mapMoney f),
    flatMap_map_of_part (CapitalStack.money_mapMoney f),
    flatMap_map_of_part (DrawSchedule.money_mapMoney f),
    flatMap_map_of_part (AssetMix.money_mapMoney f),
    flatMap_map_of_part (AssetLine.money_mapMoney f),
    flatMap_map_of_part (LoanInterest.money_mapMoney f)]

end Listed

/-! ## Changes that leave everything alone -/

section Fixed

theorem CoverEntry.mapMoney_eq_self {e : CoverEntry} (h : ∀ text ∈ e.money, f text = text) :
    e.mapMoney f = e := by
  obtain ⟨hnoi, hservice⟩ := List.forall_mem_append.mp h
  unfold mapMoney
  rw [text_eq_self hnoi, text_eq_self hservice]

theorem CapitalStack.mapMoney_eq_self {k : CapitalStack} (h : ∀ text ∈ k.money, f text = text) :
    k.mapMoney f = k := by
  obtain ⟨htotals, hslices⟩ := List.forall_mem_append.mp h
  simp only [List.forall_mem_cons] at htotals
  obtain ⟨htotal, hequity, hdebt, hother, -⟩ := htotals
  have hsame : (k.slices.map fun slice => { slice with amount := f slice.amount }) = k.slices := by
    refine (List.map_congr_left fun slice hslice => ?_).trans (List.map_id k.slices)
    rw [hslices slice.amount (List.mem_map_of_mem hslice)]
    rfl
  unfold mapMoney
  rw [htotal, hequity, hdebt, hother, hsame]

theorem DrawEntry.mapMoney_eq_self {e : DrawEntry} (h : ∀ text ∈ e.money, f text = text) :
    e.mapMoney f = e := by
  unfold money at h
  simp only [List.forall_mem_cons] at h
  obtain ⟨hequity, hdebt, htotal, hcumulativeEquity, hcumulativeDebt, houtstanding, -⟩ := h
  unfold mapMoney
  rw [hequity, hdebt, htotal, hcumulativeEquity, hcumulativeDebt, houtstanding]

theorem DrawSchedule.mapMoney_eq_self {d : DrawSchedule} (h : ∀ text ∈ d.money, f text = text) :
    d.mapMoney f = d := by
  unfold money at h
  simp only [List.forall_mem_append] at h
  obtain ⟨⟨⟨⟨hentries, hequity⟩, hdebt⟩, hpeak⟩, hbalance⟩ := h
  unfold mapMoney
  rw [map_eq_self_of_part (fun _ => DrawEntry.mapMoney_eq_self) hentries, text_eq_self hequity,
    text_eq_self hdebt, text_eq_self hpeak, text_eq_self hbalance]

theorem AssetMix.mapMoney_eq_self {m : AssetMix} (h : ∀ text ∈ m.money, f text = text) :
    m.mapMoney f = m := by
  obtain ⟨hrevenue, hcapex⟩ := List.forall_mem_append.mp h
  unfold mapMoney
  rw [text_eq_self hrevenue, text_eq_self hcapex]

theorem AssetLine.mapMoney_eq_self {a : AssetLine} (h : ∀ text ∈ a.money, f text = text) :
    a.mapMoney f = a := by
  unfold money at h
  simp only [List.forall_mem_append] at h
  obtain ⟨⟨⟨hrevenue, hcost⟩, hnoi⟩, hcapex⟩ := h
  unfold mapMoney
  rw [text_eq_self hrevenue, text_eq_self hcost, text_eq_self hnoi, text_eq_self hcapex]

theorem FacilityInterest.mapMoney_eq_self {x : FacilityInterest}
    (h : ∀ text ∈ x.money, f text = text) : x.mapMoney f = x := by
  unfold money at h
  simp only [List.forall_mem_append] at h
  obtain ⟨⟨⟨hamount, hinterest⟩, hupfront⟩, hexit⟩ := h
  unfold mapMoney
  rw [text_eq_self hamount, text_eq_self hinterest, text_eq_self hupfront, text_eq_self hexit]

theorem InterestEntry.mapMoney_eq_self {e : InterestEntry}
    (h : ∀ text ∈ e.money, f text = text) : e.mapMoney f = e := by
  unfold money at h
  simp only [List.forall_mem_append] at h
  obtain ⟨⟨⟨hopening, hclosing⟩, haverage⟩, hinterest⟩ := h
  unfold mapMoney
  rw [text_eq_self hopening, text_eq_self hclosing, text_eq_self haverage, text_eq_self hinterest]

theorem LoanInterest.mapMoney_eq_self {i : LoanInterest} (h : ∀ text ∈ i.money, f text = text) :
    i.mapMoney f = i := by
  unfold money at h
  simp only [List.forall_mem_append] at h
  obtain ⟨⟨⟨⟨htotal, hupfront⟩, hexit⟩, hfacilities⟩, hentries⟩ := h
  unfold mapMoney
  rw [text_eq_self htotal, text_eq_self hupfront, text_eq_self hexit,
    map_eq_self_of_part (fun _ => FacilityInterest.mapMoney_eq_self) hfacilities,
    map_eq_self_of_part (fun _ => InterestEntry.mapMoney_eq_self) hentries]

/-- **A change that leaves every listed text alone** leaves the scenario alone. -/
theorem Scenario.mapMoney_eq_self {s : Scenario} (h : ∀ text ∈ s.money, f text = text) :
    s.mapMoney f = s := by
  unfold money at h
  simp only [List.forall_mem_append] at h
  obtain ⟨⟨⟨⟨⟨⟨⟨hcost, hresults⟩, hcover⟩, hstack⟩, hschedule⟩, hmix⟩, hassets⟩, hinterest⟩ := h
  unfold mapMoney
  rw [text_eq_self hcost, map_eq_self_of_part (fun _ => Metric.mapMoney_eq_self) hresults,
    map_eq_self_of_part (fun _ => CoverEntry.mapMoney_eq_self) hcover,
    section_eq_self_of_part (fun _ => CapitalStack.mapMoney_eq_self) hstack,
    section_eq_self_of_part (fun _ => DrawSchedule.mapMoney_eq_self) hschedule,
    section_eq_self_of_part (fun _ => AssetMix.mapMoney_eq_self) hmix,
    map_eq_self_of_part (fun _ => AssetLine.mapMoney_eq_self) hassets,
    section_eq_self_of_part (fun _ => LoanInterest.mapMoney_eq_self) hinterest]

end Fixed

/-! ## The interest of the last period -/

/-- The interest of the last period, if it is given. -/
def LoanInterest.lastInterest? (i : LoanInterest) : Option String :=
  i.entries.getLast?.bind (·.interest)

/-- The interest with that of the last period struck out. -/
def LoanInterest.withoutLast (i : LoanInterest) : LoanInterest :=
  { i with
    entries := i.entries.dropLast ++
      i.entries.getLast?.toList.map fun e => { e with interest := none } }

namespace Scenario

/-- The interest of the last period, if the scenario gives it. -/
def lastInterest? (s : Scenario) : Option String :=
  s.constructionLoanInterest.bind (·.lastInterest?)

/-- The scenario with the interest of the last period struck out. -/
def withoutLastInterest (s : Scenario) : Scenario :=
  { s with constructionLoanInterest := s.constructionLoanInterest.map (·.withoutLast) }

end Scenario

theorem LoanInterest.lastInterest_mapMoney (f : String → String) (i : LoanInterest) :
    (i.mapMoney f).lastInterest? = i.lastInterest?.map f := by
  unfold lastInterest? mapMoney
  rw [List.getLast?_map]
  cases i.entries.getLast? <;> rfl

theorem LoanInterest.withoutLast_mapMoney (f : String → String) (i : LoanInterest) :
    (i.mapMoney f).withoutLast = i.withoutLast.mapMoney f := by
  unfold withoutLast mapMoney
  simp only [List.getLast?_map, List.map_append, List.map_map, List.map_dropLast]
  cases i.entries.getLast? <;> rfl

theorem Scenario.withoutLastInterest_mapMoney (f : String → String) (s : Scenario) :
    (s.mapMoney f).withoutLastInterest = s.withoutLastInterest.mapMoney f := by
  unfold withoutLastInterest mapMoney
  simp only [Option.map_map]
  congr 2
  funext i
  exact LoanInterest.withoutLast_mapMoney f i

theorem Scenario.lastInterest_mapMoney (f : String → String) (s : Scenario) :
    (s.mapMoney f).lastInterest? = s.lastInterest?.map f := by
  unfold lastInterest?
  show (s.constructionLoanInterest.map (·.mapMoney f)).bind _ = _
  cases s.constructionLoanInterest with
  | none => rfl
  | some i => exact LoanInterest.lastInterest_mapMoney f i

theorem LoanInterest.mem_money_iff {i : LoanInterest} {text : String} :
    text ∈ i.money ↔ text ∈ i.withoutLast.money ∨ text ∈ i.lastInterest? := by
  unfold money withoutLast lastInterest?
  rcases List.eq_nil_or_concat i.entries with hnil | ⟨earlier, last, hi⟩
  · simp [hnil]
  · rw [hi, List.concat_eq_append]
    simp only [List.dropLast_concat, List.getLast?_concat, List.flatMap_append, List.mem_append,
      Option.toList_some, List.map_singleton, List.flatMap_singleton, InterestEntry.money,
      Option.toList_none, List.not_mem_nil, Option.bind_some, Option.mem_toList, Option.mem_def,
      or_false, or_assoc]

/-- The money of a scenario is the interest of the last period and all other. -/
theorem Scenario.mem_money_iff {s : Scenario} {text : String} :
    text ∈ s.money ↔ text ∈ s.withoutLastInterest.money ∨ text ∈ s.lastInterest? := by
  unfold money withoutLastInterest lastInterest?
  simp only [List.mem_append]
  cases s.constructionLoanInterest with
  | none => simp
  | some i =>
    rw [Option.map_some, Option.toList_some, Option.toList_some, List.flatMap_singleton,
      List.flatMap_singleton, Option.bind_some, LoanInterest.mem_money_iff]
    exact or_assoc.symm

end Proforma
