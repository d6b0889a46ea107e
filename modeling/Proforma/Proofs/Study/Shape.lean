import Mathlib.Data.List.Nodup
import Proforma.Proofs.Json.Shape
import Proforma.Proofs.Study.Bodies

/-!
# The shapes of bodies

What is sent to the service, type by type: which members an object has, which of them may be left
out and when, and what each holds. Texts and numbers are written as they are, free data verbatim,
lists item by item. Every body has its shape (`bodies_shaped`); there is nothing in it but what the
shape names, and nothing is null but what a caller puts into free data. Only three things are
refused: a reference that denotes no finite number, a sensitivity analysis without bands and an
edit without changes.
-/

namespace Proforma

open Json

/-! ## Members and slots -/

namespace Json

/-- A slot that holds what the member says: a value exactly if the member is present, and one of
its form. -/
def Member.Holds (m : Member) (slot : String × Option Json) : Prop :=
  slot.1 = m.name ∧ (slot.2.isSome ↔ m.present) ∧ ∀ value ∈ slot.2, m.form value

section Holds

variable {α : Type} {name : String} {write : α → Json} {form : α → Json → Prop}

@[simp] theorem holds_required_iff {j : Json} {form : Json → Prop} :
    (required name form).Holds (name, some j) ↔ form j := by
  simp [required, Member.Holds]

@[simp] theorem holds_given_iff {source : Option α} :
    (given name source form).Holds (name, source.map write) ↔
      ∀ a ∈ source, form a (write a) := by
  cases source with
  | none => simp [given, Member.Holds]
  | some a => simp [given, Member.Holds]

/-- Free data are written as they are. -/
@[simp] theorem holds_verbatim {source : Option Json} :
    (given name source (Is id)).Holds (name, source) := by
  have hverbatim := @holds_given_iff _ name id (Is id) source
  rw [Option.map_id_apply] at hverbatim
  exact hverbatim.mpr fun _ _ => rfl

theorem lists_map_iff {items : List α} :
    Lists form items (.array (items.map write)) ↔ ∀ a ∈ items, form a (write a) := by
  constructor
  · rintro ⟨written, hwritten, hforms⟩
    rwa [← Json.array.inj hwritten, List.forall₂_map_right_iff, List.forall₂_same] at hforms
  · intro h
    exact ⟨_, rfl, List.forall₂_map_right_iff.mpr (List.forall₂_same.mpr h)⟩

@[simp] theorem holds_listed_iff {items : List α} :
    (listed name items form).Holds (name, listSlot write items) ↔
      ∀ a ∈ items, form a (write a) := by
  unfold listed Member.Holds listSlot
  cases items with
  | nil => simp
  | cons a rest =>
    rw [← lists_map_iff]
    simp

@[simp] theorem is_write (a : α) : Is write a (write a) :=
  rfl

end Holds

section Slots

variable {members : List Member} {slots : List (String × Option Json)}

theorem mem_filled {name : String} {value : Json} :
    (name, value) ∈ filled slots ↔ (name, some value) ∈ slots := by
  unfold filled
  rw [List.mem_filterMap]
  constructor
  · rintro ⟨⟨n, x⟩, hslot, hvalue⟩
    obtain ⟨v, rfl, hpair⟩ := Option.map_eq_some_iff.mp hvalue
    obtain ⟨rfl, rfl⟩ := Prod.mk.inj hpair
    exact hslot
  · intro h
    exact ⟨_, h, rfl⟩

theorem filled_names_sublist : ((filled slots).map (·.1)).Sublist (slots.map (·.1)) := by
  induction slots with
  | nil => exact .refl _
  | cons slot rest ih =>
    obtain ⟨name, x⟩ := slot
    cases x with
    | none => exact ih.cons name
    | some j => exact ih.cons_cons name

section

variable (h : List.Forall₂ Member.Holds members slots)

include h

theorem names_of_holds : slots.map (·.1) = members.map (·.name) := by
  induction h with
  | nil => rfl
  | cons hhead _ ih => rw [List.map_cons, List.map_cons, hhead.1, ih]

/-- **An object that is made from slots has the members that the slots hold.** -/
theorem hasMembers_filled (hnodup : (members.map (·.name)).Nodup) :
    HasMembers members (ofFields (filled slots)) := by
  have hdistinct : ((filled slots).map (·.1)).Nodup :=
    filled_names_sublist.nodup ((names_of_holds h).symm ▸ hnodup)
  have hperm := NameMap.ofList_perm hdistinct
  have hmem (name : String) (value : Json) :
      (name, value) ∈ NameMap.ofList (filled slots) ↔ (name, some value) ∈ slots :=
    hperm.mem_iff.trans mem_filled
  refine ⟨_, rfl, (hperm.map (·.1)).nodup_iff.mpr hdistinct, fun name => ?_,
    fun m hm value hvalue => ?_⟩
  · constructor
    · intro hname
      obtain ⟨⟨_, value⟩, hfield, rfl⟩ := List.mem_map.mp hname
      obtain ⟨m, hm, hsame, hpresent, -⟩ := exists_left_of_forall₂ h ((hmem _ _).mp hfield)
      exact ⟨m, hm, hsame.symm, hpresent.mp rfl⟩
    · rintro ⟨m, hm, rfl, hthere⟩
      obtain ⟨⟨name, x⟩, hslot, rfl, hpresent, -⟩ := exists_left_of_forall₂ h.flip hm
      obtain ⟨value, rfl⟩ := Option.isSome_iff_exists.mp (hpresent.mpr hthere)
      exact List.mem_map_of_mem (f := (·.1)) ((hmem _ _).mpr hslot)
  · -- the slot of that name is the slot of the member
    obtain ⟨other, hother, hsame, -, hforms⟩ := exists_left_of_forall₂ h ((hmem _ _).mp hvalue)
    obtain rfl : m = other := List.inj_on_of_nodup_map hnodup hm hother hsame
    exact hforms value rfl

end

end Slots

end Json

/-! ## What is sent -/

def CostEscalation.Shaped (c : CostEscalation) : Json → Prop :=
  HasMembers
    [required "amount" (Is .string c.amount),
     required "base_period" (Is .string c.basePeriod),
     required "series_name" (Is .string c.seriesName),
     required "jurisdiction" (Is .string c.jurisdiction),
     given "provider" c.provider (Is .string)]

def CashFlow.Shaped (c : CashFlow) : Json → Prop :=
  HasMembers
    [required "discount_rate" (Is .string c.discountRate),
     required "cash_flows" (Lists (Is .string) c.cashFlows)]

def DebtCover.Shaped (d : DebtCover) : Json → Prop :=
  HasMembers
    [required "net_operating_incomes" (Lists (Is .string) d.netOperatingIncomes),
     required "debt_services" (Lists (Is .string) d.debtServices),
     listed "period_labels" d.periodLabels (Is .string)]

def FundingSource.Shaped (s : FundingSource) : Json → Prop :=
  HasMembers
    [required "name" (Is .string s.name),
     required "source_type" (Is .string s.sourceType),
     required "amount" (Is .string s.amount),
     given "rate" s.rate (Is .string),
     given "tranche_order" s.trancheOrder (Is ofInt64),
     given "metadata" s.metadata (Is id)]

def PlannedDraw.Shaped (d : PlannedDraw) : Json → Prop :=
  HasMembers
    [required "period" (Is .string d.period),
     required "equity_draw" (Is .string d.equityDraw),
     required "debt_draw" (Is .string d.debtDraw)]

def AssetShare.Shaped (a : AssetShare) : Json → Prop :=
  HasMembers
    [required "asset_type" (Is .string a.assetType),
     required "allocation_pct" (Is .string a.allocationPct),
     given "nia_sqm" a.niaSqm (Is .string),
     given "rent_psm_month" a.rentPsmMonth (Is .string),
     given "stabilised_vacancy_pct" a.stabilisedVacancyPct (Is .string),
     given "opex_pct_of_rent" a.opexPctOfRent (Is .string),
     given "estimated_revenue" a.estimatedRevenue (Is .string),
     given "estimated_capex" a.estimatedCapex (Is .string),
     given "absorption_months" a.absorptionMonths (Is .string),
     given "risk_level" a.riskLevel (Is .string),
     listed "notes" a.notes (Is .string)]

def SensitivityBand.Shaped (b : SensitivityBand) : Json → Prop :=
  HasMembers
    [required "parameter" (Is .string b.parameter),
     given "low" b.low (Is .string),
     given "base" b.base (Is .string),
     given "high" b.high (Is .string),
     given "notes" b.notes (Is .string)]

def LoanFacility.Shaped (f : LoanFacility) : Json → Prop :=
  HasMembers
    [required "name" (Is .string f.name),
     given "amount" f.amount (Is .string),
     given "interest_rate" f.interestRate (Is .string),
     given "periods_per_year" f.periodsPerYear (Is ofInt64),
     given "capitalise_interest" f.capitaliseInterest (Is .bool),
     given "upfront_fee_pct" f.upfrontFeePct (Is .string),
     given "exit_fee_pct" f.exitFeePct (Is .string),
     given "reserve_months" f.reserveMonths (Is ofInt64),
     given "amortisation_months" f.amortisationMonths (Is ofInt64),
     given "metadata" f.metadata (Is id)]

def ConstructionLoan.Shaped (l : ConstructionLoan) : Json → Prop :=
  HasMembers
    [required "interest_rate" (Is .string l.interestRate),
     required "capitalise_interest" (Is .bool l.capitaliseInterest),
     given "periods_per_year" l.periodsPerYear (Is ofInt64),
     listed "facilities" l.facilities LoanFacility.Shaped]

/-- Cover figures are there only if there is an income or a debt service. -/
def DebtCover.member (cover : Option DebtCover) : Member where
  name := "dscr"
  present := ∃ d ∈ cover, d.netOperatingIncomes ≠ [] ∨ d.debtServices ≠ []
  form j := ∃ d ∈ cover, d.Shaped j

def Proposal.Shaped (p : Proposal) : Json → Prop :=
  HasMembers
    [required "name" (Is .string p.name),
     required "currency" (Is .string p.currency),
     required "cost_escalation" p.costEscalation.Shaped,
     required "cash_flow" p.cashFlow.Shaped,
     given "description" p.description (Is .string),
     given "is_primary" p.isPrimary (Is .bool),
     DebtCover.member p.dscr,
     listed "capital_stack" p.capitalStack FundingSource.Shaped,
     listed "drawdown_schedule" p.drawdownSchedule PlannedDraw.Shaped,
     listed "asset_mix" p.assetMix AssetShare.Shaped,
     given "construction_loan" p.constructionLoan ConstructionLoan.Shaped,
     listed "sensitivity_bands" p.sensitivityBands SensitivityBand.Shaped]

/-- A study of the project with the given number. -/
def Study.Shaped (number : JsonNumber) (s : Study) : Json → Prop :=
  HasMembers
    [required "project_id" (Is .number number),
     required "scenario" s.scenario.Shaped,
     given "project_name" s.projectName (Is .string),
     given "fin_project_id" s.finProjectId (Is ofInt64)]

def ConstructionLoan.UpdateShaped (l : ConstructionLoan) : Json → Prop :=
  HasMembers [required "construction_loan" l.Shaped]

def SensitivityBand.RerunShaped (bands : List SensitivityBand) : Json → Prop :=
  HasMembers [required "sensitivity_bands" (Lists SensitivityBand.Shaped bands)]

def ScenarioEdit.Shaped (e : ScenarioEdit) : Json → Prop :=
  HasMembers
    [given "scenario_name" e.scenarioName (Is .string),
     given "description" e.description (Is .string),
     given "is_primary" e.isPrimary (Is .bool)]

/-! ## Every body has its shape -/

theorem lists_textArray (texts : List String) : Lists (Is .string) texts (textArray texts) :=
  lists_map_iff.mpr fun _ _ => rfl

theorem CostEscalation.shaped_body (c : CostEscalation) : c.Shaped c.body := by
  simp only [body, optionalField_eq_filled, singleton_eq_filled, cons_filled, filled_append]
  exact hasMembers_filled (by simp) (by simp)

theorem CashFlow.shaped_body (c : CashFlow) : c.Shaped c.body := by
  simp only [body, singleton_eq_filled, cons_filled]
  exact hasMembers_filled (by simp [lists_textArray]) (by simp)

theorem DebtCover.shaped_body (d : DebtCover) : d.Shaped d.body := by
  simp only [body, listField_eq_filled, singleton_eq_filled, cons_filled, filled_append]
  exact hasMembers_filled (by simp [lists_textArray]) (by simp)

theorem FundingSource.shaped_body (s : FundingSource) : s.Shaped s.body := by
  simp only [body, optionalField_eq_filled, singleton_eq_filled, cons_filled, filled_append]
  exact hasMembers_filled (by simp) (by simp)

theorem PlannedDraw.shaped_body (d : PlannedDraw) : d.Shaped d.body := by
  simp only [body, singleton_eq_filled, cons_filled]
  exact hasMembers_filled (by simp) (by simp)

theorem AssetShare.shaped_body (a : AssetShare) : a.Shaped a.body := by
  simp only [body, optionalField_eq_filled, listField_eq_filled, singleton_eq_filled, cons_filled,
    filled_append]
  exact hasMembers_filled (by simp) (by simp)

theorem SensitivityBand.shaped_body (b : SensitivityBand) : b.Shaped b.body := by
  simp only [body, optionalField_eq_filled, singleton_eq_filled, filled_append]
  exact hasMembers_filled (by simp) (by simp)

theorem LoanFacility.shaped_body (f : LoanFacility) : f.Shaped f.body := by
  simp only [body, optionalField_eq_filled, singleton_eq_filled, filled_append]
  exact hasMembers_filled (by simp) (by simp)

theorem ConstructionLoan.shaped_body (l : ConstructionLoan) : l.Shaped l.body := by
  simp only [body, optionalField_eq_filled, listField_eq_filled, singleton_eq_filled, cons_filled,
    filled_append]
  exact hasMembers_filled (by simp [LoanFacility.shaped_body]) (by simp)

@[simp] theorem DebtCover.member_name {cover : Option DebtCover} : (member cover).name = "dscr" :=
  rfl

@[simp] theorem DebtCover.holds_member {cover : Option DebtCover} :
    (member cover).Holds ("dscr", (cover.filter (!·.isEmpty)).map body) := by
  cases cover with
  | none => simp [member, Member.Holds]
  | some d =>
    have hpresent : (!d.isEmpty) = true ↔ d.netOperatingIncomes ≠ [] ∨ d.debtServices ≠ [] := by
      simp [isEmpty, ← not_and_or]
    by_cases h : (!d.isEmpty) = true
    · simp [member, Member.Holds, Option.filter_some, h, ← hpresent, shaped_body]
    · simp [member, Member.Holds, Option.filter_some, h, ← hpresent]

theorem Proposal.shaped_body (p : Proposal) : p.Shaped p.body := by
  simp only [body, optionalField_eq_filled, listField_eq_filled, singleton_eq_filled, cons_filled,
    filled_append]
  refine hasMembers_filled ?_ (by simp)
  simp [CostEscalation.shaped_body, CashFlow.shaped_body, FundingSource.shaped_body,
    PlannedDraw.shaped_body, AssetShare.shaped_body, ConstructionLoan.shaped_body,
    SensitivityBand.shaped_body]

theorem Study.shaped_body {s : Study} {number : JsonNumber} {body : Json}
    (hnumber : s.projectId.number? = .ok number) (h : s.body? = .ok body) :
    s.Shaped number body := by
  obtain ⟨n, hn, rfl⟩ := body?_eq_ok_iff.mp h
  obtain rfl : n = number := Except.ok.inj (hn.symm.trans hnumber)
  simp only [optionalField_eq_filled, singleton_eq_filled, cons_filled, filled_append]
  exact hasMembers_filled (by simp [Proposal.shaped_body]) (by simp)

theorem ConstructionLoan.shaped_updateBody (l : ConstructionLoan) :
    l.UpdateShaped l.updateBody := by
  unfold updateBody
  rw [singleton_eq_filled]
  exact hasMembers_filled (by simp [shaped_body]) (by simp)

/-! ## Nothing is null -/

@[simp] theorem CostEscalation.nullFreeForm : NullFreeForm Shaped :=
  fun _ _ h => HasMembers.nullFree h (by simp)

@[simp] theorem CashFlow.nullFreeForm : NullFreeForm Shaped :=
  fun _ _ h => HasMembers.nullFree h (by simp)

@[simp] theorem DebtCover.nullFreeForm : NullFreeForm Shaped :=
  fun _ _ h => HasMembers.nullFree h (by simp)

@[simp] theorem FundingSource.nullFreeForm : NullFreeForm Shaped :=
  fun _ _ h => HasMembers.nullFree h (by simp)

@[simp] theorem PlannedDraw.nullFreeForm : NullFreeForm Shaped :=
  fun _ _ h => HasMembers.nullFree h (by simp)

@[simp] theorem AssetShare.nullFreeForm : NullFreeForm Shaped :=
  fun _ _ h => HasMembers.nullFree h (by simp)

@[simp] theorem SensitivityBand.nullFreeForm : NullFreeForm Shaped :=
  fun _ _ h => HasMembers.nullFree h (by simp)

@[simp] theorem LoanFacility.nullFreeForm : NullFreeForm Shaped :=
  fun _ _ h => HasMembers.nullFree h (by simp)

@[simp] theorem ConstructionLoan.nullFreeForm : NullFreeForm Shaped :=
  fun _ _ h => HasMembers.nullFree h (by simp)

@[simp] theorem DebtCover.nullFree_member {cover : Option DebtCover} : (member cover).NullFree :=
  nullFree_given nullFreeForm cover

@[simp] theorem Proposal.nullFreeForm : NullFreeForm Shaped :=
  fun _ _ h => HasMembers.nullFree h (by simp)

theorem Study.nullFreeForm (number : JsonNumber) : NullFreeForm (Shaped number) :=
  fun _ _ h => HasMembers.nullFree h (by simp)

theorem ConstructionLoan.nullFreeForm_update : NullFreeForm UpdateShaped :=
  fun _ _ h => HasMembers.nullFree h (by simp)

theorem SensitivityBand.nullFreeForm_rerun : NullFreeForm RerunShaped :=
  fun _ _ h => HasMembers.nullFree h (by simp)

theorem ScenarioEdit.nullFreeForm : NullFreeForm Shaped :=
  fun _ _ h => HasMembers.nullFree h (by simp)

/-! ## Bodies -/

/-- A rerun is refused only without bands. -/
theorem SensitivityBand.rerunBody_cases (bands : List SensitivityBand) :
    (bands = [] ∧ rerunBody? bands = .error .noBands) ∨
      (bands ≠ [] ∧ ∃ body, rerunBody? bands = .ok body ∧ RerunShaped bands body) := by
  have hshaped : RerunShaped bands
      (ofFields [("sensitivity_bands", .array (bands.map SensitivityBand.body))]) := by
    rw [singleton_eq_filled]
    refine hasMembers_filled ?_ (by simp)
    simpa using lists_map_iff.mpr fun band _ => band.shaped_body
  cases bands with
  | nil => exact .inl ⟨rfl, rfl⟩
  | cons band rest => exact .inr ⟨List.cons_ne_nil band rest, _, rfl, hshaped⟩

/-- An edit is refused only if it changes nothing. -/
theorem ScenarioEdit.body_cases (e : ScenarioEdit) :
    (e = ⟨none, none, none⟩ ∧ e.body? = .error .nothingToChange) ∨
      (e ≠ ⟨none, none, none⟩ ∧ ∃ body, e.body? = .ok body ∧ e.Shaped body) := by
  have hshaped : e.Shaped (ofFields (optionalField "scenario_name" .string e.scenarioName ++
      optionalField "description" .string e.description ++
      optionalField "is_primary" .bool e.isPrimary)) := by
    simp only [optionalField_eq_filled, filled_append]
    exact hasMembers_filled (by simp) (by simp)
  obtain ⟨name, description, isPrimary⟩ := e
  rcases name with _ | name <;> rcases description with _ | description <;>
    rcases isPrimary with _ | isPrimary <;>
    first
    | exact .inl ⟨rfl, rfl⟩
    | exact .inr ⟨by simp, _, rfl, hshaped⟩

/-- A study is refused only with its project, and for the same cause. -/
theorem Study.body_cases (s : Study) :
    (∃ cause, s.projectId.number? = .error cause ∧ s.body? = .error cause) ∨
      ∃ number body, s.projectId.number? = .ok number ∧ s.body? = .ok body ∧
        s.Shaped number body := by
  cases hnumber : s.projectId.number? with
  | error cause =>
    refine .inl ⟨cause, rfl, ?_⟩
    unfold body?
    rw [hnumber]
    rfl
  | ok number =>
    have hbody := body?_eq_ok_iff.mpr ⟨number, hnumber, rfl⟩
    exact .inr ⟨number, _, rfl, hbody, shaped_body hnumber hbody⟩

/-- **Every body has its shape.** A study is refused exactly if its reference denotes no number,
and for that cause; a sensitivity analysis exactly if it has no band, and an edit exactly if it
changes nothing. All else is sent, as objects with all members that are required, those others
whose source is there, and none besides, lists item by item; and nothing is null but free data. -/
theorem bodies_shaped :
    (∀ s : Study,
      (∃ cause, s.projectId.number? = .error cause ∧ s.body? = .error cause) ∨
      ∃ number body, s.projectId.number? = .ok number ∧ s.body? = .ok body ∧
        s.Shaped number body ∧ body.NullFree) ∧
    (∀ loan : ConstructionLoan, loan.UpdateShaped loan.updateBody ∧ loan.updateBody.NullFree) ∧
    (∀ bands : List SensitivityBand,
      (bands = [] ∧ SensitivityBand.rerunBody? bands = .error .noBands) ∨
      (bands ≠ [] ∧ ∃ body, SensitivityBand.rerunBody? bands = .ok body ∧
        SensitivityBand.RerunShaped bands body ∧ body.NullFree)) ∧
    ∀ edit : ScenarioEdit,
      (edit = ⟨none, none, none⟩ ∧ edit.body? = .error .nothingToChange) ∨
      (edit ≠ ⟨none, none, none⟩ ∧ ∃ body, edit.body? = .ok body ∧ edit.Shaped body ∧
        body.NullFree) := by
  refine ⟨fun s => ?_, fun loan => ?_, fun bands => ?_, fun edit => ?_⟩
  · refine s.body_cases.imp_right ?_
    rintro ⟨number, body, hnumber, hbody, hshaped⟩
    exact ⟨number, body, hnumber, hbody, hshaped, Study.nullFreeForm number s body hshaped⟩
  · have hshaped := loan.shaped_updateBody
    exact ⟨hshaped, ConstructionLoan.nullFreeForm_update loan _ hshaped⟩
  · refine (SensitivityBand.rerunBody_cases bands).imp_right ?_
    rintro ⟨hne, body, hbody, hshaped⟩
    exact ⟨hne, body, hbody, hshaped, SensitivityBand.nullFreeForm_rerun bands body hshaped⟩
  · refine edit.body_cases.imp_right ?_
    rintro ⟨hne, body, hbody, hshaped⟩
    exact ⟨hne, body, hbody, hshaped, ScenarioEdit.nullFreeForm edit body hshaped⟩

/-- Cover figures that are labels alone are left out, and free data that are null are sent. -/
theorem bodies_shaped_of_labels :
    let study : Study := ⟨.ofInt64 42, none, none, ⟨"A", none, "SGD", none,
      ⟨"1", "2024-Q1", "s", "SG", none⟩, ⟨"0.08", []⟩, some ⟨[], [], ["Y1"]⟩,
      [⟨"Sponsor", "equity", "1", none, none, some .null⟩], [], [], none, []⟩⟩
    ∃ fields parts : Object, study.body? = .ok (.object fields) ∧
      ("scenario", .object parts) ∈ fields ∧ "dscr" ∉ parts.map (·.1) ∧
      "capital_stack" ∈ parts.map (·.1) ∧ (Json.object fields).NullFree := by
  intro study
  have hnumber : study.projectId.number? = _ :=
    ProjectRef.number?_of_names (@ProjectRef.Names.integer 42)
  rcases bodies_shaped.1 study with ⟨cause, herror, -⟩ | ⟨number, body, -, hbody, hshaped, hnull⟩
  · rw [hnumber] at herror
    cases herror
  · obtain ⟨fields, rfl, hfields⟩ := hshaped
    have hthere := (hfields.present_iff "scenario").mpr
      ⟨_, List.mem_cons_of_mem _ List.mem_cons_self, rfl, trivial⟩
    obtain ⟨⟨_, scenario⟩, hscenario, rfl⟩ := List.mem_map.mp hthere
    obtain ⟨parts, rfl, hparts⟩ := hfields.forms _ (List.mem_cons_of_mem _ List.mem_cons_self)
      scenario hscenario
    refine ⟨fields, parts, hbody, hscenario, ?_, ?_, hnull⟩
    · rw [hparts.present_iff]
      simp [study, required, given, listed, DebtCover.member]
    · rw [hparts.present_iff]
      simp [study, required, given, listed, DebtCover.member]

end Proforma
