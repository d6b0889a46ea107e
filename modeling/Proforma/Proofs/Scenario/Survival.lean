import Proforma.Proofs.Json.Records
import Proforma.Proofs.Offline.List
import Proforma.Proofs.Scenario.Echo
import Proforma.Proofs.Scenario.Rescaling

/-!
# A scenario survives its own record

A scenario that is read from its record in the capitalised spelling is the same again, but for
three things: an identifier that was kept though it is an integer, one that need not be there and
was kept as null, and free data of a facility that are null. The scenarios without these are
stable (`Stable`), and they are those that come back (`read?_record_eq_some_iff`). Replies and
offline data give stable scenarios only, and neither another currency nor other amounts touch the
three (`survives_record`).
-/

namespace Proforma

open Json Json.RecordReader

/-! ## Parts -/

theorem IndexPoint.read?_record (i : IndexPoint) : read? (i.record .camel) = some i := by
  refine run_record (by simp only [List.map_cons, List.map_nil]; decide) ?_
  exact .bind (takes_string? rfl) <| .bind (takes_string? rfl) <| .bind (takes_string? rfl) <|
    .bind (takes_string? rfl) <| .bind (takes_string? rfl) <| .bind (takes_string? rfl) <| .pure _

theorem CostIndex.read?_record (c : CostIndex) : read? (c.record .camel) = some c := by
  refine run_record (by simp only [List.map_cons, List.map_nil]; decide) ?_
  exact .bind (takes_string? rfl) <| .bind (takes_string? rfl) <| .bind (takes_string? rfl) <|
    .bind (takes_string? rfl) <| .bind (takes_string? rfl) <| .bind (takes_string? rfl) <|
    .bind (takes_ofOption rfl rfl fun x _ => x.read?_record) <|
    .bind (takes_ofOption rfl rfl fun x _ => x.read?_record) <| .pure _

theorem Metric.read?_record (m : Metric) : read? (m.record .camel) = some m := by
  refine run_record (by simp only [List.map_cons, List.map_nil]; decide) ?_
  exact .bind (takes_string rfl) <| .bind (takes_string? rfl) <| .bind (takes_string? rfl) <|
    .bind (takes_required rfl rfl) <| .pure _

theorem CoverEntry.read?_record (c : CoverEntry) : read? (c.record .camel) = some c := by
  refine run_record (by simp only [List.map_cons, List.map_nil]; decide) ?_
  exact .bind (takes_string rfl) <| .bind (takes_string? rfl) <| .bind (takes_string? rfl) <|
    .bind (takes_string? rfl) <| .bind (takes_string? rfl) <| .pure _

theorem StackSlice.read?_record (s : StackSlice) : read? (s.record .camel) = some s := by
  refine run_record (by simp only [List.map_cons, List.map_nil]; decide) ?_
  exact .bind (takes_string rfl) <| .bind (takes_string? rfl) <| .bind (takes_string rfl) <|
    .bind (takes_string rfl) <| .bind (takes_string? rfl) <| .bind (takes_string? rfl) <|
    .bind (takes_int64? rfl) <| .bind (takes_required rfl rfl) <| .pure _

theorem CapitalStack.read?_record (c : CapitalStack) : read? (c.record .camel) = some c := by
  refine run_record (by simp only [List.map_cons, List.map_nil]; decide) ?_
  exact .bind (takes_string? rfl) <| .bind (takes_string rfl) <| .bind (takes_string rfl) <|
    .bind (takes_string rfl) <| .bind (takes_string rfl) <| .bind (takes_string? rfl) <|
    .bind (takes_string? rfl) <| .bind (takes_string? rfl) <| .bind (takes_string? rfl) <|
    .bind (takes_string? rfl) <| .bind (takes_list rfl fun x _ => x.read?_record) <| .pure _

theorem DrawEntry.read?_record (d : DrawEntry) : read? (d.record .camel) = some d := by
  refine run_record (by simp only [List.map_cons, List.map_nil]; decide) ?_
  exact .bind (takes_string rfl) <| .bind (takes_string rfl) <| .bind (takes_string rfl) <|
    .bind (takes_string rfl) <| .bind (takes_string rfl) <| .bind (takes_string rfl) <|
    .bind (takes_string rfl) <| .pure _

theorem DrawSchedule.read?_record (d : DrawSchedule) : read? (d.record .camel) = some d := by
  refine run_record (by simp only [List.map_cons, List.map_nil]; decide) ?_
  exact .bind (takes_string? rfl) <| .bind (takes_list rfl fun x _ => x.read?_record) <|
    .bind (takes_string? rfl) <| .bind (takes_string? rfl) <| .bind (takes_string? rfl) <|
    .bind (takes_string? rfl) <| .pure _

theorem AssetMix.read?_record (a : AssetMix) : read? (a.record .camel) = some a := by
  refine run_record (by simp only [List.map_cons, List.map_nil]; decide) ?_
  exact .bind (takes_string? rfl) <| .bind (takes_string? rfl) <| .bind (takes_string? rfl) <|
    .bind (takes_string? rfl) <| .bind (takes_list rfl fun _ _ => rfl) <| .pure _

theorem AssetLine.read?_record (a : AssetLine) : read? (a.record .camel) = some a := by
  refine run_record (by simp only [List.map_cons, List.map_nil]; decide) ?_
  exact .bind (takes_string rfl) <| .bind (takes_string? rfl) <| .bind (takes_string? rfl) <|
    .bind (takes_string? rfl) <| .bind (takes_string? rfl) <| .bind (takes_string? rfl) <|
    .bind (takes_string? rfl) <| .bind (takes_string? rfl) <| .bind (takes_string? rfl) <|
    .bind (takes_string? rfl) <| .bind (takes_string? rfl) <|
    .bind (takes_list rfl fun _ _ => rfl) <| .pure _

theorem FacilityInterest.read?_record (f : FacilityInterest) :
    read? (f.record .camel) = some f := by
  refine run_record (by simp only [List.map_cons, List.map_nil]; decide) ?_
  exact .bind (takes_string rfl) <| .bind (takes_string? rfl) <| .bind (takes_string? rfl) <|
    .bind (takes_int64? rfl) <| .bind (takes_bool rfl) <| .bind (takes_string? rfl) <|
    .bind (takes_string? rfl) <| .bind (takes_string? rfl) <| .pure _

theorem InterestEntry.read?_record (i : InterestEntry) : read? (i.record .camel) = some i := by
  refine run_record (by simp only [List.map_cons, List.map_nil]; decide) ?_
  exact .bind (takes_string rfl) <| .bind (takes_string? rfl) <| .bind (takes_string? rfl) <|
    .bind (takes_string? rfl) <| .bind (takes_string? rfl) <| .pure _

theorem LoanInterest.read?_record (l : LoanInterest) : read? (l.record .camel) = some l := by
  refine run_record (by simp only [List.map_cons, List.map_nil]; decide) ?_
  exact .bind (takes_string? rfl) <| .bind (takes_string? rfl) <| .bind (takes_int64? rfl) <|
    .bind (takes_bool rfl) <| .bind (takes_string? rfl) <| .bind (takes_string? rfl) <|
    .bind (takes_string? rfl) <| .bind (takes_list rfl fun x _ => x.read?_record) <|
    .bind (takes_list rfl fun x _ => x.read?_record) <| .pure _

theorem SensitivityOutcome.read?_record (s : SensitivityOutcome) :
    read? (s.record .camel) = some s := by
  refine run_record (by simp only [List.map_cons, List.map_nil]; decide) ?_
  exact .bind (takes_string rfl) <| .bind (takes_string rfl) <| .bind (takes_string? rfl) <|
    .bind (takes_string? rfl) <| .bind (takes_string? rfl) <| .bind (takes_string? rfl) <|
    .bind (takes_string? rfl) <| .bind (takes_string? rfl) <| .pure _

theorem SensitivityJob.read?_record (s : SensitivityJob) : read? (s.record .camel) = some s := by
  refine run_record (by simp only [List.map_cons, List.map_nil]; decide) ?_
  exact .bind (takes_int64? rfl) <| .bind (takes_string? rfl) <| .bind (takes_string rfl) <|
    .bind (takes_string? rfl) <| .bind (takes_string? rfl) <| .pure _

theorem SensitivityBand.read?_record (s : SensitivityBand) : read? (s.record .camel) = some s := by
  refine run_record (by simp only [List.map_cons, List.map_nil]; decide) ?_
  exact .bind (takes_string rfl) <| .bind (takes_string? rfl) <| .bind (takes_string? rfl) <|
    .bind (takes_string? rfl) <| .bind (takes_string? rfl) <| .pure _

/-! ## The loan -/

theorem Json.readOption?_getD (m : Option Json) :
    readOption? some (m.getD .null) = some (m.filter (· ≠ .null)) := by
  cases m with
  | none => rfl
  | some j => cases j <;> rfl

/-- What is read of a facility: free data that are null are none. -/
def LoanFacility.reread (f : LoanFacility) : LoanFacility :=
  { f with metadata := f.metadata.filter (· ≠ .null) }

theorem LoanFacility.read?_record (f : LoanFacility) :
    read? (f.record .camel) = some f.reread := by
  refine run_record (by simp only [List.map_cons, List.map_nil]; decide) ?_
  exact .bind (takes_string rfl) <| .bind (takes_string? rfl) <| .bind (takes_string? rfl) <|
    .bind (takes_int64? rfl) <| .bind (takes_bool? rfl) <| .bind (takes_string? rfl) <|
    .bind (takes_string? rfl) <| .bind (takes_int64? rfl) <| .bind (takes_int64? rfl) <|
    .bind (takes_optional rfl (readOption?_getD f.metadata)) <| .pure _

theorem LoanFacility.reread_eq_iff (f : LoanFacility) :
    f.reread = f ↔ f.metadata ≠ some .null := by
  cases f with
  | mk name amount interestRate periodsPerYear capitaliseInterest upfrontFeePct exitFeePct
      reserveMonths amortisationMonths metadata =>
    cases metadata with
    | none => simp [reread]
    | some j => by_cases hj : j = .null <;> simp [reread, Option.filter_some, hj]

/-- What is read of a loan. -/
def ConstructionLoan.reread (l : ConstructionLoan) : ConstructionLoan :=
  { l with facilities := l.facilities.map LoanFacility.reread }

theorem ConstructionLoan.read?_record (l : ConstructionLoan) :
    read? (l.record .camel) = some l.reread := by
  refine run_record (by simp only [List.map_cons, List.map_nil]; decide) ?_
  exact .bind (takes_string rfl) <| .bind (takes_int64? rfl) <| .bind (takes_bool rfl) <|
    .bind (takes_listed rfl fun f _ => f.read?_record) <| .pure _

theorem ConstructionLoan.reread_eq_iff (l : ConstructionLoan) :
    l.reread = l ↔ ∀ f ∈ l.facilities, f.metadata ≠ some .null := by
  have hsame : l.facilities.map LoanFacility.reread = l.facilities.map id ↔
      ∀ f ∈ l.facilities, f.reread = f := List.map_inj_left
  rw [List.map_id] at hsame
  simp only [LoanFacility.reread_eq_iff] at hsame
  rw [← hsame]
  cases l
  simp [reread]

/-! ## Identifiers -/

/-- An identifier that is no integer unless it is taken as one. -/
def ProjectKey.IsStable (key : ProjectKey) : Prop :=
  ∀ j, key = .raw j → readInt64? j = none

namespace ProjectKey

/-- What is read of an identifier: an integer wherever there is one. -/
def reread (key : ProjectKey) : ProjectKey :=
  match readInt64? key.record with
  | some id => .number id
  | none => .raw key.record

theorem read?_record (key : ProjectKey) : read? key.record = some key.reread := by
  unfold read? reread
  cases readInt64? key.record <;> rfl

theorem reread_eq_iff (key : ProjectKey) : key.reread = key ↔ key.IsStable := by
  unfold reread IsStable
  cases key with
  | number id =>
    have hread : readInt64? (record (.number id)) = some id := readInt64?_ofInt64 id
    rw [hread]
    exact ⟨fun _ => nofun, fun _ => rfl⟩
  | raw j =>
    show (match readInt64? j with | some id => ProjectKey.number id | none => .raw j) = _ ↔ _
    cases hread : readInt64? j with
    | none =>
      refine ⟨?_, fun _ => rfl⟩
      rintro - _ ⟨⟩
      exact hread
    | some id =>
      refine ⟨nofun, fun h => ?_⟩
      rw [h j rfl] at hread
      cases hread

theorem record_eq_null_iff (key : ProjectKey) : key.record = .null ↔ key = .raw .null := by
  cases key with
  | number id => exact ⟨nofun, nofun⟩
  | raw j => exact ⟨congrArg raw, fun h => ProjectKey.raw.inj h⟩

/-- One that need not be there is none if it was kept as null. -/
theorem readOption?_record (key : Option ProjectKey) :
    readOption? read? (ofOption record key) =
      some ((key.filter (· ≠ .raw .null)).map reread) := by
  cases key with
  | none => rfl
  | some key =>
    by_cases hnull : key = .raw .null
    · subst hnull
      rfl
    · have hrecord : key.record ≠ .null := mt (record_eq_null_iff key).mp hnull
      show readOption? read? key.record = _
      rw [readOption?_of_ne_null hrecord, read?_record, Option.filter_some,
        if_pos (by simpa using hnull)]
      rfl

/-- An identifier in a reply is an integer wherever it can be. -/
theorem isStable_of_isPlain {key : ProjectKey} (h : key.IsPlain) : key.IsStable := by
  intro j hj
  cases hread : readInt64? j with
  | none => rfl
  | some id =>
    refine absurd ?_ (h j hj id)
    cases j with
    | number n =>
      unfold ofJson integerOf?
      have hn : n.toInt64? = some id := hread
      simp only [hn]
    | _ => cases hread

/-- The identifier that a reference gives offline. -/
theorem isStable_ofRef (ref : ProjectRef) : (ofRef ref).IsStable := by
  unfold ofRef
  split
  · split
    · nofun
    · next hn =>
      rintro _ ⟨⟩
      exact hn
  · split
    · rintro _ ⟨⟩
      rfl
    · rintro _ ⟨⟩
      rfl

end ProjectKey

/-! ## Scenarios -/

namespace Scenario

/-- What is read of a scenario. -/
def reread (s : Scenario) : Scenario :=
  { s with
    projectId := s.projectId.reread
    finProjectId := (s.finProjectId.filter (· ≠ .raw .null)).map ProjectKey.reread
    constructionLoan := s.constructionLoan.map ConstructionLoan.reread }

theorem read?_record (s : Scenario) : read? (s.record .camel) = some s.reread := by
  refine run_record (by simp only [List.map_cons, List.map_nil]; decide) ?_
  exact .bind (takes_int64 rfl) <| .bind (takes_required rfl s.projectId.read?_record) <|
    .bind (takes_optional rfl (ProjectKey.readOption?_record s.finProjectId)) <|
    .bind (takes_string rfl) <| .bind (takes_string? rfl) <| .bind (takes_string rfl) <|
    .bind (takes_string? rfl) <| .bind (takes_ofOption rfl rfl fun c _ => c.read?_record) <|
    .bind (takes_list rfl fun m _ => m.read?_record) <|
    .bind (takes_list rfl fun c _ => c.read?_record) <|
    .bind (takes_ofOption rfl rfl fun c _ => c.read?_record) <|
    .bind (takes_ofOption rfl rfl fun d _ => d.read?_record) <|
    .bind (takes_ofOption rfl rfl fun a _ => a.read?_record) <|
    .bind (takes_list rfl fun a _ => a.read?_record) <|
    .bind (takes_optional rfl (readOption?_ofOption rfl fun l _ => l.read?_record)) <|
    .bind (takes_ofOption rfl rfl fun l _ => l.read?_record) <|
    .bind (takes_list rfl fun o _ => o.read?_record) <|
    .bind (takes_list rfl fun j _ => j.read?_record) <|
    .bind (takes_list rfl fun b _ => b.read?_record) <|
    .bind (takes_bool rfl) <| .bind (takes_bool rfl) <| .bind (takes_string? rfl) <| .pure _

/-- A scenario whose identifiers and free data come back from its record. -/
structure Stable (s : Scenario) : Prop where
  projectId : s.projectId.IsStable
  finProjectId : ∀ key ∈ s.finProjectId, key.IsStable ∧ key ≠ .raw .null
  facilities : ∀ loan ∈ s.constructionLoan, ∀ f ∈ loan.facilities, f.metadata ≠ some .null

theorem reread_eq_iff (s : Scenario) : s.reread = s ↔ s.Stable := by
  have hproject := s.projectId.reread_eq_iff
  have hfin : (s.finProjectId.filter (· ≠ .raw .null)).map ProjectKey.reread = s.finProjectId ↔
      ∀ key ∈ s.finProjectId, key.IsStable ∧ key ≠ .raw .null := by
    cases s.finProjectId with
    | none => simp
    | some key => by_cases hnull : key = .raw .null <;> simp [hnull, key.reread_eq_iff]
  have hloan : s.constructionLoan.map ConstructionLoan.reread = s.constructionLoan ↔
      ∀ loan ∈ s.constructionLoan, ∀ f ∈ loan.facilities, f.metadata ≠ some .null := by
    cases s.constructionLoan with
    | none => simp
    | some loan => simp [loan.reread_eq_iff]
  have hsame : s.reread = s ↔ s.projectId.reread = s.projectId ∧
      (s.finProjectId.filter (· ≠ .raw .null)).map ProjectKey.reread = s.finProjectId ∧
      s.constructionLoan.map ConstructionLoan.reread = s.constructionLoan := by
    cases s
    simp [reread]
  rw [hsame, hproject, hfin, hloan]
  exact ⟨fun ⟨h₁, h₂, h₃⟩ => ⟨h₁, h₂, h₃⟩, fun ⟨h₁, h₂, h₃⟩ => ⟨h₁, h₂, h₃⟩⟩

/-- **The scenarios that come back from their record are the stable ones.** -/
theorem read?_record_eq_some_iff (s : Scenario) :
    read? (s.record .camel) = some s ↔ s.Stable := by
  rw [read?_record, Option.some.injEq, reread_eq_iff]

/-! ## What is handed out -/

/-- The scenarios that are handed out: from a reply or offline, and then in other currencies and
with other amounts, as often as need be. -/
inductive HandedOut : Scenario → Prop where
  | reply (p : Json) : HandedOut (.ofReply p)
  | offline {s : Scenario} : Offline.IsOffline s → HandedOut s
  | relabel {s : Scenario} (code : String) : HandedOut s → HandedOut (s.relabel code)
  | rescale {s s' : Scenario} {factor : Amount} : HandedOut s → s.rescale factor = .ok s' →
      HandedOut s'

variable {s s' : Scenario}

/-- It depends on the two identifiers and the loan only. -/
theorem Stable.of_same (hs : s.Stable) (hproject : s'.projectId = s.projectId)
    (hfin : s'.finProjectId = s.finProjectId) (hloan : s'.constructionLoan = s.constructionLoan) :
    s'.Stable :=
  ⟨hproject ▸ hs.projectId, hfin ▸ hs.finProjectId, hloan ▸ hs.facilities⟩

theorem Stable.relabel (hs : s.Stable) (code : String) : (s.relabel code).Stable :=
  hs.of_same rfl rfl rfl

theorem Stable.rescale {factor : Amount} (hs : s.Stable) (h : s.rescale factor = .ok s') :
    s'.Stable := by
  -- only money changes, and the interest of the loan
  obtain ⟨interest, rfl, -⟩ := exists_of_rescale h
  exact hs.of_same rfl rfl rfl

theorem stable_ofReply (p : Json) : (ofReply p).Stable := by
  obtain ⟨-, -, hfacilities, hproject, hfin⟩ := regular_ofReply p
  refine ⟨ProjectKey.isStable_of_isPlain hproject, ?_, ?_⟩
  · intro key hkey
    obtain ⟨hplain, hnull⟩ := hfin key hkey
    exact ⟨ProjectKey.isStable_of_isPlain hplain, hnull⟩
  · intro loan hloan f hf hnull
    -- null is no object
    obtain ⟨fields, hfields⟩ := hfacilities loan hloan f hf .null hnull
    cases hfields

theorem stable_inCurrency (hs : s.Stable) (code : Option String) :
    (Offline.inCurrency code s).Stable := by
  unfold Offline.inCurrency
  split
  · exact hs.relabel _
  · exact hs

/-- An offline scenario has no loan, and its identifiers are those of the caller or the baseline. -/
theorem stable_of_caller (ref : Option ProjectRef) (fin : Option Int64)
    (hproject : s.projectId = (ref.map ProjectKey.ofRef).getD Offline.baseline.projectId)
    (hfin : s.finProjectId = fin.map .number)
    (hloan : s.constructionLoan = Offline.baseline.constructionLoan) : s.Stable := by
  refine ⟨?_, ?_, ?_⟩
  · rw [hproject]
    cases ref with
    | none => nofun
    | some ref => exact ProjectKey.isStable_ofRef ref
  · intro key hkey
    rw [hfin] at hkey
    obtain ⟨id, -, rfl⟩ := Option.map_eq_some_iff.mp hkey
    exact ⟨nofun, nofun⟩
  · intro loan hsome
    rw [hloan] at hsome
    cases hsome

theorem stable_listed {v : Offline.Variant} {scaled : Scenario} (query : ListQuery)
    (h : Offline.baseline.rescale v.factor = .ok scaled) :
    (Offline.listed query v scaled).Stable := by
  obtain ⟨interest, rfl, -⟩ := exists_of_rescale h
  refine stable_inCurrency ?_ query.currency
  exact stable_of_caller query.projectId query.finProjectId rfl rfl rfl

theorem stable_of_offline (h : Offline.IsOffline s) : s.Stable := by
  cases h with
  | study now study =>
    unfold Offline.scenarioAt
    refine stable_inCurrency ?_ (some study.scenario.currency)
    exact stable_of_caller (some study.projectId) study.finProjectId rfl rfl rfl
  | @listed query list _ hlist hs =>
    obtain ⟨base, hbase⟩ := Offline.exists_rescale_baseline Offline.baseCase (by simp)
    obtain ⟨upside, hupside⟩ := Offline.exists_rescale_baseline Offline.upsideCase (by simp)
    obtain ⟨downside, hdownside⟩ := Offline.exists_rescale_baseline Offline.downsideCase (by simp)
    rw [Offline.scenarioList_eq query hbase hupside hdownside] at hlist
    cases hlist
    simp only [List.mem_cons, List.not_mem_nil, or_false] at hs
    rcases hs with rfl | rfl | rfl
    · exact stable_listed query hbase
    · exact stable_listed query hupside
    · exact stable_listed query hdownside

theorem HandedOut.stable (h : s.HandedOut) : s.Stable := by
  induction h with
  | reply p => exact stable_ofReply p
  | offline hs => exact stable_of_offline hs
  | relabel code _ ih => exact ih.relabel code
  | rescale _ hrescale ih => exact ih.rescale hrescale

end Scenario

/-- **Every scenario that is handed out survives its own record.** -/
theorem survives_record {s : Scenario} (h : s.HandedOut) :
    Scenario.read? (s.record .camel) = some s :=
  s.read?_record_eq_some_iff.mpr h.stable

/-- A reply whose project has an object for an identifier, in another currency and then for half as
much money again. -/
theorem survives_record_of_rescaled :
    let project : Json := .object [("code", .string "A-1")]
    let reply : Json := .object [("currency", .string "SGD"), ("escalated_cost", .string "10.01"),
      ("project_id", project)]
    let factor : Amount := ⟨15, 1, by decide, by decide⟩
    ∃ s, ((Scenario.ofReply reply).relabel "USD").rescale factor = .ok s ∧ s.HandedOut ∧
      s.projectId = .raw project ∧ Scenario.read? (s.record .camel) = some s := by
  intro project reply factor
  have hsome :
      (((Scenario.ofReply reply).relabel "USD").rescale factor).toOption.isSome = true := by
    decide +kernel
  cases hs : ((Scenario.ofReply reply).relabel "USD").rescale factor with
  | error e => rw [hs] at hsome; cases hsome
  | ok s =>
    have hout : s.HandedOut := .rescale (.relabel "USD" (.reply reply)) hs
    obtain ⟨interest, rfl, -⟩ := Scenario.exists_of_rescale hs
    exact ⟨_, rfl, hout, rfl, survives_record hout⟩

end Proforma
