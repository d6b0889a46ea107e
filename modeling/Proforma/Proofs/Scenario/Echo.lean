import Proforma.Proofs.Json.Fields
import Proforma.Scenario.Record
import Proforma.Scenario.Reply

/-!
# A scenario comes back from its record

A reply may be a scenario written in the spelling with underscores. Each kind of part comes back
from its record, and from the parts the scenario with all of them (`ofReply_record`), provided that
its free data are objects and its identifiers are as a reply gives them. Whatever a reply holds,
the scenario read from it is of this form.
-/

namespace Proforma

open Json Json.Object

/-! ## Parts -/

theorem IndexPoint.ofReply_record (i : IndexPoint) :
    (i.record .snake).object?.map ofReply = some i := by
  rw [record, object?_record, Option.map_some, ofReply, Option.some.injEq]
  cases i
  simp only [mk.injEq]
  exact ⟨text?_ofList rfl, decimal?_ofList rfl, text?_ofList rfl, text?_ofList rfl,
    text?_ofList rfl, text?_ofList rfl⟩

theorem CostIndex.ofReply_record (c : CostIndex) :
    (c.record .snake).object?.map ofReply = some c := by
  rw [record, object?_record, Option.map_some, ofReply, Option.some.injEq]
  cases c
  simp only [mk.injEq]
  exact ⟨text?_ofList rfl, text?_ofList rfl, text?_ofList rfl, text?_ofList rfl,
    text?_ofList rfl, decimal?_ofList rfl,
    map_section?_ofList rfl fun i _ => i.ofReply_record,
    map_section?_ofList rfl fun i _ => i.ofReply_record⟩

theorem Metric.ofReply_record (m : Metric) (hmetadata : m.metadata.IsObject) :
    (m.record .snake).object?.bind ofReply? = some m := by
  rw [record, object?_record, Option.bind_some, ofReply?]
  refine Option.map_eq_some_iff.mpr ⟨m.name, text?_ofList_string rfl, ?_⟩
  cases m
  simp only [mk.injEq, true_and]
  exact ⟨decimal?_ofList rfl, text?_ofList rfl, metadata_ofList rfl hmetadata⟩

theorem CoverEntry.ofReply_record (c : CoverEntry) :
    (c.record .snake).object?.map ofReply = some c := by
  rw [record, object?_record, Option.map_some, ofReply, Option.some.injEq]
  cases c
  simp only [mk.injEq]
  exact ⟨text_ofList rfl, decimal?_ofList rfl, decimal?_ofList rfl, decimal?_ofList rfl,
    text?_ofList rfl⟩

theorem StackSlice.ofReply_record (s : StackSlice) (hmetadata : s.metadata.IsObject) :
    (s.record .snake).object?.map ofReply = some s := by
  rw [record, object?_record, Option.map_some, ofReply, Option.some.injEq]
  cases s
  simp only [mk.injEq]
  exact ⟨text_ofList rfl, text?_ofList rfl, text_ofList rfl, decimal_ofList rfl,
    decimal?_ofList rfl, decimal?_ofList rfl, integer?_ofList rfl, metadata_ofList rfl hmetadata⟩

theorem CapitalStack.ofReply_record (c : CapitalStack)
    (hslices : ∀ slice ∈ c.slices, slice.metadata.IsObject) :
    (c.record .snake).object?.map ofReply = some c := by
  rw [record, object?_record, Option.map_some, ofReply, Option.some.injEq]
  cases c
  simp only [mk.injEq]
  exact ⟨text?_ofList rfl, decimal_ofList rfl, decimal_ofList rfl, decimal_ofList rfl,
    decimal_ofList rfl, decimal?_ofList rfl, decimal?_ofList rfl, decimal?_ofList rfl,
    decimal?_ofList rfl, decimal?_ofList rfl,
    map_objects_ofList rfl fun x hx => x.ofReply_record (hslices x hx)⟩

theorem DrawEntry.ofReply_record (d : DrawEntry) :
    (d.record .snake).object?.map ofReply = some d := by
  rw [record, object?_record, Option.map_some, ofReply, Option.some.injEq]
  cases d
  simp only [mk.injEq]
  exact ⟨text_ofList rfl, decimal_ofList rfl, decimal_ofList rfl, decimal_ofList rfl,
    decimal_ofList rfl, decimal_ofList rfl, decimal_ofList rfl⟩

theorem DrawSchedule.ofReply_record (d : DrawSchedule) :
    (d.record .snake).object?.map ofReply = some d := by
  rw [record, object?_record, Option.map_some, ofReply, Option.some.injEq]
  cases d
  simp only [mk.injEq]
  exact ⟨text?_ofList rfl, map_objects_ofList rfl fun x _ => x.ofReply_record, decimal?_ofList rfl,
    decimal?_ofList rfl, decimal?_ofList rfl, decimal?_ofList rfl⟩

theorem AssetMix.ofReply_record (a : AssetMix) :
    (a.record .snake).object?.map ofReply = some a := by
  rw [record, object?_record, Option.map_some, ofReply, Option.some.injEq]
  cases a
  simp only [mk.injEq]
  exact ⟨decimal?_ofList rfl, decimal?_ofList rfl, decimal?_ofList rfl, text?_ofList rfl,
    texts_ofList rfl⟩

theorem AssetLine.ofReply_record (a : AssetLine) :
    (a.record .snake).object?.bind ofReply? = some a := by
  rw [record, object?_record, Option.bind_some, ofReply?]
  refine Option.map_eq_some_iff.mpr ⟨a.assetType, text?_ofList_string rfl, ?_⟩
  cases a
  simp only [mk.injEq, true_and]
  exact ⟨decimal?_ofList rfl, decimal?_ofList rfl, decimal?_ofList rfl, decimal?_ofList rfl,
    decimal?_ofList rfl, decimal?_ofList rfl, decimal?_ofList rfl, decimal?_ofList rfl,
    decimal?_ofList rfl, text?_ofList rfl, texts_ofList rfl⟩

theorem FacilityInterest.ofReply_record (f : FacilityInterest) :
    (f.record .snake).object?.map ofReply = some f := by
  rw [record, object?_record, Option.map_some, ofReply, Option.some.injEq]
  cases f
  simp only [mk.injEq]
  exact ⟨text_ofList rfl, decimal?_ofList rfl, decimal?_ofList rfl, integer?_ofList rfl,
    flag_ofList rfl, decimal?_ofList rfl, decimal?_ofList rfl, decimal?_ofList rfl⟩

theorem InterestEntry.ofReply_record (i : InterestEntry) :
    (i.record .snake).object?.map ofReply = some i := by
  rw [record, object?_record, Option.map_some, ofReply, Option.some.injEq]
  cases i
  simp only [mk.injEq]
  exact ⟨text_ofList rfl, decimal?_ofList rfl, decimal?_ofList rfl, decimal?_ofList rfl,
    decimal?_ofList rfl⟩

theorem LoanInterest.ofReply_record (l : LoanInterest) :
    (l.record .snake).object?.map ofReply = some l := by
  rw [record, object?_record, Option.map_some, ofReply, Option.some.injEq]
  cases l
  simp only [mk.injEq]
  exact ⟨text?_ofList rfl, decimal?_ofList rfl, integer?_ofList rfl, flag_ofList rfl,
    decimal?_ofList rfl, decimal?_ofList rfl, decimal?_ofList rfl,
    map_objects_ofList rfl fun x _ => x.ofReply_record,
    map_objects_ofList rfl fun x _ => x.ofReply_record⟩

theorem SensitivityOutcome.ofReply_record (s : SensitivityOutcome) :
    (s.record .snake).object?.bind ofReply? = some s := by
  rw [record, object?_record, Option.bind_some, ofReply?]
  refine Option.map_eq_some_iff.mpr ⟨s.parameter, text?_ofList_string rfl, ?_⟩
  cases s
  simp only [mk.injEq, true_and]
  exact ⟨text_ofList rfl, text?_ofList rfl, decimal?_ofList rfl, decimal?_ofList rfl,
    decimal?_ofList rfl, decimal?_ofList rfl, decimal?_ofList rfl⟩

theorem SensitivityJob.ofReply_record (s : SensitivityJob) :
    (s.record .snake).object?.map ofReply = some s := by
  rw [record, object?_record, Option.map_some, ofReply, Option.some.injEq]
  cases s
  simp only [mk.injEq]
  exact ⟨integer?_ofList rfl, text?_ofList rfl,
    congrArg (Option.getD · "unknown") (text?_ofList_string rfl), text?_ofList rfl,
    text?_ofList rfl⟩

theorem SensitivityBand.ofReply_record (s : SensitivityBand) :
    (s.record .snake).object?.bind ofReply? = some s := by
  rw [record, object?_record, Option.bind_some, ofReply?]
  refine Option.map_eq_some_iff.mpr ⟨s.parameter, text?_ofList_string rfl, ?_⟩
  cases s
  simp only [mk.injEq, true_and]
  exact ⟨decimal?_ofList rfl, decimal?_ofList rfl, decimal?_ofList rfl, text?_ofList rfl⟩

theorem LoanFacility.ofReply_record (l : LoanFacility) (hmetadata : ∀ j ∈ l.metadata, j.IsObject) :
    (l.record .snake).object?.map ofReply = some l := by
  rw [record, object?_record, Option.map_some, ofReply, Option.some.injEq]
  cases l
  simp only [mk.injEq]
  exact ⟨text_ofList rfl, decimal?_ofList rfl, decimal?_ofList rfl, integer?_ofList rfl,
    bool?_ofList rfl, decimal?_ofList rfl, decimal?_ofList rfl, integer?_ofList rfl,
    integer?_ofList rfl, metadata?_ofList rfl hmetadata⟩

theorem ConstructionLoan.ofReply_record (c : ConstructionLoan)
    (hfacilities : ∀ facility ∈ c.facilities, ∀ j ∈ facility.metadata, j.IsObject) :
    (c.record .snake).object?.map ofReply = some c := by
  rw [record, object?_record, Option.map_some, ofReply, Option.some.injEq]
  cases c
  simp only [mk.injEq]
  exact ⟨decimal_ofList rfl, integer?_ofList rfl, flag_ofList rfl,
    map_objects_ofList rfl fun x hx => x.ofReply_record (hfacilities x hx)⟩

/-- Free data of facilities are objects, whatever a reply holds. -/
theorem ConstructionLoan.isObject_of_ofReply (o : Object) :
    ∀ facility ∈ (ofReply o).facilities, ∀ j ∈ facility.metadata, j.IsObject := by
  intro facility hfacility j hj
  obtain ⟨item, -, rfl⟩ := List.mem_map.mp hfacility
  exact isObject_of_metadata? hj

/-! ## Identifiers -/

/-- An identifier as a reply gives it: what was kept denotes no integer. -/
def ProjectKey.IsPlain (key : ProjectKey) : Prop :=
  ∀ j, key = .raw j → ∀ id, ofJson j ≠ .number id

namespace ProjectKey

theorem ofJson_eq_raw {j : Json} (h : ∀ id, ofJson j ≠ .number id) : ofJson j = .raw j := by
  unfold ofJson at h ⊢
  cases hid : integerOf? j with
  | none => rfl
  | some id =>
    rw [hid] at h
    exact absurd rfl (h id)

/-- What a reply gives as something else than an integer is kept as it is. -/
theorem eq_of_ofJson_eq_raw {j kept : Json} (h : ofJson j = .raw kept) : kept = j := by
  unfold ofJson at h
  cases hid : integerOf? j with
  | some id =>
    rw [hid] at h
    cases h
  | none =>
    rw [hid] at h
    cases h
    rfl

theorem isPlain_ofJson (j : Json) : (ofJson j).IsPlain := by
  intro kept hkept id
  rw [eq_of_ofJson_eq_raw hkept, hkept]
  nofun

theorem ofJson_ofInt64 (id : Int64) : ofJson (ofInt64 id) = .number id := by
  unfold ofJson ofInt64 integerOf?
  simp only [toInt64?_ofInt64]

variable {fields : List (String × Json)} {name : String}

/-- A plain identifier comes back unless it was kept as null. -/
theorem map_field?_ofList {key : ProjectKey}
    (h : NameMap.get? fields.reverse name = some key.record) (hplain : key.IsPlain)
    (hnull : key ≠ .raw .null) :
    (Object.field? (NameMap.ofList fields) name).map ofJson = some key := by
  cases key with
  | number id =>
    rw [field?_ofList h nofun, Option.map_some]
    exact congrArg some (ofJson_ofInt64 id)
  | raw j =>
    have hj : j ≠ .null := by
      rintro rfl
      exact hnull rfl
    rw [field?_ofList h hj, Option.map_some]
    exact congrArg some (ofJson_eq_raw (hplain j rfl))

/-- One that was kept as null is taken for a missing one, which reads as the same. -/
theorem getD_field?_ofList {key : ProjectKey}
    (h : NameMap.get? fields.reverse name = some key.record) (hplain : key.IsPlain) :
    ((Object.field? (NameMap.ofList fields) name).map ofJson).getD (.raw .null) = key := by
  by_cases hnull : key = .raw .null
  · subst hnull
    rw [field?_ofList_null h]
    rfl
  · rw [map_field?_ofList h hplain hnull]
    rfl

end ProjectKey

/-! ## Scenarios -/

/-- A scenario that can come from a reply: free data are objects, an identifier that was kept
denotes no integer, and one that need not be there is not kept as null. -/
structure Scenario.Regular (s : Scenario) : Prop where
  results : ∀ metric ∈ s.results, metric.metadata.IsObject
  slices : ∀ stack ∈ s.capitalStack, ∀ slice ∈ stack.slices, slice.metadata.IsObject
  facilities : ∀ loan ∈ s.constructionLoan, ∀ facility ∈ loan.facilities,
    ∀ j ∈ facility.metadata, j.IsObject
  projectId : s.projectId.IsPlain
  finProjectId : ∀ key ∈ s.finProjectId, key.IsPlain ∧ key ≠ .raw .null

namespace Scenario

/-- A regular scenario comes back from its record with all its parts. -/
theorem ofReply_record (s : Scenario) (hs : s.Regular) : ofReply (s.record .snake) = s := by
  obtain ⟨hresults, hslices, hfacilities, hproject, hfin⟩ := hs
  rw [ofReply, record, object?_record, Option.getD_some, ofObject]
  cases s with
  | mk scenarioId projectId finProjectId =>
    simp only [mk.injEq]
    refine ⟨?_, ProjectKey.getD_field?_ofList rfl hproject, ?_, text_ofList rfl, text?_ofList rfl,
      text_ofList rfl, decimal?_ofList rfl, map_section?_ofList rfl fun c _ => c.ofReply_record,
      filterMap_objects_ofList rfl fun m hm => m.ofReply_record (hresults m hm),
      map_objects_ofList rfl fun c _ => c.ofReply_record,
      map_section?_ofList rfl fun c hc => c.ofReply_record (hslices c hc),
      map_section?_ofList rfl fun d _ => d.ofReply_record,
      map_section?_ofList rfl fun a _ => a.ofReply_record,
      filterMap_objects_ofList rfl fun a _ => a.ofReply_record,
      map_section?_ofList rfl fun l hl => l.ofReply_record (hfacilities l hl),
      map_section?_ofList rfl fun l _ => l.ofReply_record,
      filterMap_objects_ofList rfl fun o _ => o.ofReply_record,
      map_objects_ofList rfl fun j _ => j.ofReply_record,
      filterMap_objects_ofList rfl fun b _ => b.ofReply_record,
      flag_ofList rfl, flag_ofList rfl, text?_ofList rfl⟩
    · -- the identifier is always written
      exact congrArg (Option.getD · 0) (integer?_ofList (n := some scenarioId) rfl)
    · cases finProjectId with
      | none =>
        rw [field?_ofList_null rfl]
        rfl
      | some key =>
        obtain ⟨hplain, hnull⟩ := hfin key rfl
        exact ProjectKey.map_field?_ofList rfl hplain hnull

/-- What is read from a reply is regular, whatever the reply is. -/
theorem regular_ofReply (p : Json) : (ofReply p).Regular := by
  unfold ofReply
  generalize p.object?.getD [] = o
  refine ⟨?_, ?_, ?_, ?_, ?_⟩
  · intro metric hmetric
    obtain ⟨item, -, hitem⟩ := List.mem_filterMap.mp hmetric
    obtain ⟨name, -, rfl⟩ := Option.map_eq_some_iff.mp hitem
    exact isObject_metadata item "metadata"
  · intro stack hstack slice hslice
    obtain ⟨part, -, rfl⟩ := Option.map_eq_some_iff.mp hstack
    obtain ⟨item, -, rfl⟩ := List.mem_map.mp hslice
    exact isObject_metadata item "metadata"
  · intro loan hloan
    obtain ⟨part, -, rfl⟩ := Option.map_eq_some_iff.mp hloan
    exact ConstructionLoan.isObject_of_ofReply part
  · show ((o.field? "project_id").map ProjectKey.ofJson).getD (.raw .null) |>.IsPlain
    cases o.field? "project_id" with
    | none => exact ProjectKey.isPlain_ofJson .null
    | some j => exact ProjectKey.isPlain_ofJson j
  · intro key hkey
    obtain ⟨j, hj, rfl⟩ := Option.map_eq_some_iff.mp hkey
    refine ⟨ProjectKey.isPlain_ofJson j, ?_⟩
    intro hnull
    exact ne_null_of_field? hj (ProjectKey.eq_of_ofJson_eq_raw hnull).symm

end Scenario

/-- **A scenario is what its record says.** The scenarios that come back from their record in the
spelling with underscores, with every part and every list as it was, are the regular ones; and
every scenario that is read from a reply is one of them. -/
theorem scenario_echo :
    (∀ s : Scenario, s.Regular ↔ Scenario.ofReply (s.record .snake) = s) ∧
      ∀ p : Json, (Scenario.ofReply p).Regular := by
  refine ⟨fun s => ⟨s.ofReply_record, ?_⟩, Scenario.regular_ofReply⟩
  intro hsame
  rw [← hsame]
  exact Scenario.regular_ofReply _

end Proforma
