import Proforma.Proofs.Scenario.Echo
import Proforma.Proofs.Study.Bodies

/-!
# Terms come back

Loan terms and sensitivity bands are sent with a study or alone, and a reply repeats them. What is
read of the repetition is what was sent (`terms_echo`), although the body leaves out what is absent
and the reading takes what is missing for absent. Only free data of a facility have to be an object,
since a reply is not believed to hold any other.
-/

namespace Proforma

open Json Json.Object

namespace Json

/-- What an object holds under a name. -/
def member? (j : Json) (name : String) : Option Json :=
  j.object?.bind (NameMap.get? · name)

section Slots

variable {α : Type} {name : String} {slots : List (String × Option Json)}

/-- What stands under a name is what its slot holds. -/
theorem get?_filled_of_nodup {x : Option Json} (hnodup : (slots.map (·.1)).Nodup)
    (h : NameMap.get? slots name = some x) : NameMap.get? (filled slots).reverse name = x := by
  induction slots with
  | nil => cases h
  | cons slot rest ih =>
    obtain ⟨n, y⟩ := slot
    obtain ⟨hfresh, hnodup⟩ := List.nodup_cons.mp hnodup
    simp only [NameMap.get?] at h
    rw [get?_filled_cons]
    by_cases hn : n = name
    · subst hn
      rw [if_pos rfl, Option.some.injEq] at h
      rw [get?_filled_of_notMem hfresh, if_pos rfl, h]
      rfl
    · rw [if_neg hn] at h
      rw [ih hnodup h, if_neg hn, Option.or_none]

theorem member?_filled {x : Option Json} (hnodup : (slots.map (·.1)).Nodup)
    (h : NameMap.get? slots name = some x) : (ofFields (filled slots)).member? name = x := by
  show NameMap.get? (NameMap.ofList (filled slots)) name = x
  rw [NameMap.get?_ofList, get?_filled_of_nodup hnodup h]

theorem string_ne_null {x : Option String} (s : String) (_ : s ∈ x) : Json.string s ≠ .null := by
  intro h
  cases h

theorem bool_ne_null {x : Option Bool} (b : Bool) (_ : b ∈ x) : Json.bool b ≠ .null := by
  intro h
  cases h

theorem ofInt64_ne_null {x : Option Int64} (n : Int64) (_ : n ∈ x) : ofInt64 n ≠ .null := by
  intro h
  cases h

/-- A part that is left out when it is absent. -/
theorem field?_filled {write : α → Json} {x : Option α} (hnodup : (slots.map (·.1)).Nodup)
    (h : NameMap.get? slots name = some (x.map write)) (hnull : ∀ a ∈ x, write a ≠ .null) :
    Object.field? (NameMap.ofList (filled slots)) name = x.map write := by
  unfold Object.field?
  rw [NameMap.get?_ofList, get?_filled_of_nodup hnodup h]
  cases x with
  | none => rfl
  | some a =>
    have hkept : decide (write a ≠ .null) = true := decide_eq_true (hnull a rfl)
    rw [Option.map_some, Option.filter_some, if_pos hkept]

/-- Free data that are left out when they are absent. -/
theorem metadata?_filled {x : Option Json} (hnodup : (slots.map (·.1)).Nodup)
    (h : NameMap.get? slots name = some (x.map id)) (hx : ∀ j ∈ x, j.IsObject) :
    Object.metadata? (NameMap.ofList (filled slots)) name = x := by
  have hnull (j : Json) (hj : j ∈ x) : id j ≠ .null := by
    obtain ⟨free, rfl⟩ := hx j hj
    intro hnull
    cases hnull
  exact metadata?_of_field? ((field?_filled hnodup h hnull).trans Option.map_id_apply) hx

/-- A list that is left out when it is empty. -/
theorem filterMap_objects_filled {write : α → Json} {read? : Object → Option α} {items : List α}
    (hnodup : (slots.map (·.1)).Nodup) (h : NameMap.get? slots name = some (listSlot write items))
    (hread : ∀ a ∈ items, (write a).object?.bind read? = some a) :
    (Object.objects (NameMap.ofList (filled slots)) name).filterMap read? = items := by
  unfold Object.objects Object.field?
  rw [NameMap.get?_ofList, get?_filled_of_nodup hnodup h]
  cases items with
  | nil => rfl
  | cons a rest => exact filterMap_objects_array hread

end Slots

end Json

/-! ## Terms -/

theorem SensitivityBand.ofReply_body (b : SensitivityBand) :
    b.body.object?.bind ofReply? = some b := by
  simp only [body, optionalField_eq_filled, singleton_eq_filled, filled_append, ofFields, object?,
    Option.bind_some, ofReply?]
  have hnodup : (["parameter", "low", "base", "high", "notes"] : List String).Nodup := by decide
  refine Option.map_eq_some_iff.mpr ⟨b.parameter, ?_, ?_⟩
  · exact text?_of_field? (field?_filled (x := some b.parameter) hnodup rfl string_ne_null)
  · cases b
    simp only [mk.injEq, true_and]
    exact ⟨decimal?_of_field? (field?_filled hnodup rfl string_ne_null),
      decimal?_of_field? (field?_filled hnodup rfl string_ne_null),
      decimal?_of_field? (field?_filled hnodup rfl string_ne_null),
      text?_of_field? (field?_filled hnodup rfl string_ne_null)⟩

theorem LoanFacility.ofReply_body (f : LoanFacility) (hmetadata : ∀ j ∈ f.metadata, j.IsObject) :
    f.body.object?.map ofReply = some f := by
  simp only [body, optionalField_eq_filled, singleton_eq_filled, filled_append, ofFields, object?,
    Option.map_some, ofReply, Option.some.injEq, List.cons_append, List.nil_append]
  have hnodup : (["name", "amount", "interest_rate", "periods_per_year", "capitalise_interest",
    "upfront_fee_pct", "exit_fee_pct", "reserve_months", "amortisation_months", "metadata"] :
      List String).Nodup := by decide
  cases f
  simp only [mk.injEq]
  exact ⟨text_of_field? (field?_filled (x := some _) hnodup rfl string_ne_null),
    decimal?_of_field? (field?_filled hnodup rfl string_ne_null),
    decimal?_of_field? (field?_filled hnodup rfl string_ne_null),
    integer?_of_field? (field?_filled hnodup rfl ofInt64_ne_null),
    bool?_of_field? (field?_filled hnodup rfl bool_ne_null),
    decimal?_of_field? (field?_filled hnodup rfl string_ne_null),
    decimal?_of_field? (field?_filled hnodup rfl string_ne_null),
    integer?_of_field? (field?_filled hnodup rfl ofInt64_ne_null),
    integer?_of_field? (field?_filled hnodup rfl ofInt64_ne_null),
    metadata?_filled hnodup rfl hmetadata⟩

theorem ConstructionLoan.ofReply_body (l : ConstructionLoan)
    (hfacilities : ∀ facility ∈ l.facilities, ∀ j ∈ facility.metadata, j.IsObject) :
    l.body.object?.map ofReply = some l := by
  simp only [body, optionalField_eq_filled, listField_eq_filled, singleton_eq_filled, cons_filled,
    filled_append, ofFields, object?, Option.map_some, ofReply, Option.some.injEq]
  have hnodup : (["interest_rate", "capitalise_interest", "periods_per_year", "facilities"] :
    List String).Nodup := by decide
  cases l
  simp only [mk.injEq]
  refine ⟨decimal_of_field? (field?_filled (x := some _) hnodup rfl string_ne_null),
    integer?_of_field? (field?_filled hnodup rfl ofInt64_ne_null),
    flag_of_field? (field?_filled (x := some _) hnodup rfl bool_ne_null), ?_⟩
  rw [← List.filterMap_eq_map]
  refine filterMap_objects_filled hnodup rfl fun f hf => ?_
  rw [← Option.map_eq_bind]
  exact f.ofReply_body (hfacilities f hf)

/-! ## Where they are sent -/

theorem Proposal.member?_constructionLoan (p : Proposal) :
    p.body.member? "construction_loan" = p.constructionLoan.map ConstructionLoan.body := by
  simp only [body, optionalField_eq_filled, listField_eq_filled, singleton_eq_filled, cons_filled,
    filled_append]
  exact member?_filled (by simp) rfl

theorem Proposal.member?_sensitivityBands (p : Proposal) :
    p.body.member? "sensitivity_bands" = listSlot SensitivityBand.body p.sensitivityBands := by
  simp only [body, optionalField_eq_filled, listField_eq_filled, singleton_eq_filled, cons_filled,
    filled_append]
  exact member?_filled (by simp) rfl

theorem Study.member?_scenario {s : Study} {body : Json} (h : s.body? = .ok body) :
    body.member? "scenario" = some s.scenario.body := by
  obtain ⟨n, -, rfl⟩ := Study.body?_eq_ok_iff.mp h
  simp only [optionalField_eq_filled, singleton_eq_filled, cons_filled, filled_append]
  exact member?_filled (by simp) rfl

/-- **Terms come back.** A loan is written in one way, alone and in every study that asks for it,
and what is read of that is the loan exactly if the free data of its facilities are objects. Bands,
if there are any, are written in one way too, and what is read of it is the same bands in the same
order. -/
theorem terms_echo :
    (∀ loan : ConstructionLoan, ∃ j : Json,
      loan.updateBody.member? "construction_loan" = some j ∧
      (∀ (study : Study) (body : Json), study.body? = .ok body →
        study.scenario.constructionLoan = some loan →
        (body.member? "scenario" >>= (·.member? "construction_loan")) = some j) ∧
      (j.object?.map ConstructionLoan.ofReply = some loan ↔
        ∀ facility ∈ loan.facilities, ∀ free ∈ facility.metadata, free.IsObject)) ∧
    ∀ bands : List SensitivityBand, bands ≠ [] → ∃ j : Json,
      (∃ body, SensitivityBand.rerunBody? bands = .ok body ∧
        body.member? "sensitivity_bands" = some j) ∧
      (∀ (study : Study) (body : Json), study.body? = .ok body →
        study.scenario.sensitivityBands = bands →
        (body.member? "scenario" >>= (·.member? "sensitivity_bands")) = some j) ∧
      j.objects.filterMap SensitivityBand.ofReply? = bands := by
  constructor
  · intro loan
    refine ⟨loan.body, rfl, ?_, ?_, loan.ofReply_body⟩
    · intro study body hbody hloan
      rw [Study.member?_scenario hbody, Option.bind_eq_bind, Option.bind_some,
        Proposal.member?_constructionLoan, hloan, Option.map_some]
    · intro hback
      obtain ⟨o, -, rfl⟩ := Option.map_eq_some_iff.mp hback
      exact ConstructionLoan.isObject_of_ofReply o
  · intro bands hbands
    have hfull : bands.isEmpty = false := by simpa using hbands
    have hrerun : SensitivityBand.rerunBody? bands =
        .ok (ofFields [("sensitivity_bands", .array (bands.map SensitivityBand.body))]) := by
      unfold SensitivityBand.rerunBody?
      rw [hfull]
      rfl
    refine ⟨.array (bands.map SensitivityBand.body), ⟨_, hrerun, rfl⟩, ?_, ?_⟩
    · intro study body hbody hsame
      rw [Study.member?_scenario hbody, Option.bind_eq_bind, Option.bind_some,
        Proposal.member?_sensitivityBands, hsame, listSlot, hfull]
      rfl
    · exact filterMap_objects_array fun b _ => b.ofReply_body

/-- A study with a loan, one of whose facilities says only its name and free data and the other only
its months, and with two bands of the same parameter. -/
theorem terms_echo_of_sparse :
    let loan : ConstructionLoan := ⟨"0.045", none, false,
      [⟨"", none, none, none, none, none, none, none, none, some (.object [("ltv", .null)])⟩,
        ⟨"Mezzanine", none, none, some 4, none, none, none, some (-1), some 36, none⟩]⟩
    let bands : List SensitivityBand :=
      [⟨"rate", some "-1", none, none, some ""⟩, ⟨"rate", none, some "0", some "1e3", none⟩]
    let study : Study := ⟨.ofInt64 42, none, none, ⟨"A", none, "SGD", none,
      ⟨"1", "2024-Q1", "s", "SG", none⟩, ⟨"0.08", []⟩, none, [], [], [], some loan, bands⟩⟩
    ∃ body l b, study.body? = .ok body ∧
      (body.member? "scenario" >>= (·.member? "construction_loan")) = some l ∧
      l.object?.map ConstructionLoan.ofReply = some loan ∧
      (body.member? "scenario" >>= (·.member? "sensitivity_bands")) = some b ∧
      b.objects.filterMap SensitivityBand.ofReply? = bands := by
  intro loan bands study
  obtain ⟨hloans, hbands⟩ := terms_echo
  obtain ⟨l, -, hl, hloan⟩ := hloans loan
  obtain ⟨b, -, hb, hback⟩ := hbands bands (List.cons_ne_nil _ _)
  have hnumber : study.projectId.number? = _ :=
    ProjectRef.number?_of_names (@ProjectRef.Names.integer 42)
  obtain ⟨fields, hbody, -⟩ := ProjectRef.exists_body?_of_number? hnumber
  refine ⟨_, l, b, hbody, hl study _ hbody rfl, hloan.mpr ?_, hb study _ hbody rfl, hback⟩
  intro facility hfacility free hfree
  simp only [loan, List.mem_cons, List.not_mem_nil, or_false] at hfacility
  rcases hfacility with rfl | rfl
  · cases hfree
    exact ⟨_, rfl⟩
  · cases hfree

end Proforma
