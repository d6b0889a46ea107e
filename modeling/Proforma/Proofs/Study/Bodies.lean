import Proforma.Proofs.Number.Value
import Proforma.Proofs.Study.ProjectNumber
import Proforma.Study.Body

/-!
# What a body says

Each part of a study can be told from its body, and so can the study, but for two things: different
references to a project may denote one number, and cover figures that are empty are not sent
(`same_body_iff`). A body is seen as a list of slots with distinct names, some of which hold no
value; objects that are made from the same slots are equal only if the slots hold the same
(`slots_eq`).
-/

namespace Proforma

open Number
open Function (Injective)

/-! ## Slots -/

namespace Json

/-- The fields of the slots that hold a value. -/
def filled (slots : List (String × Option Json)) : List (String × Json) :=
  slots.filterMap fun slot => slot.2.map (slot.1, ·)

/-- What a slot holds for a list: nothing for the empty one. -/
def listSlot {α : Type} (write : α → Json) (items : List α) : Option Json :=
  if items.isEmpty then none else some (.array (items.map write))

section Slots

variable {α : Type} {write : α → Json} {name : String} {slots others : List (String × Option Json)}

theorem filled_append : filled slots ++ filled others = filled (slots ++ others) :=
  List.filterMap_append.symm

theorem cons_filled {j : Json} : (name, j) :: filled slots = filled ((name, some j) :: slots) :=
  rfl

theorem singleton_eq_filled {j : Json} : [(name, j)] = filled [(name, some j)] :=
  rfl

theorem optionalField_eq_filled {a : Option α} :
    optionalField name write a = filled [(name, a.map write)] := by
  cases a <;> rfl

theorem listField_eq_filled {items : List α} :
    listField name write items = filled [(name, listSlot write items)] := by
  cases items <;> rfl

theorem map_inj (hwrite : Injective write) {a b : Option α} :
    a.map write = b.map write ↔ a = b :=
  Option.map_inj_right hwrite

theorem listSlot_inj (hwrite : Injective write) {a b : List α} :
    listSlot write a = listSlot write b ↔ a = b := by
  have hitems : a.map write = b.map write ↔ a = b := List.map_inj_right hwrite
  unfold listSlot
  cases a with
  | nil =>
    cases b with
    | nil => simp
    | cons => simp
  | cons =>
    cases b with
    | nil => simp
    | cons => simpa using hitems

/-- A slot holds what is written under its name, unless there is another one after it. -/
theorem get?_filled_cons (x : Option Json) (other : String) :
    NameMap.get? (filled ((name, x) :: slots)).reverse other =
      (NameMap.get? (filled slots).reverse other).or (if name = other then x else none) := by
  have hslot : NameMap.get? (filled [(name, x)]).reverse other =
      if name = other then x else none := by
    cases x with
    | none => exact (ite_self _).symm
    | some j => rfl
  rw [← hslot, ← NameMap.get?_append, ← List.reverse_append, filled_append]
  rfl

theorem get?_filled_of_notMem {other : String} (h : other ∉ slots.map (·.1)) :
    NameMap.get? (filled slots).reverse other = none := by
  induction slots with
  | nil => rfl
  | cons slot rest ih =>
    obtain ⟨n, x⟩ := slot
    simp only [List.map_cons, List.mem_cons, not_or] at h
    rw [get?_filled_cons, ih h.2, if_neg (Ne.symm h.1)]
    rfl

/-- Slots are the same if the same is written under every name. -/
theorem slots_eq_of_get? (hnames : slots.map (·.1) = others.map (·.1))
    (hnodup : (slots.map (·.1)).Nodup)
    (h : ∀ name, NameMap.get? (filled slots).reverse name =
      NameMap.get? (filled others).reverse name) :
    slots = others := by
  induction slots generalizing others with
  | nil => exact (List.map_eq_nil_iff.mp hnames.symm).symm
  | cons slot rest ih =>
    cases others with
    | nil => cases hnames
    | cons other rest' =>
      obtain ⟨n, x⟩ := slot
      obtain ⟨m, y⟩ := other
      obtain ⟨rfl, hrest⟩ := List.cons.inj hnames
      obtain ⟨hfresh, hnodup⟩ := List.nodup_cons.mp hnodup
      -- the first name does not come again, so what is written under it is its slot
      have hnone := get?_filled_of_notMem hfresh
      have hnone' := get?_filled_of_notMem (hrest ▸ hfresh)
      have hvalue : x = y := by
        have hn := h n
        rwa [get?_filled_cons, get?_filled_cons, hnone, hnone', if_pos rfl, if_pos rfl] at hn
      have htail : rest = rest' := by
        refine ih hrest hnodup fun name => ?_
        by_cases hname : n = name
        · rw [← hname, hnone, hnone']
        · have hn := h name
          rwa [get?_filled_cons, get?_filled_cons, if_neg hname, if_neg hname, Option.or_none,
            Option.or_none] at hn
      rw [hvalue, htail]

/-- **Objects that are made from slots of the same names are equal only if the slots hold the
same.** -/
theorem slots_eq (h : ofFields (filled slots) = ofFields (filled others))
    (hnames : slots.map (·.1) = others.map (·.1)) (hnodup : (slots.map (·.1)).Nodup) :
    slots = others := by
  refine slots_eq_of_get? hnames hnodup fun name => ?_
  unfold ofFields at h
  injection h with hfields
  rw [← NameMap.get?_ofList, hfields, NameMap.get?_ofList]

end Slots

/-! ## Values -/

theorem string_injective : Injective string :=
  fun _ _ => string.inj

theorem bool_injective : Injective bool :=
  fun _ _ => bool.inj

theorem ofInt64_injective : Injective ofInt64 :=
  fun _ _ h => JsonNumber.ofInt64_injective (number.inj h)

end Json

open Json

theorem textArray_inj {texts others : List String} :
    textArray texts = textArray others ↔ texts = others := by
  unfold textArray
  rw [Json.array.injEq]
  exact List.map_inj_right string_injective

/-! ## Parts of a study -/

theorem CostEscalation.body_injective : Injective body := by
  intro a b h
  simp only [body, optionalField_eq_filled, singleton_eq_filled, cons_filled, filled_append] at h
  have hslots := slots_eq h rfl (by simp)
  cases a
  cases b
  simpa [map_inj string_injective] using hslots

theorem CashFlow.body_injective : Injective body := by
  intro a b h
  simp only [body, singleton_eq_filled, cons_filled] at h
  have hslots := slots_eq h rfl (by simp)
  cases a
  cases b
  simpa [textArray_inj] using hslots

theorem DebtCover.body_injective : Injective body := by
  intro a b h
  simp only [body, listField_eq_filled, singleton_eq_filled, cons_filled, filled_append] at h
  have hslots := slots_eq h rfl (by simp)
  cases a
  cases b
  simpa [textArray_inj, listSlot_inj string_injective] using hslots

theorem FundingSource.body_injective : Injective body := by
  intro a b h
  simp only [body, optionalField_eq_filled, singleton_eq_filled, cons_filled, filled_append] at h
  have hslots := slots_eq h rfl (by simp)
  cases a
  cases b
  simpa [map_inj string_injective, map_inj ofInt64_injective] using hslots

theorem PlannedDraw.body_injective : Injective body := by
  intro a b h
  simp only [body, singleton_eq_filled, cons_filled] at h
  have hslots := slots_eq h rfl (by simp)
  cases a
  cases b
  simpa using hslots

theorem AssetShare.body_injective : Injective body := by
  intro a b h
  simp only [body, optionalField_eq_filled, listField_eq_filled, singleton_eq_filled, cons_filled,
    filled_append] at h
  have hslots := slots_eq h rfl (by simp)
  cases a
  cases b
  simpa [map_inj string_injective, listSlot_inj string_injective] using hslots

theorem SensitivityBand.body_injective : Injective body := by
  intro a b h
  simp only [body, optionalField_eq_filled, singleton_eq_filled, filled_append] at h
  have hslots := slots_eq h rfl (by simp)
  cases a
  cases b
  simpa [map_inj string_injective] using hslots

theorem LoanFacility.body_injective : Injective body := by
  intro a b h
  simp only [body, optionalField_eq_filled, singleton_eq_filled, filled_append] at h
  have hslots := slots_eq h rfl (by simp)
  cases a
  cases b
  simpa [map_inj string_injective, map_inj ofInt64_injective, map_inj bool_injective] using hslots

theorem ConstructionLoan.body_injective : Injective body := by
  intro a b h
  simp only [body, optionalField_eq_filled, listField_eq_filled, singleton_eq_filled, cons_filled,
    filled_append] at h
  have hslots := slots_eq h rfl (by simp)
  cases a
  cases b
  simpa [map_inj ofInt64_injective, listSlot_inj LoanFacility.body_injective, and_left_comm]
    using hslots

/-! ## Studies -/

/-- The proposal as it is sent: without cover figures if they are empty. -/
def Proposal.sent (p : Proposal) : Proposal :=
  { p with dscr := p.dscr.filter (!·.isEmpty) }

theorem Proposal.body_sent (p : Proposal) : p.sent.body = p.body := by
  have hsent : (p.dscr.filter (!·.isEmpty)).filter (!·.isEmpty) = p.dscr.filter (!·.isEmpty) := by
    simp
  unfold body sent
  simp only [hsent]

theorem Proposal.body_eq_iff (p q : Proposal) : p.body = q.body ↔ p.sent = q.sent := by
  constructor
  · intro h
    simp only [body, optionalField_eq_filled, listField_eq_filled, singleton_eq_filled,
      cons_filled, filled_append] at h
    have hslots := slots_eq h rfl (by simp)
    simp only [List.cons_append, List.nil_append, List.cons.injEq, Prod.mk.injEq,
      Option.some.injEq, Json.string.injEq, CostEscalation.body_injective.eq_iff,
      CashFlow.body_injective.eq_iff, map_inj string_injective, map_inj bool_injective,
      map_inj DebtCover.body_injective, map_inj ConstructionLoan.body_injective,
      listSlot_inj FundingSource.body_injective, listSlot_inj PlannedDraw.body_injective,
      listSlot_inj AssetShare.body_injective, listSlot_inj SensitivityBand.body_injective,
      true_and, and_true] at hslots
    obtain ⟨hname, hcurrency, hescalation, hflow, hdescription, hprimary, hdscr, hstack, hdraws,
      hmix, hloan, hbands⟩ := hslots
    simp only [sent, mk.injEq]
    exact ⟨hname, hdescription, hcurrency, hprimary, hescalation, hflow, hdscr, hstack, hdraws,
      hmix, hloan, hbands⟩
  · intro h
    rw [← body_sent p, h, body_sent]

/-! ## The project -/

theorem JsonNumber.value_numberOf (x : Binary64) : (ProjectRef.numberOf x).value = x.value := by
  unfold ProjectRef.numberOf
  cases h : x.whole? with
  | none => rfl
  | some id => exact (Binary64.value_of_whole? h).symm

/-- Zero is whole, whatever its sign. -/
theorem Binary64.whole?_of_zero {x : Binary64} (h : x.units = 0) : x.whole? = some 0 := by
  refine Binary64.whole?_eq_some_iff.mpr ⟨?_, ?_, ?_⟩
  · rw [h]
    exact Nat.dvd_zero _
  · rw [h]
    exact Nat.mul_pos (by decide) unitsOfOne_pos
  · unfold Binary64.truncate
    rw [h, Nat.zero_div]
    split <;> rfl

/-- Two references are sent as the same number exactly if they denote the same one. -/
theorem ProjectRef.numberOf_eq_iff (x y : Binary64) :
    numberOf x = numberOf y ↔ x.value = y.value := by
  constructor
  · intro h
    rw [← JsonNumber.value_numberOf, h, JsonNumber.value_numberOf]
  · intro h
    obtain ⟨hunits, hzero | hnegative⟩ := Binary64.value_eq_iff.mp h
    · -- the two zeros differ in their sign, but both are sent as the integer
      unfold numberOf
      rw [Binary64.whole?_of_zero hzero, Binary64.whole?_of_zero (hunits ▸ hzero)]
    · obtain rfl : x = y := by
        cases x
        cases y
        cases hunits
        cases hnegative
        rfl
      rfl

theorem ProjectRef.number?_eq_ok_iff {ref : ProjectRef} {n : JsonNumber} :
    ref.number? = .ok n ↔ ∃ x, ref.value? = .ok (.finite x) ∧ numberOf x = n := by
  unfold number?
  cases ref.value? with
  | error cause => simp
  | ok value =>
    cases value with
    | finite x => simp
    | nan => simp
    | infinite negative => simp

/-! ## Bodies -/

theorem Study.body?_eq_ok_iff {s : Study} {body : Json} :
    s.body? = .ok body ↔ ∃ n, s.projectId.number? = .ok n ∧
      ofFields ([("project_id", .number n), ("scenario", s.scenario.body)] ++
        optionalField "project_name" .string s.projectName ++
        optionalField "fin_project_id" ofInt64 s.finProjectId) = body := by
  unfold body?
  cases s.projectId.number? with
  | error cause => exact ⟨nofun, by rintro ⟨n, ⟨⟩, -⟩⟩
  | ok n =>
    constructor
    · intro h
      exact ⟨n, rfl, Except.ok.inj h⟩
    · rintro ⟨m, ⟨⟩, rfl⟩
      rfl

/-- **Studies have the same body exactly if they ask for the same.** The references to the project
have to denote the same number, and all other parts have to be equal, except that empty cover
figures count as none. -/
theorem same_body_iff (s t : Study) :
    (∃ body, s.body? = .ok body ∧ t.body? = .ok body) ↔
      (∃ x y : Binary64, s.projectId.value? = .ok (.finite x) ∧
        t.projectId.value? = .ok (.finite y) ∧ x.value = y.value) ∧
      s.projectName = t.projectName ∧ s.finProjectId = t.finProjectId ∧
      s.scenario.sent = t.scenario.sent := by
  constructor
  · rintro ⟨body, hs, ht⟩
    obtain ⟨n, hn, rfl⟩ := Study.body?_eq_ok_iff.mp hs
    obtain ⟨m, hm, hbody⟩ := Study.body?_eq_ok_iff.mp ht
    simp only [optionalField_eq_filled, singleton_eq_filled, cons_filled, filled_append] at hbody
    have hslots := slots_eq hbody rfl (by simp)
    simp only [List.cons_append, List.nil_append, List.cons.injEq, Prod.mk.injEq,
      Option.some.injEq, Json.number.injEq, map_inj string_injective, map_inj ofInt64_injective,
      Proposal.body_eq_iff, true_and, and_true] at hslots
    obtain ⟨hmn, hscenario, hname, hfin⟩ := hslots
    obtain ⟨x, hx, rfl⟩ := ProjectRef.number?_eq_ok_iff.mp hn
    obtain ⟨y, hy, rfl⟩ := ProjectRef.number?_eq_ok_iff.mp hm
    exact ⟨⟨x, y, hx, hy, (ProjectRef.numberOf_eq_iff x y).mp hmn.symm⟩, hname.symm, hfin.symm,
      hscenario.symm⟩
  · rintro ⟨⟨x, y, hx, hy, hvalue⟩, hname, hfin, hscenario⟩
    have hnumber := (ProjectRef.numberOf_eq_iff x y).mpr hvalue
    refine ⟨_, Study.body?_eq_ok_iff.mpr ⟨_, ProjectRef.number?_eq_ok_iff.mpr ⟨x, hx, rfl⟩, rfl⟩,
      Study.body?_eq_ok_iff.mpr ⟨_, ProjectRef.number?_eq_ok_iff.mpr ⟨y, hy, rfl⟩, ?_⟩⟩
    rw [hnumber, hname, hfin, (Proposal.body_eq_iff _ _).mpr hscenario]

end Proforma
