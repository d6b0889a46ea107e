import Proforma.Proofs.Json.Kinds
import Proforma.Scenario.Reply

/-!
# Collections in replies

A list of a scenario has one element for every object of the array that it is read from, in the
order of the array, and each element is made from its object alone (`Gathered`). In most lists any
object will do, the empty one too. Where items are known by a name, in results, uses of the building
and sensitivity parameters, an object without a name is left out, and nothing else is
(`collections_of_reply`).
-/

namespace Proforma

namespace Json

/-! ## What becomes of an array -/

/-- How a list comes from the items of an array: each object that counts gives the element that is
made from it, and all other items give none. -/
inductive Gathered {α : Type} (counts : Object → Prop) (make? : Object → Option α) :
    List Json → List α → Prop where
  | nil : Gathered counts make? [] []
  | counted {o : Object} {a : α} {items : List Json} {list : List α} : counts o →
      make? o = some a → Gathered counts make? items list →
      Gathered counts make? (.object o :: items) (a :: list)
  | uncounted {o : Object} {items : List Json} {list : List α} : ¬counts o →
      Gathered counts make? items list → Gathered counts make? (.object o :: items) list
  | other {j : Json} {items : List Json} {list : List α} : ¬j.IsObject →
      Gathered counts make? items list → Gathered counts make? (j :: items) list

/-- Every object, whatever it holds. -/
def AnyObject (_ : Object) : Prop :=
  True

/-- The objects that hold a name: under that key is a text, a number or a truth value. -/
def Named (key : String) (o : Object) : Prop :=
  ∃ j, NameMap.get? o key = some j ∧ Kind.text.Accepts j

section Gathering

variable {α : Type} {counts : Object → Prop} {make? : Object → Option α}

/-- A reading that takes just the objects that count gathers them. -/
theorem gathered_filterMap (hcounts : ∀ o, (make? o).isSome = true ↔ counts o)
    (items : List Json) :
    Gathered counts make? items ((items.filterMap object?).filterMap make?) := by
  induction items with
  | nil => exact .nil
  | cons j rest ih =>
    cases j with
    | object o =>
      have hobject : (Json.object o).object? = some o := rfl
      rw [List.filterMap_cons_some hobject]
      cases ho : make? o with
      | some a =>
        rw [List.filterMap_cons_some ho]
        exact .counted ((hcounts o).mp (by rw [ho]; rfl)) ho ih
      | none =>
        rw [List.filterMap_cons_none ho]
        refine .uncounted (fun h => ?_) ih
        rw [← hcounts, ho] at h
        cases h
    | _ =>
      refine .other ?_ ih
      rintro ⟨o, ho⟩
      cases ho

/-- A reading that takes every object leaves none out. -/
theorem gathered_map (make : Object → α) (items : List Json) :
    Gathered AnyObject (fun o => some (make o)) items ((items.filterMap object?).map make) := by
  rw [← List.filterMap_eq_map]
  exact gathered_filterMap (fun _ => iff_of_true rfl trivial) items

end Gathering

/-! ## Where arrays stand -/

/-- The items of the array under a path of names, none if no array stands there. -/
def itemsAt (j : Json) : List String → List Json
  | [] => j.items
  | name :: path =>
    match NameMap.get? (j.object?.getD []) name with
    | some inner => inner.itemsAt path
    | none => []

namespace Object

variable (o : Object) (name : String)

/-- The objects under a name are those of the array there; null is no array. -/
theorem objects_eq : o.objects name = ((Json.object o).itemsAt [name]).filterMap object? := by
  show o.objects name = (match NameMap.get? o name with
    | some inner => inner.items
    | none => []).filterMap object?
  unfold objects field?
  cases NameMap.get? o name with
  | none => rfl
  | some j => cases j <;> rfl

/-- A text under a name is a name. -/
theorem isSome_text?_iff : (o.text? name).isSome = true ↔ Named name o := by
  unfold Named
  simp only [Kind.accepts_text_iff]
  unfold text? field?
  cases NameMap.get? o name with
  | none => simp
  | some j => cases j <;> simp [Option.filter, Json.text?, Json.decimal?]

/-- A list in a section is gathered from the array below the section. -/
theorem gathered_section {α β : Type} {counts : Object → Prop} {make? : Object → Option β}
    {read : Object → α} {list : α → List β} {inner : String}
    (h : ∀ sec : Object,
      Gathered counts make? ((Json.object sec).itemsAt [inner]) (list (read sec))) :
    Gathered counts make? ((Json.object o).itemsAt [name, inner])
      ((o.section? name read).toList.flatMap list) := by
  show Gathered counts make? (match NameMap.get? o name with
    | some j => j.itemsAt [inner]
    | none => []) _
  unfold section? field?
  cases NameMap.get? o name with
  | none => exact .nil
  | some j =>
    cases j with
    | object sec =>
      show Gathered _ _ _ (list (read sec) ++ [])
      rw [List.append_nil]
      exact h sec
    | _ => exact .nil

end Object

end Json

open Json

/-! ## The lists of a scenario -/

namespace Scenario

/-- All tranches of the capital stack. -/
def slices (s : Scenario) : List StackSlice :=
  s.capitalStack.toList.flatMap (·.slices)

/-- All periods of the drawdown schedule. -/
def drawEntries (s : Scenario) : List DrawEntry :=
  s.drawdownSchedule.toList.flatMap (·.entries)

/-- All facilities of the construction loan. -/
def loanFacilities (s : Scenario) : List LoanFacility :=
  s.constructionLoan.toList.flatMap (·.facilities)

/-- The interest of all facilities. -/
def facilityInterest (s : Scenario) : List FacilityInterest :=
  s.constructionLoanInterest.toList.flatMap (·.facilities)

/-- The interest of all periods. -/
def interestEntries (s : Scenario) : List InterestEntry :=
  s.constructionLoanInterest.toList.flatMap (·.entries)

end Scenario

section Lists

variable (o : Object) (name : String)

/-- A list of objects of any kind. -/
theorem gathered_objects {α : Type} (make : Object → α) :
    Gathered AnyObject (fun o => some (make o)) ((Json.object o).itemsAt [name])
      ((o.objects name).map make) := by
  rw [Object.objects_eq]
  exact gathered_map make _

/-- A list of objects that are known by a name. -/
theorem gathered_named {α : Type} {key : String} (make : Object → String → α) :
    Gathered (Named key) (fun o => (o.text? key).map (make o)) ((Json.object o).itemsAt [name])
      ((o.objects name).filterMap fun o => (o.text? key).map (make o)) := by
  rw [Object.objects_eq]
  refine gathered_filterMap (fun o => ?_) _
  rw [Option.isSome_map]
  exact Object.isSome_text?_iff o key

end Lists

/-- **Collections lose only what the format says.** Whatever the reply, its lists of tranches,
draws, cover, facilities, interest and jobs have one element for every object of their array, and
its lists of results, uses and sensitivity parameters have one for every object with a name; the
elements are in the order of the array and each depends on its own object only. So has the list of
scenarios one for every object of the reply, and none if the reply is no array. -/
theorem collections_of_reply (p : Json) :
    let s := Scenario.ofReply p
    (Gathered AnyObject (some <| StackSlice.ofReply ·) (p.itemsAt ["capital_stack", "slices"])
        s.slices ∧
      Gathered AnyObject (some <| DrawEntry.ofReply ·)
        (p.itemsAt ["drawdown_schedule", "entries"]) s.drawEntries ∧
      Gathered AnyObject (some <| CoverEntry.ofReply ·) (p.itemsAt ["dscr_timeline"])
        s.dscrTimeline ∧
      Gathered AnyObject (some <| LoanFacility.ofReply ·)
        (p.itemsAt ["construction_loan", "facilities"]) s.loanFacilities ∧
      Gathered AnyObject (some <| FacilityInterest.ofReply ·)
        (p.itemsAt ["construction_loan_interest", "facilities"]) s.facilityInterest ∧
      Gathered AnyObject (some <| InterestEntry.ofReply ·)
        (p.itemsAt ["construction_loan_interest", "entries"]) s.interestEntries ∧
      Gathered AnyObject (some <| SensitivityJob.ofReply ·) (p.itemsAt ["sensitivity_jobs"])
        s.sensitivityJobs) ∧
    (Gathered (Named "name") Metric.ofReply? (p.itemsAt ["results"]) s.results ∧
      Gathered (Named "asset_type") AssetLine.ofReply? (p.itemsAt ["asset_breakdowns"])
        s.assetBreakdowns ∧
      Gathered (Named "parameter") SensitivityOutcome.ofReply? (p.itemsAt ["sensitivity_results"])
        s.sensitivityResults ∧
      Gathered (Named "parameter") SensitivityBand.ofReply? (p.itemsAt ["sensitivity_bands"])
        s.sensitivityBands) ∧
    Gathered AnyObject (fun o => some (Scenario.ofReply (.object o))) p.items
        (Scenario.listOfReply p) ∧
      (p.isArray = true ∨ Scenario.listOfReply p = []) := by
  obtain ⟨o, ho⟩ : ∃ o, p.object?.getD [] = o := ⟨_, rfl⟩
  -- a reply that is no object has nothing under any path, as the empty object
  have hpath (name : String) (path : List String) :
      p.itemsAt (name :: path) = (Json.object o).itemsAt (name :: path) := by
    rw [itemsAt, ho]
    rfl
  have hscenario : Scenario.ofReply p = .ofObject o := by
    rw [Scenario.ofReply, ho]
  simp only [hpath, hscenario]
  refine ⟨⟨?slices, ?draws, ?cover, ?facilities, ?facilityInterest, ?interest, ?jobs⟩,
    ⟨?results, ?assets, ?outcomes, ?bands⟩, ?scenarios, ?noArray⟩
  case slices => exact o.gathered_section _ fun sec => gathered_objects sec _ _
  case draws => exact o.gathered_section _ fun sec => gathered_objects sec _ _
  case cover => exact gathered_objects o _ _
  case facilities => exact o.gathered_section _ fun sec => gathered_objects sec _ _
  case facilityInterest => exact o.gathered_section _ fun sec => gathered_objects sec _ _
  case interest => exact o.gathered_section _ fun sec => gathered_objects sec _ _
  case jobs => exact gathered_objects o _ _
  case results => exact gathered_named o _ _
  case assets => exact gathered_named o _ _
  case outcomes => exact gathered_named o _ _
  case bands => exact gathered_named o _ _
  case scenarios => exact gathered_map _ _
  case noArray => cases p <;> simp [isArray, Scenario.listOfReply, objects, items]

end Proforma
