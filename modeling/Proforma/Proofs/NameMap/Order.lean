import Mathlib.Data.List.Sort
import Mathlib.Data.String.Basic
import Proforma.NameMap

/-!
# Maps in the order of their names

Putting values keeps the names in increasing order (`Sorted.insert`). In such a map a name comes
once, so what the map holds under it is all that stands beside it (`Sorted.mem_iff`), and the map
is known by what it holds (`Sorted.ext`).
-/

namespace Proforma.NameMap

variable {α : Type} {m other : NameMap α}

/-- The names are in increasing order, and none comes twice. -/
def Sorted (m : NameMap α) : Prop :=
  m.Pairwise (·.1 < ·.1)

theorem sorted_nil : Sorted ([] : NameMap α) :=
  List.Pairwise.nil

theorem mem_of_mem_insert {name : String} {value : α} {field : String × α}
    (h : field ∈ m.insert name value) : field = (name, value) ∨ field ∈ m := by
  induction m with
  | nil => exact .inl (List.mem_singleton.mp h)
  | cons first rest ih =>
    obtain ⟨n, a⟩ := first
    simp only [insert] at h
    split at h
    · exact (List.mem_cons.mp h).imp_right (List.mem_cons_of_mem _)
    · split at h
      · exact List.mem_cons.mp h
      · rcases List.mem_cons.mp h with rfl | hrest
        · exact .inr List.mem_cons_self
        · exact (ih hrest).imp_right (List.mem_cons_of_mem _)

/-- **Putting a value keeps the order.** -/
theorem Sorted.insert (h : m.Sorted) (name : String) (value : α) :
    (m.insert name value).Sorted := by
  induction m with
  | nil => exact List.pairwise_singleton _ _
  | cons first rest ih =>
    obtain ⟨n, a⟩ := first
    obtain ⟨hfirst, hrest⟩ := List.pairwise_cons.mp h
    simp only [NameMap.insert]
    split
    · next hsame =>
      subst hsame
      exact List.pairwise_cons.mpr ⟨hfirst, hrest⟩
    · next hne =>
      split
      · next hless =>
        refine List.pairwise_cons.mpr ⟨fun field hfield => ?_, h⟩
        rcases List.mem_cons.mp hfield with rfl | hlater
        · exact hless
        · exact lt_trans hless (hfirst field hlater)
      · next hnot =>
        refine List.pairwise_cons.mpr ⟨fun field hfield => ?_, ih hrest⟩
        rcases mem_of_mem_insert hfield with rfl | hlater
        · exact lt_of_le_of_ne (not_lt.mp hnot) hne
        · exact hfirst field hlater

/-- Under a name there is what stands beside it. -/
theorem Sorted.mem_iff (h : m.Sorted) {name : String} {value : α} :
    (name, value) ∈ m ↔ m.get? name = some value := by
  induction m with
  | nil => simp [get?]
  | cons first rest ih =>
    obtain ⟨n, a⟩ := first
    obtain ⟨hfirst, hrest⟩ := List.pairwise_cons.mp h
    rw [List.mem_cons, ih hrest, get?, Prod.mk.injEq]
    by_cases hname : n = name
    · subst hname
      -- no later field has the name
      have hnone : get? rest n ≠ some value := fun hlater =>
        lt_irrefl n (hfirst _ ((ih hrest).mpr hlater))
      rw [if_pos rfl, Option.some.injEq, or_iff_left hnone, and_iff_right rfl, eq_comm]
    · simp [hname, Ne.symm hname]

/-- **A map is known by what it holds.** -/
theorem Sorted.ext (h : m.Sorted) (hother : other.Sorted)
    (hsame : ∀ name, m.get? name = other.get? name) : m = other := by
  have hirrefl : Std.Irrefl fun first later : String × α => first.1 < later.1 :=
    ⟨fun field => lt_irrefl field.1⟩
  have hantisymm : Std.Antisymm fun first later : String × α => first.1 < later.1 :=
    ⟨fun _ _ hless hmore => absurd hmore (lt_asymm hless)⟩
  refine List.Pairwise.eq_of_mem_iff h hother fun field => ?_
  rw [← Prod.mk.eta (p := field), h.mem_iff, hother.mem_iff, hsame]

end Proforma.NameMap
