import Mathlib.Data.List.Forall2
import Proforma.Json.Basic

/-!
# Shapes of objects

A shape says which members an object has and what they hold: some are required, others are there
only if their source is, and no other is there (`HasMembers`). A list has one item for each item of
its source (`Lists`). Shapes are about the object, not about the way it was made; as long as no
name comes twice, an object has the fields that it was made of (`NameMap.ofList_perm`). What holds
of the members of a shape holds of its objects, such as that nothing is null but free data
(`HasMembers.nullFree`).
-/

namespace Proforma

/-! ## The fields of an object -/

namespace NameMap

variable {α : Type} {m : NameMap α} {name : String}

/-- A value under a new name joins the others. -/
theorem insert_perm (h : name ∉ m.map (·.1)) (value : α) :
    (m.insert name value).Perm ((name, value) :: m) := by
  induction m with
  | nil => exact .refl _
  | cons field rest ih =>
    obtain ⟨n, a⟩ := field
    rw [List.map_cons, List.mem_cons, not_or] at h
    obtain ⟨hn, hrest⟩ := h
    simp only [insert]
    rw [if_neg (Ne.symm hn)]
    by_cases hlt : name < n
    · rw [if_pos hlt]
    · rw [if_neg hlt]
      exact ((ih hrest).cons (n, a)).trans (.swap _ _ _)

theorem foldl_insert_perm {values : List (String × α)}
    (h : ((m ++ values).map (·.1)).Nodup) :
    (values.foldl (fun m v => m.insert v.1 v.2) m).Perm (m ++ values) := by
  induction values generalizing m with
  | nil => rw [List.append_nil, List.foldl_nil]
  | cons value rest ih =>
    obtain ⟨name, a⟩ := value
    have hmiddle : (m ++ (name, a) :: rest).Perm ((name, a) :: (m ++ rest)) := List.perm_middle
    have hnodup := (hmiddle.map (·.1)).nodup_iff.mp h
    obtain ⟨hfresh, -⟩ := List.nodup_cons.mp hnodup
    have hinsert : (m.insert name a ++ rest).Perm ((name, a) :: (m ++ rest)) := by
      refine (insert_perm (fun hm => hfresh ?_) a).append_right rest
      rw [List.map_append]
      exact List.mem_append_left _ hm
    rw [List.foldl_cons]
    exact ((ih ((hinsert.map (·.1)).nodup_iff.mpr hnodup)).trans hinsert).trans hmiddle.symm

/-- **No value is lost** if no name comes twice. -/
theorem ofList_perm {values : List (String × α)} (h : (values.map (·.1)).Nodup) :
    (ofList values).Perm values :=
  foldl_insert_perm (m := []) h

end NameMap

/-- What stands on the right of a relation between lists has its partner on the left. -/
theorem exists_left_of_forall₂ {α β : Type} {rel : α → β → Prop} {left : List α} {right : List β}
    (h : List.Forall₂ rel left right) {b : β} (hb : b ∈ right) : ∃ a ∈ left, rel a b := by
  induction h with
  | nil => cases hb
  | cons hhead _ ih =>
    rcases List.mem_cons.mp hb with rfl | htail
    · exact ⟨_, List.mem_cons_self, hhead⟩
    · obtain ⟨a, ha, hrel⟩ := ih htail
      exact ⟨a, List.mem_cons_of_mem _ ha, hrel⟩

namespace Json

/-! ## Shapes -/

/-- The value as it is written. -/
def Is {α : Type} (write : α → Json) (a : α) (j : Json) : Prop :=
  j = write a

/-- A list with one item for each item of its source, in the same order. -/
def Lists {α : Type} (form : α → Json → Prop) (items : List α) (j : Json) : Prop :=
  ∃ written, j = .array written ∧ List.Forall₂ form items written

/-- What a shape says about one name: when it is there, and what it holds then. -/
structure Member where
  name : String
  present : Prop
  form : Json → Prop

/-- A member that is always there. -/
def required (name : String) (form : Json → Prop) : Member :=
  ⟨name, True, form⟩

/-- A member that is there exactly if its source is. -/
def given {α : Type} (name : String) (source : Option α) (form : α → Json → Prop) : Member :=
  ⟨name, source.isSome, fun j => ∃ a ∈ source, form a j⟩

/-- A list that is there exactly if it has an item. -/
def listed {α : Type} (name : String) (items : List α) (form : α → Json → Prop) : Member :=
  ⟨name, items ≠ [], Lists form items⟩

section Names

variable {α : Type} {name : String}

@[simp] theorem required_name {form : Json → Prop} : (required name form).name = name :=
  rfl

@[simp] theorem given_name {source : Option α} {form : α → Json → Prop} :
    (given name source form).name = name :=
  rfl

@[simp] theorem listed_name {items : List α} {form : α → Json → Prop} :
    (listed name items form).name = name :=
  rfl

end Names

/-- Fields of distinct names, which are exactly the members that are present. -/
structure Object.HasMembers (members : List Member) (fields : Object) : Prop where
  distinct : (fields.map (·.1)).Nodup
  present_iff : ∀ name, name ∈ fields.map (·.1) ↔ ∃ m ∈ members, m.name = name ∧ m.present
  forms : ∀ m ∈ members, ∀ value, (m.name, value) ∈ fields → m.form value

/-- An object with exactly the members that are present. -/
def HasMembers (members : List Member) (j : Json) : Prop :=
  ∃ fields, j = .object fields ∧ Object.HasMembers members fields

/-! ## Nulls -/

/-- Nothing is null, but for free data. -/
inductive NullFree : Json → Prop where
  | bool (b : Bool) : NullFree (.bool b)
  | number (n : JsonNumber) : NullFree (.number n)
  | string (s : String) : NullFree (.string s)
  | array {items : List Json} (h : ∀ item ∈ items, NullFree item) : NullFree (.array items)
  | object {fields : List (String × Json)}
      (h : ∀ name value, (name, value) ∈ fields → name ≠ "metadata" → NullFree value) :
      NullFree (.object fields)

/-- A form with nothing null in it. -/
def NullFreeForm {α : Type} (form : α → Json → Prop) : Prop :=
  ∀ a value, form a value → value.NullFree

/-- A member with nothing null in it, unless it is free data. -/
def Member.NullFree (m : Member) : Prop :=
  m.name ≠ "metadata" → ∀ value, m.form value → value.NullFree

section Forms

variable {α : Type} {form : α → Json → Prop} {name : String}

theorem nullFreeForm_is {write : α → Json} (h : ∀ a, (write a).NullFree) :
    NullFreeForm (Is write) := by
  rintro a value rfl
  exact h a

@[simp] theorem nullFreeForm_text : NullFreeForm (Is string) :=
  nullFreeForm_is .string

@[simp] theorem nullFreeForm_flag : NullFreeForm (Is bool) :=
  nullFreeForm_is .bool

@[simp] theorem nullFreeForm_number : NullFreeForm (Is number) :=
  nullFreeForm_is .number

@[simp] theorem nullFreeForm_integer : NullFreeForm (Is ofInt64) :=
  nullFreeForm_is fun n => .number (.ofInt64 n)

@[simp] theorem nullFreeForm_lists (h : NullFreeForm form) : NullFreeForm (Lists form) := by
  rintro items value ⟨written, rfl, hwritten⟩
  refine .array fun item hitem => ?_
  obtain ⟨a, -, ha⟩ := exists_left_of_forall₂ hwritten hitem
  exact h a item ha

@[simp] theorem nullFree_required (h : NullFreeForm form) (a : α) :
    (required name (form a)).NullFree :=
  fun _ => h a

@[simp] theorem nullFree_given (h : NullFreeForm form) (source : Option α) :
    (given name source form).NullFree := by
  rintro - value ⟨a, -, hvalue⟩
  exact h a value hvalue

@[simp] theorem nullFree_listed (h : NullFreeForm form) (items : List α) :
    (listed name items form).NullFree :=
  fun _ => nullFreeForm_lists h items

@[simp] theorem nullFree_metadata (source : Option α) :
    (given "metadata" source form).NullFree :=
  fun hname => absurd rfl hname

end Forms

/-- **An object has nothing null** if its members have not. -/
theorem HasMembers.nullFree {members : List Member} {j : Json} (h : HasMembers members j)
    (hmembers : ∀ m ∈ members, m.NullFree) : j.NullFree := by
  obtain ⟨fields, rfl, hfields⟩ := h
  refine .object fun name value hfield hname => ?_
  obtain ⟨m, hm, rfl, -⟩ := (hfields.present_iff name).mp (List.mem_map_of_mem hfield)
  exact hmembers m hm hname value (hfields.forms m hm value hfield)

end Json

end Proforma
