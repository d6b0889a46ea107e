import Proforma.Json.Field
import Proforma.Json.Record

/-!
# What is read back of a field

One law for each lenient reading: where a field holds what was written of a value, reading it gives
the value (`text?_of_field?` and so on). For a record it is enough to say what was written last
under the name (`get?_ofList`), which for a given record is a matter of looking.
-/

namespace Proforma

/-! ## Looking up a name -/

namespace NameMap

variable {α : Type}

theorem get?_append (front back : NameMap α) (name : String) :
    get? (front ++ back) name = (get? front name).or (get? back name) := by
  induction front with
  | nil => rfl
  | cons field rest ih =>
    obtain ⟨n, a⟩ := field
    simp only [List.cons_append, get?, ih]
    split <;> rfl

theorem get?_foldl_insert (fields : List (String × α)) (m : NameMap α) (name : String) :
    get? (fields.foldl (fun m v => m.insert v.1 v.2) m) name =
      (get? fields.reverse name).or (get? m name) := by
  induction fields generalizing m with
  | nil => rfl
  | cons field rest ih =>
    obtain ⟨n, a⟩ := field
    rw [List.foldl_cons, ih, get?_insert, List.reverse_cons, get?_append, Option.or_assoc]
    simp only [get?]
    split <;> rfl

/-- What stands under a name is what the list has last for it. -/
theorem get?_ofList (fields : List (String × α)) (name : String) :
    get? (ofList fields) name = get? fields.reverse name := by
  rw [ofList, get?_foldl_insert]
  exact Option.or_none

end NameMap

namespace Json

/-- In the spelling with underscores the names of a record are those given. -/
theorem object?_record (fields : List (String × Json)) :
    (Json.record .snake fields).object? = some (NameMap.ofList fields) := by
  have hsame : fields.map (fun f => (Spelling.snake.key f.1, f.2)) = fields := List.map_id fields
  rw [record, hsame]
  rfl

theorem toInt64?_ofInt64 (n : Int64) : (JsonNumber.ofInt64 n).toInt64? = some n := by
  show (if n.toInt < 2 ^ 63 then some (Int64.ofInt n.toInt) else none) = some n
  rw [if_pos n.toInt_lt, Int64.ofInt_toInt]

/-- Free data: a value that is an object. -/
def IsObject (j : Json) : Prop :=
  ∃ fields, j = .object fields

/-- The objects of an array are what was written, if each is read back. -/
theorem filterMap_objects_array {α : Type} {write : α → Json} {read? : Object → Option α}
    {items : List α} (hread : ∀ a ∈ items, (write a).object?.bind read? = some a) :
    (Json.array (items.map write)).objects.filterMap read? = items := by
  show ((items.map write).filterMap Json.object?).filterMap read? = items
  rw [List.filterMap_filterMap, List.filterMap_map]
  induction items with
  | nil => rfl
  | cons a rest ih =>
    have ha : ((fun j => (Json.object? j).bind read?) ∘ write) a = some a :=
      hread a List.mem_cons_self
    rw [List.filterMap_cons_some ha, ih fun b hb => hread b (List.mem_cons_of_mem a hb)]

namespace Object

/-! ## Reading a field that was written -/

section Readings

variable {o : Object} {name : String} {α : Type}

/-- A part that may be absent: whatever reads back what is written. -/
theorem bind_of_field? {write : α → Json} {read : Json → Option α} {x : Option α}
    (h : o.field? name = x.map write) (hread : ∀ a ∈ x, read (write a) = some a) :
    (o.field? name >>= read) = x := by
  rw [h]
  cases x with
  | none => rfl
  | some a => exact hread a rfl

theorem text?_of_field? {s : Option String} (h : o.field? name = s.map .string) :
    o.text? name = s :=
  bind_of_field? h fun _ _ => rfl

theorem text_of_field? {s : String} (h : o.field? name = some (.string s)) : o.text name = s := by
  rw [text, text?_of_field? (s := some s) h]
  rfl

theorem decimal?_of_field? {s : Option String} (h : o.field? name = s.map .string) :
    o.decimal? name = s :=
  bind_of_field? h fun _ _ => rfl

theorem decimal_of_field? {s : String} (h : o.field? name = some (.string s)) :
    o.decimal name = s := by
  rw [decimal, decimal?_of_field? (s := some s) h]
  rfl

theorem integer?_of_field? {n : Option Int64} (h : o.field? name = n.map ofInt64) :
    o.integer? name = n := by
  refine bind_of_field? h fun i _ => ?_
  show integerOfNumber? (.ofInt64 i) = some i
  rw [integerOfNumber?, toInt64?_ofInt64]

theorem bool?_of_field? {b : Option Bool} (h : o.field? name = b.map .bool) : o.bool? name = b :=
  bind_of_field? h fun _ _ => rfl

theorem flag_of_field? {b : Bool} (h : o.field? name = some (.bool b)) : o.flag name = b := by
  rw [flag, bool?_of_field? (b := some b) h]
  rfl

theorem metadata?_of_field? {m : Option Json} (h : o.field? name = m)
    (hm : ∀ j ∈ m, j.IsObject) : o.metadata? name = m := by
  unfold metadata?
  rw [h]
  cases m with
  | none => rfl
  | some j =>
    obtain ⟨free, rfl⟩ := hm j rfl
    rfl

end Readings

/-! ## Reading a field of a record -/

section Laws

variable {fields : List (String × Json)} {name : String} {α : Type}

theorem field?_ofList {j : Json} (h : NameMap.get? fields.reverse name = some j)
    (hj : j ≠ .null) : Object.field? (NameMap.ofList fields) name = some j := by
  unfold field?
  rw [NameMap.get?_ofList, h, Option.filter_some, if_pos (by simpa using hj)]

theorem field?_ofList_null (h : NameMap.get? fields.reverse name = some .null) :
    Object.field? (NameMap.ofList fields) name = none := by
  unfold field?
  rw [NameMap.get?_ofList, h]
  rfl

/-- A part that is written as null when it is absent. -/
theorem field?_ofList_ofOption {write : α → Json} {x : Option α}
    (h : NameMap.get? fields.reverse name = some (ofOption write x))
    (hnull : ∀ a ∈ x, write a ≠ .null) :
    Object.field? (NameMap.ofList fields) name = x.map write := by
  cases x with
  | none => exact field?_ofList_null h
  | some a => exact field?_ofList h (hnull a rfl)

theorem text?_ofList {s : Option String}
    (h : NameMap.get? fields.reverse name = some (ofOption .string s)) :
    Object.text? (NameMap.ofList fields) name = s :=
  text?_of_field? (field?_ofList_ofOption h nofun)

theorem text?_ofList_string {s : String}
    (h : NameMap.get? fields.reverse name = some (.string s)) :
    Object.text? (NameMap.ofList fields) name = some s :=
  text?_ofList (s := some s) h

theorem text_ofList {s : String} (h : NameMap.get? fields.reverse name = some (.string s)) :
    Object.text (NameMap.ofList fields) name = s :=
  text_of_field? (field?_ofList h nofun)

theorem decimal?_ofList {s : Option String}
    (h : NameMap.get? fields.reverse name = some (ofOption .string s)) :
    Object.decimal? (NameMap.ofList fields) name = s :=
  decimal?_of_field? (field?_ofList_ofOption h nofun)

theorem decimal_ofList {s : String} (h : NameMap.get? fields.reverse name = some (.string s)) :
    Object.decimal (NameMap.ofList fields) name = s :=
  decimal_of_field? (field?_ofList h nofun)

theorem integer?_ofList {n : Option Int64}
    (h : NameMap.get? fields.reverse name = some (ofOption ofInt64 n)) :
    Object.integer? (NameMap.ofList fields) name = n :=
  integer?_of_field? (field?_ofList_ofOption h nofun)

theorem bool?_ofList {b : Option Bool}
    (h : NameMap.get? fields.reverse name = some (ofOption .bool b)) :
    Object.bool? (NameMap.ofList fields) name = b :=
  bool?_of_field? (field?_ofList_ofOption h nofun)

theorem flag_ofList {b : Bool} (h : NameMap.get? fields.reverse name = some (.bool b)) :
    Object.flag (NameMap.ofList fields) name = b :=
  flag_of_field? (field?_ofList h nofun)

theorem texts_ofList {texts : List String}
    (h : NameMap.get? fields.reverse name = some (.array (texts.map .string))) :
    Object.texts (NameMap.ofList fields) name = texts := by
  unfold Object.texts
  rw [field?_ofList h nofun]
  show (texts.map Json.string).filterMap Json.decimal? = texts
  rw [List.filterMap_map]
  exact List.filterMap_some

/-- An object that may be absent. -/
theorem map_section?_ofList {write : α → Json} {read : Object → α} {x : Option α}
    (h : NameMap.get? fields.reverse name = some (ofOption write x))
    (hread : ∀ a ∈ x, (write a).object?.map read = some a) :
    Object.section? (NameMap.ofList fields) name read = x := by
  have hnull (a : α) (ha : a ∈ x) : write a ≠ .null := by
    intro hnull
    have hobject := hread a ha
    rw [hnull] at hobject
    cases hobject
  unfold section?
  rw [field?_ofList_ofOption h hnull]
  cases x with
  | none => rfl
  | some a => exact hread a rfl

/-- A list of objects, read by what may refuse an item. -/
theorem filterMap_objects_ofList {write : α → Json} {read? : Object → Option α} {items : List α}
    (h : NameMap.get? fields.reverse name = some (.array (items.map write)))
    (hread : ∀ a ∈ items, (write a).object?.bind read? = some a) :
    (Object.objects (NameMap.ofList fields) name).filterMap read? = items := by
  unfold Object.objects
  rw [field?_ofList h nofun]
  exact filterMap_objects_array hread

/-- A list of objects. -/
theorem map_objects_ofList {write : α → Json} {read : Object → α} {items : List α}
    (h : NameMap.get? fields.reverse name = some (.array (items.map write)))
    (hread : ∀ a ∈ items, (write a).object?.map read = some a) :
    (Object.objects (NameMap.ofList fields) name).map read = items := by
  rw [← List.filterMap_eq_map]
  refine filterMap_objects_ofList h fun a ha => ?_
  rw [← Option.map_eq_bind]
  exact hread a ha

theorem metadata_ofList {j : Json} (h : NameMap.get? fields.reverse name = some j)
    (hj : j.IsObject) : Object.metadata (NameMap.ofList fields) name = j := by
  obtain ⟨free, rfl⟩ := hj
  unfold metadata
  rw [field?_ofList h nofun]

theorem metadata?_ofList {m : Option Json}
    (h : NameMap.get? fields.reverse name = some (m.getD .null)) (hm : ∀ j ∈ m, j.IsObject) :
    Object.metadata? (NameMap.ofList fields) name = m := by
  refine metadata?_of_field? ?_ hm
  cases m with
  | none => exact field?_ofList_null h
  | some j =>
    obtain ⟨free, rfl⟩ := hm j rfl
    exact field?_ofList h nofun

end Laws

/-! ## What is read -/

theorem ne_null_of_field? {o : Object} {name : String} {j : Json} (h : o.field? name = some j) :
    j ≠ .null := by
  simpa using (Option.filter_eq_some_iff.mp h).2

theorem isObject_metadata (o : Object) (name : String) : (o.metadata name).IsObject := by
  unfold metadata
  split
  · exact ⟨_, rfl⟩
  · exact ⟨_, rfl⟩

theorem isObject_of_metadata? {o : Object} {name : String} {j : Json}
    (h : o.metadata? name = some j) : j.IsObject := by
  unfold metadata? at h
  split at h
  · cases h
    exact ⟨_, rfl⟩
  · cases h

end Object

end Json

end Proforma
