import Proforma.Proofs.Json.Fields
import Proforma.Proofs.Scenario.Integers

/-!
# Kinds of fields

What a reader can use of a value is known beforehand: a field is read as a text, a decimal, a record
with fields of kinds of its own, and so on. A value that is not accepted as of the kind is as good
as missing. `fit?` keeps of a value what a kind uses, at every depth, and each lenient reading gives
the same on what is kept (`text?_fit` and so on). So it cannot tell values apart of which the same
is kept, such as one with an unusable field and the same without the field (`fit?_eq_of_prunes`), or
one with nulls and the same without them (`fit?_withoutNulls`).
-/

namespace Proforma

/-! ## Taking names away -/

namespace NameMap

variable {α : Type}

theorem erase_eq_filter (m : NameMap α) (name : String) : m.erase name = m.filter (·.1 ≠ name) := by
  induction m with
  | nil => rfl
  | cons field rest ih =>
    obtain ⟨n, a⟩ := field
    by_cases hn : n = name
    · simp [erase, hn, ih]
    · simp [erase, hn, ih]

theorem erase_comm (m : NameMap α) (name other : String) :
    (m.erase name).erase other = (m.erase other).erase name := by
  simp only [erase_eq_filter, List.filter_filter, Bool.and_comm]

theorem erase_erase (m : NameMap α) (name : String) :
    (m.erase name).erase name = m.erase name := by
  simp only [erase_eq_filter, List.filter_filter, Bool.and_self]

end NameMap

namespace Json

/-- Whether a value is an array. -/
def isArray : Json → Bool
  | .array _ => true
  | _ => false

/-- What a field is read as. -/
inductive Kind where
  /-- Not at all. -/
  | unread
  /-- Whatever it is, null too. -/
  | free
  /-- The identifier of a project. -/
  | identifier
  | text
  | decimal
  | integer
  | flag
  /-- Free data. -/
  | metadata
  /-- An object with fields of the given kinds. -/
  | record (fields : List (String × Kind))
  /-- An array with items of the given kind. -/
  | list (item : Kind)

namespace Kind

/-- The kind of a field of an object that is of this kind. -/
def field : Kind → String → Kind
  | .record fields, name => (NameMap.get? fields name).getD .unread
  | .free, _ | .identifier, _ | .metadata, _ => .free
  | _, _ => .unread

/-- The kind of the items of an array that is of this kind. -/
def item : Kind → Kind
  | .list item => item
  | .free | .identifier => .free
  | _ => .unread

/-! ## Accepted values -/

/-- The values that can be used as of a kind. A number or text is of use as an integer if it denotes
one of 64 bits, and a number also if it denotes one beyond. -/
inductive Accepts : Kind → Json → Prop where
  | free {j : Json} : Accepts .free j
  | identifier {j : Json} : j ≠ .null → Accepts .identifier j
  | textOfString {s : String} : Accepts .text (.string s)
  | textOfNumber {n : JsonNumber} : Accepts .text (.number n)
  | textOfBool {b : Bool} : Accepts .text (.bool b)
  | decimalOfString {s : String} : Accepts .decimal (.string s)
  | decimalOfNumber {n : JsonNumber} : Accepts .decimal (.number n)
  | integer {j : Json} {n : Int64} : j.Denotes n.toInt ∨ j.Beyond n → Accepts .integer j
  | flag {b : Bool} : Accepts .flag (.bool b)
  | metadata {o : Object} : Accepts .metadata (.object o)
  | record {fields : List (String × Kind)} {o : Object} : Accepts (.record fields) (.object o)
  | list {item : Kind} {items : List Json} : Accepts (.list item) (.array items)

theorem accepts_text_iff (j : Json) : Accepts .text j ↔ j.text?.isSome = true := by
  constructor
  · rintro (_ | _) <;> rfl
  · intro h
    cases j with
    | bool => exact .textOfBool
    | number => exact .textOfNumber
    | string => exact .textOfString
    | _ => cases h

theorem accepts_decimal_iff (j : Json) : Accepts .decimal j ↔ j.decimal?.isSome = true := by
  constructor
  · rintro (_ | _) <;> rfl
  · intro h
    cases j with
    | number => exact .decimalOfNumber
    | string => exact .decimalOfString
    | _ => cases h

theorem accepts_integer_iff (j : Json) : Accepts .integer j ↔ j.integer?.isSome = true := by
  rw [Option.isSome_iff_exists]
  simp only [Json.integer?_eq_some_iff]
  constructor
  · intro h
    cases h with
    | integer h => exact ⟨_, h⟩
  · rintro ⟨n, h⟩
    exact .integer h

theorem accepts_flag_iff (j : Json) : Accepts .flag j ↔ j.bool?.isSome = true := by
  constructor
  · rintro ⟨⟩
    rfl
  · intro h
    cases j with
    | bool => exact .flag
    | _ => cases h

theorem accepts_metadata_iff (j : Json) : Accepts .metadata j ↔ j.object?.isSome = true := by
  constructor
  · rintro ⟨⟩
    rfl
  · intro h
    cases j with
    | object => exact .metadata
    | _ => cases h

theorem accepts_record_iff (fields : List (String × Kind)) (j : Json) :
    Accepts (.record fields) j ↔ j.object?.isSome = true := by
  constructor
  · rintro ⟨⟩
    rfl
  · intro h
    cases j with
    | object => exact .record
    | _ => cases h

theorem accepts_list_iff (item : Kind) (j : Json) :
    Accepts (.list item) j ↔ j.isArray = true := by
  constructor
  · rintro ⟨⟩
    rfl
  · intro h
    cases j with
    | array => exact .list
    | _ => cases h

instance : (kind : Kind) → (j : Json) → Decidable (kind.Accepts j)
  | .unread, _ => isFalse nofun
  | .free, _ => isTrue .free
  | .identifier, j =>
    decidable_of_iff (j ≠ .null) ⟨.identifier, fun | .identifier h => h⟩
  | .text, j => decidable_of_iff _ (accepts_text_iff j).symm
  | .decimal, j => decidable_of_iff _ (accepts_decimal_iff j).symm
  | .integer, j => decidable_of_iff _ (accepts_integer_iff j).symm
  | .flag, j => decidable_of_iff _ (accepts_flag_iff j).symm
  | .metadata, j => decidable_of_iff _ (accepts_metadata_iff j).symm
  | .record fields, j => decidable_of_iff _ (accepts_record_iff fields j).symm
  | .list item, j => decidable_of_iff _ (accepts_list_iff item j).symm

/-- Null is of use only where any value is. -/
theorem accepts_null_iff (kind : Kind) : kind.Accepts .null ↔ kind = .free := by
  constructor
  · intro h
    cases h with
    | free => rfl
    | identifier hnull => exact absurd rfl hnull
    | integer h => cases (accepts_integer_iff .null).mp (.integer h)
  · rintro rfl
    exact .free

/-- One object is as good as another. -/
theorem Accepts.object {kind : Kind} {o : Object} (h : kind.Accepts (.object o)) (o' : Object) :
    kind.Accepts (.object o') := by
  cases h with
  | free => exact .free
  | identifier => exact .identifier nofun
  | integer h => cases (accepts_integer_iff (.object o)).mp (.integer h)
  | metadata => exact .metadata
  | record => exact .record

/-- One array is as good as another. -/
theorem Accepts.array {kind : Kind} {items : List Json} (h : kind.Accepts (.array items))
    (items' : List Json) : kind.Accepts (.array items') := by
  cases h with
  | free => exact .free
  | identifier => exact .identifier nofun
  | integer h => cases (accepts_integer_iff (.array items)).mp (.integer h)
  | list => exact .list

/-! ## What is kept of a value -/

mutual

/-- What is of use of a value, if anything is. -/
def fit? (kind : Kind) : Json → Option Json
  | .object o => if kind.Accepts (.object o) then some (.object (kind.fitFields o)) else none
  | .array items =>
    if kind.Accepts (.array items) then some (.array (kind.fitItems items)) else none
  | .null => if kind.Accepts .null then some .null else none
  | .bool b => if kind.Accepts (.bool b) then some (.bool b) else none
  | .number n => if kind.Accepts (.number n) then some (.number n) else none
  | .string s => if kind.Accepts (.string s) then some (.string s) else none

/-- The fields of use. If a name stands twice the first counts, so without it none is left. -/
def fitFields (kind : Kind) : List (String × Json) → List (String × Json)
  | [] => []
  | (name, j) :: rest =>
    match (kind.field name).fit? j with
    | some kept => (name, kept) :: kind.fitFields rest
    | none => NameMap.erase (kind.fitFields rest) name

/-- The items of use. -/
def fitItems (kind : Kind) : List Json → List Json
  | [] => []
  | j :: rest =>
    match kind.item.fit? j with
    | some kept => kept :: kind.fitItems rest
    | none => kind.fitItems rest

end

section Keeping

variable {kind : Kind} {j : Json}

theorem fit?_of_not_accepts (h : ¬kind.Accepts j) : kind.fit? j = none := by
  cases j <;> exact if_neg h

theorem fit?_object {o : Object} (h : kind.Accepts (.object o)) :
    kind.fit? (.object o) = some (.object (kind.fitFields o)) :=
  if_pos h

theorem fit?_array {items : List Json} (h : kind.Accepts (.array items)) :
    kind.fit? (.array items) = some (.array (kind.fitItems items)) :=
  if_pos h

theorem fitItems_eq_filterMap (kind : Kind) (items : List Json) :
    kind.fitItems items = items.filterMap kind.item.fit? := by
  induction items with
  | nil => rfl
  | cons j rest ih =>
    rw [fitItems, ih, List.filterMap_cons]
    cases kind.item.fit? j <;> rfl

/-- The same is kept of objects if the same fields are. -/
theorem fit?_object_congr {o o' : Object} (h : kind.fitFields o = kind.fitFields o') :
    kind.fit? (.object o) = kind.fit? (.object o') := by
  by_cases ho : kind.Accepts (.object o)
  · rw [fit?_object ho, fit?_object (ho.object o'), h]
  · rw [fit?_of_not_accepts ho, fit?_of_not_accepts fun ho' => ho (ho'.object o)]

/-- The same is kept of arrays if the same items are. -/
theorem fit?_array_congr {items items' : List Json}
    (h : kind.fitItems items = kind.fitItems items') :
    kind.fit? (.array items) = kind.fit? (.array items') := by
  by_cases hitems : kind.Accepts (.array items)
  · rw [fit?_array hitems, fit?_array (hitems.array items'), h]
  · rw [fit?_of_not_accepts hitems, fit?_of_not_accepts fun h' => hitems (h'.array items)]

/-- What is kept of a value is null only if the value is. -/
theorem eq_null_iff_of_fit? {kept : Json} (h : kind.fit? j = some kept) :
    kept = .null ↔ j = .null := by
  have haccepts : kind.Accepts j := by
    by_contra hnot
    rw [fit?_of_not_accepts hnot] at h
    cases h
  cases j with
  | object o =>
    rw [fit?_object haccepts] at h
    cases h
    exact ⟨nofun, nofun⟩
  | array items =>
    rw [fit?_array haccepts] at h
    cases h
    exact ⟨nofun, nofun⟩
  | _ =>
    have hsame := (if_pos haccepts).symm.trans h
    cases hsame
    exact Iff.rfl

/-- What stands under a name is what is of use of the value there. -/
theorem get?_fitFields (kind : Kind) (o : Object) (name : String) :
    NameMap.get? (kind.fitFields o) name = (NameMap.get? o name).bind (kind.field name).fit? := by
  induction o with
  | nil => rfl
  | cons f rest ih =>
    obtain ⟨n, j⟩ := f
    by_cases hn : n = name
    · -- this value counts, and if it is of no use no later one of the name takes its place
      subst hn
      rw [NameMap.get?, if_pos rfl, Option.bind_some, fitFields]
      cases (kind.field n).fit? j with
      | none => exact (NameMap.get?_erase _ n n).trans (if_pos rfl)
      | some kept => exact if_pos rfl
    · rw [NameMap.get?, if_neg hn, ← ih, fitFields]
      cases (kind.field n).fit? j with
      | none => exact (NameMap.get?_erase _ n name).trans (if_neg hn)
      | some kept => exact if_neg hn

/-- A field that is there and not null. -/
theorem field?_fitFields (kind : Kind) (o : Object) (name : String) :
    Object.field? (kind.fitFields o) name = (o.field? name).bind (kind.field name).fit? := by
  unfold Object.field?
  rw [get?_fitFields]
  cases NameMap.get? o name with
  | none => rfl
  | some j =>
    rw [Option.bind_some, Option.filter_some]
    cases hkept : (kind.field name).fit? j with
    | none =>
      split
      · exact hkept.symm
      · rfl
    | some kept =>
      -- a field counts as missing after keeping just if it did before
      have hnull : decide (kept ≠ .null) = decide (j ≠ .null) :=
        decide_eq_decide.mpr (not_congr (eq_null_iff_of_fit? hkept))
      rw [Option.filter_some, hnull]
      split
      · exact hkept.symm
      · rfl

/-- Whether a value of the kind is kept as it stands. -/
def isWhole : Kind → Bool
  | .record _ | .list _ => false
  | _ => true

mutual

theorem fit?_free : ∀ j : Json, Kind.free.fit? j = some j
  | .object o => by rw [fit?_object .free, fitFields_of_free (fun _ => rfl) o]
  | .array items => by rw [fit?_array .free, fitItems_of_free rfl items]
  | .null | .bool _ | .number _ | .string _ => by rw [fit?, if_pos .free]

theorem fitFields_of_free {kind : Kind} (h : ∀ name, kind.field name = .free) :
    ∀ o : List (String × Json), kind.fitFields o = o
  | [] => rfl
  | (name, j) :: rest => by rw [fitFields, h name, fit?_free j, fitFields_of_free h rest]

theorem fitItems_of_free {kind : Kind} (h : kind.item = .free) :
    ∀ items : List Json, kind.fitItems items = items
  | [] => rfl
  | j :: rest => by rw [fitItems, h, fit?_free j, fitItems_of_free h rest]

end

theorem fit?_of_isWhole (hwhole : kind.isWhole = true) (h : kind.Accepts j) :
    kind.fit? j = some j := by
  cases j with
  | object o =>
    rw [fit?_object h]
    cases h with
    | free => rw [fitFields_of_free fun _ => rfl]
    | identifier => rw [fitFields_of_free fun _ => rfl]
    | metadata => rw [fitFields_of_free fun _ => rfl]
    | integer h => cases (accepts_integer_iff (.object o)).mp (.integer h)
    | record => cases hwhole
  | array items =>
    rw [fit?_array h]
    cases h with
    | free => rw [fitItems_of_free rfl]
    | identifier => rw [fitItems_of_free rfl]
    | integer h => cases (accepts_integer_iff (.array items)).mp (.integer h)
    | list => cases hwhole
  | _ => exact if_pos h

end Keeping

/-! ## Readings of what is kept -/

section Readings

variable {kind : Kind} {o : Object} {name : String} {α : Type}

/-- A reading that takes nothing but what the kind accepts gives the same on what is kept. -/
theorem bind_fit?_of_isWhole {read : Json → Option α} (hwhole : kind.isWhole = true)
    (hread : ∀ j, kind.Accepts j ↔ (read j).isSome = true) (j : Json) :
    (kind.fit? j).bind read = read j := by
  by_cases h : kind.Accepts j
  · rw [fit?_of_isWhole hwhole h, Option.bind_some]
  · have hnone : read j = none := Option.not_isSome_iff_eq_none.mp (mt (hread j).mpr h)
    rw [fit?_of_not_accepts h, hnone, Option.bind_none]

/-- A field is read as before if its value is. -/
theorem bind_field?_fit {read : Json → Option α}
    (hread : ∀ j, ((kind.field name).fit? j).bind read = read j) :
    (Object.field? (kind.fitFields o) name >>= read) = (o.field? name >>= read) := by
  rw [field?_fitFields, Option.bind_eq_bind, Option.bind_assoc]
  exact Option.bind_congr fun j _ => hread j

theorem text?_fit (h : kind.field name = .text) :
    Object.text? (kind.fitFields o) name = o.text? name :=
  bind_field?_fit (h ▸ bind_fit?_of_isWhole rfl accepts_text_iff)

theorem text_fit (h : kind.field name = .text) :
    Object.text (kind.fitFields o) name = o.text name :=
  congrArg (Option.getD · "") (text?_fit h)

theorem decimal?_fit (h : kind.field name = .decimal) :
    Object.decimal? (kind.fitFields o) name = o.decimal? name :=
  bind_field?_fit (h ▸ bind_fit?_of_isWhole rfl accepts_decimal_iff)

theorem decimal_fit (h : kind.field name = .decimal) :
    Object.decimal (kind.fitFields o) name = o.decimal name :=
  congrArg (Option.getD · "0") (decimal?_fit h)

theorem integer?_fit (h : kind.field name = .integer) :
    Object.integer? (kind.fitFields o) name = o.integer? name :=
  bind_field?_fit (h ▸ bind_fit?_of_isWhole rfl accepts_integer_iff)

theorem bool?_fit (h : kind.field name = .flag) :
    Object.bool? (kind.fitFields o) name = o.bool? name :=
  bind_field?_fit (h ▸ bind_fit?_of_isWhole rfl accepts_flag_iff)

theorem flag_fit (h : kind.field name = .flag) :
    Object.flag (kind.fitFields o) name = o.flag name :=
  congrArg (Option.getD · false) (bool?_fit h)

/-- An identifier is whatever stands there. -/
theorem field?_fit (h : kind.field name = .identifier) :
    Object.field? (kind.fitFields o) name = o.field? name := by
  rw [field?_fitFields, h]
  cases hj : o.field? name with
  | none => rfl
  | some j => exact fit?_of_isWhole rfl (.identifier (Object.ne_null_of_field? hj))

theorem metadata?_fit (h : kind.field name = .metadata) :
    Object.metadata? (kind.fitFields o) name = o.metadata? name := by
  have hread (o : Object) : o.metadata? name =
      (o.field? name >>= fun j => j.object?.map Json.object) := by
    unfold Object.metadata?
    rcases o.field? name with _ | (_ | _ | _ | _ | _ | _) <;> rfl
  rw [hread, hread]
  refine bind_field?_fit (h ▸ bind_fit?_of_isWhole rfl fun j => ?_)
  rw [Option.isSome_map, accepts_metadata_iff]

theorem metadata_fit (h : kind.field name = .metadata) :
    Object.metadata (kind.fitFields o) name = o.metadata name := by
  have hread (o : Object) : o.metadata name = (o.metadata? name).getD (.object []) := by
    unfold Object.metadata Object.metadata?
    rcases o.field? name with _ | (_ | _ | _ | _ | _ | _) <;> rfl
  rw [hread, hread, metadata?_fit h]

/-- Of a record the fields of use are kept. -/
theorem bind_object?_fit (fields : List (String × Kind)) (j : Json) :
    ((Kind.record fields).fit? j).bind Json.object? =
      j.object?.map (Kind.record fields).fitFields := by
  by_cases h : (Kind.record fields).Accepts j
  · cases h with
    | record => rw [fit?_object .record, Option.bind_some, object?, object?, Option.map_some]
  · have hnone := Option.not_isSome_iff_eq_none.mp (mt (accepts_record_iff fields j).mpr h)
    rw [fit?_of_not_accepts h, hnone, Option.bind_none, Option.map_none]

theorem map_section?_fit {fields : List (String × Kind)} {read : Object → α}
    (h : kind.field name = .record fields)
    (hread : ∀ o, read ((Kind.record fields).fitFields o) = read o) :
    Object.section? (kind.fitFields o) name read = o.section? name read := by
  unfold Object.section?
  rw [field?_fitFields, h, Option.bind_eq_bind, Option.bind_assoc]
  simp only [bind_object?_fit]
  cases o.field? name with
  | none => rfl
  | some j =>
    rw [Option.bind_some, Option.map_map]
    exact congrArg (Option.map · _) (funext hread)

theorem items_of_not_accepts {item : Kind} {j : Json} (h : ¬(Kind.list item).Accepts j) :
    j.items = [] := by
  cases j with
  | array => exact absurd .list h
  | _ => rfl

/-- What is read of the items of a list, if they are read by what each kept one gives. -/
theorem filterMap_items_fit {item : Kind} {read reread : Json → Option α}
    (h : kind.field name = .list item) (hread : ∀ j, (item.fit? j).bind read = reread j) :
    (Object.field? (kind.fitFields o) name).elim [] (·.items.filterMap read) =
      (o.field? name).elim [] (·.items.filterMap reread) := by
  rw [field?_fitFields, h]
  cases o.field? name with
  | none => rfl
  | some j =>
    rw [Option.bind_some, Option.elim_some]
    by_cases hlist : (Kind.list item).Accepts j
    · cases hlist with
      | list =>
        rw [fit?_array .list, fitItems_eq_filterMap]
        show (List.filterMap item.fit? _).filterMap read = List.filterMap reread _
        rw [List.filterMap_filterMap]
        exact List.filterMap_congr fun j _ => hread j
    · rw [fit?_of_not_accepts hlist, items_of_not_accepts hlist]
      rfl

theorem texts_fit (h : kind.field name = .list .decimal) :
    Object.texts (kind.fitFields o) name = o.texts name := by
  have hread (o : Object) :
      o.texts name = (o.field? name).elim [] (·.items.filterMap Json.decimal?) := by
    unfold Object.texts
    cases o.field? name <;> rfl
  rw [hread, hread]
  exact filterMap_items_fit h (bind_fit?_of_isWhole rfl accepts_decimal_iff)

/-- Of a list of records each keeps its fields of use. -/
theorem objects_fit {fields : List (String × Kind)} (h : kind.field name = .list (.record fields)) :
    Object.objects (kind.fitFields o) name =
      (o.objects name).map (Kind.record fields).fitFields := by
  have hread (o : Object) :
      o.objects name = (o.field? name).elim [] (·.items.filterMap Json.object?) := by
    unfold Object.objects
    cases o.field? name <;> rfl
  rw [hread, hread, filterMap_items_fit h (bind_object?_fit fields)]
  cases o.field? name with
  | none => rfl
  | some j => exact List.map_filterMap.symm

theorem filterMap_objects_fit {fields : List (String × Kind)} {read? : Object → Option α}
    (h : kind.field name = .list (.record fields))
    (hread : ∀ o, read? ((Kind.record fields).fitFields o) = read? o) :
    (Object.objects (kind.fitFields o) name).filterMap read? =
      (o.objects name).filterMap read? := by
  rw [objects_fit h, List.filterMap_map]
  exact congrArg (List.filterMap · _) (funext hread)

theorem map_objects_fit {fields : List (String × Kind)} {read : Object → α}
    (h : kind.field name = .list (.record fields))
    (hread : ∀ o, read ((Kind.record fields).fitFields o) = read o) :
    (Object.objects (kind.fitFields o) name).map read = (o.objects name).map read := by
  rw [objects_fit h, List.map_map]
  exact congrArg (List.map · _) (funext hread)

end Readings

/-! ## Taking away what is of no use -/

/-- A field is given a value that is not of use, at some depth, in the first value; the second is
without the field. -/
inductive Prunes : Kind → Json → Json → Prop where
  | field {kind : Kind} {o : Object} {name : String} {j : Json} :
    ¬(kind.field name).Accepts j →
      Prunes kind (.object (o.insert name j)) (.object (o.erase name))
  | inField {kind : Kind} {o : Object} {name : String} {j j' : Json} :
    Prunes (kind.field name) j j' →
      Prunes kind (.object (o.insert name j)) (.object (o.insert name j'))
  | inItem {kind : Kind} {before after : List Json} {j j' : Json} :
    Prunes kind.item j j' →
      Prunes kind (.array (before ++ j :: after)) (.array (before ++ j' :: after))

theorem fitFields_erase (kind : Kind) (o : Object) (name : String) :
    kind.fitFields (o.erase name) = NameMap.erase (kind.fitFields o) name := by
  induction o with
  | nil => rfl
  | cons f rest ih =>
    obtain ⟨n, j⟩ := f
    by_cases hn : n = name
    · subst hn
      rw [NameMap.erase, if_pos rfl, ih, fitFields]
      cases (kind.field n).fit? j with
      | none => exact (NameMap.erase_erase _ n).symm
      | some kept => exact (if_pos rfl).symm
    · rw [NameMap.erase, if_neg hn, fitFields, fitFields, ih]
      cases (kind.field n).fit? j with
      | none => exact NameMap.erase_comm _ name n
      | some kept => exact (if_neg hn).symm

/-- What is kept depends on the value under a name only through what is kept of it. -/
theorem fitFields_insert_congr {kind : Kind} {o : Object} {name : String} {j j' : Json}
    (h : (kind.field name).fit? j = (kind.field name).fit? j') :
    kind.fitFields (o.insert name j) = kind.fitFields (o.insert name j') := by
  induction o with
  | nil => simp only [NameMap.insert, fitFields, h]
  | cons f rest ih =>
    obtain ⟨n, k⟩ := f
    simp only [NameMap.insert]
    split
    · simp only [fitFields, h]
    · split
      · simp only [fitFields, h]
      · simp only [fitFields, ih]

/-- Nothing is kept of a field that is not of use. -/
theorem fitFields_insert_of_not_accepts {kind : Kind} {o : Object} {name : String} {j : Json}
    (h : ¬(kind.field name).Accepts j) :
    kind.fitFields (o.insert name j) = kind.fitFields (o.erase name) := by
  have hnone := fit?_of_not_accepts h
  induction o with
  | nil => simp only [NameMap.insert, fitFields, hnone, NameMap.erase]
  | cons f rest ih =>
    obtain ⟨n, k⟩ := f
    by_cases hn : n = name
    · simp only [NameMap.insert, NameMap.erase, if_pos hn, fitFields, hnone, fitFields_erase]
    · by_cases hlt : name < n
      · -- the new field is put in front, and nothing of its name is kept behind it
        rw [fitFields_erase]
        simp only [NameMap.insert, if_neg hn, if_pos hlt]
        rw [fitFields, hnone]
      · simp only [NameMap.insert, NameMap.erase, if_neg hn, if_neg hlt, fitFields, ih]

/-- The same is kept whether a field is of no use or missing. -/
theorem fit?_eq_of_prunes {kind : Kind} {j j' : Json} (h : kind.Prunes j j') :
    kind.fit? j = kind.fit? j' := by
  -- along the way from the field up to the whole value
  induction h with
  | field hnot => exact fit?_object_congr (fitFields_insert_of_not_accepts hnot)
  | inField _ ih => exact fit?_object_congr (fitFields_insert_congr ih)
  | inItem _ ih =>
    refine fit?_array_congr ?_
    simp only [fitItems_eq_filterMap, List.filterMap_append, List.filterMap_cons, ih]

/-! ## Taking away nulls -/

/-- Whether any value is taken as it stands. -/
def isFree : Kind → Bool
  | .free => true
  | _ => false

mutual

/-- The value without the fields that are null, at any depth outside free data. -/
def withoutNulls (kind : Kind) : Json → Json
  | .object o => .object (kind.withoutNullFields o)
  | .array items => .array (kind.withoutNullItems items)
  | .null => .null
  | .bool b => .bool b
  | .number n => .number n
  | .string s => .string s

/-- If a name stands twice the first counts, so with it all of that name are taken away. -/
def withoutNullFields (kind : Kind) : List (String × Json) → List (String × Json)
  | [] => []
  | (name, j) :: rest =>
    if j = .null ∧ (kind.field name).isFree = false then
      NameMap.erase (kind.withoutNullFields rest) name
    else (name, (kind.field name).withoutNulls j) :: kind.withoutNullFields rest

def withoutNullItems (kind : Kind) : List Json → List Json
  | [] => []
  | j :: rest => kind.item.withoutNulls j :: kind.withoutNullItems rest

end

theorem not_accepts_null {kind : Kind} (h : kind.isFree = false) : ¬kind.Accepts .null := by
  rw [accepts_null_iff]
  rintro rfl
  cases h

mutual

/-- Nulls are of no use, so the same is kept without them. -/
theorem fit?_withoutNulls (kind : Kind) : ∀ j : Json, kind.fit? (kind.withoutNulls j) = kind.fit? j
  | .object o => fit?_object_congr (fitFields_withoutNulls kind o)
  | .array items => fit?_array_congr (fitItems_withoutNulls kind items)
  | .null | .bool _ | .number _ | .string _ => rfl

theorem fitFields_withoutNulls (kind : Kind) :
    ∀ o : List (String × Json), kind.fitFields (kind.withoutNullFields o) = kind.fitFields o
  | [] => rfl
  | (name, j) :: rest => by
    have hrest := fitFields_withoutNulls kind rest
    rw [withoutNullFields]
    split
    · next hnull =>
      obtain ⟨rfl, hfree⟩ := hnull
      rw [fitFields_erase, hrest, fitFields, fit?_of_not_accepts (not_accepts_null hfree)]
    · rw [fitFields, fitFields, fit?_withoutNulls _ j, hrest]

theorem fitItems_withoutNulls (kind : Kind) :
    ∀ items : List Json, kind.fitItems (kind.withoutNullItems items) = kind.fitItems items
  | [] => rfl
  | j :: rest => by
    have hrest := fitItems_withoutNulls kind rest
    rw [withoutNullItems, fitItems, fitItems, fit?_withoutNulls _ j, hrest]

end

end Kind

end Json

end Proforma
