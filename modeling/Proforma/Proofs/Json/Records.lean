import Proforma.Proofs.Json.Fields

/-!
# Reading a record that was written

What a reader takes from the fields of a record, law by law: a part that has to be there, one that
may be null, a list. A reader that is put together from these takes what its parts take
(`Takes.bind`), and so gives the same when it is run on the record itself (`run_record`). The
capitalised spelling keeps names apart because they can be spelled back (`isSnake`).
-/

namespace Proforma.Json

/-! ## Names -/

/-- Puts an underscore in place of a capital. -/
def splitWords : List Char → List Char
  | [] => []
  | c :: rest => if c.isUpper then '_' :: c.toLower :: splitWords rest else c :: splitWords rest

/-- Whether a name can be told from its capitalised spelling. -/
def isSnake (name : String) : Bool :=
  splitWords (joinWords name.toList) == name.toList

theorem key_injective {name other : String} (hname : isSnake name = true)
    (hother : isSnake other = true) (h : Spelling.camel.key name = Spelling.camel.key other) :
    name = other := by
  have hjoin : joinWords name.toList = joinWords other.toList := String.ofList_injective h
  rw [← String.toList_inj]
  calc name.toList = splitWords (joinWords name.toList) := (eq_of_beq hname).symm
    _ = splitWords (joinWords other.toList) := by rw [hjoin]
    _ = other.toList := eq_of_beq hother

/-- In the capitalised spelling the same stands under the same name. -/
theorem get?_map_key {fields : List (String × Json)} {name : String}
    (hfields : ∀ other ∈ fields.map (·.1), isSnake other = true) (hname : isSnake name = true) :
    NameMap.get? (fields.map fun f => (Spelling.camel.key f.1, f.2)) (Spelling.camel.key name) =
      NameMap.get? fields name := by
  induction fields with
  | nil => rfl
  | cons field rest ih =>
    obtain ⟨other, j⟩ := field
    simp only [List.map_cons, List.forall_mem_cons] at hfields
    simp only [List.map_cons, NameMap.get?, ih hfields.2]
    have hsame : Spelling.camel.key other = Spelling.camel.key name ↔ other = name :=
      ⟨key_injective hfields.1 hname, congrArg _⟩
    simp only [hsame]

theorem mem_of_get? {fields : List (String × Json)} {name : String} {j : Json}
    (h : NameMap.get? fields name = some j) : name ∈ fields.map (·.1) := by
  induction fields with
  | nil => cases h
  | cons field rest ih =>
    obtain ⟨other, k⟩ := field
    simp only [NameMap.get?] at h
    split at h
    · next heq => exact heq ▸ List.mem_cons_self
    · exact List.mem_cons_of_mem _ (ih h)

/-! ## Values -/

theorem readInt64?_ofInt64 (n : Int64) : readInt64? (ofInt64 n) = some n :=
  toInt64?_ofInt64 n

theorem readList?_map {α : Type} {write : α → Json} {read : Json → Option α} {reread : α → α}
    {items : List α} (hread : ∀ a ∈ items, read (write a) = some (reread a)) :
    readList? read (.array (items.map write)) = some (items.map reread) := by
  show (items.map write).mapM read = some (items.map reread)
  induction items with
  | nil => rfl
  | cons a rest ih =>
    have hrest := ih fun b hb => hread b (List.mem_cons_of_mem a hb)
    rw [List.map_cons, List.mapM_cons, hread a List.mem_cons_self, hrest]
    rfl

theorem readOption?_of_ne_null {α : Type} {read : Json → Option α} {j : Json} (h : j ≠ .null) :
    readOption? read j = (read j).map some := by
  unfold readOption?
  split
  · exact absurd rfl h
  · rfl

/-- What may be null, for a reading that takes nothing of null itself. -/
theorem readOption?_ofOption {α : Type} {write : α → Json} {read : Json → Option α} {reread : α → α}
    {x : Option α} (hnull : read .null = none)
    (hread : ∀ a ∈ x, read (write a) = some (reread a)) :
    readOption? read (ofOption write x) = some (x.map reread) := by
  cases x with
  | none => rfl
  | some a =>
    have ha := hread a rfl
    have hwrite : write a ≠ .null := by
      intro hwrite
      rw [hwrite, hnull] at ha
      cases ha
    show readOption? read (write a) = some (some (reread a))
    rw [readOption?_of_ne_null hwrite, ha]
    rfl

/-! ## Readers -/

namespace RecordReader

/-- The reader takes a value from every object that has the given fields in the capitalised
spelling. -/
def Takes {α : Type} (fields : List (String × Json)) (reader : RecordReader α) (a : α) : Prop :=
  ∀ o : Object,
    (∀ name j, NameMap.get? fields.reverse name = some j →
      NameMap.get? o (Spelling.camel.key name) = some j) →
    reader (.named o) = some (a, .named o)

section Laws

variable {α β : Type} {fields : List (String × Json)} {name : String}

theorem Takes.pure (a : α) : Takes fields (Pure.pure a) a :=
  fun _ _ => rfl

theorem Takes.bind {m : RecordReader α} {f : α → RecordReader β} {a : α} {b : β}
    (hm : Takes fields m a) (hf : Takes fields (f a) b) : Takes fields (m >>= f) b := by
  intro o ho
  show (m (.named o) >>= fun r => f r.1 r.2) = some (b, .named o)
  rw [hm o ho]
  exact hf o ho

theorem takes_part {read : Json → Option α} {absent short : Option α} {j : Json} {a : α}
    (h : NameMap.get? fields.reverse name = some j) (hread : read j = some a) :
    Takes fields (part name read absent short) a := by
  intro o ho
  unfold part
  simp only [ho name j h, hread, Option.map_some]

/-- A part that has to be there: whatever is read from what is written. -/
theorem takes_required {read : Json → Option α} {j : Json} {a : α}
    (h : NameMap.get? fields.reverse name = some j) (hread : read j = some a) :
    Takes fields (required name read) a :=
  takes_part h hread

theorem takes_optional {read : Json → Option α} {j : Json} {x : Option α}
    (h : NameMap.get? fields.reverse name = some j) (hread : readOption? read j = some x) :
    Takes fields (optional name read) x :=
  takes_part h hread

theorem takes_string {s : String} (h : NameMap.get? fields.reverse name = some (.string s)) :
    Takes fields (required name readString?) s :=
  takes_required h rfl

theorem takes_bool {b : Bool} (h : NameMap.get? fields.reverse name = some (.bool b)) :
    Takes fields (required name readBool?) b :=
  takes_required h rfl

theorem takes_int64 {n : Int64} (h : NameMap.get? fields.reverse name = some (ofInt64 n)) :
    Takes fields (required name readInt64?) n :=
  takes_required h (readInt64?_ofInt64 n)

/-- A part that may be null, if every other value comes back. -/
theorem takes_ofOption {write : α → Json} {read : Json → Option α} {x : Option α}
    (h : NameMap.get? fields.reverse name = some (ofOption write x))
    (hnull : read .null = none) (hread : ∀ a ∈ x, read (write a) = some a) :
    Takes fields (optional name read) x := by
  have hoption : readOption? read (ofOption write x) = some (x.map id) :=
    readOption?_ofOption hnull hread
  rw [Option.map_id] at hoption
  exact takes_optional h hoption

theorem takes_string? {s : Option String}
    (h : NameMap.get? fields.reverse name = some (ofOption .string s)) :
    Takes fields (optional name readString?) s :=
  takes_ofOption h rfl fun _ _ => rfl

theorem takes_bool? {b : Option Bool}
    (h : NameMap.get? fields.reverse name = some (ofOption .bool b)) :
    Takes fields (optional name readBool?) b :=
  takes_ofOption h rfl fun _ _ => rfl

theorem takes_int64? {n : Option Int64}
    (h : NameMap.get? fields.reverse name = some (ofOption ofInt64 n)) :
    Takes fields (optional name readInt64?) n :=
  takes_ofOption h rfl fun i _ => readInt64?_ofInt64 i

/-- A list whose items all come back. -/
theorem takes_list {write : α → Json} {read : Json → Option α} {items : List α}
    (h : NameMap.get? fields.reverse name = some (.array (items.map write)))
    (hread : ∀ a ∈ items, read (write a) = some a) :
    Takes fields (required name (readList? read)) items := by
  have hitems : readList? read (.array (items.map write)) = some (items.map id) :=
    readList?_map hread
  rw [List.map_id] at hitems
  exact takes_required h hitems

theorem takes_listed {write : α → Json} {read : Json → Option α} {reread : α → α} {items : List α}
    (h : NameMap.get? fields.reverse name = some (.array (items.map write)))
    (hread : ∀ a ∈ items, read (write a) = some (reread a)) :
    Takes fields (listed name read) (items.map reread) :=
  takes_part h (readList?_map hread)

/-- **What a reader takes from the fields, it gives when it is run on the record.** -/
theorem run_record {reader : RecordReader α} {a : α}
    (hnames : ∀ name ∈ fields.map (·.1), isSnake name = true) (h : Takes fields reader a) :
    run reader (record .camel fields) = some a := by
  have hreverse : ∀ name ∈ fields.reverse.map (·.1), isSnake name = true := by
    intro name hname
    rw [List.map_reverse] at hname
    exact hnames name (List.mem_reverse.mp hname)
  -- what is asked for by a name with underscores stands under its other spelling
  have hfound : ∀ name j, NameMap.get? fields.reverse name = some j →
      NameMap.get? (NameMap.ofList (fields.map fun f => (Spelling.camel.key f.1, f.2)))
        (Spelling.camel.key name) = some j := by
    intro name j hj
    have hname := hreverse name (mem_of_get? hj)
    rw [NameMap.get?_ofList, ← List.map_reverse, get?_map_key hreverse hname, hj]
  show (reader (.named (NameMap.ofList _))).map (·.1) = some a
  rw [h _ hfound]
  rfl

end Laws

end RecordReader

end Proforma.Json
