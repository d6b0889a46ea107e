/-!
# Values by name

Values that have names, kept in the order of the names by code point. Names are told apart
exactly, case included, and a value put under a name that is there takes the place of the old
one. So two maps that were filled with the same values in any order are equal.
-/

namespace Proforma

/-- Values with their names. -/
abbrev NameMap (α : Type) := List (String × α)

namespace NameMap

/-- The value under a name. -/
def get? (m : NameMap α) (name : String) : Option α :=
  match m with
  | [] => none
  | (n, a) :: rest => if n = name then some a else get? rest name

/-- Whether there is a value under a name. -/
def has (m : NameMap α) (name : String) : Bool :=
  (get? m name).isSome

/-- Puts a value under a name. -/
def insert (m : NameMap α) (name : String) (value : α) : NameMap α :=
  match m with
  | [] => [(name, value)]
  | (n, a) :: rest =>
    if n = name then (name, value) :: rest
    else if name < n then (name, value) :: (n, a) :: rest
    else (n, a) :: insert rest name value

/-- Takes away the value under a name. -/
def erase (m : NameMap α) (name : String) : NameMap α :=
  match m with
  | [] => []
  | (n, a) :: rest => if n = name then erase rest name else (n, a) :: erase rest name

/-- The map of the given values. Of two under one name the later counts. -/
def ofList (values : List (String × α)) : NameMap α :=
  values.foldl (fun m v => m.insert v.1 v.2) []

/-- A value that was put under a name is there, and the others are what they were. -/
theorem get?_insert (m : NameMap α) (name other : String) (value : α) :
    (m.insert name value).get? other = if name = other then some value else m.get? other := by
  induction m with
  | nil => simp [insert, get?]
  | cons f rest ih =>
    obtain ⟨n, a⟩ := f
    simp only [insert]
    by_cases hn : n = name
    · subst hn
      by_cases ho : n = other <;> simp [get?, ho]
    · rw [if_neg hn]
      by_cases hlt : name < n
      · rw [if_pos hlt]
        by_cases ho : name = other <;> simp [get?, ho]
      · rw [if_neg hlt]
        by_cases hno : n = other
        · have ho : name ≠ other := fun h => hn (hno.trans h.symm)
          simp [get?, hno, ho]
        · simp [get?, hno, ih]

/-- A value that was taken away is gone, and the others are what they were. -/
theorem get?_erase (m : NameMap α) (name other : String) :
    (m.erase name).get? other = if name = other then none else m.get? other := by
  induction m with
  | nil => simp [erase, get?]
  | cons f rest ih =>
    obtain ⟨n, a⟩ := f
    simp only [erase]
    by_cases hn : n = name
    · rw [if_pos hn, ih]
      by_cases ho : name = other
      · simp [ho]
      · simp [get?, hn, ho]
    · rw [if_neg hn]
      by_cases hno : n = other
      · have ho : name ≠ other := fun h => hn (hno.trans h.symm)
        simp [get?, hno, ho]
      · simp [get?, hno, ih]

/-- Of two values put under one name only the later is left. -/
theorem insert_insert (m : NameMap α) (name : String) (first second : α) :
    (m.insert name first).insert name second = m.insert name second := by
  induction m with
  | nil => simp [insert]
  | cons f rest ih =>
    obtain ⟨n, a⟩ := f
    simp only [insert]
    by_cases hn : n = name
    · simp [hn, insert]
    · by_cases hlt : name < n
      · simp [hn, hlt, insert]
      · simp [hn, hlt, insert, ih]

end NameMap

end Proforma
