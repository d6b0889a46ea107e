import Proforma.Proofs.Json.Fields
import Proforma.Proofs.Number.Decimal
import Proforma.Proofs.Number.Whole
import Proforma.Service.Call

/-!
# The project that is asked for

An integer can name a project in three ways (`ProjectRef.Names`), and all three lead through the
floating point number nearest to it. What is sent is the integer again exactly when that number is
the integer and not `-2 ^ 63` (`ProjectRef.Kept`), which holds up to `2 ^ 53`. Beyond, the request
may be about another project: `2 ^ 53 + 1` is sent as `2 ^ 53`.
-/

namespace Proforma

open Number

/-! ## Numbers in requests -/

theorem JsonNumber.ofInt64_injective {m n : Int64} (h : ofInt64 m = ofInt64 n) : m = n := by
  unfold ofInt64 at h
  injection h with hint
  exact Int64.toInt_inj.mp hint

/-- Only the integer itself is written like an integer. -/
theorem JsonNumber.text_eq_toString_iff (v : JsonNumber) (id : Int64) :
    v.text = toString id.toInt ↔ v = .ofInt64 id := by
  constructor
  · intro h
    cases v with
    | int n hn =>
      obtain rfl := toString_injective h
      rfl
    | double x => exact absurd h (text_ne_toString x id.toInt)
  · rintro rfl
    rfl

namespace ProjectRef

theorem numberOf_eq_ofInt64_iff (x : Binary64) (id : Int64) :
    numberOf x = .ofInt64 id ↔ x.whole? = some id := by
  unfold numberOf
  cases x.whole? with
  | none => exact ⟨nofun, nofun⟩
  | some other => exact ⟨fun h => congrArg some (JsonNumber.ofInt64_injective h),
      fun h => congrArg JsonNumber.ofInt64 (Option.some.inj h)⟩

/-! ## Naming a project by an integer -/

/-- The references that name a project by an integer: what a record with that integer is read as,
the reference made from it, and its decimal text with any blanks around it. -/
inductive Names (id : Int64) : ProjectRef → Prop where
  | record {ref : ProjectRef} : read? (Json.ofInt64 id) = some ref → Names id ref
  | integer : Names id (.ofInt64 id)
  | text (before after : List Char) : (∀ c ∈ before, Text.isBlank c = true) →
      (∀ c ∈ after, Text.isBlank c = true) →
      Names id (.text (String.ofList (before ++ (toString id.toInt).toList ++ after)))

/-- The integers that floating point holds exactly and that are not taken for too large. -/
def Kept (id : Int64) : Prop :=
  IsExact id.toInt.natAbs ∧ id.toInt ≠ -2 ^ 63

instance (id : Int64) : Decidable (Kept id) :=
  inferInstanceAs (Decidable (_ ∧ _))

/-- Up to `2 ^ 53` every integer is. -/
theorem kept_of_le {id : Int64} (h : id.toInt.natAbs ≤ 2 ^ 53) : Kept id := by
  refine ⟨isExact_of_le h, ?_⟩
  intro hmin
  rw [hmin] at h
  exact absurd h (by decide)

theorem natAbs_lt (id : Int64) : id.toInt.natAbs < 2 ^ 64 := by
  have hlo := id.le_toInt
  have hhi := id.toInt_lt
  omega

variable {id : Int64} {ref : ProjectRef}

/-- All three ways lead to the same value. -/
theorem value?_of_names (h : ref.Names id) : ref.value? = .ok (.ofInt id.toInt) := by
  cases h with
  | record hread =>
    cases hread
    rfl
  | integer => rfl
  | text before after hbefore hafter =>
    have hplain (c : Char) (hc : c ∈ (toString id.toInt).toList) : Text.isBlank c = false := by
      rcases mem_toString hc with hdigit | rfl
      · exact Text.isBlank_of_isDigit hdigit
      · decide
    have hsize : id.toInt.natAbs < 10 ^ 400 := by
      have := natAbs_lt id
      omega
    unfold value?
    simp only [String.toList_ofList, Text.trimChars_between before after hbefore hafter hplain,
      read?_toString hsize]

/-- The number that is sent for an integer. -/
theorem number?_of_names (h : ref.Names id) :
    ref.number? = .ok (numberOf (nearestTo id.toInt (natAbs_lt id))) := by
  unfold number?
  rw [value?_of_names h, ofInt_eq (natAbs_lt id)]

/-- It is the integer itself exactly for those that are kept. -/
theorem numberOf_nearestTo_iff (id : Int64) :
    numberOf (nearestTo id.toInt (natAbs_lt id)) = .ofInt64 id ↔ Kept id := by
  rw [numberOf_eq_ofInt64_iff]
  exact whole?_nearestTo_iff (natAbs_lt id)

/-! ## Where it is sent -/

/-- The body of a study names the project by its number. -/
theorem exists_body?_of_number? {study : Study} {n : JsonNumber}
    (h : study.projectId.number? = .ok n) :
    ∃ fields, study.body? = .ok (.object fields) ∧
      NameMap.get? fields "project_id" = some (.number n) := by
  unfold Study.body?
  rw [h]
  refine ⟨_, rfl, ?_⟩
  rw [NameMap.get?_ofList]
  cases study.projectName <;> cases study.finProjectId <;> rfl

/-- The query of a list names the project by the text of its number, and only once. -/
theorem exists_outgoing?_of_number? {query : ListQuery} {n : JsonNumber} (endpoints : Endpoints)
    (href : query.projectId = some ref) (h : ref.number? = .ok n) :
    ∃ out, (Call.listScenarios query).outgoing? endpoints = .ok out ∧
      out.query.filter (·.1 = "project_id") = [("project_id", n.text)] := by
  obtain ⟨projectId, finProjectId, currency, scenarioName⟩ := query
  obtain rfl : projectId = some ref := href
  simp only [Call.outgoing?, Call.listQuery, h]
  refine ⟨_, rfl, ?_⟩
  cases finProjectId <;> rfl

end ProjectRef

/-- **When an integer names the project that is asked for.** However an integer names it, a study
and a list are sent with one and the same number. That number is the integer, and its text the
integer's text, exactly if the integer is kept. -/
theorem project_asked_for {id : Int64} {ref : ProjectRef} (h : ref.Names id) :
    ∃ sent : JsonNumber,
      (∀ study : Study, study.projectId = ref → ∃ fields, study.body? = .ok (.object fields) ∧
        NameMap.get? fields "project_id" = some (.number sent)) ∧
      (∀ (query : ListQuery) (endpoints : Endpoints), query.projectId = some ref →
        ∃ out, (Call.listScenarios query).outgoing? endpoints = .ok out ∧
          out.query.filter (·.1 = "project_id") = [("project_id", sent.text)]) ∧
      (sent = .ofInt64 id ↔ ProjectRef.Kept id) ∧
      (sent.text = toString id.toInt ↔ ProjectRef.Kept id) := by
  have hnumber := ProjectRef.number?_of_names h
  have hkept := ProjectRef.numberOf_nearestTo_iff id
  refine ⟨_, ?_, ?_, hkept, ?_⟩
  · rintro study rfl
    exact ProjectRef.exists_body?_of_number? hnumber
  · intro query endpoints hquery
    exact ProjectRef.exists_outgoing?_of_number? endpoints hquery hnumber
  · rw [JsonNumber.text_eq_toString_iff]
    exact hkept

/-- The greatest integer that is kept in every way, `2 ^ 53`, as a text between a no-break space
and a line end. -/
theorem project_asked_for_of_padded :
    let query : ListQuery := ⟨some (.text "\u00a09007199254740992\n"), none, none, none⟩
    (ProjectRef.text "\u00a09007199254740992\n").Names 9007199254740992 ∧
      ∃ out, (Call.listScenarios query).outgoing? Config.default.endpoints = .ok out ∧
        out.query.filter (·.1 = "project_id") = [("project_id", "9007199254740992")] := by
  intro query
  have hnames : (ProjectRef.text "\u00a09007199254740992\n").Names 9007199254740992 :=
    .text ['\u00a0'] ['\n'] (List.forall_mem_singleton.mpr rfl) (List.forall_mem_singleton.mpr rfl)
  obtain ⟨sent, -, hquery, -, htext⟩ := project_asked_for hnames
  obtain ⟨out, hout, hpairs⟩ := hquery query Config.default.endpoints rfl
  have hsent : sent.text = "9007199254740992" :=
    htext.mpr (ProjectRef.kept_of_le (by decide))
  exact ⟨hnames, out, hout, by rw [← hsent]; exact hpairs⟩

/-- The integer after that is sent as another one. -/
theorem number?_of_odd :
    (ProjectRef.ofInt64 9007199254740993).number? = .ok (.ofInt64 9007199254740992) := by
  rw [ProjectRef.number?_of_names .integer]
  exact congrArg Except.ok (by decide +kernel)

end Proforma
