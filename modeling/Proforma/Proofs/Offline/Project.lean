import Proforma.Proofs.Offline.List
import Proforma.Proofs.Scenario.Echo
import Proforma.Proofs.Study.Bodies

/-!
# The project of an offline scenario

An offline scenario names its project as a reply would that repeats the number in the request, so
the identifier does not tell the two apart (`offline_project_agrees`). A reference that is refused
names no number; offline it is kept, a text as it was given and a number that is not finite as null.
-/

namespace Proforma

open Number

namespace ProjectKey

/-- A finite value is sent as an integer or as it is, and what comes back of it is the integer or
the value: both readings ask whether it is whole and in range. -/
theorem ofRef_of_number? {ref : ProjectRef} {n : JsonNumber} (h : ref.number? = .ok n) :
    ofRef ref = ofJson (.number n) := by
  obtain ⟨x, -, rfl⟩ := ProjectRef.number?_eq_ok_iff.mp h
  unfold ofRef ofJson integerOf?
  rw [h]
  unfold ProjectRef.numberOf
  cases hwhole : x.whole? with
  | some id =>
    have hid : (JsonNumber.ofInt64 id).toInt64? = some id := Json.toInt64?_ofInt64 id
    simp only [hid]
  | none =>
    have hid : (JsonNumber.double x).toInt64? = none := rfl
    have hback : integerOf?.wholeOf? (JsonNumber.double x).toDouble = none := hwhole
    simp only [hid, hback]

/-- What is kept of a reference that is refused. -/
inductive Kept : ProjectRef → ProjectKey → Prop where
  | text (s : String) : Kept (.text s) (.raw (.string s))
  | number {value : Double} : (∀ x, value ≠ .finite x) → Kept (.number value) (.raw .null)

theorem kept_of_refused {ref : ProjectRef} {cause : Refusal} (h : ref.number? = .error cause) :
    Kept ref (ofRef ref) := by
  unfold ofRef
  rw [h]
  cases ref with
  | text s => exact .text s
  | number value =>
    refine .number fun x hx => ?_
    subst hx
    cases h

end ProjectKey

namespace Offline

theorem scenarioAt_projectId (now : Int64) (study : Study) :
    (scenarioAt now study).projectId = .ofRef study.projectId := by
  unfold scenarioAt
  exact read_inCurrency (·.projectId) (fun _ _ => rfl) _ _

theorem listed_projectId (query : ListQuery) (v : Variant) (scaled : Scenario) :
    (listed query v scaled).projectId =
      (query.projectId.map .ofRef).getD baseline.projectId := by
  unfold listed
  exact read_inCurrency (·.projectId) (fun _ _ => rfl) _ _

end Offline

/-- What a reply says under the name of the project is what is read of it. -/
theorem Scenario.projectId_ofReply {fields : Json.Object} {n : JsonNumber}
    (h : NameMap.get? fields "project_id" = some (.number n)) :
    (ofReply (.object fields)).projectId = .ofJson (.number n) := by
  show ((Json.Object.field? fields "project_id").map ProjectKey.ofJson).getD _ = _
  unfold Json.Object.field?
  rw [h]
  rfl

namespace Offline

/-- **An offline scenario names its project as a reply would.** Offline scenarios of one reference,
alone and in lists, have one identifier. If the reference is accepted, that is the identifier in
every reply that repeats the number from the request; otherwise it is what is kept of the reference.
-/
theorem offline_project_agrees (ref : ProjectRef) :
    ∃ key : ProjectKey,
      (∀ (now : Int64) (study : Study), study.projectId = ref →
        (scenarioAt now study).projectId = key) ∧
      (∀ query : ListQuery, query.projectId = some ref →
        ∃ list, scenarioList query = .ok list ∧ list.map (·.projectId) = [key, key, key]) ∧
      (∀ n, ref.number? = .ok n →
        (∀ study : Study, study.projectId = ref → ∃ fields, study.body? = .ok (.object fields) ∧
          NameMap.get? fields "project_id" = some (.number n)) ∧
        key = .ofJson (.number n) ∧
        ∀ reply : Json.Object, NameMap.get? reply "project_id" = some (.number n) →
          (Scenario.ofReply (.object reply)).projectId = key) ∧
      ∀ cause, ref.number? = .error cause → ProjectKey.Kept ref key := by
  refine ⟨.ofRef ref, ?_, ?_, ?_, ?_⟩
  · rintro now study rfl
    exact scenarioAt_projectId now study
  · intro query hquery
    obtain ⟨base, upside, downside, hlist⟩ := exists_scenarioList query
    refine ⟨_, hlist, ?_⟩
    simp only [List.map_cons, List.map_nil, listed_projectId, hquery, Option.map_some,
      Option.getD_some]
  · intro n hn
    have hkey := ProjectKey.ofRef_of_number? hn
    refine ⟨?_, hkey, fun reply hreply => ?_⟩
    · rintro study rfl
      exact ProjectRef.exists_body?_of_number? hn
    · rw [hkey]
      exact Scenario.projectId_ofReply hreply
  · intro cause hcause
    exact ProjectKey.kept_of_refused hcause

/-- The text of `-2 ^ 63` is sent and kept as a floating point number, since it is taken for too
large; a text of infinity is refused and kept as it is. -/
theorem offline_project_agrees_of_edge :
    let large : JsonNumber := .double ⟨true, 2 ^ 63 * unitsOfOne, by decide +kernel⟩
    let query (ref : ProjectRef) : ListQuery := ⟨some ref, none, none, none⟩
    (ProjectRef.text "-9223372036854775808 ").number? = .ok large ∧
      (Scenario.ofReply (.object [("project_id", .number large)])).projectId =
        .raw (.number large) ∧
      (∃ list, scenarioList (query (.text "-9223372036854775808 ")) = .ok list ∧
        ∀ s ∈ list, s.projectId = .raw (.number large)) ∧
      ∃ list, scenarioList (query (.text " -Infinity")) = .ok list ∧
        ∀ s ∈ list, s.projectId = .raw (.string " -Infinity") := by
  intro large query
  have hnumber : (ProjectRef.text "-9223372036854775808 ").number? = .ok large := by
    decide +kernel
  have hrefused : (ProjectRef.text " -Infinity").number? =
      .error (.projectNotFinite (.infinite true)) := by
    decide +kernel
  have hraw : ProjectKey.ofJson (.number large) = .raw (.number large) := by
    decide +kernel
  obtain ⟨key, -, hlist, haccepted, -⟩ :=
    offline_project_agrees (.text "-9223372036854775808 ")
  obtain ⟨-, hkey, hreply⟩ := haccepted large hnumber
  obtain ⟨other, -, hothers, -, hkept⟩ := offline_project_agrees (.text " -Infinity")
  obtain ⟨list, hok, hids⟩ := hlist (query _) rfl
  obtain ⟨others, hothersOk, hotherIds⟩ := hothers (query _) rfl
  rw [hkey, hraw] at hreply hids
  refine ⟨hnumber, hreply _ rfl, ⟨list, hok, ?_⟩, others, hothersOk, ?_⟩
  · intro s hs
    have hmem := List.mem_map_of_mem (f := (·.projectId)) hs
    rw [hids] at hmem
    simpa using hmem
  · cases hkept _ hrefused with
    | text =>
      intro s hs
      have hmem := List.mem_map_of_mem (f := (·.projectId)) hs
      rw [hotherIds] at hmem
      simpa using hmem

end Offline

end Proforma
