import Proforma.Proofs.Service.Race

/-!
# What is checked before a request is sent

A call needs that the service has its endpoints, that the scenario it is about is stored and that
its arguments can be sent. `Call.Admissible` says that nothing is wrong and `Call.RefusedWith`
which of the checks fails first. Their two lemmas on `outgoing?` and the two on `perform` are what
later proofs use in place of the definitions.
-/

namespace Proforma

/-- Why a project reference is refused, if it is. -/
def ProjectRef.fault? (ref : ProjectRef) : Option Refusal :=
  match ref.number? with
  | .ok _ => none
  | .error cause => some cause

namespace Call

/-- The endpoints of a call that a service may lack. -/
def group? : Call → Option EndpointGroup
  | .updateLoan .. => some .constructionLoan
  | .rerunSensitivity .. => some .sensitivity
  | .exportScenario _ | .exportTo .. => some .exports
  | _ => none

/-- The stored scenario that a call is about. -/
def target? : Call → Option Int64
  | .runStudy _ | .listScenarios _ => none
  | .updateLoan id _ | .editScenario id _ | .deleteScenario id | .rerunSensitivity id _
  | .exportScenario id | .exportTo id _ => some id

/-- The project that a call names. -/
def project? : Call → Option ProjectRef
  | .runStudy study => some study.projectId
  | .listScenarios query => query.projectId
  | _ => none

/-- What is wrong with the arguments of a call besides the scenario it is about: a project that
is no finite number, no band to vary, or no field to change. -/
def argumentFault? : Call → Option Refusal
  | .runStudy study => study.projectId.fault?
  | .listScenarios query => query.projectId.bind ProjectRef.fault?
  | .editScenario _ edit => if edit = ⟨none, none, none⟩ then some .nothingToChange else none
  | .rerunSensitivity _ bands => if bands = [] then some .noBands else none
  | _ => none

/-- Nothing is wrong with a call. -/
structure Admissible (endpoints : Endpoints) (call : Call) : Prop where
  served : ∀ group, call.group? = some group → endpoints.has group = true
  stored : ∀ id, call.target? = some id → 0 < id
  sound : call.argumentFault? = none

/-- The first check that fails, of endpoints, scenario and arguments in this order. -/
inductive RefusedWith (endpoints : Endpoints) (call : Call) : Failure → Prop where
  | unsupported {group : EndpointGroup} : call.group? = some group →
      endpoints.has group = false → RefusedWith endpoints call (.unsupported group)
  | notPersisted {id : Int64} :
      (∀ group, call.group? = some group → endpoints.has group = true) →
      call.target? = some id → id ≤ 0 → RefusedWith endpoints call (.invalid (.notPersisted id))
  | argument {cause : Refusal} :
      (∀ group, call.group? = some group → endpoints.has group = true) →
      (∀ id, call.target? = some id → 0 < id) →
      call.argumentFault? = some cause → RefusedWith endpoints call (.invalid cause)

/-- The request of a call with which nothing is wrong. -/
inductive Requests : Call → Outgoing → Prop where
  | study {study : Study} {body : Json} : study.body? = .ok body →
      Requests (.runStudy study) ⟨.post, studyPath, [], some body⟩
  | list {query : ListQuery} {pairs : List (String × String)} : listQuery query = .ok pairs →
      Requests (.listScenarios query) ⟨.get, scenariosPath, pairs, none⟩
  | loan {id : Int64} {loan : ConstructionLoan} :
      Requests (.updateLoan id loan) ⟨.patch, constructionLoanPath id, [], some loan.updateBody⟩
  | edited {id : Int64} {edit : ScenarioEdit} {body : Json} : edit.body? = .ok body →
      Requests (.editScenario id edit) ⟨.patch, scenarioPath id, [], some body⟩
  | deleted {id : Int64} :
      Requests (.deleteScenario id) ⟨.delete, scenarioPath id, [], none⟩
  | rerun {id : Int64} {bands : List SensitivityBand} {body : Json} :
      SensitivityBand.rerunBody? bands = .ok body →
      Requests (.rerunSensitivity id bands) ⟨.post, sensitivityPath id, [], some body⟩
  | exported {id : Int64} :
      Requests (.exportScenario id) ⟨.get, exportPath, [("scenario_id", toString id.toInt)], none⟩
  /-- An export to a file asks for the same. -/
  | saved {id : Int64} {path : String} :
      Requests (.exportTo id path) ⟨.get, exportPath, [("scenario_id", toString id.toInt)], none⟩

/-! ## The single checks -/

theorem needs_of_has {endpoints : Endpoints} {group : EndpointGroup}
    (h : endpoints.has group = true) : needs endpoints group = .ok () := by
  rw [needs, if_pos h]

theorem needs_of_not_has {endpoints : Endpoints} {group : EndpointGroup}
    (h : endpoints.has group = false) : needs endpoints group = .error (.unsupported group) := by
  rw [needs, if_neg (by simp [h])]

theorem needsPersisted_of_pos {id : Int64} (h : 0 < id) : needsPersisted id = .ok () := by
  rw [needsPersisted, if_pos h]

theorem needsPersisted_of_not_pos {id : Int64} (h : id ≤ 0) :
    needsPersisted id = .error (.invalid (.notPersisted id)) := by
  rw [needsPersisted, if_neg (Int64.not_lt.mpr h)]

/-- An edit without a field has no body, and every other has one. -/
theorem body?_of_nothing : (⟨none, none, none⟩ : ScenarioEdit).body? = .error .nothingToChange :=
  rfl

theorem exists_body?_of_change {edit : ScenarioEdit} (h : edit ≠ ⟨none, none, none⟩) :
    ∃ body, edit.body? = .ok body := by
  obtain ⟨name, description, isPrimary⟩ := edit
  rcases name with _ | name <;> rcases description with _ | description <;>
    rcases isPrimary with _ | isPrimary <;> first | exact absurd rfl h | exact ⟨_, rfl⟩

theorem exists_rerunBody? {bands : List SensitivityBand} (h : bands ≠ []) :
    ∃ body, SensitivityBand.rerunBody? bands = .ok body := by
  cases bands with
  | nil => exact absurd rfl h
  | cons band rest => exact ⟨_, rfl⟩

/-- A reference without a fault denotes a number. -/
theorem exists_number?_of_fault? {ref : ProjectRef} (h : ref.fault? = none) :
    ∃ n, ref.number? = .ok n := by
  unfold ProjectRef.fault? at h
  cases hn : ref.number? with
  | ok n => exact ⟨n, rfl⟩
  | error cause => rw [hn] at h; cases h

/-- The body of a study whose project denotes a number. -/
theorem exists_body?_of_fault? {study : Study} (h : study.projectId.fault? = none) :
    ∃ body, study.body? = .ok body := by
  obtain ⟨n, hn⟩ := exists_number?_of_fault? h
  rw [Study.body?, hn]
  exact ⟨_, rfl⟩

theorem number?_of_fault? {ref : ProjectRef} {cause : Refusal} (h : ref.fault? = some cause) :
    ref.number? = .error cause := by
  unfold ProjectRef.fault? at h
  cases hn : ref.number? with
  | ok n => rw [hn] at h; cases h
  | error other => rw [hn] at h; cases h; rfl

/-- The query of a list whose project is absent or denotes a number. -/
theorem exists_listQuery {query : ListQuery}
    (h : ∀ ref, query.projectId = some ref → ∃ n, ref.number? = .ok n) :
    ∃ pairs, listQuery query = .ok pairs := by
  obtain ⟨projectId, finProjectId, currency, scenarioName⟩ := query
  cases projectId with
  | none => exact ⟨_, rfl⟩
  | some ref =>
    obtain ⟨n, hn⟩ := h ref rfl
    simp only [listQuery, hn]
    exact ⟨_, rfl⟩

theorem listQuery_of_fault? {query : ListQuery} {ref : ProjectRef} {cause : Refusal}
    (href : query.projectId = some ref) (h : ref.fault? = some cause) :
    listQuery query = .error cause := by
  obtain ⟨projectId, finProjectId, currency, scenarioName⟩ := query
  obtain rfl : projectId = some ref := href
  simp only [listQuery, number?_of_fault? h]
  rfl

/-! ## All checks -/

variable {endpoints : Endpoints} {call : Call}

/-- Either nothing is wrong with a call or it is refused. -/
theorem admissible_or_refused (endpoints : Endpoints) (call : Call) :
    call.Admissible endpoints ∨ ∃ f, call.RefusedWith endpoints f := by
  by_cases hg : ∀ group, call.group? = some group → endpoints.has group = true
  · by_cases ht : ∀ id, call.target? = some id → 0 < id
    · cases ha : call.argumentFault? with
      | none => exact .inl ⟨hg, ht, ha⟩
      | some cause => exact .inr ⟨_, .argument hg ht ha⟩
    · obtain ⟨id, hid, hle⟩ : ∃ id, call.target? = some id ∧ id ≤ 0 := by
        simpa using ht
      exact .inr ⟨_, .notPersisted hg hid hle⟩
  · obtain ⟨group, hgroup, hno⟩ : ∃ group, call.group? = some group ∧
        endpoints.has group = false := by
      simpa using hg
    exact .inr ⟨_, .unsupported hgroup hno⟩

/-- A refused call has no request, and its failure is that of the first check that fails. -/
theorem outgoing?_of_refused {f : Failure} (h : call.RefusedWith endpoints f) :
    call.outgoing? endpoints = .error f := by
  -- the checks in front of the one that fails succeed and drop out one by one
  cases h with
  | unsupported hg hno =>
    cases call <;> cases hg <;> rw [outgoing?, needs_of_not_has hno] <;> rfl
  | notPersisted hg ht hle =>
    cases call with
    | runStudy => cases ht
    | listScenarios => cases ht
    | editScenario => cases ht; rw [outgoing?, needsPersisted_of_not_pos hle]; rfl
    | deleteScenario => cases ht; rw [outgoing?, needsPersisted_of_not_pos hle]; rfl
    | updateLoan | rerunSensitivity | exportScenario | exportTo =>
      cases ht
      rw [outgoing?, needs_of_has (hg _ rfl), needsPersisted_of_not_pos hle]
      rfl
  | @argument cause hg ht ha =>
    cases call with
    | runStudy study =>
      rw [outgoing?, Study.body?, number?_of_fault? ha]
      rfl
    | listScenarios query =>
      obtain ⟨ref, href, hfault⟩ := Option.bind_eq_some_iff.mp ha
      rw [outgoing?, listQuery_of_fault? href hfault]
      rfl
    | editScenario id edit =>
      obtain ⟨rfl, hcause⟩ : edit = ⟨none, none, none⟩ ∧ Refusal.nothingToChange = cause := by
        simpa [argumentFault?] using ha
      rw [outgoing?, needsPersisted_of_pos (ht id rfl), body?_of_nothing, hcause]
      rfl
    | rerunSensitivity id bands =>
      obtain ⟨rfl, hcause⟩ : bands = [] ∧ Refusal.noBands = cause := by
        simpa [argumentFault?] using ha
      rw [outgoing?, needs_of_has (hg _ rfl), needsPersisted_of_pos (ht id rfl), ← hcause]
      rfl
    | updateLoan => cases ha
    | deleteScenario => cases ha
    | exportScenario => cases ha
    | exportTo => cases ha

/-- **A call with which nothing is wrong has its request.** -/
theorem exists_requests_of_admissible (h : call.Admissible endpoints) :
    ∃ out, call.outgoing? endpoints = .ok out ∧ call.Requests out := by
  obtain ⟨hg, ht, ha⟩ := h
  cases call with
  | runStudy study =>
    obtain ⟨body, hbody⟩ := exists_body?_of_fault? ha
    rw [outgoing?, hbody]
    exact ⟨_, rfl, .study hbody⟩
  | listScenarios query =>
    have hnumber (ref : ProjectRef) (href : query.projectId = some ref) :
        ∃ n, ref.number? = .ok n :=
      exists_number?_of_fault? (by simpa [argumentFault?, href] using ha)
    obtain ⟨pairs, hpairs⟩ := exists_listQuery hnumber
    rw [outgoing?, hpairs]
    exact ⟨_, rfl, .list hpairs⟩
  | updateLoan id loan =>
    rw [outgoing?, needs_of_has (hg _ rfl), needsPersisted_of_pos (ht id rfl)]
    exact ⟨_, rfl, .loan⟩
  | editScenario id edit =>
    have hchange : edit ≠ ⟨none, none, none⟩ := by
      simpa [argumentFault?] using ha
    obtain ⟨body, hbody⟩ := exists_body?_of_change hchange
    rw [outgoing?, needsPersisted_of_pos (ht id rfl), hbody]
    exact ⟨_, rfl, .edited hbody⟩
  | deleteScenario id =>
    rw [outgoing?, needsPersisted_of_pos (ht id rfl)]
    exact ⟨_, rfl, .deleted⟩
  | rerunSensitivity id bands =>
    have hbands : bands ≠ [] := by
      simpa [argumentFault?] using ha
    obtain ⟨body, hbody⟩ := exists_rerunBody? hbands
    rw [outgoing?, needs_of_has (hg _ rfl), needsPersisted_of_pos (ht id rfl), hbody]
    exact ⟨_, rfl, .rerun hbody⟩
  | exportScenario id =>
    rw [outgoing?, needs_of_has (hg _ rfl), needsPersisted_of_pos (ht id rfl)]
    exact ⟨_, rfl, .exported⟩
  | exportTo id path =>
    rw [outgoing?, needs_of_has (hg _ rfl), needsPersisted_of_pos (ht id rfl)]
    exact ⟨_, rfl, .saved⟩

theorem exists_outgoing?_of_admissible (h : call.Admissible endpoints) :
    ∃ out, call.outgoing? endpoints = .ok out := by
  obtain ⟨out, hout, -⟩ := exists_requests_of_admissible h
  exact ⟨out, hout⟩

/-- A call that has a request is not refused. -/
theorem admissible_of_outgoing? {out : Outgoing} (h : call.outgoing? endpoints = .ok out) :
    call.Admissible endpoints := by
  rcases admissible_or_refused endpoints call with hadm | ⟨f, hf⟩
  · exact hadm
  · rw [outgoing?_of_refused hf] at h
    cases h

theorem not_refused_of_admissible (h : call.Admissible endpoints) {f : Failure} :
    ¬ call.RefusedWith endpoints f := by
  intro hf
  obtain ⟨out, hout⟩ := exists_outgoing?_of_admissible h
  rw [outgoing?_of_refused hf] at hout
  cases hout

theorem requests_of_outgoing? {out : Outgoing} (h : call.outgoing? endpoints = .ok out) :
    call.Requests out := by
  obtain ⟨own, hown, hrequests⟩ := exists_requests_of_admissible (admissible_of_outgoing? h)
  rw [Except.ok.inj (h.symm.trans hown)]
  exact hrequests

/-- A call that reads is admissible when the project it names is a number. -/
theorem admissible_of_project {reading : Reading} (h : call.reading? = some reading)
    (hproject : ∀ ref, call.project? = some ref → ∃ n, ref.number? = .ok n) :
    call.Admissible endpoints := by
  have hfault (ref : ProjectRef) (href : call.project? = some ref) : ref.fault? = none := by
    obtain ⟨n, hn⟩ := hproject ref href
    rw [ProjectRef.fault?, hn]
  cases call with
  | runStudy study => exact ⟨nofun, nofun, hfault _ rfl⟩
  | listScenarios query =>
    refine ⟨nofun, nofun, ?_⟩
    cases href : query.projectId with
    | none => simp [argumentFault?, href]
    | some ref => simpa [argumentFault?, href] using hfault ref href
  | updateLoan | editScenario | deleteScenario | rerunSensitivity | exportScenario | exportTo =>
    cases h

/-- So a study of such a project has a request. -/
theorem exists_outgoing?_of_study {study : Study} (h : ∃ n, study.projectId.number? = .ok n)
    (endpoints : Endpoints) : ∃ out, (runStudy study).outgoing? endpoints = .ok out := by
  have hreads : (runStudy study).reading? = some .study := rfl
  refine exists_outgoing?_of_admissible (admissible_of_project hreads ?_)
  rintro ref ⟨⟩
  exact h

end Call

end Proforma
