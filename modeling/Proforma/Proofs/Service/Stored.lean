import Proforma.Proofs.Number.Decimal
import Proforma.Proofs.Offline.List
import Proforma.Proofs.Service.Reading

/-!
# Calls about a stored scenario

Six calls are about one stored scenario. `Operation.Addresses` says where the requests of each go
and `Call.LiveAnswer` what each may answer. `stored_calls_guarded` is the sum: which of them are
sent, which are refused and why, that their addresses tell them apart, and that no answer is made
up.
-/

namespace Proforma

/-! ## Addresses -/

/-- Where requests about a stored scenario go: operation, scenario, method, path and query. Both
exports go to the same place. -/
inductive Operation.Addresses :
    Operation → Int64 → Method → String → List (String × String) → Prop where
  | loan (id : Int64) : Addresses .updateLoan id .patch (constructionLoanPath id) []
  | edited (id : Int64) : Addresses .editScenario id .patch (scenarioPath id) []
  | deleted (id : Int64) : Addresses .deleteScenario id .delete (scenarioPath id) []
  | rerun (id : Int64) : Addresses .rerunSensitivity id .post (sensitivityPath id) []
  | exported (id : Int64) :
      Addresses .exportScenario id .get exportPath [("scenario_id", toString id.toInt)]

theorem scenarioPath_injective {m n : Int64} (h : scenarioPath m = scenarioPath n) : m = n := by
  unfold scenarioPath at h
  have htext : toString m.toInt = toString n.toInt := (String.append_right_inj _).mp h
  exact Int64.toInt_inj.mp (Number.toString_injective htext)

theorem constructionLoanPath_injective {m n : Int64}
    (h : constructionLoanPath m = constructionLoanPath n) : m = n := by
  unfold constructionLoanPath at h
  exact scenarioPath_injective ((String.append_left_inj _).mp h)

theorem sensitivityPath_injective {m n : Int64} (h : sensitivityPath m = sensitivityPath n) :
    m = n := by
  unfold sensitivityPath at h
  exact scenarioPath_injective ((String.append_left_inj _).mp h)

/-- The path of a scenario ends in a number, and the path of its loan terms in a word that
follows a slash. -/
theorem scenarioPath_ne_constructionLoanPath (m n : Int64) :
    scenarioPath m ≠ constructionLoanPath n := by
  intro h
  unfold constructionLoanPath scenarioPath at h
  have htext : toString m.toInt = toString n.toInt ++ "/construction-loan" := by
    refine (String.append_right_inj (scenariosPath ++ "/")).mp ?_
    rw [h, String.append_assoc]
  apply Number.slash_notMem_toString m.toInt
  rw [htext, String.toList_append]
  exact List.mem_append_right _ (by decide)

namespace Operation.Addresses

variable {operation other : Operation} {id second : Int64} {method method' : Method}
  {path path' : String} {query query' : List (String × String)}

/-- An operation on a scenario goes to one place. -/
theorem unique (h : operation.Addresses id method path query)
    (h' : operation.Addresses id method' path' query') :
    method = method' ∧ path = path' ∧ query = query' := by
  cases h <;> cases h' <;> exact ⟨rfl, rfl, rfl⟩

/-- **A place belongs to one operation on one scenario.** -/
theorem determine (h : operation.Addresses id method path query)
    (h' : other.Addresses second method' path' query')
    (heq : method = method' ∧ path = path' ∧ query = query') : operation = other ∧ id = second := by
  obtain ⟨hmethod, hpath, hquery⟩ := heq
  -- methods leave only the two operations that patch to be told apart by their paths
  cases h with
  | loan id =>
    cases h' with
    | loan => exact ⟨rfl, constructionLoanPath_injective hpath⟩
    | edited => exact absurd hpath.symm (scenarioPath_ne_constructionLoanPath _ _)
    | deleted | rerun | exported => cases hmethod
  | edited id =>
    cases h' with
    | edited => exact ⟨rfl, scenarioPath_injective hpath⟩
    | loan => exact absurd hpath (scenarioPath_ne_constructionLoanPath _ _)
    | deleted | rerun | exported => cases hmethod
  | deleted id =>
    cases h' with
    | deleted => exact ⟨rfl, scenarioPath_injective hpath⟩
    | loan | edited | rerun | exported => cases hmethod
  | rerun id =>
    cases h' with
    | rerun => exact ⟨rfl, sensitivityPath_injective hpath⟩
    | loan | edited | deleted | exported => cases hmethod
  | exported id =>
    cases h' with
    | exported =>
      simp only [List.cons.injEq, Prod.mk.injEq, true_and, and_true] at hquery
      exact ⟨rfl, Int64.toInt_inj.mp (Number.toString_injective hquery)⟩
    | loan | edited | deleted | rerun => cases hmethod

end Operation.Addresses

/-! ## Answers -/

/-- What a call about a stored scenario may answer to a response. An export to a file answers
with the path of the file. -/
inductive Call.LiveAnswer (r : Response) : Call → Answer → Prop where
  | loan {id : Int64} {loan : ConstructionLoan} {j : Json} : r.Reads j →
      LiveAnswer r (.updateLoan id loan) (.scenario .live (.ofReply j))
  | edited {id : Int64} {edit : ScenarioEdit} {j : Json} : r.Reads j →
      LiveAnswer r (.editScenario id edit) (.scenario .live (.ofReply j))
  | rerun {id : Int64} {bands : List SensitivityBand} {j : Json} : r.Reads j →
      LiveAnswer r (.rerunSensitivity id bands) (.scenario .live (.ofReply j))
  | deleted {id : Int64} : LiveAnswer r (.deleteScenario id) .done
  | exported {id : Int64} : LiveAnswer r (.exportScenario id) (.bytes r.body)
  | saved {id : Int64} {path : String} : LiveAnswer r (.exportTo id path) (.path path)

namespace Call

variable {call : Call} {id : Int64} {c : Circumstances} {reply : TimedReply} {files : FileTree}

/-- A call about a stored scenario does not only read. -/
theorem reading?_of_target (h : call.target? = some id) : call.reading? = none := by
  cases call with
  | runStudy | listScenarios => cases h
  | _ => rfl

/-- Requests go where the operation and the scenario say. -/
theorem Requests.addresses {out : Outgoing} (h : call.Requests out)
    (htarget : call.target? = some id) :
    call.operation.Addresses id out.method out.path out.query := by
  cases h with
  | study | list => cases htarget
  | loan => cases htarget; exact .loan id
  | edited => cases htarget; exact .edited id
  | deleted => cases htarget; exact .deleted id
  | rerun => cases htarget; exact .rerun id
  | exported | saved => cases htarget; exact .exported id

/-- What a call about a stored scenario answers is live, and the response that it is made of
reports success. -/
theorem liveAnswer_of_ok {out : Outgoing} {ending : Except AbortCause Reply} {instant : Nat}
    {answer : Answer} (htarget : call.target? = some id)
    (hout : call.outgoing? c.config.endpoints = .ok out)
    (hw : Waited c.config.timeout c.cancelAt reply ending instant)
    (hok : (call.perform c reply files).1.result = .ok answer) :
    ∃ r, ending = .ok (.response r) ∧ r.Succeeds ∧ call.LiveAnswer r answer := by
  have hrun := run_result_of_waited hout hw
  cases hresult : (call.run c reply).result with
  | error f =>
    rw [perform_of_error hresult] at hok
    change (call.run c reply).result = .ok answer at hok
    rw [hresult] at hok
    cases hok
  | ok read =>
    rw [hresult] at hrun
    obtain ⟨r, hending, hread⟩ := exists_read?_of_not_reading (reading?_of_target htarget) hrun.symm
    obtain ⟨rfl, hsuccess⟩ := (endingResult_eq_ok_iff ending r).mp hending
    refine ⟨r, rfl, r.isSuccess_iff.mp hsuccess, ?_⟩
    -- all but the export to a file answer what was read
    cases call with
    | runStudy | listScenarios => cases htarget
    | exportTo own path =>
      have hbytes : ((exportTo own path).run c reply).outcome.result = .ok (.bytes r.body) := by
        cases hread
        exact hresult
      rcases Outcome.save_of_bytes _ path files hbytes with hsaved | hfailed
      · cases hsaved.symm.trans hok
        exact .saved
      · cases hfailed.symm.trans hok
    | deleteScenario =>
      cases hresult.symm.trans hok
      cases hread
      exact .deleted
    | exportScenario =>
      cases hresult.symm.trans hok
      cases hread
      exact .exported
    | updateLoan =>
      cases hresult.symm.trans hok
      obtain ⟨j, hj, rfl⟩ := Option.map_eq_some_iff.mp hread
      exact .loan ((r.json?_eq_some_iff j).mp hj)
    | editScenario =>
      cases hresult.symm.trans hok
      obtain ⟨j, hj, rfl⟩ := Option.map_eq_some_iff.mp hread
      exact .edited ((r.json?_eq_some_iff j).mp hj)
    | rerunSensitivity =>
      cases hresult.symm.trans hok
      obtain ⟨j, hj, rfl⟩ := Option.map_eq_some_iff.mp hread
      exact .rerun ((r.json?_eq_some_iff j).mp hj)

/-- A call about an offline scenario is refused, for its endpoints or for the scenario. -/
theorem refused_of_offline {endpoints : Endpoints} {s : Scenario}
    (htarget : call.target? = some s.scenarioId) (hs : Offline.IsOffline s) :
    ∃ f, call.RefusedWith endpoints f ∧
      (f = .invalid (.notPersisted s.scenarioId) ∨ ∃ group, f = .unsupported group) := by
  rcases admissible_or_refused endpoints call with hadm | ⟨f, hf⟩
  · have hpos := hadm.stored _ htarget
    exact absurd (Offline.scenarioId_le_zero_of_offline hs) (Int64.not_le.mpr hpos)
  · refine ⟨f, hf, ?_⟩
    cases hf with
    | unsupported => exact .inr ⟨_, rfl⟩
    | notPersisted _ hother _ =>
      rw [htarget] at hother
      cases hother
      exact .inl rfl
    | argument _ hstored _ =>
      have hpos := hstored _ htarget
      exact absurd (Offline.scenarioId_le_zero_of_offline hs) (Int64.not_le.mpr hpos)

end Call

/-- **Calls about a stored scenario.** One request is sent at most, and one is sent exactly if the
call is admissible and not cancelled before. A call that is not admissible is refused by the first
check that fails, and then nothing is sent and no file changes; a call about an offline scenario
always is. Two requests that are sent have the same method, path and query exactly if they are of
one operation on one scenario. What is answered is live: it comes from a reply that is a response,
reports success and can be read. -/
theorem stored_calls_guarded (call : Call) (id : Int64) (htarget : call.target? = some id)
    (c : Circumstances) (reply : TimedReply) (files : FileTree) :
    let outcome := (call.perform c reply files).1
    let endpoints := c.config.endpoints
    outcome.sent.length ≤ 1 ∧
      (outcome.sent ≠ [] ↔ call.Admissible endpoints ∧ ∀ t ∈ c.cancelAt, 0 < t) ∧
      (¬ call.Admissible endpoints → ∃ f, call.RefusedWith endpoints f) ∧
      (∀ f, call.RefusedWith endpoints f → outcome.result = .error f ∧ outcome.sent = [] ∧
        (call.perform c reply files).2 = files) ∧
      (∀ s, Offline.IsOffline s → s.scenarioId = id → ∃ f, call.RefusedWith endpoints f ∧
        (f = .invalid (.notPersisted id) ∨ ∃ group, f = .unsupported group)) ∧
      (∀ (call' : Call) (id' : Int64) (c' : Circumstances) (reply' : TimedReply)
        (files' : FileTree), call'.target? = some id' →
        ∀ out ∈ outcome.sent, ∀ out' ∈ (call'.perform c' reply' files').1.sent,
          ((out.method = out'.method ∧ out.path = out'.path ∧ out.query = out'.query) ↔
            call.operation = call'.operation ∧ id = id')) ∧
      (∀ answer, outcome.result = .ok answer →
        ∃ r, reply.reply = some (.response r) ∧ r.Succeeds ∧ call.LiveAnswer r answer) := by
  intro outcome endpoints
  refine ⟨Call.length_sent_le_one, ?_, ?_, ?_, ?_, ?_, ?_⟩
  · constructor
    · intro hsent
      obtain ⟨out, hmem⟩ := List.exists_mem_of_ne_nil _ hsent
      obtain ⟨hout, hstart⟩ := Call.mem_sent_iff.mp hmem
      exact ⟨Call.admissible_of_outgoing? hout, hstart⟩
    · rintro ⟨hadm, hstart⟩
      obtain ⟨out, hout⟩ := Call.exists_outgoing?_of_admissible hadm
      exact List.ne_nil_of_mem (Call.mem_sent_iff.mpr ⟨hout, hstart⟩)
  · intro hno
    exact (Call.admissible_or_refused endpoints call).resolve_left hno
  · intro f hf
    obtain ⟨hresult, hsent, -, hfiles⟩ := Call.perform_of_refused hf
    exact ⟨hresult, hsent, hfiles⟩
  · rintro s hs rfl
    exact Call.refused_of_offline htarget hs
  · intro call' id' c' reply' files' htarget' out hmem out' hmem'
    have haddr := (Call.requests_of_outgoing? (Call.mem_sent_iff.mp hmem).1).addresses htarget
    have haddr' := (Call.requests_of_outgoing? (Call.mem_sent_iff.mp hmem').1).addresses htarget'
    constructor
    · exact haddr.determine haddr'
    · rintro ⟨hoperation, rfl⟩
      rw [← hoperation] at haddr'
      exact haddr.unique haddr'
  · intro answer hok
    rcases Call.admissible_or_refused endpoints call with hadm | ⟨f, hf⟩
    · obtain ⟨out, hout⟩ := Call.exists_outgoing?_of_admissible hadm
      obtain ⟨ending, instant, hw⟩ := exists_waited c.config.timeout c.cancelAt reply
      obtain ⟨r, rfl, hsuccess, hlive⟩ := Call.liveAnswer_of_ok htarget hout hw hok
      exact ⟨r, hw.reply_eq, hsuccess, hlive⟩
    · cases (Call.perform_of_refused hf).1.symm.trans hok

/-- An export to a file that the caller cancels after five microseconds is sent, and only once. -/
theorem stored_calls_guarded_of_export :
    let call := Call.exportTo 42 "/out/pro-forma.xlsx"
    let outcome := (call.perform ⟨.default, 0, some 5⟩ ⟨9, none⟩ .empty).1
    call.target? = some 42 ∧ outcome.sent.length ≤ 1 ∧ outcome.sent ≠ [] := by
  intro call outcome
  have hadm : call.Admissible Config.default.endpoints := by
    refine ⟨?_, ?_, rfl⟩
    · rintro group ⟨⟩
      rfl
    · rintro id ⟨⟩
      decide
  have hstart : ∀ t ∈ some 5, 0 < t := by
    rintro t ⟨⟩
    decide
  obtain ⟨hone, hsent, -⟩ := stored_calls_guarded call 42 rfl ⟨.default, 0, some 5⟩ ⟨9, none⟩ .empty
  exact ⟨rfl, hone, hsent.mpr ⟨hadm, hstart⟩⟩

end Proforma
