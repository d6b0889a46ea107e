import Proforma.Proofs.Offline.List
import Proforma.Proofs.Service.Outcome

/-!
# Live, offline or a failure

The two calls that read decide by the way their exchange ended. `Response.Reads` says what the
body of a response reads as, `EndsIn` which failure any other ending is, and `Excused` for which
failures offline data stands in. `reading_decides` puts the three together.
-/

namespace Proforma

/-! ## Bodies -/

/-- The white space of ASCII. -/
def asciiBlanks : List UInt8 := [0x20, 0x09, 0x0A, 0x0C, 0x0D]

/-- What the body of a response reads as: null where it is all blanks of ASCII, and the JSON value
that it spells where it is not. -/
inductive Response.Reads (r : Response) : Json → Prop where
  | blank : (∀ b ∈ r.body, b ∈ asciiBlanks) → r.Reads .null
  | spelt {j : Json} : (∃ b ∈ r.body, b ∉ asciiBlanks) → Json.ofBytes? r.body = some j → r.Reads j

theorem isAsciiBlank_iff (b : UInt8) : isAsciiBlank b = true ↔ b ∈ asciiBlanks := by
  simp only [isAsciiBlank, asciiBlanks, Bool.or_eq_true, beq_iff_eq, List.mem_cons,
    List.not_mem_nil, or_false, or_assoc]

theorem Response.json?_eq_some_iff (r : Response) (j : Json) : r.json? = some j ↔ r.Reads j := by
  unfold json?
  by_cases hblank : r.body.all isAsciiBlank = true
  · have hall : ∀ b ∈ r.body, b ∈ asciiBlanks := fun b hb =>
      (isAsciiBlank_iff b).mp (List.all_eq_true.mp hblank b hb)
    rw [if_pos hblank, Option.some.injEq]
    constructor
    · rintro rfl
      exact .blank hall
    · intro h
      cases h with
      | blank _ => rfl
      | spelt hne _ =>
        obtain ⟨b, hb, hnot⟩ := hne
        exact absurd (hall b hb) hnot
  · have hne : ∃ b ∈ r.body, b ∉ asciiBlanks := by
      simpa [isAsciiBlank_iff] using hblank
    rw [if_neg hblank]
    constructor
    · exact fun h => .spelt hne h
    · intro h
      cases h with
      | blank hall =>
        obtain ⟨b, hb, hnot⟩ := hne
        exact absurd (hall b hb) hnot
      | spelt _ hread => exact hread

/-! ## Failures -/

/-- The status of a response reports success. -/
def Response.Succeeds (r : Response) : Prop :=
  200 ≤ r.status ∧ r.status ≤ 299

instance (r : Response) : Decidable r.Succeeds :=
  inferInstanceAs (Decidable (_ ∧ _))

/-- The failure in which waiting for a reply ended. A response without success is worded by its
body, or by its status if the body says nothing. -/
inductive EndsIn : Except AbortCause Reply → Failure → Prop where
  | unreachable {message : String} : EndsIn (.ok (.unreachable message)) (.network message)
  | broken : EndsIn (.ok .broken) .transport
  | worded {r : Response} : ¬ r.Succeeds → Text.trim r.text ≠ "" →
      EndsIn (.ok (.response r)) (.http r.status (Text.trim r.text))
  | silent {r : Response} : ¬ r.Succeeds → Text.trim r.text = "" →
      EndsIn (.ok (.response r))
        (.http r.status ("request failed with status " ++ toString r.status))
  | aborted {cause : AbortCause} : EndsIn (.error cause) (.aborted cause)

theorem Response.isSuccess_iff (r : Response) : r.isSuccess = true ↔ r.Succeeds := by
  simp only [isSuccess, Succeeds, Bool.and_eq_true, decide_eq_true_eq]
  omega

/-- An ending is a response that reports success or some failure. -/
theorem succeeds_or_endsIn (ending : Except AbortCause Reply) :
    (∃ r, ending = .ok (.response r) ∧ r.Succeeds) ∨ ∃ f, EndsIn ending f := by
  cases ending with
  | error cause => exact .inr ⟨_, .aborted⟩
  | ok reply =>
    cases reply with
    | unreachable message => exact .inr ⟨_, .unreachable⟩
    | broken => exact .inr ⟨_, .broken⟩
    | response r =>
      by_cases hs : r.Succeeds
      · exact .inl ⟨r, rfl, hs⟩
      · by_cases ht : Text.trim r.text = ""
        · exact .inr ⟨_, .silent hs ht⟩
        · exact .inr ⟨_, .worded hs ht⟩

/-- The client makes that failure of the ending. -/
theorem endingResult_of_endsIn {ending : Except AbortCause Reply} {f : Failure}
    (h : EndsIn ending f) : endingResult ending = .error f := by
  have hchecked (r : Response) (hs : ¬ r.Succeeds) :
      endingResult (.ok (.response r)) = .error (.http r.status r.failureMessage) := by
    have hno : ¬ r.isSuccess = true := fun h => hs (r.isSuccess_iff.mp h)
    show r.checked = _
    rw [Response.checked, if_neg hno]
  cases h with
  | unreachable => rfl
  | broken => rfl
  | @worded r hs ht =>
    rw [hchecked r hs, Response.failureMessage, Text.nonBlank?]
    simp [ht]
  | @silent r hs ht =>
    rw [hchecked r hs, Response.failureMessage, Text.nonBlank?]
    simp [ht]
  | aborted => rfl

/-! ## Excuses -/

/-- The words that speak of a rejected authorization. -/
def authorizationWords : List String := ["401", "403", "restricted", "owner"]

/-- A word stands somewhere in a message, in capital or small letters. -/
def Mentions (message word : String) : Prop :=
  ∃ front part back, message.toList = front ++ part ++ back ∧ part.map Char.toLower = word.toList

/-- The failures for which offline data stands in. -/
inductive Excused (policy : FallbackPolicy) : Reading → Failure → Prop where
  | network {reading : Reading} {message : String} : Excused policy reading (.network message)
  | rejected {reading : Reading} {status : Nat} {message : String} :
      status = 401 ∨ status = 403 → Excused policy reading (.http status message)
  | mentioned {reading : Reading} {status : Nat} {message word : String} :
      word ∈ authorizationWords → Mentions message word →
      Excused policy reading (.http status message)
  | fault {status : Nat} {message : String} :
      500 ≤ status → Excused policy .list (.http status message)
  | lateList {limit : Nat} : Excused policy .list (.aborted (.timeout limit))
  | lateStudy {limit : Nat} :
      policy.onStudyTimeout = true → Excused policy .study (.aborted (.timeout limit))

theorem Text.occursIn_iff (needle cs : List Char) :
    Text.occursIn needle cs = true ↔ ∃ front back, cs = front ++ needle ++ back := by
  induction cs with
  | nil => simp [Text.occursIn]
  | cons c rest ih =>
    rw [Text.occursIn, Bool.or_eq_true, ih, List.isPrefixOf_iff_prefix]
    constructor
    · rintro (⟨back, hback⟩ | ⟨front, back, hback⟩)
      · exact ⟨[], back, hback.symm⟩
      · exact ⟨c :: front, back, by simp [hback]⟩
    · rintro ⟨front, back, hsplit⟩
      cases front with
      | nil => exact .inl ⟨back, hsplit.symm⟩
      | cons d front =>
        simp only [List.cons_append, List.cons.injEq] at hsplit
        exact .inr ⟨front, back, hsplit.2⟩

theorem containsIgnoringCase_iff (word message : String) :
    Text.containsIgnoringCase word message = true ↔ Mentions message word := by
  rw [Text.containsIgnoringCase, Text.occursIn_iff, Text.lowerChars]
  constructor
  · -- small letters stand for one letter each, so a part of them comes from a part of the message
    rintro ⟨front, back, hsplit⟩
    obtain ⟨left, right, hs, hleft, -⟩ := List.map_eq_append_iff.mp hsplit
    obtain ⟨before, part, hl, -, hpart⟩ := List.map_eq_append_iff.mp hleft
    exact ⟨before, part, right, by rw [hs, hl], hpart⟩
  · rintro ⟨front, part, back, hs, hpart⟩
    exact ⟨front.map Char.toLower, back.map Char.toLower, by simp [hs, hpart]⟩

theorem saysUnauthorized_iff (message : String) : Failure.saysUnauthorized message = true ↔
    ∃ word ∈ authorizationWords, Mentions message word := by
  rw [Failure.saysUnauthorized, List.any_eq_true]
  simp only [containsIgnoringCase_iff]
  rfl

/-- **The policy covers what is excused**, and nothing while it is off. -/
theorem covers_iff (policy : FallbackPolicy) (reading : Reading) (f : Failure) :
    policy.covers reading f = true ↔ policy.enabled = true ∧ Excused policy reading f := by
  unfold FallbackPolicy.covers
  rw [Bool.and_eq_true]
  refine and_congr_right fun _ => ?_
  constructor
  · intro h
    cases f with
    | aborted cause =>
      cases cause with
      | caller => cases h
      | timeout limit =>
        cases reading with
        | list => exact .lateList
        | study => exact .lateStudy (by simpa using h)
    | network message => exact .network
    | http status message =>
      simp only [Failure.isAuthorization, Failure.isServerError, Bool.or_eq_true, beq_iff_eq,
        Bool.and_eq_true, decide_eq_true_eq] at h
      rcases h with (hstatus | hwords) | ⟨hstatus, rfl⟩
      · exact .rejected hstatus
      · obtain ⟨word, hword, hm⟩ := (saysUnauthorized_iff message).mp hwords
        exact .mentioned hword hm
      · exact .fault hstatus
    | invalid | unsupported | transport | file | json => cases h
  · intro h
    cases h with
    | network => rfl
    | rejected hstatus =>
      rcases hstatus with rfl | rfl <;> rfl
    | mentioned hword hm =>
      have hsays := (saysUnauthorized_iff _).mpr ⟨_, hword, hm⟩
      simp [Failure.isAuthorization, hsays]
    | fault hstatus => simp [Failure.isServerError, hstatus]
    | lateList => rfl
    | lateStudy hpolicy => simp [hpolicy]

/-! ## Answers -/

/-- The live answer to a reading of a JSON value. -/
def Reading.live : Reading → Json → Answer
  | .study, j => .scenario .live (.ofReply j)
  | .list, j => .scenarios .live (Scenario.listOfReply j)

/-- The offline answer to a call at an instant of the clock. -/
inductive Call.StandsIn (now : Int64) : Call → Answer → Prop where
  | study {study : Study} :
      StandsIn now (.runStudy study) (.scenario .offline (Offline.scenarioAt now study))
  | list {query : ListQuery} {list : List Scenario} : Offline.scenarioList query = .ok list →
      StandsIn now (.listScenarios query) (.scenarios .offline list)

namespace Call

variable {call : Call} {reading : Reading}

/-- A call that reads has an offline answer at every instant, and only that one. -/
theorem exists_standsIn (h : call.reading? = some reading) (now : Int64) :
    ∃ answer, call.StandsIn now answer ∧ call.offline? now = some answer := by
  cases call with
  | runStudy study => exact ⟨_, .study, rfl⟩
  | listScenarios query =>
    obtain ⟨base, upside, downside, hlist⟩ := Offline.exists_scenarioList query
    refine ⟨_, .list hlist, ?_⟩
    rw [offline?, hlist]
    rfl
  | updateLoan | editScenario | deleteScenario | rerunSensitivity | exportScenario | exportTo =>
    cases h

theorem read?_of_reading (h : call.reading? = some reading) (r : Response) :
    call.read? r = r.json?.map reading.live := by
  cases call with
  | runStudy study => cases h; rfl
  | listScenarios query => cases h; rfl
  | updateLoan | editScenario | deleteScenario | rerunSensitivity | exportScenario | exportTo =>
    cases h

variable {policy : FallbackPolicy} {now : Int64}

/-- A response that can be read is the answer. -/
theorem conclude_of_reads (h : call.reading? = some reading) {r : Response} {j : Json}
    (hr : r.Reads j) : (call.conclude policy now (.ok r)).2 = .ok (reading.live j) := by
  have hread : call.read? r = some (reading.live j) := by
    rw [read?_of_reading h, (r.json?_eq_some_iff j).mpr hr]
    rfl
  simp only [conclude, hread]

/-- A response that cannot be read is a failure. -/
theorem conclude_of_unreadable (h : call.reading? = some reading) {r : Response}
    (hr : ∀ j, ¬ r.Reads j) : (call.conclude policy now (.ok r)).2 = .error .json := by
  have hnone : r.json? = none := by
    cases hj : r.json? with
    | none => rfl
    | some j => exact absurd ((r.json?_eq_some_iff j).mp hj) (hr j)
  have hread : call.read? r = none := by
    rw [read?_of_reading h, hnone]
    rfl
  simp only [conclude, hread]

/-- An excused failure is answered offline. -/
theorem conclude_of_excused (h : call.reading? = some reading) {f : Failure}
    (hf : policy.enabled = true ∧ Excused policy reading f) :
    ∃ answer, call.StandsIn now answer ∧ (call.conclude policy now (.error f)).2 = .ok answer := by
  obtain ⟨answer, hstands, hoffline⟩ := exists_standsIn h now
  refine ⟨answer, hstands, ?_⟩
  simp only [conclude, h, (covers_iff policy reading f).mpr hf, hoffline, if_true]

/-- Any other failure is passed on. -/
theorem conclude_of_not_excused (h : call.reading? = some reading) {f : Failure}
    (hf : ¬ (policy.enabled = true ∧ Excused policy reading f)) :
    (call.conclude policy now (.error f)).2 = .error f := by
  have hcovers : ¬ policy.covers reading f = true := fun hc =>
    hf ((covers_iff policy reading f).mp hc)
  simp only [conclude, h, if_neg hcovers]

end Call

/-- **How a call that reads is answered.** Let its project be a number, if it names one, and let
waiting for the reply end in any way. A response that reports success is answered live if its
body can be read and is a failure to read JSON if not. Any other ending is some failure: it is
answered offline exactly if the policy is on and the failure is excused, and is passed on as it
is otherwise. -/
theorem reading_decides (call : Call) (reading : Reading) (hreads : call.reading? = some reading)
    (hproject : ∀ ref, call.project? = some ref → ∃ n, ref.number? = .ok n)
    (c : Circumstances) (reply : TimedReply) (files : FileTree)
    (ending : Except AbortCause Reply) (instant : Nat)
    (hend : Waited c.config.timeout c.cancelAt reply ending instant) :
    let result := (call.perform c reply files).1.result
    let policy := c.config.fallback
    ((∃ r, ending = .ok (.response r) ∧ r.Succeeds) ∨ ∃ f, EndsIn ending f) ∧
      (∀ r, ending = .ok (.response r) → r.Succeeds →
        (∀ j, r.Reads j → result = .ok (reading.live j)) ∧
          ((∀ j, ¬ r.Reads j) → result = .error .json)) ∧
      (∀ f, EndsIn ending f →
        ((∃ answer, call.StandsIn c.clock answer ∧ result = .ok answer) ↔
          policy.enabled = true ∧ Excused policy reading f) ∧
        (¬ (policy.enabled = true ∧ Excused policy reading f) → result = .error f)) := by
  intro result policy
  have hadm : call.Admissible c.config.endpoints := Call.admissible_of_project hreads hproject
  obtain ⟨out, hout⟩ := Call.exists_outgoing?_of_admissible hadm
  have hresult : result = (call.conclude policy c.clock (endingResult ending)).2 := by
    show (call.perform c reply files).1.result = _
    rw [Call.perform_of_reading hreads]
    exact Call.run_result_of_waited hout hend
  refine ⟨succeeds_or_endsIn ending, ?_, ?_⟩
  · rintro r rfl hs
    have hok : endingResult (.ok (.response r)) = .ok r :=
      (endingResult_eq_ok_iff _ r).mpr ⟨rfl, r.isSuccess_iff.mpr hs⟩
    rw [hresult, hok]
    exact ⟨fun j hj => Call.conclude_of_reads hreads hj, Call.conclude_of_unreadable hreads⟩
  · intro f hf
    rw [hresult, endingResult_of_endsIn hf]
    refine ⟨⟨?_, Call.conclude_of_excused hreads⟩, Call.conclude_of_not_excused hreads⟩
    rintro ⟨answer, -, hanswer⟩
    refine Classical.byContradiction fun hno => ?_
    rw [Call.conclude_of_not_excused hreads hno] at hanswer
    cases hanswer

/-- A reply of status 404 that says `Owner` after a blank, to a client with the settings that it
has when none is made. -/
theorem reading_decides_of_owner :
    let call := Call.listScenarios ⟨some (.text " 777"), none, none, none⟩
    let c : Circumstances := ⟨.default, 0, none⟩
    let r : Response := ⟨404, [0x20, 0x4F, 0x77, 0x6E, 0x65, 0x72, 0x0A]⟩
    let reply : TimedReply := ⟨1200, some (.response r)⟩
    call.reading? = some .list ∧
      (∀ ref, call.project? = some ref → ∃ n, ref.number? = .ok n) ∧
      Waited c.config.timeout c.cancelAt reply (.ok (.response r)) 1200 ∧
      EndsIn (.ok (.response r)) (.http 404 "Owner") ∧
      ∃ answer, call.StandsIn 0 answer ∧ (call.perform c reply .empty).1.result = .ok answer := by
  intro call c r reply
  have hproject : ∀ ref, call.project? = some ref → ∃ n, ref.number? = .ok n := by
    rintro ref ⟨⟩
    have hfault : (ProjectRef.text " 777").fault? = none := by decide +kernel
    exact Call.exists_number?_of_fault? hfault
  have hend : Waited c.config.timeout c.cancelAt reply (.ok (.response r)) 1200 :=
    .replied rfl (by decide) nofun
  have htext : Text.trim r.text = "Owner" := by decide +kernel
  have hfails : EndsIn (.ok (.response r)) (.http 404 "Owner") := by
    rw [← htext]
    exact .worded (by decide) (by rw [htext]; decide)
  have hexcused : Excused c.config.fallback .list (.http 404 "Owner") := by
    have hmentions : Mentions "Owner" "owner" := ⟨[], "Owner".toList, [], rfl, by decide⟩
    exact .mentioned (by decide) hmentions
  refine ⟨rfl, hproject, hend, hfails, ?_⟩
  have hdecided := (reading_decides call .list rfl hproject c reply .empty _ _ hend).2.2 _ hfails
  exact hdecided.1.mpr ⟨rfl, hexcused⟩

end Proforma
